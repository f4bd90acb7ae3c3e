import Mathlib.Data.List.DropRight
import MarketQuery.Text.Blank

/-!
# Texts without the blanks at their ends

* `isBlank_of_isDigit`, `isBlank_of_isAlpha`: digits and ASCII letters are no blanks;
* `trimList_between`: blanks around a text that has none at its ends are taken away, and nothing
  else;
* `isBlank_head_trimList`: what is trimmed starts with no blank;
* `TrimsTo`, `trimList_eq_iff`: the text that stands between the blanks of another, which is what
  trimming gives;
* `TrimsTo.mem_iff`, `TrimsTo.trimmed`, `TrimsTo.between`: it has all that is no blank, nothing more
  is taken from it, and more blanks around the other leave it.
-/

namespace MarketQuery.Text

variable {cs : List Char} {c : Char}

/-- There is no blank from the one of a keyboard up to those beyond ASCII. -/
theorem isBlank_eq_false_of_lt (hl : 0x20 < c.toNat) (hu : c.toNat < 0x85) : isBlank c = false := by
  have hapart : ∀ r ∈ blankRanges, r.2 ≤ 0x20 ∨ 0x85 ≤ r.1 := by decide
  refine List.any_eq_false.2 fun r hr => ?_
  have := hapart r hr
  rw [Bool.and_eq_true, decide_eq_true_iff, decide_eq_true_iff]
  omega

theorem isBlank_of_isDigit (h : c.isDigit = true) : isBlank c = false := by
  have hdigit : 48 ≤ c.toNat ∧ c.toNat ≤ 57 := Char.isDigit_iff_toNat.1 h
  exact isBlank_eq_false_of_lt (by omega) (by omega)

theorem isBlank_of_isAlpha (h : c.isAlpha = true) : isBlank c = false := by
  rcases Bool.or_eq_true_iff.1 h with hupper | hlower
  · have hbounds : 65 ≤ c.toNat ∧ c.toNat ≤ 90 := of_decide_eq_true hupper
    exact isBlank_eq_false_of_lt (by omega) (by omega)
  · obtain ⟨hl, hu⟩ := Bool.and_eq_true_iff.1 hlower
    have hbounds : 97 ≤ c.toNat ∧ c.toNat ≤ 122 := ⟨of_decide_eq_true hl, of_decide_eq_true hu⟩
    exact isBlank_eq_false_of_lt (by omega) (by omega)

theorem trimEnd_eq_rdropWhile (cs : List Char) : trimEnd cs = cs.rdropWhile isBlank := rfl

theorem dropWhile_eq_self (h : ∀ c ∈ cs.head?, isBlank c = false) : cs.dropWhile isBlank = cs := by
  cases cs with
  | nil => rfl
  | cons c cs => rw [List.dropWhile_cons, h c rfl]; rfl

theorem trimEnd_append {after : List Char} (hafter : ∀ c ∈ after, isBlank c = true)
    (h : ∀ c ∈ cs.getLast?, isBlank c = false) : trimEnd (cs ++ after) = cs := by
  rw [trimEnd, List.reverse_append,
    List.dropWhile_append_of_pos fun c hc => hafter c (List.mem_reverse.1 hc),
    dropWhile_eq_self fun c hc => h c (List.head?_reverse ▸ hc), List.reverse_reverse]

theorem trimList_between {before after : List Char} (hbefore : ∀ c ∈ before, isBlank c = true)
    (hafter : ∀ c ∈ after, isBlank c = true) (hne : cs ≠ [])
    (hhead : ∀ c ∈ cs.head?, isBlank c = false) (hlast : ∀ c ∈ cs.getLast?, isBlank c = false) :
    trimList (before ++ cs ++ after) = cs := by
  have hstart : (cs ++ after).dropWhile isBlank = cs ++ after := by
    obtain ⟨c, cs, rfl⟩ := List.exists_cons_of_ne_nil hne
    exact dropWhile_eq_self hhead
  rw [trimList, List.append_assoc, List.dropWhile_append_of_pos hbefore, hstart,
    trimEnd_append hafter hlast]

theorem trimList_eq_self (hne : cs ≠ []) (hhead : ∀ c ∈ cs.head?, isBlank c = false)
    (hlast : ∀ c ∈ cs.getLast?, isBlank c = false) : trimList cs = cs := by
  have h : trimList ([] ++ cs ++ []) = cs :=
    trimList_between (by simp) (by simp) hne hhead hlast
  rwa [List.nil_append, List.append_nil] at h

theorem isBlank_head_trimList (cs : List Char) : ∀ c ∈ (trimList cs).head?, isBlank c = false := by
  intro c hc
  obtain ⟨rest, hrest⟩ := List.rdropWhile_prefix isBlank (l := cs.dropWhile isBlank)
  obtain ⟨trimmed, htrimmed⟩ := List.head?_eq_some_iff.1 hc
  have hhead : (cs.dropWhile isBlank).head? = some c := by
    rw [← hrest, ← trimEnd_eq_rdropWhile, ← trimList, htrimmed]
    rfl
  have hnot := List.head?_dropWhile_not isBlank cs
  rw [hhead] at hnot
  exact hnot

/-! ## What stands between the blanks -/

/-- A text stands between blanks in another one, and has none at its own ends. -/
inductive TrimsTo : List Char → List Char → Prop
  | intro {before core after : List Char} (hbefore : ∀ c ∈ before, isBlank c = true)
      (hafter : ∀ c ∈ after, isBlank c = true) (hhead : ∀ c ∈ core.head?, isBlank c = false)
      (hlast : ∀ c ∈ core.getLast?, isBlank c = false) : TrimsTo (before ++ core ++ after) core

theorem trimEnd_append_rtakeWhile (cs : List Char) : trimEnd cs ++ cs.rtakeWhile isBlank = cs :=
  List.rdropWhile_append_rtakeWhile ..

theorem isBlank_getLast_trimEnd (cs : List Char) :
    ∀ c ∈ (trimEnd cs).getLast?, isBlank c = false := by
  intro c hc
  obtain ⟨hne, rfl⟩ := List.mem_getLast?_eq_getLast hc
  rw [← Bool.not_eq_true]
  exact List.rdropWhile_last_not isBlank cs hne

theorem trimList_of_blank (h : ∀ c ∈ cs, isBlank c = true) : trimList cs = [] := by
  rw [trimList, List.dropWhile_eq_nil_iff.2 h]
  rfl

theorem trimList_eq_iff {core : List Char} : trimList cs = core ↔ TrimsTo cs core := by
  constructor
  · rintro rfl
    let before := cs.takeWhile isBlank
    let after := (cs.dropWhile isBlank).rtakeWhile isBlank
    have hsplit : before ++ trimList cs ++ after = cs := by
      rw [trimList, List.append_assoc, trimEnd_append_rtakeWhile, List.takeWhile_append_dropWhile]
    have h : TrimsTo (before ++ trimList cs ++ after) (trimList cs) :=
      .intro (fun _ => List.mem_takeWhile_imp) (fun _ => List.mem_rtakeWhile_imp)
        (isBlank_head_trimList cs) (isBlank_getLast_trimEnd _)
    rwa [hsplit] at h
  · rintro ⟨hbefore, hafter, hhead, hlast⟩
    by_cases hne : core = []
    · rw [hne, List.append_nil]
      exact trimList_of_blank (List.forall_mem_append.2 ⟨hbefore, hafter⟩)
    · exact trimList_between hbefore hafter hne hhead hlast

theorem exists_trimsTo (cs : List Char) : ∃ core, TrimsTo cs core :=
  ⟨trimList cs, trimList_eq_iff.1 rfl⟩

/-- A text without blanks at its ends stands between none. -/
theorem trimsTo_of_ends (hhead : ∀ c ∈ cs.head?, isBlank c = false)
    (hlast : ∀ c ∈ cs.getLast?, isBlank c = false) : TrimsTo cs cs := by
  have hself : TrimsTo ([] ++ cs ++ []) cs := .intro (by simp) (by simp) hhead hlast
  rwa [List.nil_append, List.append_nil] at hself

theorem trimsTo_self (h : ∀ c ∈ cs, isBlank c = false) : TrimsTo cs cs :=
  trimsTo_of_ends (fun c hc => h c (List.mem_of_mem_head? hc))
    fun c hc => h c (List.mem_of_mem_getLast? hc)

namespace TrimsTo

variable {core : List Char}

theorem mem (h : TrimsTo cs core) (hc : c ∈ core) : c ∈ cs := by
  obtain ⟨-, -, -, -⟩ := h
  exact List.mem_append_left _ (List.mem_append_right _ hc)

/-- What is no blank is kept. -/
theorem mem_iff (h : TrimsTo cs core) (hc : isBlank c = false) : c ∈ core ↔ c ∈ cs := by
  refine ⟨h.mem, ?_⟩
  obtain ⟨hbefore, hafter, -, -⟩ := h
  have hnot {blanks : List Char} (hblanks : ∀ c ∈ blanks, isBlank c = true) : c ∉ blanks :=
    fun hmem => Bool.false_ne_true (hc.symm.trans (hblanks c hmem))
  simp [hnot hbefore, hnot hafter]

theorem getLast (h : TrimsTo cs core) : ∀ c ∈ core.getLast?, isBlank c = false := by
  obtain ⟨-, -, -, hlast⟩ := h
  exact hlast

/-- What stands between blanks has none at its own ends. -/
theorem trimmed (h : TrimsTo cs core) : TrimsTo core core := by
  obtain ⟨-, -, hhead, hlast⟩ := h
  exact trimsTo_of_ends hhead hlast

/-- More blanks around a text leave what stands between them. -/
theorem between {before after : List Char} (hbefore : ∀ c ∈ before, isBlank c = true)
    (hafter : ∀ c ∈ after, isBlank c = true) (h : TrimsTo cs core) :
    TrimsTo (before ++ cs ++ after) core := by
  obtain @⟨left, core, right, hleft, hright, hhead, hlast⟩ := h
  have hmore : TrimsTo ((before ++ left) ++ core ++ (right ++ after)) core :=
    .intro (List.forall_mem_append.2 ⟨hbefore, hleft⟩) (List.forall_mem_append.2 ⟨hright, hafter⟩)
      hhead hlast
  simpa only [List.append_assoc] using hmore

end TrimsTo

end MarketQuery.Text
