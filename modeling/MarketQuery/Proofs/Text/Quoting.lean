import MarketQuery.Proofs.Text.Ascii
import MarketQuery.Text.Quoted

/-!
# Quoted texts are told apart

A quoted text ends at its closing quote, whatever stands behind it, and is written with printed
characters alone.

* `append_inj_of_head?`, `append_cons_inj`: a part that goes on as long as its characters are of a
  kind, or up to a separator, is told from what stands behind it;
* `hexadecimal_injective`, `exists_of_mem_hexadecimal`: numbers in hexadecimal digits;
* `Form`, `form_escape`: the written forms of characters; `Form.append_inj`: a form ends where it
  does, and is that of one character;
* **`quote_append_inj`**: and so it is with quoted texts;
* `isUnprintable_of_mem_quote`: it has printed characters only.
-/

namespace MarketQuery.Text

/-! ## Where a part ends -/

theorem append_inj_of_head? {α : Type} {P : α → Prop} {a b r r' : List α} (ha : ∀ c ∈ a, P c)
    (hb : ∀ c ∈ b, P c) (hr : ∀ c ∈ r.head?, ¬ P c) (hr' : ∀ c ∈ r'.head?, ¬ P c)
    (h : a ++ r = b ++ r') : a = b ∧ r = r' := by
  induction a generalizing b with
  | nil =>
    cases b with
    | nil => exact ⟨rfl, h⟩
    | cons c b =>
      rw [List.nil_append] at h
      exact absurd (hb c List.mem_cons_self) (hr c (h ▸ rfl))
  | cons c a ih =>
    cases b with
    | nil =>
      rw [List.nil_append] at h
      exact absurd (ha c List.mem_cons_self) (hr' c (h ▸ rfl))
    | cons d b =>
      obtain ⟨rfl, htail⟩ := List.cons.inj h
      obtain ⟨rfl, rfl⟩ := ih (fun c hc => ha c (List.mem_cons_of_mem _ hc))
        (fun c hc => hb c (List.mem_cons_of_mem _ hc)) htail
      exact ⟨rfl, rfl⟩

/-- What stands before a separator that it does not hold. -/
theorem append_cons_inj {α : Type} {separator : α} {a b r r' : List α}
    (ha : ∀ c ∈ a, c ≠ separator) (hb : ∀ c ∈ b, c ≠ separator)
    (h : a ++ separator :: r = b ++ separator :: r') : a = b ∧ r = r' := by
  have hend (x : List α) : ∀ c ∈ (separator :: x).head?, ¬ c ≠ separator := by
    rintro c ⟨⟩
    exact not_not.2 rfl
  obtain ⟨hfront, hrest⟩ := append_inj_of_head? ha hb (hend r) (hend r') h
  exact ⟨hfront, (List.cons.inj hrest).2⟩

/-! ## Hexadecimal digits -/

theorem digitChar_inj : ∀ m < 16, ∀ n < 16, Nat.digitChar m = Nat.digitChar n → m = n := by
  decide

theorem isPrintableAscii_digitChar : ∀ n < 16, IsPrintableAscii (Nat.digitChar n) := by
  decide

theorem hexadecimal_of_lt {n : Nat} (h : n < 16) : hexadecimal n = [Nat.digitChar n] :=
  Nat.toDigits_of_lt_base h

theorem hexadecimal_of_le {n : Nat} (h : 16 ≤ n) :
    hexadecimal n = hexadecimal (n / 16) ++ [Nat.digitChar (n % 16)] :=
  Nat.toDigits_of_base_le (by decide) h

theorem hexadecimal_ne_nil (n : Nat) : hexadecimal n ≠ [] := Nat.toDigits_ne_nil

theorem exists_of_mem_hexadecimal {c : Char} {n : Nat} (h : c ∈ hexadecimal n) :
    ∃ d < 16, c = Nat.digitChar d := by
  induction n using Nat.strongRecOn with
  | ind n ih =>
    rcases Nat.lt_or_ge n 16 with hn | hn
    · rw [hexadecimal_of_lt hn, List.mem_singleton] at h
      exact ⟨n, hn, h⟩
    · rw [hexadecimal_of_le hn, List.mem_append, List.mem_singleton] at h
      rcases h with h | h
      · exact ih (n / 16) (by omega) h
      · exact ⟨n % 16, Nat.mod_lt n (by decide), h⟩

theorem ne_brace_of_mem_hexadecimal {c : Char} {n : Nat} (h : c ∈ hexadecimal n) : c ≠ '\x7d' := by
  obtain ⟨d, -, rfl⟩ := exists_of_mem_hexadecimal h
  exact Nat.digitChar_ne _ (by decide)

theorem hexadecimal_injective : Function.Injective hexadecimal := by
  intro m
  induction m using Nat.strongRecOn with
  | ind m ih =>
    intro n h
    rcases Nat.lt_or_ge m 16 with hm | hm <;> rcases Nat.lt_or_ge n 16 with hn | hn
    · rw [hexadecimal_of_lt hm, hexadecimal_of_lt hn] at h
      exact digitChar_inj m hm n hn (List.singleton_inj.1 h)
    · rw [hexadecimal_of_lt hm, hexadecimal_of_le hn, ← List.nil_append [Nat.digitChar m]] at h
      exact absurd (List.append_inj_left' h rfl).symm (hexadecimal_ne_nil _)
    · rw [hexadecimal_of_le hm, hexadecimal_of_lt hn, ← List.nil_append [Nat.digitChar n]] at h
      exact absurd (List.append_inj_left' h rfl) (hexadecimal_ne_nil _)
    · rw [hexadecimal_of_le hm, hexadecimal_of_le hn] at h
      obtain ⟨hfront, hlast⟩ := List.append_inj' h rfl
      have hdiv : m / 16 = n / 16 := ih (m / 16) (by omega) hfront
      have hmod : m % 16 = n % 16 := digitChar_inj _ (Nat.mod_lt m (by decide)) _
        (Nat.mod_lt n (by decide)) (List.singleton_inj.1 hlast)
      omega

/-! ## The forms of characters -/

/-- The characters that have a form of two characters, with the second one. -/
def marks : List (Char × Char) :=
  [('"', '"'), ('\\', '\\'), ('\n', 'n'), ('\r', 'r'), ('\t', 't'), ('\x00', '0')]

theorem marks_inj : ∀ e ∈ marks, ∀ e' ∈ marks, e.2 = e'.2 → e.1 = e'.1 := by decide

theorem ne_u_of_mem_marks : ∀ e ∈ marks, e.2 ≠ 'u' := by decide

theorem isPrintableAscii_of_mem_marks : ∀ e ∈ marks, IsPrintableAscii e.2 := by decide

/-- The form of a character: itself, a backslash with its mark, or its code point in braces. -/
inductive Form (c : Char) : List Char → Prop
  | plain (hquote : c ≠ '"') (hbackslash : c ≠ '\\') (hprint : isUnprintable c = false) : Form c [c]
  | marked {mark : Char} (h : (c, mark) ∈ marks) : Form c ['\\', mark]
  | coded : Form c ('\\' :: 'u' :: '\x7b' :: (hexadecimal c.toNat ++ ['\x7d']))

theorem form_escape (c : Char) : Form c (escape c) := by
  unfold escape
  split_ifs with hquote hbackslash hfeed hreturn htab hnul hcode
  · exact .marked (by simp [marks, hquote])
  · exact .marked (by simp [marks, hbackslash])
  · exact .marked (by simp [marks, hfeed])
  · exact .marked (by simp [marks, hreturn])
  · exact .marked (by simp [marks, htab])
  · have hc : c = '\x00' := Char.toNat_inj.1 hnul
    exact .marked (by simp [marks, hc])
  · exact .coded
  · exact .plain hquote hbackslash (Bool.or_eq_false_iff.1 (Bool.eq_false_iff.2 hcode)).2

namespace Form

variable {c d : Char} {cs ds x y : List Char}

/-- No form is taken for a closing quote. -/
theorem head?_ne (h : Form c cs) (x : List Char) : (cs ++ x).head? ≠ some '"' := by
  cases h with
  | plain hquote => exact fun hhead => hquote (Option.some.inj hhead)
  | marked => exact fun hhead => absurd (Option.some.inj hhead) (by decide)
  | coded => exact fun hhead => absurd (Option.some.inj hhead) (by decide)

/-- A form ends where it does, and is that of one character. -/
theorem append_inj (hc : Form c cs) (hd : Form d ds) (h : cs ++ x = ds ++ y) :
    c = d ∧ x = y := by
  cases hc with
  | plain _ hbackslash =>
    cases hd with
    | plain => exact List.cons.inj h
    | marked | coded => exact absurd (List.cons.inj h).1 hbackslash
  | @marked mark hmark =>
    cases hd with
    | plain _ hbackslash => exact absurd (List.cons.inj h).1.symm hbackslash
    | @marked mark' hmark' =>
      obtain ⟨hmarks, hrest⟩ := List.cons.inj (List.cons.inj h).2
      exact ⟨marks_inj _ hmark _ hmark' hmarks, hrest⟩
    | coded => exact absurd (List.cons.inj (List.cons.inj h).2).1 (ne_u_of_mem_marks _ hmark)
  | coded =>
    cases hd with
    | plain _ hbackslash => exact absurd (List.cons.inj h).1.symm hbackslash
    | @marked mark hmark =>
      exact absurd (List.cons.inj (List.cons.inj h).2).1.symm (ne_u_of_mem_marks _ hmark)
    | coded =>
      have hcode : hexadecimal c.toNat ++ '\x7d' :: x = hexadecimal d.toNat ++ '\x7d' :: y := by
        simpa using h
      obtain ⟨hdigits, hrest⟩ := append_cons_inj (fun e => ne_brace_of_mem_hexadecimal)
        (fun e => ne_brace_of_mem_hexadecimal) hcode
      exact ⟨Char.toNat_inj.1 (hexadecimal_injective hdigits), hrest⟩

theorem isUnprintable_eq_false (h : Form c cs) : ∀ e ∈ cs, isUnprintable e = false := by
  cases h with
  | plain _ _ hprint => exact List.forall_mem_singleton.2 hprint
  | marked hmark =>
    refine isUnprintable_of_ascii (List.forall_mem_cons.2 ⟨by decide, ?_⟩)
    exact List.forall_mem_singleton.2 (isPrintableAscii_of_mem_marks _ hmark)
  | coded =>
    have hdigits : ∀ e ∈ hexadecimal c.toNat, IsPrintableAscii e := by
      intro e he
      obtain ⟨n, hn, rfl⟩ := exists_of_mem_hexadecimal he
      exact isPrintableAscii_digitChar n hn
    have hfront : ∀ e ∈ ['\\', 'u', '\x7b'], IsPrintableAscii e :=
      isPrintableAscii_of_all (by decide)
    have hend : ∀ e ∈ ['\x7d'], IsPrintableAscii e := isPrintableAscii_of_all (by decide)
    exact isUnprintable_of_ascii (List.forall_mem_append.2
      ⟨hfront, List.forall_mem_append.2 ⟨hdigits, hend⟩⟩)

end Form

/-! ## Quoted texts -/

variable {a b r r' : List Char}

theorem flatMap_escape_append_inj
    (h : a.flatMap escape ++ '"' :: r = b.flatMap escape ++ '"' :: r') : a = b ∧ r = r' := by
  induction a generalizing b with
  | nil =>
    cases b with
    | nil => exact ⟨rfl, (List.cons.inj h).2⟩
    | cons d b =>
      rw [List.flatMap_cons, List.append_assoc] at h
      exact absurd (congrArg List.head? h).symm ((form_escape d).head?_ne _)
  | cons c a ih =>
    rw [List.flatMap_cons, List.append_assoc] at h
    cases b with
    | nil => exact absurd (congrArg List.head? h) ((form_escape c).head?_ne _)
    | cons d b =>
      rw [List.flatMap_cons, List.append_assoc] at h
      obtain ⟨rfl, hrest⟩ := (form_escape c).append_inj (form_escape d) h
      obtain ⟨rfl, rfl⟩ := ih hrest
      exact ⟨rfl, rfl⟩

theorem toList_quote (s : String) : (quote s).toList = '"' :: (s.toList.flatMap escape ++ ['"']) :=
  String.toList_ofList

/-- **A quoted text ends at its closing quote**, and is that of one text. -/
theorem quote_append_inj {s t : String} (h : (quote s).toList ++ r = (quote t).toList ++ r') :
    s = t ∧ r = r' := by
  rw [toList_quote, toList_quote, List.cons_append, List.cons_append, List.append_assoc,
    List.append_assoc] at h
  obtain ⟨hst, hr⟩ := flatMap_escape_append_inj (List.cons.inj h).2
  exact ⟨String.toList_inj.1 hst, hr⟩

theorem isUnprintable_of_mem_quote {s : String} :
    ∀ c ∈ (quote s).toList, isUnprintable c = false := by
  have hquote : ∀ c ∈ ['"'], isUnprintable c = false :=
    isUnprintable_of_ascii (isPrintableAscii_of_all (by decide))
  have hforms : ∀ c ∈ s.toList.flatMap escape, isUnprintable c = false := by
    intro c hc
    obtain ⟨d, -, hd⟩ := List.mem_flatMap.1 hc
    exact (form_escape d).isUnprintable_eq_false c hd
  rw [toList_quote]
  exact List.forall_mem_append.2 ⟨hquote, List.forall_mem_append.2 ⟨hforms, hquote⟩⟩

end MarketQuery.Text
