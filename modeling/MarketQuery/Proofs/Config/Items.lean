import MarketQuery.Config.Item

/-!
# Items over items

A later item is put over an earlier one key by key, and a setting at its place inside what was there
before.

* `Item.lookup_put`: a write under one key changes no other;
* `Item.lastUnder?`, `Item.lookup_overlayAll`: the last of the later items under a key counts, or
  else the earlier one;
* `KeyStep.HasPlace`, `Item.exists_assign?`: an item with a path that every list has the places of
  can be put there.
-/

namespace MarketQuery.Config

namespace Item

/-! ## Tables over tables -/

theorem lookup_put (key : String) (item : Item) (m : Members) (k : String) :
    (put key item m).lookup k = if k = key then some item else m.lookup k := by
  induction m with
  | nil => by_cases h : k = key <;> simp [put, h]
  | cons e rest ih => grind [put]

/-- The last item under a key, whatever the letter case of the keys. -/
def lastUnder? (key : String) (m : Members) : Option Item :=
  (m.filterMap fun e => if Text.lower e.1 = key then some e.2 else none).getLast?

@[simp] theorem lastUnder?_nil (key : String) : lastUnder? key [] = none := rfl

theorem lastUnder?_cons (key : String) (e : String × Item) (rest : Members) :
    lastUnder? key (e :: rest) =
      (lastUnder? key rest).or (if Text.lower e.1 = key then some e.2 else none) := by
  unfold lastUnder?
  rw [← List.singleton_append, List.filterMap_append, List.getLast?_append]
  split <;> simp [*]

theorem exists_of_lastUnder? {key : String} {m : Members} {item : Item}
    (h : lastUnder? key m = some item) : ∃ e ∈ m, Text.lower e.1 = key ∧ e.2 = item := by
  obtain ⟨e, he, hitem⟩ := List.mem_filterMap.1 (List.mem_of_getLast? h)
  obtain ⟨hkey, hitem⟩ := Option.ite_none_right_eq_some.1 hitem
  exact ⟨e, he, hkey, Option.some.inj hitem⟩

/-- An item with items under keys. -/
def IsTable (item : Item) : Prop := ∃ m, item = .table m

/-- What is no table replaces what was there before. -/
theorem overlay_eq_self {item : Item} (h : ¬item.IsTable) (earlier : Option Item) :
    item.overlay earlier = item := by
  cases item with
  | table m => exact absurd ⟨m, rfl⟩ h
  | _ => rfl

theorem lookup_overlayAll {key : String} {later : Members}
    (h : ∀ e ∈ later, Text.lower e.1 = key → ¬e.2.IsTable) (earlier : Members) :
    (overlayAll later earlier).lookup key = (lastUnder? key later).or (earlier.lookup key) := by
  induction later generalizing earlier with
  | nil => simp [overlayAll]
  | cons e rest ih =>
    have hrest := ih fun e he => h e (List.mem_cons_of_mem _ he)
    rw [overlayAll, hrest, lookup_put, lastUnder?_cons, Option.or_assoc]
    by_cases hkey : Text.lower e.1 = key
    · rw [if_pos hkey.symm, if_pos hkey, overlay_eq_self (h e List.mem_cons_self hkey)]
      rfl
    · rw [if_neg (Ne.symm hkey), if_neg hkey, Option.none_or]

theorem overlay_table (later : Members) (earlier : Option Item)
    (h : ∀ e ∈ earlier, e.IsTable) :
    (table later).overlay earlier = .table (overlayAll later (earlier.elim [] members)) := by
  cases later with
  | cons e rest => rfl
  | nil =>
    cases earlier with
    | none => rfl
    | some e =>
      obtain ⟨m, rfl⟩ := h e rfl
      rfl

end Item

/-- What stands under a key in an item, if that is there and has it. -/
abbrev Item.under? (key : String) (item : Option Item) : Option Item :=
  (item.elim [] members).lookup key

/-! ## Items at their places -/

/-- A step leads to a place that every list can have, or to a name. -/
def KeyStep.HasPlace : KeyStep → Prop
  | .name _ => True
  | .place n => 0 ≤ n ∧ n < Item.maxLength

instance (step : KeyStep) : Decidable step.HasPlace :=
  match step with
  | .name _ => inferInstanceAs (Decidable True)
  | .place n => inferInstanceAs (Decidable (0 ≤ n ∧ n < Item.maxLength))

namespace Item

theorem exists_assign? (item : Item) {path : KeyPath} (h : ∀ step ∈ path, step.HasPlace)
    (earlier : Option Item) : ∃ result, item.assign? path earlier = some result := by
  induction path generalizing earlier with
  | nil => exact ⟨_, rfl⟩
  | cons step path ih =>
    have hpath (earlier : Option Item) := ih (fun s hs => h s (List.mem_cons_of_mem _ hs)) earlier
    cases step with
    | name key =>
      obtain ⟨inner, hinner⟩ := hpath ((earlier.elim [] members).lookup (Text.lower key))
      simp [assign?, hinner]
    | place n =>
      obtain ⟨h0, hn⟩ : 0 ≤ n ∧ n < maxLength := h _ List.mem_cons_self
      have hindex (length : Nat) : indexOf? length n = some n.toNat := by
        rw [indexOf?, if_pos h0, if_pos (by omega)]
      cases path with
      | nil => simp [assign?, hindex]
      | cons step path =>
        simp only [assign?, hindex, Option.bind_eq_bind, Option.bind_some]
        obtain ⟨inner, hinner⟩ := hpath _
        exact ⟨_, by rw [hinner]; rfl⟩

/-- An item at a path with a name first changes what stands under this name, and nothing else. -/
theorem under?_assign? {item result : Item} {name : String} {path : KeyPath}
    {earlier : Option Item} (h : item.assign? (.name name :: path) earlier = some result) :
    result.IsTable ∧
    ∃ inner, item.assign? path (under? (Text.lower name) earlier) = some inner ∧
      ∀ key, under? key (some result) =
        if key = Text.lower name then some inner else under? key earlier := by
  rw [assign?] at h
  obtain ⟨inner, hinner, hresult⟩ := Option.bind_eq_some_iff.1 h
  obtain rfl := Option.some.inj hresult
  exact ⟨⟨_, rfl⟩, inner, hinner, lookup_put _ _ _⟩

end Item

end MarketQuery.Config
