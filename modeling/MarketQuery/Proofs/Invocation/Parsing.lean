import Mathlib.Data.List.Induction
import Mathlib.Tactic.MkIffOfInductiveProp
import MarketQuery.Proofs.Invocation.Items
import MarketQuery.Proofs.Number.Integers
import MarketQuery.Proofs.Traversal

/-!
# What tokens ask for

* `Counts`: the number of rows that a text stands for;
* `Item.Miscounts`: a number of rows asked for with a text that is no count;
* `values`, `pairs`, `AsksFor`: what items ask for together, the last value of each flag and all
  pairs in their order;
* `asksFor_of_apply`, `asksFor_of_foldlM`: what is asked for grows with one item, and so with all;
* `foldlM_apply_eq_ok_iff_of_same`: it depends on the values of each flag and on the pairs alone;
* `asksFor_of_ofTokens`: tokens that are read ask for what their items ask for;
* **`ofTokens_reads_cut`**: tokens are read as the items that they are cut into, and fail with the
  first item that miscounts.
-/

namespace MarketQuery

/-- A text stands for a number of rows. Blanks around it do not matter. -/
def Counts (value : String) (n : Int64) : Prop :=
  Number.IsDecimal (Text.trimList value.toList) n.toInt

theorem Counts.unique {value : String} {m n : Int64} (hm : Counts value m) (hn : Counts value n) :
    m = n := by
  rw [Counts, ← Number.readInt64?_eq_some_iff] at hm hn
  exact Option.some.inj (hm.symm.trans hn)

theorem eq_of_rel_counts {value : Option String} {m n : Option Int64}
    (hm : Option.Rel Counts value m) (hn : Option.Rel Counts value n) : m = n := by
  cases hm with
  | none =>
    cases hn
    rfl
  | some hm =>
    cases hn with
    | some hn => rw [hm.unique hn]

theorem readCount_eq_ok_iff {flag : Flag} {value : String} {n : Int64} :
    readCount flag value = .ok n ↔ Counts value n := by
  rw [Counts, ← Number.readInt64?_eq_some_iff, readCount]
  cases Number.readInt64? (Text.trimList value.toList) <;> simp

theorem readCount_eq_error_iff {flag : Flag} {value : String} {e : CountError} :
    readCount flag value = .error e ↔ (∀ n, ¬ Counts value n) ∧ e = ⟨flag, value⟩ := by
  simp only [Counts]
  rw [← Number.readInt64?_eq_none_iff, readCount]
  cases Number.readInt64? (Text.trimList value.toList) <;> simp [eq_comm]

namespace Invocation

/-- An item asks for a number of rows with a text that is no count. -/
inductive Item.Miscounts : Item → CountError → Prop
  | flag {asked : Flag} (ha : asked ≠ .save) {value : String} (hn : ∀ n, ¬ Counts value n) :
      Miscounts (.flag asked value) ⟨asked, value⟩

/-- The value that an item gives to a flag. -/
def Item.value? (asked : Flag) : Item → Option String
  | .flag other value => if other = asked then some value else none
  | _ => none

/-- The key and the text of a pair. -/
def Item.pair? : Item → Option (String × String)
  | .pair key raw => some (key, raw)
  | _ => none

/-- The values of a flag, from left to right. -/
def values (asked : Flag) (items : List Item) : List String := items.filterMap (·.value? asked)

/-- The keys and texts of all pairs, from left to right. -/
def pairs (items : List Item) : List (String × String) := items.filterMap Item.pair?

/-- What items ask for together. The last value of a flag counts, and the pairs are put in one after
another. -/
@[mk_iff]
structure AsksFor (function : String) (items : List Item) (i : Invocation) : Prop where
  function : i.function = function
  args : i.args = .ofList (pairs items)
  save : i.save = (values .save items).getLast?
  head : Option.Rel Counts (values .head items).getLast? i.head
  tail : Option.Rel Counts (values .tail items).getLast? i.tail

section Items

variable {function : String} {items : List Item} {item : Item} {i j : Invocation}

theorem AsksFor.unique (hi : AsksFor function items i) (hj : AsksFor function items j) : i = j := by
  obtain ⟨f, args, save, head, tail⟩ := i
  obtain ⟨f', args', save', head', tail'⟩ := j
  obtain rfl : f = f' := hi.function.trans hj.function.symm
  obtain rfl : args = args' := hi.args.trans hj.args.symm
  obtain rfl : save = save' := hi.save.trans hj.save.symm
  obtain rfl : head = head' := eq_of_rel_counts hi.head hj.head
  obtain rfl : tail = tail' := eq_of_rel_counts hi.tail hj.tail
  rfl

/-! ## One more item -/

theorem pairs_concat : pairs (items ++ [item]) = pairs items ++ item.pair?.toList := by
  rw [pairs, List.filterMap_append]
  cases h : item.pair? <;> simp [pairs, h]

theorem getLast?_values_concat (asked : Flag) :
    (values asked (items ++ [item])).getLast? =
      (item.value? asked).or (values asked items).getLast? := by
  rw [values, List.filterMap_append, List.getLast?_append]
  cases h : item.value? asked <;> simp [values, h]

theorem asksFor_concat_iff : AsksFor function (items ++ [item]) j ↔
    j.function = function ∧
      j.args = item.pair?.elim (.ofList (pairs items)) (fun p =>
        (Arguments.ofList (pairs items)).insert p.1 p.2) ∧
      j.save = (item.value? .save).or (values .save items).getLast? ∧
      Option.Rel Counts ((item.value? .head).or (values .head items).getLast?) j.head ∧
      Option.Rel Counts ((item.value? .tail).or (values .tail items).getLast?) j.tail := by
  have hargs : Arguments.ofList (pairs (items ++ [item])) =
      item.pair?.elim (.ofList (pairs items)) (fun p =>
        (Arguments.ofList (pairs items)).insert p.1 p.2) := by
    rw [pairs_concat]
    cases item.pair? <;> simp [Arguments.ofList]
  rw [asksFor_iff, hargs, getLast?_values_concat, getLast?_values_concat, getLast?_values_concat]

theorem apply_eq_error_iff {e : CountError} :
    Item.apply i item = .error e ↔ item.Miscounts e := by
  constructor
  · intro h
    cases item with
    | pair key raw => cases h
    | noise token => cases h
    | flag asked value =>
      cases asked with
      | save => cases h
      | head | tail =>
        obtain ⟨hn, rfl⟩ := readCount_eq_error_iff.1 (bind_pure_eq_error_iff.1 h)
        exact .flag (by decide) hn
  · intro h
    cases h with
    | @flag asked ha value hn =>
      cases asked with
      | save => exact absurd rfl ha
      | head | tail => exact bind_pure_eq_error_iff.2 (readCount_eq_error_iff.2 ⟨hn, rfl⟩)

theorem asksFor_of_apply (h : AsksFor function items i) (hj : Item.apply i item = .ok j) :
    AsksFor function (items ++ [item]) j := by
  rw [asksFor_concat_iff]
  cases item with
  | pair key raw =>
    obtain rfl := Except.ok.inj hj
    exact ⟨h.function, congrArg (·.insert key raw) h.args, h.save, h.head, h.tail⟩
  | noise token =>
    obtain rfl := Except.ok.inj hj
    exact ⟨h.function, h.args, h.save, h.head, h.tail⟩
  | flag asked value =>
    cases asked with
    | save =>
      obtain rfl := Except.ok.inj hj
      exact ⟨h.function, h.args, rfl, h.head, h.tail⟩
    | head =>
      obtain ⟨n, hn, hj⟩ := bind_eq_ok_iff.1 hj
      obtain rfl := Except.ok.inj hj
      exact ⟨h.function, h.args, h.save, .some (readCount_eq_ok_iff.1 hn), h.tail⟩
    | tail =>
      obtain ⟨n, hn, hj⟩ := bind_eq_ok_iff.1 hj
      obtain rfl := Except.ok.inj hj
      exact ⟨h.function, h.args, h.save, h.head, .some (readCount_eq_ok_iff.1 hn)⟩

/-! ## All items -/

theorem asksFor_of_foldlM (h : items.foldlM Item.apply { function } = .ok i) :
    (∀ item ∈ items, ∀ e, ¬ item.Miscounts e) ∧ AsksFor function items i := by
  induction items using List.reverseRecOn generalizing i with
  | nil =>
    obtain rfl := Except.ok.inj h
    exact ⟨by simp, rfl, rfl, rfl, .none, .none⟩
  | append_singleton items item ih =>
    rw [List.foldlM_append] at h
    obtain ⟨j, hj, hi⟩ := bind_eq_ok_iff.1 h
    simp only [List.foldlM_cons, List.foldlM_nil, bind_pure] at hi
    obtain ⟨hgood, hasks⟩ := ih hj
    refine ⟨List.forall_mem_append.2 ⟨hgood, List.forall_mem_singleton.2 fun e he => ?_⟩,
      asksFor_of_apply hasks hi⟩
    rw [apply_eq_error_iff.2 he] at hi
    cases hi

theorem foldlM_apply_eq_error_iff {e : CountError} : items.foldlM Item.apply i = .error e ↔
    ∃ before item after, items = before ++ item :: after ∧
      (∀ x ∈ before, ∀ e', ¬ x.Miscounts e') ∧ item.Miscounts e := by
  have hstep (i : Invocation) (item : Item) (e : CountError) :
      Item.apply i item = .error e ↔ item.Miscounts e := apply_eq_error_iff
  exact foldlM_eq_error_iff hstep

theorem foldlM_apply_eq_ok_iff : items.foldlM Item.apply { function } = .ok i ↔
    (∀ item ∈ items, ∀ e, ¬ item.Miscounts e) ∧ AsksFor function items i := by
  refine ⟨asksFor_of_foldlM, ?_⟩
  rintro ⟨hgood, hi⟩
  -- The items are read without a failure, and what they ask for is asked in one way only.
  rcases h : items.foldlM Item.apply { function } with e | j
  · obtain ⟨before, item, after, rfl, -, he⟩ := foldlM_apply_eq_error_iff.1 h
    exact absurd he (hgood item (by simp) e)
  · rw [(asksFor_of_foldlM h).2.unique hi]

/-! ## The same values and pairs -/

theorem value?_eq_some_iff {asked : Flag} {value : String} :
    item.value? asked = some value ↔ item = .flag asked value := by
  cases item with
  | flag other value' => simp [Item.value?]
  | pair key raw => simp [Item.value?]
  | noise token => simp [Item.value?]

theorem forall_not_miscounts_iff : (∀ item ∈ items, ∀ e, ¬ item.Miscounts e) ↔
    ∀ asked ≠ Flag.save, ∀ value ∈ values asked items, ∃ n, Counts value n := by
  constructor
  · intro h asked ha value hvalue
    obtain ⟨item, hitem, hv⟩ := List.mem_filterMap.1 hvalue
    obtain rfl := value?_eq_some_iff.1 hv
    by_contra hn
    exact h _ hitem _ (.flag ha (not_exists.1 hn))
  · rintro h _ hitem _ ⟨ha, hn⟩
    obtain ⟨n, hcounts⟩ := h _ ha _ (List.mem_filterMap.2 ⟨_, hitem, value?_eq_some_iff.2 rfl⟩)
    exact hn n hcounts

theorem foldlM_apply_eq_ok_iff_of_same {items' : List Item}
    (hv : ∀ asked, values asked items' = values asked items) (hp : pairs items' = pairs items) :
    items'.foldlM Item.apply { function } = .ok i ↔
      items.foldlM Item.apply { function } = .ok i := by
  have hasks : AsksFor function items' i ↔ AsksFor function items i := by
    simp only [asksFor_iff, hv, hp]
  rw [foldlM_apply_eq_ok_iff, foldlM_apply_eq_ok_iff, hasks, forall_not_miscounts_iff,
    forall_not_miscounts_iff]
  simp only [hv]

theorem asksFor_of_ofTokens {tokens : List String} (h : ofTokens function tokens = .ok i) :
    AsksFor function (cut tokens) i := by
  rw [ofTokens, addTokens_eq] at h
  exact (asksFor_of_foldlM h).2

end Items

/-- **Tokens ask for what the items ask for that they are cut into, in one way only.** A text that
is no count makes them fail, the first such text even if its flag comes again. What they ask for
depends on the values of each flag and on the pairs alone. -/
theorem ofTokens_reads_cut (function : String) (tokens : List String) :
    ∃ items, Cuts tokens items ∧ (∀ items', Cuts tokens items' → items' = items) ∧
      (∀ e, ofTokens function tokens = .error e ↔
        ∃ before item after, items = before ++ item :: after ∧
          (∀ x ∈ before, ∀ e', ¬ x.Miscounts e') ∧ item.Miscounts e) ∧
      (∀ i, ofTokens function tokens = .ok i ↔
        (∀ item ∈ items, ∀ e, ¬ item.Miscounts e) ∧ AsksFor function items i) ∧
      ∀ tokens' items', Cuts tokens' items' → (∀ asked, values asked items' = values asked items) →
        pairs items' = pairs items →
        ∀ i, ofTokens function tokens' = .ok i ↔ ofTokens function tokens = .ok i := by
  have hof (tokens : List String) :
      ofTokens function tokens = (cut tokens).foldlM Item.apply { function } :=
    addTokens_eq _ tokens
  refine ⟨cut tokens, cuts_cut tokens, fun _ => cuts_iff.1, fun e => ?_, fun i => ?_, ?_⟩
  · rw [hof, foldlM_apply_eq_error_iff]
  · rw [hof, foldlM_apply_eq_ok_iff]
  · rintro tokens' _ hcuts hv hp i
    obtain rfl := cuts_iff.1 hcuts
    rw [hof, hof, foldlM_apply_eq_ok_iff_of_same hv hp]

/-- A flag takes the flag behind it, and a count that is no count is not mended by a later one. -/
example : ofTokens "f" ["x=1", "--head", "--tail", "--head", "5"] = .error ⟨.head, "--tail"⟩ :=
  rfl

end Invocation

end MarketQuery
