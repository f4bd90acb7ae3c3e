import Mathlib.Data.Finset.Card
import MarketQuery.Proofs.Binding.AsTyped

/-!
# Arguments after insertions

Arguments are made by inserting texts under keys, one after another. The first insertion under a key
decides its place, the last one its text.

* `ofList_concat`: one more insertion;
* `mem_keys_insert`, `Lists`, `lists_insert`, `lists_ofList`: the keys stand in the order in which
  they first come;
* `size_of_lists`: and there are as many as distinct ones have come;
* `getElem?_put_eq_some_iff`: no argument under another key changes or moves;
* **`first_place_last_text`**: all of this for any insertions.
-/

namespace MarketQuery.Arguments

variable {pairs : List (String × String)} {args : Arguments}

/-- The keys of insertions, in their order. -/
abbrev inserted (pairs : List (String × String)) : List String := pairs.map (·.1)

theorem inserted_concat (pairs : List (String × String)) (key raw : String) :
    inserted (pairs ++ [(key, raw)]) = inserted pairs ++ [key] := List.map_append

theorem ofList_concat (pairs : List (String × String)) (key raw : String) :
    ofList (pairs ++ [(key, raw)]) = (ofList pairs).insert key raw := by
  simp [ofList]

/-! ## The order of the keys -/

theorem mem_keys_insert {key raw k : String} :
    k ∈ (args.insert key raw).keys ↔ k ∈ args.keys ∨ k = key := by
  rw [keys_insert]
  split
  case isTrue h => exact ⟨.inl, fun hk => hk.elim id fun e => e ▸ h⟩
  case isFalse h => rw [List.mem_append, List.mem_singleton]

/-- The keys are those of the insertions, one that comes earlier standing earlier. -/
structure Lists (pairs : List (String × String)) (args : Arguments) : Prop where
  mem_keys : ∀ k, k ∈ args.keys ↔ k ∈ inserted pairs
  ordered : args.keys.Pairwise fun k l => (inserted pairs).idxOf k < (inserted pairs).idxOf l

theorem lists_insert (h : Lists pairs args) (key raw : String) :
    Lists (pairs ++ [(key, raw)]) (args.insert key raw) where
  mem_keys k := by
    rw [mem_keys_insert, h.mem_keys, inserted_concat, List.mem_append, List.mem_singleton]
  ordered := by
    rw [inserted_concat, keys_insert]
    have hidx {k : String} (hk : k ∈ args.keys) :
        (inserted pairs ++ [key]).idxOf k = (inserted pairs).idxOf k :=
      List.idxOf_append_of_mem ((h.mem_keys k).1 hk)
    have hordered : args.keys.Pairwise fun k l =>
        (inserted pairs ++ [key]).idxOf k < (inserted pairs ++ [key]).idxOf l :=
      h.ordered.imp_of_mem fun hk hl hlt => by rwa [hidx hk, hidx hl]
    split
    case isTrue => exact hordered
    case isFalse hnew =>
      -- A new key comes last, behind all that came before.
      refine List.pairwise_append.2 ⟨hordered, List.pairwise_singleton _ _, fun k hk l hl => ?_⟩
      obtain rfl := List.mem_singleton.1 hl
      have hlt := List.idxOf_lt_length_of_mem ((h.mem_keys k).1 hk)
      rw [hidx hk, List.idxOf_append_of_notMem ((h.mem_keys l).not.1 hnew)]
      omega

theorem lists_ofList (pairs : List (String × String)) : Lists pairs (ofList pairs) := by
  induction pairs using List.reverseRecOn with
  | nil => exact ⟨fun _ => Iff.rfl, .nil⟩
  | append_singleton pairs pair ih =>
    rw [ofList_concat]
    exact lists_insert ih pair.1 pair.2

theorem size_of_lists (h : Lists pairs args) : args.size = (inserted pairs).toFinset.card := by
  have hkeys : (inserted pairs).toFinset = args.keys.toFinset := by
    ext k
    rw [List.mem_toFinset, List.mem_toFinset, h.mem_keys]
  have hnodup : args.keys.Nodup := args.nodup
  rw [hkeys, List.toFinset_card_of_nodup hnodup, keys, List.length_map]
  rfl

/-! ## The arguments under the keys -/

theorem contains_eq_true_iff {key : String} : args.contains key = true ↔ key ∈ args.keys := by
  rw [contains, get?, List.lookup_isSome_iff, keys, List.mem_map]
  exact exists_congr fun e => and_congr_right fun _ => beq_iff_eq.trans eq_comm

theorem getElem?_put_eq_some_iff {key k : String} {a b : Argument} (hk : k ≠ key) {i : Nat}
    {l : List (String × Argument)} : (put key b l)[i]? = some (k, a) ↔ l[i]? = some (k, a) := by
  induction l generalizing i with
  | nil => cases i <;> simp [put, Ne.symm hk]
  | cons e rest ih =>
    obtain ⟨k', c⟩ := e
    rw [put]
    split
    case isTrue h =>
      cases i with
      | zero => simp [h, Ne.symm hk]
      | succ i => rfl
    case isFalse h =>
      cases i with
      | zero => rfl
      | succ i => exact ih

/-- **Arguments keep the first place and the last text of each key**, whatever is inserted in
whatever order. -/
theorem first_place_last_text (pairs : List (String × String)) :
    (ofList pairs).keys.Nodup ∧
    (∀ key, key ∈ (ofList pairs).keys ↔ key ∈ inserted pairs) ∧
    ((ofList pairs).keys.Pairwise fun k l =>
      (inserted pairs).idxOf k < (inserted pairs).idxOf l) ∧
    (∀ key, (ofList pairs).contains key = true ↔ key ∈ inserted pairs) ∧
    (∀ key, ((ofList pairs).get? key).map (fun a => (a.raw, a.value)) =
      (pairs.filter (·.1 = key)).getLast?.map fun pair => (pair.2, Value.coerce pair.2)) ∧
    (ofList pairs).size = (inserted pairs).toFinset.card ∧
    ∀ key raw k, k ≠ key → ∀ (i : Nat) (a : Argument),
      ((ofList pairs).insert key raw).entries[i]? = some (k, a) ↔
        (ofList pairs).entries[i]? = some (k, a) := by
  have hlists := lists_ofList pairs
  refine ⟨(ofList pairs).nodup, hlists.mem_keys, hlists.ordered, fun key => ?_, fun key => ?_,
    size_of_lists hlists, fun key raw k hk i a => getElem?_put_eq_some_iff hk⟩
  · rw [contains_eq_true_iff, hlists.mem_keys]
  · rw [get?_ofList, Invocation.textsUnder, List.getLast?_map, Option.map_map, Option.map_map]
    rfl

/-- A key that comes again keeps its place and takes the new text. -/
example : (ofList [("symbol", "000001"), ("adjust", "qfq"), ("symbol", "600519")]).entries =
    [("symbol", ⟨"600519"⟩), ("adjust", ⟨"qfq"⟩)] := by decide

end MarketQuery.Arguments
