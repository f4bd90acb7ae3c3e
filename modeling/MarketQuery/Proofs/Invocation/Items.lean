import Mathlib.Data.List.TakeDrop
import Mathlib.Data.List.TakeWhile
import MarketQuery.Invocation

/-!
# Tokens cut into items

* `Item`, `Cuts`: a flag with its value, a pair, or a token that says nothing; how tokens are cut
  into such items from left to right;
* `splitPair?_of_pair`, `splitPair?_of_notMem`: a token is split at its first equals sign;
* `cut`, `cuts_iff`: tokens are cut in one way;
* `Item.apply`, `addTokens_eq`: to add tokens is to apply the items that they are cut into.
-/

namespace MarketQuery

theorem Flag.ofToken?_eq_some_iff {token : String} {flag : Flag} :
    ofToken? token = some flag ↔ token = flag.token := by
  constructor
  · intro h
    exact (beq_iff_eq.1 (List.find?_some (p := fun f : Flag => f.token == token) h)).symm
  · rintro rfl
    cases flag <;> decide

theorem Flag.ofToken?_eq_none_iff {token : String} :
    ofToken? token = none ↔ ∀ flag : Flag, token ≠ flag.token := by
  rw [Option.eq_none_iff_forall_ne_some]
  exact forall_congr' fun flag => ofToken?_eq_some_iff.not

theorem splitPair?_of_pair {key : String} (raw : String) (h : '=' ∉ key.toList) :
    splitPair? (key ++ "=" ++ raw) = some (key, raw) := by
  have hall : ∀ c ∈ key.toList, decide (c ≠ '=') = true := fun c hc =>
    decide_eq_true fun e => h (e ▸ hc)
  rw [splitPair?, List.span_eq_takeWhile_dropWhile, String.append_assoc, String.toList_append,
    List.takeWhile_append_of_pos hall, List.dropWhile_append_of_pos hall]
  simp

theorem splitPair?_of_notMem {token : String} (h : '=' ∉ token.toList) :
    splitPair? token = none := by
  have hall : ∀ c ∈ token.toList, decide (c ≠ '=') = true := fun c hc =>
    decide_eq_true fun e => h (e ▸ hc)
  rw [splitPair?, List.span_eq_takeWhile_dropWhile, List.dropWhile_eq_nil_iff.2 hall]

theorem exists_pair_of_mem {token : String} (h : '=' ∈ token.toList) :
    ∃ key raw, token = key ++ "=" ++ raw ∧ '=' ∉ key.toList := by
  obtain ⟨key, raw, htoken, hk⟩ := List.eq_append_cons_of_mem h
  refine ⟨.ofList key, .ofList raw, ?_, by simpa using hk⟩
  rw [← String.toList_inj, htoken]
  simp

namespace Invocation

/-- What tokens are cut into. -/
inductive Item
  | flag (flag : Flag) (value : String)
  | pair (key raw : String)
  /-- A token that says nothing. -/
  | noise (token : String)
  deriving DecidableEq, Repr

/-- Tokens are cut into items from left to right. A flag takes the token behind it, whatever that
is. Any other token stands alone; one with an equals sign is a pair, cut at the first of them. -/
inductive Cuts : List String → List Item → Prop
  | nil : Cuts [] []
  | flag (flag : Flag) (value : String) {tokens : List String} {items : List Item}
      (h : Cuts tokens items) : Cuts (flag.token :: value :: tokens) (.flag flag value :: items)
  | pair {key : String} (raw : String) (hk : '=' ∉ key.toList) {tokens : List String}
      {items : List Item} (h : Cuts tokens items) :
      Cuts ((key ++ "=" ++ raw) :: tokens) (.pair key raw :: items)
  | noise {token : String} (he : '=' ∉ token.toList) {tokens : List String} {items : List Item}
      (hf : tokens = [] ∨ ∀ flag : Flag, token ≠ flag.token) (h : Cuts tokens items) :
      Cuts (token :: tokens) (.noise token :: items)

/-- The item of a token that stands alone. -/
def Item.single (token : String) : Item :=
  match splitPair? token with
  | some (key, raw) => .pair key raw
  | none => .noise token

/-- The items that tokens are cut into. -/
def cut : List String → List Item
  | [] => []
  | [token] => [.single token]
  | token :: next :: rest =>
    match Flag.ofToken? token with
    | some flag => .flag flag next :: cut rest
    | none => .single token :: cut (next :: rest)

theorem single_of_pair {key : String} (raw : String) (h : '=' ∉ key.toList) :
    Item.single (key ++ "=" ++ raw) = .pair key raw := by
  rw [Item.single, splitPair?_of_pair raw h]

theorem single_of_notMem {token : String} (h : '=' ∉ token.toList) :
    Item.single token = .noise token := by
  rw [Item.single, splitPair?_of_notMem h]

theorem cut_cons_of_alone {token : String} {tokens : List String}
    (h : tokens = [] ∨ ∀ flag : Flag, token ≠ flag.token) :
    cut (token :: tokens) = .single token :: cut tokens := by
  cases tokens with
  | nil => rfl
  | cons next rest =>
    rw [cut, Flag.ofToken?_eq_none_iff.2 (h.resolve_left (List.cons_ne_nil _ _))]

theorem token_ne_of_mem {token : String} (h : '=' ∈ token.toList) (flag : Flag) :
    token ≠ flag.token := by
  rintro rfl
  revert h
  cases flag <;> decide

theorem cuts_cons_of_alone {token : String} {tokens : List String} {items : List Item}
    (hf : tokens = [] ∨ ∀ flag : Flag, token ≠ flag.token) (h : Cuts tokens items) :
    Cuts (token :: tokens) (.single token :: items) := by
  by_cases he : '=' ∈ token.toList
  · obtain ⟨key, raw, rfl, hk⟩ := exists_pair_of_mem he
    rw [single_of_pair raw hk]
    exact .pair raw hk h
  · rw [single_of_notMem he]
    exact .noise he hf h

theorem cuts_cut (tokens : List String) : Cuts tokens (cut tokens) := by
  fun_induction cut tokens with
  | case1 => exact .nil
  | case2 token => exact cuts_cons_of_alone (.inl rfl) .nil
  | case3 token next rest flag hflag ih =>
    obtain rfl := Flag.ofToken?_eq_some_iff.1 hflag
    exact .flag flag next ih
  | case4 token next rest hflag ih =>
    exact cuts_cons_of_alone (.inr (Flag.ofToken?_eq_none_iff.1 hflag)) ih

/-- Tokens are cut in one way. -/
theorem cuts_iff {tokens : List String} {items : List Item} :
    Cuts tokens items ↔ items = cut tokens := by
  refine ⟨fun h => ?_, fun h => h ▸ cuts_cut tokens⟩
  induction h with
  | nil => rfl
  | flag asked value _ ih => rw [cut, Flag.ofToken?_eq_some_iff.2 rfl, ih]
  | pair raw hk _ ih =>
    rw [cut_cons_of_alone (.inr (token_ne_of_mem (by simp))), single_of_pair raw hk, ih]
  | noise he hf _ ih => rw [cut_cons_of_alone hf, single_of_notMem he, ih]

/-! ## Items applied -/

/-- An invocation with what an item asks for. -/
def Item.apply (i : Invocation) : Item → Except CountError Invocation
  | .flag asked value => i.setFlag value asked
  | .pair key raw => .ok { i with args := i.args.insert key raw }
  | .noise _ => .ok i

theorem apply_single (i : Invocation) (token : String) :
    Item.apply i (.single token) = .ok (i.addToken token) := by
  cases h : splitPair? token <;> simp only [Item.single, addToken, h, Item.apply]

theorem addTokens_eq (i : Invocation) (tokens : List String) :
    i.addTokens tokens = (cut tokens).foldlM Item.apply i := by
  fun_induction cut tokens generalizing i with
  | case1 => rfl
  | case2 token =>
    rw [List.foldlM_cons, apply_single]
    rfl
  | case3 token next rest flag hflag ih =>
    simp only [addTokens, hflag, List.foldlM_cons]
    exact bind_congr fun j => ih j
  | case4 token next rest hflag ih =>
    simp only [addTokens, hflag, List.foldlM_cons, apply_single]
    exact ih _

end Invocation

end MarketQuery
