import Mathlib.Data.List.Nodup
import MarketQuery.Proofs.Binding.Exact
import MarketQuery.Proofs.Invocation.Parsing

/-!
# Texts as they are typed

A string parameter holds the text that is typed for it, although the same text may stand for a
number or a truth value.

* `Gives`: the texts that tokens give under a key; `gives_iff`: they are those of its pairs;
* `Arguments.get?_ofList`: of the texts under a key the last counts;
* `get?_of_string`: a string parameter is bound to its text;
* `not_wrongKind_of_string`, `bind_insert_eq_error_iff`: which text that is does not matter to
  whether and why a binding fails;
* **`bound_as_typed`**: from the tokens to the value that a function reads.
-/

namespace MarketQuery

namespace Invocation

/-- The texts that tokens give under a key, from left to right: what is behind the key and an equals
sign, in a token that no flag takes for its value. -/
inductive Gives (key : String) : List String → List String → Prop
  | nil : Gives key [] []
  | flag (flag : Flag) (value : String) {tokens texts : List String} (h : Gives key tokens texts) :
      Gives key (flag.token :: value :: tokens) texts
  | text (t : String) {tokens texts : List String} (h : Gives key tokens texts) :
      Gives key ((key ++ "=" ++ t) :: tokens) (t :: texts)
  | other {token : String} (hk : ∀ t, token ≠ key ++ "=" ++ t) {tokens texts : List String}
      (hf : tokens = [] ∨ ∀ flag : Flag, token ≠ flag.token) (h : Gives key tokens texts) :
      Gives key (token :: tokens) texts

/-- The texts of the pairs under a key. -/
def textsUnder (key : String) (pairs : List (String × String)) : List String :=
  (pairs.filter (·.1 = key)).map (·.2)

variable {key : String} {tokens texts : List String} {items : List Item}

theorem textsUnder_cons_pair (t : String) :
    textsUnder key (pairs (.pair key t :: items)) = t :: textsUnder key (pairs items) := by
  simp [textsUnder, pairs, Item.pair?]

theorem textsUnder_cons_of_ne {item : Item} (h : ∀ t, item ≠ .pair key t) :
    textsUnder key (pairs (item :: items)) = textsUnder key (pairs items) := by
  cases item with
  | flag asked value => rfl
  | noise token => rfl
  | pair k t =>
    have hk : k ≠ key := fun e => h t (e ▸ rfl)
    simp [textsUnder, pairs, Item.pair?, hk]

theorem single_eq_pair_iff {token t : String} (he : '=' ∉ key.toList) :
    Item.single token = .pair key t ↔ token = key ++ "=" ++ t := by
  refine ⟨fun h => ?_, fun h => h ▸ single_of_pair t he⟩
  by_cases hm : '=' ∈ token.toList
  · obtain ⟨k, raw, rfl, hk⟩ := exists_pair_of_mem hm
    rw [single_of_pair raw hk] at h
    obtain ⟨rfl, rfl⟩ := Item.pair.inj h
    rfl
  · rw [single_of_notMem hm] at h
    cases h

theorem gives_cons_of_alone (he : '=' ∉ key.toList) {token : String}
    (hf : tokens = [] ∨ ∀ flag : Flag, token ≠ flag.token)
    (h : Gives key tokens (textsUnder key (pairs items))) :
    Gives key (token :: tokens) (textsUnder key (pairs (.single token :: items))) := by
  by_cases hk : ∃ t, token = key ++ "=" ++ t
  · obtain ⟨t, rfl⟩ := hk
    rw [single_of_pair t he, textsUnder_cons_pair]
    exact .text t h
  · have hne := not_exists.1 hk
    rw [textsUnder_cons_of_ne fun t => (single_eq_pair_iff he).not.2 (hne t)]
    exact .other hne hf h

theorem gives_cut (he : '=' ∉ key.toList) (tokens : List String) :
    Gives key tokens (textsUnder key (pairs (cut tokens))) := by
  fun_induction cut tokens with
  | case1 => exact .nil
  | case2 token => exact gives_cons_of_alone he (.inl rfl) .nil
  | case3 token next rest flag hflag ih =>
    obtain rfl := Flag.ofToken?_eq_some_iff.1 hflag
    exact .flag flag next ih
  | case4 token next rest hflag ih =>
    exact gives_cons_of_alone he (.inr (Flag.ofToken?_eq_none_iff.1 hflag)) ih

theorem gives_iff (he : '=' ∉ key.toList) :
    Gives key tokens texts ↔ texts = textsUnder key (pairs (cut tokens)) := by
  refine ⟨fun h => ?_, fun h => h ▸ gives_cut he tokens⟩
  induction h with
  | nil => rfl
  | flag asked value _ ih =>
    rw [cut, Flag.ofToken?_eq_some_iff.2 rfl, ih]
    rfl
  | text t _ ih =>
    rw [cut_cons_of_alone (.inr (token_ne_of_mem (by simp))), single_of_pair t he,
      textsUnder_cons_pair, ih]
  | other hk hf _ ih =>
    rw [cut_cons_of_alone hf, textsUnder_cons_of_ne fun t => (single_eq_pair_iff he).not.2 (hk t),
      ih]

end Invocation

open Invocation (textsUnder)

theorem Arguments.get?_ofList (key : String) (pairs : List (String × String)) :
    (ofList pairs).get? key = (textsUnder key pairs).getLast?.map fun raw => ⟨raw⟩ := by
  induction pairs using List.reverseRecOn with
  | nil => rfl
  | append_singleton pairs pair ih =>
    have hinsert : ofList (pairs ++ [pair]) = (ofList pairs).insert pair.1 pair.2 := by
      simp [ofList]
    rw [hinsert, get?_insert, textsUnder, List.filter_append, List.map_append]
    by_cases h : pair.1 = key
    · simp [h]
    · rw [if_neg (Ne.symm h), ih]
      simp [h, textsUnder]

theorem Param.bind_of_string {p : Param} (hk : p.kind = .string) {function : String}
    {args : Arguments} {a : Argument} (ha : args.get? p.name = some a) :
    p.bind function args = .ok (some (p.name, .text a.raw)) :=
  bind_eq_some_iff.2 (.given ha (hk ▸ rfl))

namespace Signature

variable {s : Signature} {p : Param}

section Strings

variable {args args' : Arguments} (hs : (s.params.map (·.name)).Nodup) (hp : p ∈ s.params)
  (hk : p.kind = .string)
include hs hp hk

theorem get?_of_string {a : Argument} {b : Bound} (hb : s.bind args = .ok b)
    (ha : args.get? p.name = some a) : b.get? p.name = some (.text a.raw) := by
  obtain ⟨-, -, hfills⟩ := bind_eq_ok_iff.1 hb
  obtain ⟨v, hget, hv⟩ := exists_get?_of_fills hs hfills hp
  have hbind : p.bind s.name args = .ok (some (p.name, v)) := Param.bind_eq_some_iff.2 hv
  obtain ⟨⟩ := hbind.symm.trans (Param.bind_of_string hk ha)
  exact hget

/-! ## Bindings that fail -/

theorem ne_name_of_not_takes {q : Param} (hq : q ∈ s.params) {a : Argument}
    (h : ¬ q.kind.Takes a.value.kind) : q.name ≠ p.name := by
  intro hname
  obtain rfl := List.inj_on_of_nodup_map hs hq hp hname
  rw [hk] at h
  exact h trivial

theorem not_wrongKind_of_string (function : String) (expected actual : Kind) (raw : String) :
    s.bind args ≠ .error (.wrongKind function p.name expected actual raw) := by
  intro h
  have hrefuses := bind_eq_error_iff.1 h
  generalize he : BindError.wrongKind function p.name expected actual raw = e at hrefuses
  cases hrefuses with
  | unexpected => cases he
  | missing => cases he
  | wrongKind _ _ hparams _ ha ht =>
    obtain ⟨-, hname, -⟩ := BindError.wrongKind.inj he
    exact ne_name_of_not_takes hs hp hk (hparams ▸ by simp) ht hname.symm

/-- A binding fails for the same reason where only the text of a string parameter differs. -/
theorem refuses_of_string {e : BindError} (hkeys : args'.keys = args.keys)
    (hget : ∀ name ≠ p.name, args'.get? name = args.get? name) (h : s.Refuses args e) :
    s.Refuses args' e := by
  have hlacks (q : Param) : q.Lacks args' ↔ q.Lacks args := by rw [Param.Lacks, Param.Lacks, hkeys]
  -- A parameter whose argument does not suit is another one, and its argument is the same.
  have hsuits {q : Param} (hq : q ∈ s.params) (h : q.Suits args) : q.Suits args' := by
    intro a ha
    by_contra ht
    rw [hget _ (ne_name_of_not_takes hs hp hk hq ht)] at ha
    exact ht (h a ha)
  cases h with
  | unexpected hsplit hb h => exact .unexpected (hkeys.trans hsplit) hb h
  | missing hknown hm =>
    simp only [← hlacks] at hm
    have hfilter : (s.params.filter fun q => q.Lacks args') =
        s.params.filter fun q => q.Lacks args :=
      List.filter_congr fun q _ => decide_eq_decide.2 (hlacks q)
    rw [← hfilter]
    exact .missing (hkeys ▸ hknown) hm
  | wrongKind hknown hm hparams hb ha ht =>
    refine .wrongKind (hkeys ▸ hknown) (fun q hq => (hlacks q).not.2 (hm q hq)) hparams
      (fun q hq => hsuits (hparams ▸ by simp [hq]) (hb q hq)) ?_ ht
    rwa [hget _ (ne_name_of_not_takes hs hp hk (hparams ▸ by simp) ht)]

theorem bind_insert_eq_error_iff {t t' : String} {e : BindError} :
    s.bind (args.insert p.name t) = .error e ↔ s.bind (args.insert p.name t') = .error e := by
  have h (t t' : String) (h : s.Refuses (args.insert p.name t) e) :
      s.Refuses (args.insert p.name t') e := by
    refine refuses_of_string hs hp hk ?_ (fun name hname => ?_) h
    · rw [Arguments.keys_insert, Arguments.keys_insert]
    · rw [Arguments.get?_insert, Arguments.get?_insert, if_neg hname, if_neg hname]
  rw [bind_eq_error_iff, bind_eq_error_iff]
  exact ⟨h t t', h t' t⟩

end Strings

/-- **A string parameter is bound to its text as it was typed last**, whatever else is typed and
whatever value the text might stand for. No text under its name makes a binding fail. -/
theorem bound_as_typed (hs : (s.params.map (·.name)).Nodup) (hp : p ∈ s.params)
    (hk : p.kind = .string) (he : '=' ∉ p.name.toList) :
    (∀ tokens, ∃! texts, Invocation.Gives p.name tokens texts) ∧
    (∀ function tokens texts t i b, Invocation.Gives p.name tokens texts →
      texts.getLast? = some t → Invocation.ofTokens function tokens = .ok i →
      s.bind i.args = .ok b → b.get? p.name = some (.text t) ∧ b.text p.name = .ok t) ∧
    (∀ function (args : Arguments) a, args.get? p.name = some a →
      p.bind function args = .ok (some (p.name, .text a.raw))) ∧
    (∀ args function expected actual raw,
      s.bind args ≠ .error (.wrongKind function p.name expected actual raw)) ∧
    ∀ (args : Arguments) t t' e, s.bind (args.insert p.name t) = .error e ↔
      s.bind (args.insert p.name t') = .error e := by
  refine ⟨fun tokens => ⟨_, Invocation.gives_cut he tokens, fun _ => (Invocation.gives_iff he).1⟩,
    ?_, fun _ _ _ => Param.bind_of_string hk,
    fun args => not_wrongKind_of_string hs hp hk,
    fun _ _ _ _ => bind_insert_eq_error_iff hs hp hk⟩
  intro function tokens texts t i b hgives hlast hi hb
  have ha : i.args.get? p.name = some ⟨t⟩ := by
    rw [(Invocation.asksFor_of_ofTokens hi).args, Arguments.get?_ofList,
      ← (Invocation.gives_iff he).1 hgives, hlast]
    rfl
  have hget := get?_of_string hs hp hk hb ha
  refine ⟨hget, ?_⟩
  rw [Bound.text, Bound.getOf, hget]

theorem bound_as_typed_symbol :
    let tokens := ["symbol=TRUE", "--save", "symbol=7", "ratio=2", "symbol= 000001 =x"]
    let i : Invocation :=
      { function := "chart", save := some "symbol=7",
        args := .ofList [("symbol", "TRUE"), ("ratio", "2"), ("symbol", " 000001 =x")] }
    let b : Bound := ⟨[("symbol", .text " 000001 =x"), ("limit", .int 10),
      ("ratio", .float (.ofInt 2)), ("grid", .bool false)]⟩
    Invocation.ofTokens "chart" tokens = .ok i ∧ chart.bind i.args = .ok b ∧
      Invocation.Gives "symbol" tokens ["TRUE", " 000001 =x"] ∧
      b.text "symbol" = .ok " 000001 =x" := by
  intro tokens i b
  have he : '=' ∉ "symbol".toList := by decide
  have hi : Invocation.ofTokens "chart" tokens = .ok i := rfl
  have hb : chart.bind i.args = .ok b := by decide +kernel
  have hgives : Invocation.Gives "symbol" tokens ["TRUE", " 000001 =x"] :=
    (Invocation.gives_iff he).2 (by decide +kernel)
  have hp : { name := "symbol", kind := .string } ∈ chart.params := by simp [chart]
  exact ⟨hi, hb, hgives,
    ((bound_as_typed (by decide) hp rfl he).2.1 _ _ _ _ i b hgives rfl hi hb).2⟩

end Signature

end MarketQuery
