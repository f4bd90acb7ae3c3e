import MarketQuery.Proofs.Binding.Parameter
import MarketQuery.Proofs.Traversal

/-!
# What binding comes to

* `Signature.Accepts`: arguments that fit a signature; `Signature.Refuses`: how others do not fit,
  the key before what is left out and this before a value of the wrong kind;
* `bind_eq_ok_iff`, `bind_eq_error_iff`: arguments are bound to what fills each parameter, or are
  refused for such a fault;
* `exists_bind_iff`: just the arguments that fit are bound.
-/

namespace MarketQuery.Signature

variable (s : Signature) (args : Arguments)

/-- A key names a parameter. -/
def Knows (key : String) : Prop := ∃ p ∈ s.params, p.name = key

/-- Each key names a parameter, no required parameter is left out, and each argument stands for a
value that its parameter takes. -/
structure Accepts : Prop where
  known : ∀ key ∈ args.keys, s.Knows key
  given : ∀ p ∈ s.params, p.default? = none → p.name ∈ args.keys
  suits : ∀ p ∈ s.params, ∀ a, args.get? p.name = some a → p.kind.Takes a.value.kind

/-- How arguments do not fit: by the first key that names no parameter; else by the required
parameters that are left out, in the order of the signature; else by the first parameter in this
order whose argument stands for a value that it does not take. -/
inductive Refuses : BindError → Prop
  | unexpected {before after : List String} {key : String} (hk : args.keys = before ++ key :: after)
      (hb : ∀ k ∈ before, s.Knows k) (h : ¬ s.Knows key) : Refuses (.unexpected s.name key)
  | missing (hk : ∀ key ∈ args.keys, s.Knows key) (hm : ∃ p ∈ s.params, p.Lacks args) :
      Refuses (.missing s.name ((s.params.filter fun p => p.Lacks args).map (·.name)))
  | wrongKind {before after : List Param} {p : Param} {a : Argument}
      (hk : ∀ key ∈ args.keys, s.Knows key) (hm : ∀ p ∈ s.params, ¬ p.Lacks args)
      (hp : s.params = before ++ p :: after) (hb : ∀ q ∈ before, q.Suits args)
      (ha : args.get? p.name = some a) (h : ¬ p.kind.Takes a.value.kind) :
      Refuses (.wrongKind s.name p.name p.kind a.value.kind a.raw)

variable {s args}

/-! ## Keys and what is left out -/

theorem any_name_eq_true_iff {key : String} :
    (s.params.any fun p => p.name == key) = true ↔ s.Knows key := by
  simp [Knows]

theorem unknownKey?_eq_some_iff {key : String} : s.unknownKey? args = some key ↔
    ∃ before after, args.keys = before ++ key :: after ∧ (∀ k ∈ before, s.Knows k) ∧
      ¬ s.Knows key := by
  rw [unknownKey?, List.find?_eq_some_iff_append, Bool.not_eq_true', ← Bool.not_eq_true,
    any_name_eq_true_iff]
  simp only [Bool.not_not, any_name_eq_true_iff]
  constructor
  · rintro ⟨h, before, after, hk, hb⟩
    exact ⟨before, after, hk, hb, h⟩
  · rintro ⟨before, after, hk, hb, h⟩
    exact ⟨h, before, after, hk, hb⟩

theorem unknownKey?_eq_none_iff :
    s.unknownKey? args = none ↔ ∀ key ∈ args.keys, s.Knows key := by
  simp only [unknownKey?, List.find?_eq_none, Bool.not_eq_true, Bool.not_eq_false',
    any_name_eq_true_iff]

theorem missingNames_eq :
    s.missingNames args = (s.params.filter fun p => p.Lacks args).map (·.name) := by
  rw [missingNames]
  refine congrArg _ (List.filter_congr fun p _ => ?_)
  rw [Bool.eq_iff_iff, decide_eq_true_iff, Param.Lacks, ← Arguments.get?_eq_none_iff]
  simp [Param.isRequired, Arguments.contains]

theorem missingNames_eq_nil_iff :
    s.missingNames args = [] ↔ ∀ p ∈ s.params, ¬ p.Lacks args := by
  simp [missingNames_eq, List.filter_eq_nil_iff]

/-! ## Binding -/

theorem bind_of_unknownKey {key : String} (h : s.unknownKey? args = some key) :
    s.bind args = .error (.unexpected s.name key) := by
  simp only [bind, h]

theorem bind_of_missingNames (hk : s.unknownKey? args = none) (h : s.missingNames args ≠ []) :
    s.bind args = .error (.missing s.name (s.missingNames args)) := by
  simp only [bind, hk]

theorem bind_of_complete (hk : s.unknownKey? args = none) (hm : s.missingNames args = []) :
    s.bind args = (s.params.mapM fun p => p.bind s.name args) >>= fun entries =>
      pure ⟨entries.filterMap id⟩ := by
  simp only [bind, hk, hm]

section Entries

variable {params : List Param} {function : String}

theorem forall₂_fills_filterMap {entries : List (Option (String × Value))}
    (hm : ∀ p ∈ params, ¬ p.Lacks args)
    (h : List.Forall₂ (fun p entry => p.bind function args = .ok entry) params entries) :
    List.Forall₂ (fun p entry => p.Fills args entry) params (entries.filterMap id) := by
  induction h with
  | nil => exact .nil
  | @cons p entry params entries hp _ ih =>
    obtain ⟨hl, hm⟩ := List.forall_mem_cons.1 hm
    cases entry with
    | none => exact absurd (Param.bind_eq_none_iff.1 hp) hl
    | some entry => exact .cons (Param.bind_eq_some_iff.1 hp) (ih hm)

theorem mapM_bind_of_fills {entries : List (String × Value)}
    (h : List.Forall₂ (fun p entry => p.Fills args entry) params entries) :
    (params.mapM fun p => p.bind function args) = .ok (entries.map some) := by
  rw [mapM_eq_ok_iff, List.forall₂_map_right_iff]
  exact h.imp fun p entry hp => Param.bind_eq_some_iff.2 hp

theorem mapM_bind_eq_error_iff {e : BindError} :
    (params.mapM fun p => p.bind function args) = .error e ↔
      ∃ before p after, params = before ++ p :: after ∧ (∀ q ∈ before, q.Suits args) ∧
        ∃ a, args.get? p.name = some a ∧ ¬ p.kind.Takes a.value.kind ∧
          e = .wrongKind function p.name p.kind a.value.kind a.raw := by
  simp only [mapM_eq_error_iff, Param.exists_bind_iff_suits, Param.bind_eq_error_iff]

end Entries

theorem bind_eq_ok_iff {b : Bound} : s.bind args = .ok b ↔
    (∀ key ∈ args.keys, s.Knows key) ∧ (∀ p ∈ s.params, ¬ p.Lacks args) ∧
      List.Forall₂ (fun p entry => p.Fills args entry) s.params b.values := by
  rw [← unknownKey?_eq_none_iff, ← missingNames_eq_nil_iff]
  constructor
  · intro h
    cases hk : s.unknownKey? args with
    | some key =>
      rw [bind_of_unknownKey hk] at h
      cases h
    | none =>
      by_cases hm : s.missingNames args = []
      · rw [bind_of_complete hk hm] at h
        obtain ⟨entries, he, hb⟩ := MarketQuery.bind_eq_ok_iff.1 h
        obtain rfl := Except.ok.inj hb
        exact ⟨rfl, hm, forall₂_fills_filterMap (missingNames_eq_nil_iff.1 hm)
          (mapM_eq_ok_iff.1 he)⟩
      · rw [bind_of_missingNames hk hm] at h
        cases h
  · rintro ⟨hk, hm, h⟩
    rw [bind_of_complete hk hm, mapM_bind_of_fills h]
    show Except.ok (⟨(b.values.map some).filterMap id⟩ : Bound) = _
    simp

theorem bind_eq_error_iff {e : BindError} : s.bind args = .error e ↔ s.Refuses args e := by
  constructor
  · intro h
    cases hk : s.unknownKey? args with
    | some key =>
      rw [bind_of_unknownKey hk] at h
      obtain rfl := Except.error.inj h
      obtain ⟨before, after, hkeys, hb, hkey⟩ := unknownKey?_eq_some_iff.1 hk
      exact .unexpected hkeys hb hkey
    | none =>
      have hknown := unknownKey?_eq_none_iff.1 hk
      by_cases hm : s.missingNames args = []
      · have hgiven := missingNames_eq_nil_iff.1 hm
        rw [bind_of_complete hk hm, bind_pure_eq_error_iff, mapM_bind_eq_error_iff] at h
        obtain ⟨before, p, after, hp, hb, a, ha, ht, rfl⟩ := h
        exact .wrongKind hknown hgiven hp hb ha ht
      · rw [bind_of_missingNames hk hm, missingNames_eq] at h
        obtain rfl := Except.error.inj h
        refine .missing hknown ?_
        rw [missingNames_eq_nil_iff] at hm
        push Not at hm
        exact hm
  · intro h
    cases h with
    | unexpected hk hb h =>
      exact bind_of_unknownKey (unknownKey?_eq_some_iff.2 ⟨_, _, hk, hb, h⟩)
    | missing hk hm =>
      rw [← missingNames_eq]
      refine bind_of_missingNames (unknownKey?_eq_none_iff.2 hk) ?_
      rw [ne_eq, missingNames_eq_nil_iff]
      push Not
      exact hm
    | wrongKind hk hm hp hb ha ht =>
      rw [bind_of_complete (unknownKey?_eq_none_iff.2 hk) (missingNames_eq_nil_iff.2 hm),
        bind_pure_eq_error_iff, mapM_bind_eq_error_iff]
      exact ⟨_, _, _, hp, hb, _, ha, ht, rfl⟩

/-! ## Which arguments are bound -/

theorem not_accepts_of_refuses {e : BindError} (h : s.Refuses args e) : ¬ s.Accepts args := by
  intro hacc
  cases h with
  | unexpected hk _ h => exact h (hacc.known _ (by simp [hk]))
  | missing _ hm =>
    obtain ⟨p, hp, hd, hk⟩ := hm
    exact hk (hacc.given p hp hd)
  | wrongKind _ _ hp _ ha ht => exact ht (hacc.suits _ (by simp [hp]) _ ha)

theorem accepts_of_bind {b : Bound} (h : s.bind args = .ok b) : s.Accepts args := by
  obtain ⟨hk, hm, hf⟩ := bind_eq_ok_iff.1 h
  refine ⟨hk, fun p hp hd => ?_, fun p hp => ?_⟩
  · by_contra hkey
    exact hm p hp ⟨hd, hkey⟩
  · obtain ⟨entry, -, hfills⟩ := exists_mem_of_forall₂ hf hp
    exact Param.suits_of_fills hfills

/-- Just the arguments that fit are bound. -/
theorem exists_bind_iff : (∃ b, s.bind args = .ok b) ↔ s.Accepts args := by
  refine ⟨fun ⟨_, h⟩ => accepts_of_bind h, fun hacc => ?_⟩
  cases h : s.bind args with
  | error e => exact absurd hacc (not_accepts_of_refuses (bind_eq_error_iff.1 h))
  | ok b => exact ⟨b, rfl⟩

end MarketQuery.Signature
