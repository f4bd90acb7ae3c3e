import Mathlib.Tactic.Common
import MarketQuery.Binding

/-!
# What a parameter is bound to

* `Kind.Takes`, `Kind.Holds`: the texts that a parameter of a kind takes, by what they stand for,
  and the value that it holds for one;
* `Param.Lacks`, `Param.Suits`: a required parameter is left out; an argument is of the right kind;
* `Param.Fills`: the entry of a parameter among the bound values;
* `accept?_eq_some_iff`, `bind_eq_some_iff`, `bind_eq_none_iff`, `bind_eq_error_iff`: a parameter is
  bound as these say.
-/

namespace MarketQuery

/-- The kinds of values that the texts of arguments may stand for, by the kind of their
parameter. -/
def Kind.Takes : Kind → Kind → Prop
  | .string, _ => True
  | .integer, k => k = .integer
  | .float, k => k = .integer ∨ k = .float
  | .boolean, k => k = .boolean

instance (k k' : Kind) : Decidable (k.Takes k') := by
  cases k <;> unfold Kind.Takes <;> infer_instance

/-- The value that a parameter of a kind holds for a text. -/
def Kind.Holds : Kind → String → Value → Prop
  | .string, raw, v => v = .text raw
  | .integer, raw, v => ∃ n, Value.coerce raw = .int n ∧ v = .int n
  | .float, raw, v =>
    (∃ n, Value.coerce raw = .int n ∧ v = .float (.ofInt n.toInt)) ∨
      ∃ x, Value.coerce raw = .float x ∧ v = .float x
  | .boolean, raw, v => ∃ b, Value.coerce raw = .bool b ∧ v = .bool b

section Holds

variable {k : Kind} {raw : String} {v : Value}

theorem kind_of_holds (h : k.Holds raw v) : v.kind = k := by
  cases k with
  | string => exact h ▸ rfl
  | integer | boolean =>
    obtain ⟨_, -, rfl⟩ := h
    rfl
  | float => rcases h with ⟨_, -, rfl⟩ | ⟨_, -, rfl⟩ <;> rfl

/-- A value is held just for the texts that are taken. -/
theorem exists_holds_iff : (∃ v, k.Holds raw v) ↔ k.Takes (Value.coerce raw).kind := by
  cases k <;> cases hc : Value.coerce raw <;> simp [Kind.Holds, Kind.Takes, Value.kind, hc]

theorem accept?_eq_some_iff {p : Param} : p.accept? raw = some v ↔ p.kind.Holds raw v := by
  unfold Param.accept?
  cases p.kind <;> cases hc : Value.coerce raw <;> simp [Kind.Holds, hc, eq_comm]

theorem accept?_eq_none_iff {p : Param} :
    p.accept? raw = none ↔ ¬ p.kind.Takes (Value.coerce raw).kind := by
  rw [← exists_holds_iff, Option.eq_none_iff_forall_ne_some, not_exists]
  exact forall_congr' fun v => accept?_eq_some_iff.not

end Holds

/-! ## Parameters -/

theorem Arguments.get?_eq_none_iff {args : Arguments} {key : String} :
    args.get? key = none ↔ key ∉ args.keys := by
  rw [get?, List.lookup_eq_none_iff, keys, List.mem_map, not_exists]
  refine forall_congr' fun e => ?_
  rw [not_and, bne_iff_ne, ne_comm]

namespace Param

variable (p : Param) (args : Arguments)

/-- The parameter has to be given and is not. -/
def Lacks : Prop := p.default? = none ∧ p.name ∉ args.keys

/-- The argument of the parameter, if it is given, stands for a value that is taken. -/
def Suits : Prop := ∀ a, args.get? p.name = some a → p.kind.Takes a.value.kind

instance : Decidable (p.Lacks args) := by unfold Lacks; infer_instance

/-- What a parameter is bound to: the value of its argument, or else that of its default, which
counts as a text where it stands for no value of the kind. -/
inductive Fills : String × Value → Prop
  | given {a : Argument} {v : Value} (ha : args.get? p.name = some a)
      (hv : p.kind.Holds a.raw v) : Fills (p.name, v)
  | absent {text : String} {v : Value} (ha : p.name ∉ args.keys) (hd : p.default? = some text)
      (hv : p.kind.Holds text v) : Fills (p.name, v)
  | unfit {text : String} (ha : p.name ∉ args.keys) (hd : p.default? = some text)
      (hv : ¬ p.kind.Takes (Value.coerce text).kind) : Fills (p.name, .text text)

variable {p args} {function : String}

theorem fst_of_fills {entry : String × Value} (h : p.Fills args entry) : entry.1 = p.name := by
  cases h <;> rfl

theorem suits_of_fills {entry : String × Value} (h : p.Fills args entry) : p.Suits args := by
  intro a ha
  cases h with
  | given ha' hv =>
    obtain rfl := Option.some.inj (ha.symm.trans ha')
    rw [a.value_eq]
    exact exists_holds_iff.1 ⟨_, hv⟩
  | absent hk | unfit hk => cases ha.symm.trans (Arguments.get?_eq_none_iff.2 hk)

theorem bind_of_given {a : Argument} (ha : args.get? p.name = some a) :
    p.bind function args =
      match p.accept? a.raw with
      | some v => .ok (some (p.name, v))
      | none => .error (.wrongKind function p.name p.kind a.value.kind a.raw) := by
  cases hacc : p.accept? a.raw <;> simp only [bind, ha, hacc]

theorem bind_of_absent (ha : p.name ∉ args.keys) :
    p.bind function args = .ok (p.fallback?.map (p.name, ·)) := by
  rw [bind, Arguments.get?_eq_none_iff.2 ha]

theorem bind_eq_some_iff {entry : String × Value} :
    p.bind function args = .ok (some entry) ↔ p.Fills args entry := by
  constructor
  · intro h
    cases ha : args.get? p.name with
    | some a =>
      rw [bind_of_given ha] at h
      split at h
      · obtain rfl := Option.some.inj (Except.ok.inj h)
        exact .given ha (accept?_eq_some_iff.1 ‹_›)
      · cases h
    | none =>
      have hk := Arguments.get?_eq_none_iff.1 ha
      rw [bind_of_absent hk] at h
      obtain ⟨v, hv, rfl⟩ := Option.map_eq_some_iff.1 (Except.ok.inj h)
      obtain ⟨text, hd, rfl⟩ := Option.map_eq_some_iff.1 hv
      cases hacc : p.accept? text with
      | some v => exact .absent hk hd (accept?_eq_some_iff.1 hacc)
      | none => exact .unfit hk hd (accept?_eq_none_iff.1 hacc)
  · intro h
    cases h with
    | given ha hv => rw [bind_of_given ha, accept?_eq_some_iff.2 hv]
    | absent ha hd hv =>
      rw [bind_of_absent ha, fallback?, hd, Option.map_some, accept?_eq_some_iff.2 hv]
      rfl
    | unfit ha hd hv =>
      rw [bind_of_absent ha, fallback?, hd, Option.map_some, accept?_eq_none_iff.2 hv]
      rfl

theorem bind_eq_none_iff : p.bind function args = .ok none ↔ p.Lacks args := by
  unfold Lacks
  by_cases hk : p.name ∈ args.keys
  · obtain ⟨a, ha⟩ := Option.ne_none_iff_exists'.1 (mt Arguments.get?_eq_none_iff.1 (not_not.2 hk))
    rw [bind_of_given ha]
    cases p.accept? a.raw <;> simp [hk]
  · rw [bind_of_absent hk, Except.ok.injEq, Option.map_eq_none_iff, fallback?,
      Option.map_eq_none_iff]
    simp [hk]

theorem bind_eq_error_iff {e : BindError} : p.bind function args = .error e ↔
    ∃ a, args.get? p.name = some a ∧ ¬ p.kind.Takes a.value.kind ∧
      e = .wrongKind function p.name p.kind a.value.kind a.raw := by
  cases ha : args.get? p.name with
  | none =>
    rw [bind_of_absent (Arguments.get?_eq_none_iff.1 ha)]
    simp
  | some a =>
    rw [bind_of_given ha]
    cases hacc : p.accept? a.raw with
    | none =>
      have := accept?_eq_none_iff.1 hacc
      simp [a.value_eq, this, eq_comm]
    | some v =>
      have := exists_holds_iff.1 ⟨v, accept?_eq_some_iff.1 hacc⟩
      simp [a.value_eq, this]

theorem exists_bind_iff_suits :
    (∃ entry?, p.bind function args = .ok entry?) ↔ p.Suits args := by
  have hnot : (∃ e, p.bind function args = .error e) ↔ ¬ p.Suits args := by
    simp only [bind_eq_error_iff, Suits]
    push Not
    constructor
    · rintro ⟨_, a, ha, ht, -⟩
      exact ⟨a, ha, ht⟩
    · rintro ⟨a, ha, ht⟩
      exact ⟨_, a, ha, ht, rfl⟩
  rw [← not_iff_not, ← hnot]
  cases p.bind function args <;> simp

end Param

end MarketQuery
