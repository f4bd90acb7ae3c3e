import MarketQuery.Proofs.Binding.Outcome

/-!
# Bound values by their names

* `Bound.read`: a bound value read as one of a kind; `read_of_get?`: it is one of its own kind only;
* `exists_get?_of_fills`: where the names of parameters are distinct, what fills a parameter is
  found under its name;
* **`bound_iff_accepts_and_fills`**: which arguments are bound, to what, and why others are refused.
-/

namespace MarketQuery

/-- The bound value under a name, read as one of a kind. -/
def Bound.read (b : Bound) (k : Kind) (name : String) : Except Unbound Value :=
  match k with
  | .string => (b.text name).map .text
  | .integer => (b.int name).map .int
  | .float => (b.float name).map .float
  | .boolean => (b.bool name).map .bool

theorem Bound.read_of_get? {b : Bound} {name : String} {v : Value} (h : b.get? name = some v)
    (k : Kind) :
    b.read k name = if v.kind = k then .ok v else .error (.otherKind name k v) := by
  cases k <;> cases v <;>
    simp [read, text, int, float, bool, getOf, h, Value.kind, Except.map]

/-- The default of a parameter, if it has one, stands for a value of its kind. -/
def Param.HasFitDefault (p : Param) : Prop :=
  ∀ text, p.default? = some text → p.kind.Takes (Value.coerce text).kind

theorem Param.kind_of_fills {p : Param} {args : Arguments} {entry : String × Value}
    (h : p.Fills args entry) (hd : p.HasFitDefault) : entry.2.kind = p.kind := by
  cases h with
  | given _ hv => exact kind_of_holds hv
  | absent _ _ hv => exact kind_of_holds hv
  | unfit _ ht hv => exact absurd (hd _ ht) hv

namespace Signature

theorem exists_get?_of_fills {params : List Param} {args : Arguments}
    {entries : List (String × Value)} (hn : (params.map (·.name)).Nodup)
    (h : List.Forall₂ (fun p entry => p.Fills args entry) params entries) {p : Param}
    (hp : p ∈ params) : ∃ v, Bound.get? ⟨entries⟩ p.name = some v ∧ p.Fills args (p.name, v) := by
  induction h with
  | nil => cases hp
  | @cons q entry params entries hq _ ih =>
    obtain ⟨name, v⟩ := entry
    obtain rfl : name = q.name := Param.fst_of_fills hq
    rw [List.map_cons, List.nodup_cons] at hn
    rcases List.mem_cons.1 hp with rfl | hp
    · exact ⟨v, by simp [Bound.get?], hq⟩
    · have hne : (p.name == q.name) = false :=
        beq_eq_false_iff_ne.2 fun e => hn.1 (e ▸ List.mem_map_of_mem hp)
      obtain ⟨w, hw, hfills⟩ := ih hn.2 hp
      refine ⟨w, ?_, hfills⟩
      rwa [Bound.get?, List.lookup_cons, hne]

/-- **Just the arguments that fit a signature are bound**, each parameter to what its argument or
its default stands for, and this is read as a value of the parameter's kind and of no other. Any
other arguments are refused for their first fault. -/
theorem bound_iff_accepts_and_fills {s : Signature} (hs : (s.params.map (·.name)).Nodup)
    (args : Arguments) :
    ((∃ b, s.bind args = .ok b) ↔ s.Accepts args) ∧
    (∀ b, s.bind args = .ok b →
      List.Forall₂ (fun p entry => p.Fills args entry) s.params b.values ∧
      ∀ p ∈ s.params, p.HasFitDefault →
        ∃ v, p.Fills args (p.name, v) ∧ b.read p.kind p.name = .ok v ∧
          ∀ k, k ≠ p.kind → b.read k p.name = .error (.otherKind p.name k v)) ∧
    ∀ e, s.bind args = .error e ↔ s.Refuses args e := by
  refine ⟨exists_bind_iff, fun b h => ?_, fun e => bind_eq_error_iff⟩
  obtain ⟨-, -, hfills⟩ := bind_eq_ok_iff.1 h
  refine ⟨hfills, fun p hp hd => ?_⟩
  obtain ⟨v, hget, hv⟩ := exists_get?_of_fills hs hfills hp
  have hkind : v.kind = p.kind := Param.kind_of_fills hv hd
  refine ⟨v, hv, ?_, fun k hk => ?_⟩
  · rw [Bound.read_of_get? hget, if_pos hkind]
  · rw [Bound.read_of_get? hget, if_neg fun e => hk (e.symm.trans hkind)]

/-- A signature with a parameter of each kind. -/
def chart : Signature where
  name := "chart"
  summary := ""
  params :=
    [{ name := "symbol", kind := .string }, { name := "limit", kind := .integer, default? := "10" },
     { name := "ratio", kind := .float, default? := "0.5" },
     { name := "grid", kind := .boolean, default? := "false" }]

theorem bound_iff_accepts_and_fills_chart :
    let b : Bound := ⟨[("symbol", .text "000001"), ("limit", .int 10),
      ("ratio", .float (.ofInt 2)), ("grid", .bool false)]⟩
    (chart.params.map (·.name)).Nodup ∧
    chart.Accepts (.ofList [("ratio", " 2"), ("symbol", "000001")]) ∧
    chart.bind (.ofList [("ratio", " 2"), ("symbol", "000001")]) = .ok b ∧
    b.read .string "limit" = .error (.otherKind "limit" .string (.int 10)) ∧
    chart.Refuses (.ofList [("limit", "x"), ("color", "red")]) (.unexpected "chart" "color") ∧
    chart.Refuses (.ofList [("limit", "x")]) (.missing "chart" ["symbol"]) ∧
    chart.Refuses (.ofList [("grid", "1"), ("limit", "x"), ("symbol", "")])
      (.wrongKind "chart" "limit" .integer .string "x") := by
  intro b
  have hn : (chart.params.map (·.name)).Nodup := by decide
  have h := bound_iff_accepts_and_fills hn
  have hb : chart.bind (.ofList [("ratio", " 2"), ("symbol", "000001")]) = .ok b := by
    decide +kernel
  have hfit : Param.HasFitDefault { name := "limit", kind := .integer, default? := "10" } := by
    rintro text ⟨⟩
    decide +kernel
  obtain ⟨v, -, hread, hother⟩ := ((h _).2.1 b hb).2 _ (by simp [chart]) hfit
  obtain rfl : Value.int 10 = v := Except.ok.inj hread
  refine ⟨hn, (h _).1.1 ⟨b, hb⟩, hb, hother .string (by decide), ?_, ?_, ?_⟩
  · exact ((h _).2.2 _).1 (by decide +kernel)
  · exact ((h _).2.2 _).1 (by decide +kernel)
  · exact ((h _).2.2 _).1 (by decide +kernel)

end Signature

end MarketQuery
