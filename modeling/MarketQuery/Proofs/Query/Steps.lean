import MarketQuery.Proofs.Traversal
import MarketQuery.Query.Session

/-!
# Steps of a session

* `ended`: lines with their breaks; `Session.answered`, `Session.said`: a session with more text on
  one of its streams;
* `received_eq_of_written`, `received_answered`, `received_said`: what the standard streams get by a
  step;
* `bind_eq_ok_iff`, `bind_eq_error_iff`: actions after one another succeed when each does, from
  where the last one ended, and fail with the first that does;
* `sayLine_eq_ok_iff`, `answerLine_eq_ok_iff`, `ofExcept_eq_ok_iff`, `perform_eq_ok_iff`,
  `saveTable_eq_ok_iff`: what a step that succeeds does;
* `sayLine_eq_error_iff`, `answerLine_eq_error_iff`, `ofExcept_eq_error_iff`,
  `perform_eq_error_iff`, `saveTable_eq_error_iff`: what a step that fails does.
-/

namespace MarketQuery

namespace Query

/-- Lines, each with a break behind it. -/
def ended (lines : List String) : String := String.join (lines.map (· ++ "\n"))

theorem ended_singleton (line : String) : ended [line] = line ++ "\n" := by
  simp [ended]

theorem ended_append (lines lines' : List String) :
    ended (lines ++ lines') = ended lines ++ ended lines' := by
  simp [ended, String.join_append]

/-- What the stream for everything but answers gets with lines. -/
def spoken (lines : List String) : List (StandardStream × String) :=
  lines.map fun line => (.error, line ++ "\n")

end Query

namespace Session

/-- The session after a text of the answer. -/
def answered (s : Session) (text : String) : Session :=
  { s with
    out := { s.out with text := s.out.text ++ text }
    written := s.written ++ [(.output, text)] }

/-- The session after lines about the work. -/
def said (s : Session) (lines : List String) : Session :=
  { s with
    err := { s.err with text := s.err.text ++ Query.ended lines }
    written := s.written ++ Query.spoken lines }

variable (s : Session) (text : String) (lines : List String)

@[simp]
theorem err_answered : (s.answered text).err = s.err := rfl

@[simp]
theorem err_text_said : (s.said lines).err.text = s.err.text ++ Query.ended lines := rfl

@[simp]
theorem out_said : (s.said lines).out = s.out := rfl

@[simp]
theorem written_said : (s.said lines).written = s.written ++ Query.spoken lines := rfl

@[simp]
theorem err_stored (files : FileSystem) : (s.stored files).err = s.err := rfl

@[simp]
theorem stored_files : s.stored s.files = s := by
  simp [stored]

@[simp]
theorem said_nil : s.said [] = s := by
  simp [said, Query.ended, Query.spoken]

@[simp]
theorem said_said (lines' : List String) :
    (s.said lines).said lines' = s.said (lines ++ lines') := by
  simp [said, Query.ended_append, Query.spoken, String.append_assoc]

/-! ### The standard streams -/

theorem received_eq_of_written {s s' : Session} {new : List (StandardStream × String)}
    (h : s'.written = s.written ++ new) (stream : StandardStream) :
    s'.received stream =
      s.received stream ++ String.join ((new.filter (·.1 = stream)).map (·.2)) := by
  simp [received, h, String.join_append]

theorem received_answered : (s.answered text).received .output = s.received .output ++ text := by
  rw [received_eq_of_written (s := s) rfl]
  simp

theorem received_said : (s.said lines).received .output = s.received .output := by
  rw [received_eq_of_written (s := s) rfl]
  simp [Query.spoken, List.filter_map, Function.comp_def]

end Session

namespace Action

section Bind

variable {α β : Type} {x : Action α} {f : α → Action β} {s s₁ : Session}

theorem bind_of_ok {a : α} (h : x s = (.ok a, s₁)) : (x >>= f) s = f a s₁ := by
  show ExceptT.bindCont f (x s).1 (x s).2 = f a s₁
  rw [h]
  rfl

theorem bind_of_error {e : QueryError} (h : x s = (.error e, s₁)) :
    (x >>= f) s = (.error e, s₁) := by
  show ExceptT.bindCont f (x s).1 (x s).2 = (.error e, s₁)
  rw [h]
  rfl

theorem bind_eq_ok_iff {b : β} {s' : Session} :
    (x >>= f) s = (.ok b, s') ↔ ∃ a s₁, x s = (.ok a, s₁) ∧ f a s₁ = (.ok b, s') := by
  constructor
  · intro h
    rcases hx : x s with ⟨e | a, s₁⟩
    · rw [bind_of_error hx] at h
      cases h
    · rw [bind_of_ok hx] at h
      exact ⟨a, s₁, rfl, h⟩
  · rintro ⟨a, s₁, hx, hf⟩
    rw [bind_of_ok hx, hf]

theorem bind_eq_error_iff {e : QueryError} {s' : Session} : (x >>= f) s = (.error e, s') ↔
    x s = (.error e, s') ∨ ∃ a s₁, x s = (.ok a, s₁) ∧ f a s₁ = (.error e, s') := by
  constructor
  · intro h
    rcases hx : x s with ⟨e' | a, s₁⟩
    · rw [bind_of_error hx] at h
      cases h
      exact .inl rfl
    · rw [bind_of_ok hx] at h
      exact .inr ⟨a, s₁, rfl, h⟩
  · rintro (hx | ⟨a, s₁, hx, hf⟩)
    · exact bind_of_error hx
    · rw [bind_of_ok hx, hf]

end Bind

variable {s s' : Session}

theorem ofExcept_eq_ok_iff {α : Type} {result : Except QueryError α} {a : α} :
    ofExcept result s = (.ok a, s') ↔ result = .ok a ∧ s = s' := by
  constructor
  · intro h
    exact Prod.mk.inj h
  · rintro ⟨rfl, rfl⟩
    rfl

theorem ofExcept_eq_error_iff {α : Type} {result : Except QueryError α} {e : QueryError} :
    ofExcept result s = (.error e, s') ↔ result = .error e ∧ s = s' := by
  constructor
  · intro h
    exact Prod.mk.inj h
  · rintro ⟨rfl, rfl⟩
    rfl

/-! ## Lines -/

theorem sayLine_of_accepts (h : s.err.refusal? = none) (line : String) :
    sayLine line s = (.ok (), s.said [line]) := by
  simp [sayLine, Stream.write, Session.said, Query.ended_singleton, Query.spoken, h]

theorem sayLine_of_refuses {e : IoError} (h : s.err.refusal? = some e) (line : String) :
    sayLine line s = (.error (.stream e), s) := by
  simp [sayLine, Stream.write, h]

theorem answerLine_of_accepts (h : s.out.refusal? = none) (line : String) :
    answerLine line s = (.ok (), s.answered (line ++ "\n")) := by
  simp [answerLine, answer, Stream.write, Session.answered, h]

theorem answerLine_of_refuses {e : IoError} (h : s.out.refusal? = some e) (line : String) :
    answerLine line s = (.error (.stream e), s) := by
  simp [answerLine, answer, Stream.write, h]

theorem sayLine_eq_ok_iff {line : String} : sayLine line s = (.ok (), s') ↔
    s.err.refusal? = none ∧ s' = s.said [line] := by
  constructor
  · intro h
    cases hr : s.err.refusal? with
    | none =>
      rw [sayLine_of_accepts hr] at h
      exact ⟨rfl, (Prod.mk.inj h).2.symm⟩
    | some e =>
      rw [sayLine_of_refuses hr] at h
      cases h
  · rintro ⟨hr, rfl⟩
    exact sayLine_of_accepts hr line

theorem answerLine_eq_ok_iff {line : String} : answerLine line s = (.ok (), s') ↔
    s.out.refusal? = none ∧ s' = s.answered (line ++ "\n") := by
  constructor
  · intro h
    cases hr : s.out.refusal? with
    | none =>
      rw [answerLine_of_accepts hr] at h
      exact ⟨rfl, (Prod.mk.inj h).2.symm⟩
    | some e =>
      rw [answerLine_of_refuses hr] at h
      cases h
  · rintro ⟨hr, rfl⟩
    exact answerLine_of_accepts hr line

theorem sayLine_eq_error_iff {line : String} {e : QueryError} :
    sayLine line s = (.error e, s') ↔
      ∃ cause, s.err.refusal? = some cause ∧ e = .stream cause ∧ s' = s := by
  constructor
  · intro h
    cases hr : s.err.refusal? with
    | none =>
      rw [sayLine_of_accepts hr] at h
      cases h
    | some cause =>
      rw [sayLine_of_refuses hr] at h
      cases h
      exact ⟨cause, rfl, rfl, rfl⟩
  · rintro ⟨cause, hr, rfl, rfl⟩
    exact sayLine_of_refuses hr line

theorem answerLine_eq_error_iff {line : String} {e : QueryError} :
    answerLine line s = (.error e, s') ↔
      ∃ cause, s.out.refusal? = some cause ∧ e = .stream cause ∧ s' = s := by
  constructor
  · intro h
    cases hr : s.out.refusal? with
    | none =>
      rw [answerLine_of_accepts hr] at h
      cases h
    | some cause =>
      rw [answerLine_of_refuses hr] at h
      cases h
      exact ⟨cause, rfl, rfl, rfl⟩
  · rintro ⟨cause, hr, rfl, rfl⟩
    exact answerLine_of_refuses hr line

/-! ## Calls and files -/

theorem perform_eq_ok_iff {α : Type} {call : Call α} {a : α} : perform call s = (.ok a, s') ↔
    call.result = .ok a ∧ s' = { s with exchanges := s.exchanges ++ call.exchanges } := by
  constructor
  · intro h
    obtain ⟨hr, hs⟩ := Prod.mk.inj h
    exact ⟨mapError_eq_ok_iff.1 hr, hs.symm⟩
  · rintro ⟨hr, rfl⟩
    exact Prod.ext (mapError_eq_ok_iff.2 hr) rfl

theorem perform_eq_error_iff {α : Type} {call : Call α} {e : QueryError} :
    perform call s = (.error e, s') ↔
      ∃ cause, call.result = .error cause ∧ e = .invocation cause ∧
        s' = { s with exchanges := s.exchanges ++ call.exchanges } := by
  constructor
  · intro h
    obtain ⟨hr, hs⟩ := Prod.mk.inj h
    obtain ⟨cause, hc, he⟩ := mapError_eq_error_iff.1 hr
    exact ⟨cause, hc, he, hs.symm⟩
  · rintro ⟨cause, hc, rfl, rfl⟩
    exact Prod.ext (mapError_eq_error_iff.2 ⟨cause, hc, rfl⟩) rfl

theorem saveTable_eq_ok_iff {t : Table} {path : String} {rows : Nat} :
    saveTable t path s = (.ok rows, s') ↔
      ∃ files, Csv.save t path s.files = (files, .ok rows) ∧ s' = s.stored files := by
  constructor
  · intro h
    obtain ⟨hr, hs⟩ := Prod.mk.inj h
    exact ⟨_, Prod.ext rfl (mapError_eq_ok_iff.1 hr), hs.symm⟩
  · rintro ⟨files, h, rfl⟩
    simp only [saveTable, h]
    rfl

theorem saveTable_eq_error_iff {t : Table} {path : String} {e : QueryError} :
    saveTable t path s = (.error e, s') ↔
      ∃ files cause, Csv.save t path s.files = (files, .error cause) ∧ e = .save path cause ∧
        s' = s.stored files := by
  constructor
  · intro h
    obtain ⟨hr, hs⟩ := Prod.mk.inj h
    obtain ⟨cause, hc, he⟩ := mapError_eq_error_iff.1 hr
    exact ⟨_, cause, Prod.ext rfl hc, he, hs.symm⟩
  · rintro ⟨files, cause, h, rfl, rfl⟩
    simp only [saveTable, h]
    rfl

end Action

end MarketQuery
