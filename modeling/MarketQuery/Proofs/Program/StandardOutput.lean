import MarketQuery.Proofs.Csv.Frame
import MarketQuery.Proofs.Query.Failures

/-!
# What standard output gets

Answers go to standard output, and so does a table that is saved at a path to it, before it is
shown.

* `Invocation.wanted`: the part of an answer that is wanted;
* `LeadsToOutput`, `Shown`: a path leads to standard output; what this gets with an answer;
* `received_stored`: what saving a table brings to standard output;
* `calls_of_run`, `saved_of_showAnswer`, `shown_of_showAnswer`: a query that succeeds makes its
  call, and what it saves and shows then.
-/

namespace MarketQuery

/-- The part of an answer that is wanted. -/
def Invocation.wanted (i : Invocation) : Answer → Answer
  | .table t => .table (i.truncate t)
  | answer => answer

namespace Query

/-- Once directories are made for it, a path leads to standard output. -/
def LeadsToOutput (before after : FileSystem) (path : String) : Prop :=
  ∃ place, after.LeadsTo path.toList place ∧ before.node? place = some (.standard .output)

/-- What standard output gets with an answer: the wanted part of it, as it is rendered. The content
of a table that is saved there comes first. -/
inductive Shown (i : Invocation) (limit : Nat) (before after : FileSystem) (text : String) :
    Answer → Prop
  | alone {answer : Answer}
      (elsewhere : ∀ t, answer = .table t → ∀ path, i.save = some path →
        ¬ LeadsToOutput before after path)
      (h : text = (i.wanted answer).render limit ++ "\n") : Shown i limit before after text answer
  | behindContent {t : Table} {path : String} (hp : i.save = some path)
      (leads : LeadsToOutput before after path)
      (h : text = Csv.encode (i.truncate t) ++ ((i.truncate t).render limit ++ "\n")) :
      Shown i limit before after text (.table t)

variable {r : Registry} {display : DisplaySettings} {i : Invocation} {s s' : Session}

/-! ## Saving -/

theorem find_of_leadsToOutput {t : Table} {path : String} {before after : FileSystem}
    {result : Except Csv.SaveError Nat} (h : Csv.save t path before = (after, result))
    (hleads : LeadsToOutput before after path) :
    after.find path.toList = .ok (.standard .output) := by
  obtain ⟨place, hplace, hold⟩ := hleads
  exact (Csv.frame_of_save h).find_standard hplace hold

theorem received_stored_of_streamed {files : FileSystem} (new : List (StandardStream × String))
    (h : files.streamed = s.files.streamed ++ new) (stream : StandardStream) :
    (s.stored files).received stream =
      s.received stream ++ String.join ((new.filter (·.1 = stream)).map (·.2)) := by
  refine Session.received_eq_of_written ?_ stream
  rw [Session.stored, h, List.drop_left]

/-- Standard output gets the content of a table that is saved there, and nothing of another. -/
theorem received_stored {t : Table} {path : String} {files : FileSystem} {rows : Nat}
    (h : Csv.save t path s.files = (files, .ok rows)) :
    (LeadsToOutput s.files files path ∧
      (s.stored files).received .output = s.received .output ++ Csv.encode t) ∨
    (¬ LeadsToOutput s.files files path ∧
      (s.stored files).received .output = s.received .output) := by
  have hsilent (hstreamed : files.streamed = s.files.streamed) :
      (s.stored files).received .output = s.received .output := by
    rw [received_stored_of_streamed [] (by rw [hstreamed, List.append_nil])]
    simp
  cases (Csv.save_eq_ok h).2 with
  | file hfound hstreamed =>
    refine .inr ⟨fun hleads => ?_, hsilent hstreamed⟩
    cases hfound.symm.trans (find_of_leadsToOutput h hleads)
  | void _ _ hfound hstreamed =>
    refine .inr ⟨fun hleads => ?_, hsilent hstreamed⟩
    cases hfound.symm.trans (find_of_leadsToOutput h hleads)
  | @standard place stream texts hleads hold hfound hstreamed hwhole =>
    have hreceived := received_stored_of_streamed _ hstreamed .output
    cases stream with
    | output =>
      refine .inl ⟨⟨place, hleads, hold⟩, ?_⟩
      rw [hreceived, ← hwhole]
      simp [List.filter_map, Function.comp_def]
    | error =>
      refine .inr ⟨fun hleads' => ?_, ?_⟩
      · cases hfound.symm.trans (find_of_leadsToOutput h hleads')
      · rw [hreceived]
        simp [List.filter_map, Function.comp_def]

/-! ## Answers -/

theorem saved_of_showAnswer {t : Table} {path : String} (hp : i.save = some path)
    (h : showAnswer i display (.table t) s = (.ok (), s')) :
    ∃ files rows, Csv.save (i.truncate t) path s.files = (files, .ok rows) := by
  obtain ⟨files, -, hsaved, -⟩ := showTable_eq_ok h
  exact ⟨files, hsaved path hp⟩

theorem shown_of_showTable {t : Table}
    (h : showTable i display (i.truncate t) s = (.ok (), s')) :
    ∃ text, s'.received .output = s.received .output ++ text ∧
      Shown i display.maxColumnWidth s.files s'.files text (.table t) := by
  obtain ⟨files, hsaves, hsaved, rfl⟩ := showTable_eq_ok h
  rw [Session.received_said, Session.received_answered, Session.received_said]
  cases hp : i.save with
  | none =>
    rw [hp] at hsaves
    obtain rfl : files = s.files := hsaves
    rw [Session.stored_files]
    refine ⟨_, rfl, .alone (fun _ _ path hpath => ?_) rfl⟩
    cases hp.symm.trans hpath
  | some path =>
    obtain ⟨rows, hsave⟩ := hsaved path hp
    rcases received_stored hsave with ⟨hleads, hreceived⟩ | ⟨hleads, hreceived⟩
    · rw [hreceived, String.append_assoc]
      exact ⟨_, rfl, .behindContent hp hleads rfl⟩
    · rw [hreceived]
      refine ⟨_, rfl, .alone (fun _ _ path' hpath => ?_) rfl⟩
      obtain rfl := Option.some.inj (hp.symm.trans hpath)
      exact hleads

theorem shown_of_showAnswer {answer : Answer}
    (h : showAnswer i display answer s = (.ok (), s')) :
    ∃ text, s'.received .output = s.received .output ++ text ∧
      Shown i display.maxColumnWidth s.files s'.files text answer := by
  cases answer with
  | table t => exact shown_of_showTable h
  | series _ | scalar _ | text _ =>
    obtain ⟨-, rfl⟩ := Action.answerLine_eq_ok_iff.1 h
    rw [Session.received_answered]
    exact ⟨_, rfl, .alone nofun rfl⟩

/-- A query that succeeds calls its function and shows the answer. -/
theorem calls_of_run (h : run r display i s = (.ok (), s')) :
    ∃ f bound answer, Calls r i s f bound ∧ (f.call bound).result = .ok answer ∧
      showAnswer i display answer (called i s f bound) = (.ok (), s') := by
  obtain ⟨f, s₁, hfound, h⟩ := Action.bind_eq_ok_iff.1 h
  obtain ⟨_, s₂, hsay, h⟩ := Action.bind_eq_ok_iff.1 h
  obtain ⟨bound, s₃, hbind, h⟩ := Action.bind_eq_ok_iff.1 h
  obtain ⟨answer, s₄, hcall, hshow⟩ := Action.bind_eq_ok_iff.1 h
  obtain ⟨hf, rfl⟩ := Action.ofExcept_eq_ok_iff.1 hfound
  obtain ⟨he, rfl⟩ := Action.sayLine_eq_ok_iff.1 hsay
  obtain ⟨hb, rfl⟩ := Action.ofExcept_eq_ok_iff.1 hbind
  obtain ⟨ha, rfl⟩ := Action.perform_eq_ok_iff.1 hcall
  exact ⟨f, bound, answer, ⟨resolve_eq_ok_iff.1 hf, he, mapError_eq_ok_iff.1 hb⟩, ha, hshow⟩

end Query

end MarketQuery
