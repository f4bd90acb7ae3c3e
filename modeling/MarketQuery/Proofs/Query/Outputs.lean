import MarketQuery.Proofs.Csv.Saving
import MarketQuery.Proofs.Query.Steps
import MarketQuery.Query

/-!
# What a query leaves

* `Saves`, `savedLine?`: what saving leaves in the files, and what is said about it;
* `ShowsTable`, `Shows`: what a table and any other answer leave;
* `saves_of_saveIfAsked`, `showsTable_of_showTable`, `shows_of_showAnswer`: what the stages of a
  query do when they succeed;
* **`shows_of_run`**: a query that succeeds found its function, bound the arguments, and leaves what
  the answer of the call leaves, the wanted rows of a table on both streams and in the file.
-/

namespace MarketQuery.Query

/-- What saving a table leaves: the table at its path, if one is given, and else what was there. -/
def Saves (save : Option String) (t : Table) (before after : FileSystem) : Prop :=
  match save with
  | some path => Csv.Kept before after path (Csv.encode t)
  | none => after = before

/-- What is said about saving a table. -/
def savedLine? (save : Option String) (t : Table) : Option String :=
  save.map fun path => "saved " ++ Number.natText t.rowCount ++ " rows to " ++ path

/-- What a table leaves: itself among the answers and in its file, and its size among what is said,
behind the line about the call and the one about saving. -/
structure ShowsTable (save : Option String) (limit : Nat) (calling : String) (t : Table)
    (before after : Session) : Prop where
  out : after.out.text = before.out.text ++ (t.render limit ++ "\n")
  files : Saves save t before.files after.files
  err : after.err.text = before.err.text ++ ended (calling :: (savedLine? save t).toList ++ ["",
    Number.natText t.rowCount ++ " rows x " ++ Number.natText t.columnCount ++ " columns"])

/-- What an answer leaves: of a table the wanted rows; anything else only among the answers. -/
def Shows (i : Invocation) (limit : Nat) (calling : String) (before after : Session) :
    Answer → Prop
  | .table t => ShowsTable i.save limit calling (i.truncate t) before after
  | answer =>
    after.out.text = before.out.text ++ (answer.render limit ++ "\n") ∧
    after.files = before.files ∧
    after.err.text = before.err.text ++ ended [calling]

variable {i : Invocation} {display : DisplaySettings} {s s' : Session}

theorem Shows.of_exchanges {limit : Nat} {calling : String} {answer : Answer}
    {exchanges : List Exchange} (h : Shows i limit calling { s with exchanges } s' answer) :
    Shows i limit calling s s' answer := by
  cases answer with
  | table t => exact ⟨h.out, h.files, h.err⟩
  | series _ | scalar _ | text _ => exact h

theorem saves_of_saveIfAsked {t : Table} (h : saveIfAsked i t s = (.ok (), s')) :
    ∃ files, Saves i.save t s.files files ∧
      (∀ path, i.save = some path → ∃ rows, Csv.save t path s.files = (files, .ok rows)) ∧
      s' = (s.stored files).said (savedLine? i.save t).toList := by
  unfold saveIfAsked at h
  unfold Saves savedLine?
  cases hi : i.save with
  | none =>
    rw [hi] at h
    obtain rfl : s = s' := (Prod.mk.inj h).2
    exact ⟨s.files, rfl, nofun, by simp⟩
  | some path =>
    rw [hi] at h
    obtain ⟨rows, s₁, hs, hsay⟩ := Action.bind_eq_ok_iff.1 h
    obtain ⟨files, hsave, rfl⟩ := Action.saveTable_eq_ok_iff.1 hs
    obtain ⟨-, rfl⟩ := Action.sayLine_eq_ok_iff.1 hsay
    obtain ⟨rfl, hkept⟩ := Csv.save_eq_ok hsave
    refine ⟨files, hkept, ?_, rfl⟩
    rintro path' ⟨⟩
    exact ⟨_, hsave⟩

theorem showTable_eq_ok {t : Table} (h : showTable i display t s = (.ok (), s')) :
    ∃ files, Saves i.save t s.files files ∧
      (∀ path, i.save = some path → ∃ rows, Csv.save t path s.files = (files, .ok rows)) ∧
      s' = (((s.stored files).said (savedLine? i.save t).toList).answered
        (t.render display.maxColumnWidth ++ "\n")).said ["\n" ++ sizeLine t] := by
  obtain ⟨_, s₁, hsave, h⟩ := Action.bind_eq_ok_iff.1 h
  obtain ⟨_, s₂, hanswer, hsay⟩ := Action.bind_eq_ok_iff.1 h
  obtain ⟨files, hsaves, hsaved, rfl⟩ := saves_of_saveIfAsked hsave
  obtain ⟨-, rfl⟩ := Action.answerLine_eq_ok_iff.1 hanswer
  obtain ⟨-, rfl⟩ := Action.sayLine_eq_ok_iff.1 hsay
  exact ⟨files, hsaves, hsaved, rfl⟩

/-- What is said while a table is shown follows the line about the call. -/
theorem showsTable_of_showTable {t : Table} {calling : String}
    (h : showTable i display t (s.said [calling]) = (.ok (), s')) :
    ShowsTable i.save display.maxColumnWidth calling t s s' := by
  obtain ⟨files, hsaves, -, rfl⟩ := showTable_eq_ok h
  refine ⟨rfl, hsaves, ?_⟩
  have hsize : sizeLine t = Number.natText t.rowCount ++ " rows x " ++
    Number.natText t.columnCount ++ " columns" := rfl
  rw [← hsize]
  simp [ended, String.join_append, String.append_assoc]

theorem shows_of_showAnswer {answer : Answer} {calling : String}
    (h : showAnswer i display answer (s.said [calling]) = (.ok (), s')) :
    Shows i display.maxColumnWidth calling s s' answer := by
  cases answer with
  | table t => exact showsTable_of_showTable h
  | series _ | scalar _ | text _ =>
    obtain ⟨-, rfl⟩ := Action.answerLine_eq_ok_iff.1 h
    exact ⟨rfl, rfl, rfl⟩

theorem resolve_eq_ok_iff {r : Registry} {name : String} {f : QueryFunction} :
    resolve r name = .ok f ↔ r.resolve name = some f := by
  unfold resolve
  cases r.resolve name <;> simp

/-- **The outputs of a successful query agree.** The function was found, its arguments were bound
and the call gave an answer. What is shown of a table, what is saved of it and what is said about it
are of the same wanted rows. -/
theorem shows_of_run {r : Registry} (h : run r display i s = (.ok (), s')) :
    ∃ f bound answer, r.resolve i.function = some f ∧ f.signature.bind i.args = .ok bound ∧
      (f.call bound).result = .ok answer ∧
      Shows i display.maxColumnWidth ("calling: " ++ f.signature.echo i.args) s s' answer := by
  obtain ⟨f, s₁, hfound, h⟩ := Action.bind_eq_ok_iff.1 h
  obtain ⟨_, s₂, hsay, h⟩ := Action.bind_eq_ok_iff.1 h
  obtain ⟨bound, s₃, hbind, h⟩ := Action.bind_eq_ok_iff.1 h
  obtain ⟨answer, s₄, hcall, hshow⟩ := Action.bind_eq_ok_iff.1 h
  obtain ⟨hf, rfl⟩ := Action.ofExcept_eq_ok_iff.1 hfound
  obtain ⟨-, rfl⟩ := Action.sayLine_eq_ok_iff.1 hsay
  obtain ⟨hb, rfl⟩ := Action.ofExcept_eq_ok_iff.1 hbind
  obtain ⟨ha, rfl⟩ := Action.perform_eq_ok_iff.1 hcall
  refine ⟨f, bound, answer, resolve_eq_ok_iff.1 hf, mapError_eq_ok_iff.1 hb, ha, ?_⟩
  have hshows := shows_of_showAnswer
    (s := { s with exchanges := s.exchanges ++ (f.call bound).exchanges }) hshow
  exact hshows.of_exchanges

/-- A table of two rows. -/
def shares : Table where
  columns := ["code", "name"]
  rows := [[.text "000001", .text "PAB"], [.text "600000", .text "SPDB"]]
  nodup := by decide
  width := by decide

/-- A function of one parameter that gives the table. -/
def listShares : QueryFunction where
  signature :=
    { name := "shares", summary := "", params := [{ name := "market", kind := .string }] }
  call _ := pure (.table shares)

theorem shows_of_run_listShares :
    let i : Invocation :=
      { function := "shares", args := Arguments.insert ∅ "market" "all",
        save := some "out/shares.csv", head := some 1 }
    ∃ s', run (Registry.register ∅ listShares) {} i { files := .empty } = (.ok (), s') ∧
      s'.out.text = "  code name\n000001  PAB\n" ∧
      s'.err.text = "calling: shares(market=\"all\")\nsaved 1 rows to out/shares.csv\n" ++
        "\n1 rows x 2 columns\n" ∧
      Csv.Kept .empty s'.files "out/shares.csv" "\ufeffcode,name\n000001,PAB\n" := by
  intro i
  let start : Session := { files := .empty }
  let done := run (Registry.register ∅ listShares) {} i start
  have hok : done.1 = .ok () := by decide +kernel
  have h : run (Registry.register ∅ listShares) {} i start = (.ok (), done.2) := Prod.ext hok rfl
  obtain ⟨f, bound, answer, hf, -, ha, hshows⟩ := shows_of_run h
  obtain rfl : listShares = f := Option.some.inj (.trans (by rfl) hf)
  obtain rfl : Answer.table shares = answer := Except.ok.inj ha
  refine ⟨done.2, h, ?_, ?_, ?_⟩
  · exact hshows.out.trans (by decide +kernel)
  · exact hshows.err.trans (by decide +kernel)
  · exact hshows.files

end MarketQuery.Query
