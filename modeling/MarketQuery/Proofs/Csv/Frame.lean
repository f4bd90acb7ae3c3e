import MarketQuery.Proofs.Csv.Faithful
import MarketQuery.Proofs.FileSystem.Ancestors

/-!
# What saving leaves alone

Saving makes the directories above its path that are not there, then the file, and fills it. A
failure at any of these points leaves what was done before it.

* `Change`, `Frame`: what a saving at a path may change, place by place;
* `GrowsAbove.frame`, `frame_of_create`: directories that are made above the path, and the file that
  is filled then, keep to it;
* `save_cases`: how far a saving gets; `streamed_of_save_error`: if it fails, no standard stream got
  anything;
* **`save_frame`**: whatever happens, nothing else changes. Before the file is open nothing is lost,
  and a table that is saved is in its file to the end.
-/

namespace MarketQuery.Csv

open FileSystem

variable {t : Table} {path : String} {fs fs' : FileSystem} {place : Location}

/-- The path of a directory above a path names the place. -/
def IsAbove (fs : FileSystem) (path : List Char) (place : Location) : Prop :=
  ∃ parent, Path.parent? path = some parent ∧
    ∃ above ∈ Path.ancestors parent, fs.Names above place

/-- What a saving at a path may do at a place. -/
inductive Change (path : List Char) (before after : FileSystem) (place : Location) : Prop
  | none (same : after.node? place = before.node? place)
  /-- A directory is made above the path. -/
  | directory (missing : before.node? place = .none)
      (made : after.node? place = some .directory) (above : IsAbove after path place)
  /-- The file at the path is made or gets another content. -/
  | file (free : before.node? place = .none ∨ IsFile before place) (made : IsFile after place)
      (leads : after.LeadsTo path place)

/-- No standard stream gets anything but the one that a path leads to. -/
def Streams (path : List Char) (before after : FileSystem) : Prop :=
  after.streamed = before.streamed ∨
    ∃ (place : Location) (s : StandardStream) (texts : List String), after.LeadsTo path place ∧
      before.node? place = some (.standard s) ∧
      after.streamed = before.streamed ++ texts.map (s, ·)

/-- Nothing changes but the file at a path and the directories above it that are missing. -/
structure Frame (path : List Char) (before after : FileSystem) : Prop where
  workingDirectory : after.workingDirectory = before.workingDirectory
  change : ∀ place, Change path before after place
  streams : Streams path before after

/-- Where a path leads to a standard stream, this is what is found there. -/
theorem Frame.find_standard {path : List Char} (h : Frame path fs fs')
    (hleads : fs'.LeadsTo path place) {s : StandardStream}
    (hold : fs.node? place = some (.standard s)) : fs'.find path = .ok (.standard s) := by
  refine find_of_leadsTo hleads ?_
  cases h.change place with
  | none hsame => exact hsame.trans hold
  | directory hmissing => cases hmissing.symm.trans hold
  | file hfree =>
    rcases hfree with hmissing | hfile
    · cases hmissing.symm.trans hold
    · cases hfile.of_node? hold

/-- The error of a directory or a file that cannot be made. -/
def SaveError.IsCreation (e : SaveError) : Prop :=
  ∃ path cause, e = .directory path cause ∨ e = .file path cause

/-! ## Making directories -/

/-- The directories that are made are above the path. -/
structure GrowsAbove (path : List Char) (before after : FileSystem) : Prop
    extends Grows before after where
  above : ∀ place, before.node? place = .none → after.node? place = some .directory →
    IsAbove after path place

theorem growsAbove_makeParent (fs : FileSystem) (path : List Char) :
    GrowsAbove path fs (makeParent fs path).1 where
  toGrows := grows_makeParent fs path
  above := by
    intro place hnone hmade
    unfold makeParent at hmade ⊢
    split at hmade
    · cases hnone.symm.trans hmade
    · cases hnone.symm.trans hmade
    · rename_i parent _ hparent
      obtain ⟨above, habove, hnames⟩ :=
        (growsAlong_makeDirectories fs parent).names place hnone hmade
      exact ⟨parent, hparent, above, habove, hnames⟩

theorem GrowsAbove.frame {path : List Char} (h : GrowsAbove path fs fs') : Frame path fs fs' := by
  refine ⟨h.workingDirectory, fun place => ?_, .inl h.streamed⟩
  rcases h.node place with hsame | ⟨hnone, hmade⟩
  · exact .none hsame
  · exact .directory hnone hmade (h.above place hnone hmade)

/-! ## Filling the file -/

/-- At its own place a file is made or written again; a device there stays as it is. -/
theorem change_of_create {path : List Char} {fs₁ system : FileSystem} {f : BufferedFile}
    (hcreate : fs₁.create path = .ok (system, place)) (hsame : fs₁.node? place = fs.node? place)
    (hstays : BufferedFile.Stays { system, place } f) (hleads : f.system.LeadsTo path place) :
    Change path fs f.system place := by
  cases (create_eq_ok hcreate).2 with
  | file hfree =>
    have hmade : IsFile (fs₁.put place (.file "")) place :=
      ⟨_, by rw [node?_put fs₁ hleads.ne_nil, if_pos rfl], rfl⟩
    refine .file (hfree.imp hsame.symm.trans fun hfile => hfile.congr hsame.symm) ?_ hleads
    cases hstays.fills with
    | none hnode => exact hmade.congr hnode
    | file _ hfile => exact hfile
    | standard hold => cases hmade.of_node? hold
  | device hnode hfile =>
    have hafter := (hstays.fills.node?_eq hfile).1 hnode
    exact .none ((hafter.trans hnode.symm).trans hsame)

/-- A standard stream gets something only where the path leads to it. -/
theorem streams_of_create {path : List Char} {fs₁ system : FileSystem} {f : BufferedFile}
    (hgrows : Grows fs fs₁) (hopens : BufferedFile.Opens fs₁ path { system, place })
    (hstays : BufferedFile.Stays { system, place } f) (hleads : f.system.LeadsTo path place) :
    Streams path fs f.system := by
  have hstart := hopens.streamed.trans hgrows.streamed
  cases hstays.fills with
  | none _ hstreamed => exact .inl (hstreamed.trans hstart)
  | file _ _ hstreamed => exact .inl (hstreamed.trans hstart)
  | standard hold _ hstreamed =>
    exact .inr ⟨place, _, _, hleads,
      hgrows.node?_of_ne_directory (hopens.device _ rfl hold) nofun, hstart ▸ hstreamed⟩

/-- The directories made before the file stay above its path when it is filled. -/
theorem frame_of_create {path : List Char} {fs₁ system : FileSystem} {f : BufferedFile}
    (hgrows : GrowsAbove path fs fs₁) (hcreate : fs₁.create path = .ok (system, place))
    (hstays : BufferedFile.Stays { system, place } f) : Frame path fs f.system := by
  have hopens := BufferedFile.opens_of_create hcreate
  have hsame := hopens.system.trans hstays.system
  have hkept := hsame.keepsDirectories hopens.node
  have hleads := hopens.leadsTo.mono hkept
  refine ⟨hsame.workingDirectory.trans hgrows.workingDirectory, fun p => ?_,
    streams_of_create hgrows.toGrows hopens hstays hleads⟩
  by_cases hp : p = place
  · subst hp
    have hbefore : fs₁.node? p = fs.node? p :=
      (hgrows.node p).resolve_right fun hmade => hopens.node hmade.2
    exact change_of_create hcreate hbefore hstays hleads
  · have hnode := hsame.node p hp
    rcases hgrows.node p with hold | ⟨hnone, hmade⟩
    · exact .none (hnode.trans hold)
    · obtain ⟨parent, hparent, above, habove, hnames⟩ := hgrows.above p hnone hmade
      exact .directory hnone (hnode.trans hmade)
        ⟨parent, hparent, above, habove, hnames.mono hkept⟩

/-! ## Saving -/

theorem exists_cause_of_writeTable {f : BufferedFile} {e : SaveError}
    (h : (writeTable t path f).2 = .error e) :
    ∃ cause, e = .writing cause ∨ e = .finishing path cause := by
  change (fillFile t path f).2 = .error e at h
  unfold fillFile at h
  split at h
  · exact ⟨_, .inl (Except.error.inj h).symm⟩
  · obtain ⟨cause, -, he⟩ := mapError_eq_error_iff.1 h
    exact ⟨cause, .inr he⟩

theorem SaveError.not_isCreation {e : SaveError} {cause : IoError}
    (h : e = .writing cause ∨ e = .finishing path cause) : ¬ e.IsCreation := by
  rintro ⟨path', cause', rfl | rfl⟩
  · rcases h with h | h <;> cases h
  · rcases h with h | h <;> cases h

/-- How far a saving gets: nothing but directories is made, or the file is open and written. -/
theorem save_cases {result : Except SaveError Nat} (h : save t path fs = (fs', result)) :
    (GrowsAbove path.toList fs fs' ∧ ∃ e, result = .error e) ∨
    ∃ fs₁ system place written, GrowsAbove path.toList fs fs₁ ∧
      fs₁.create path.toList = .ok (system, place) ∧
      writeTable t path { system, place } = (fs', written) ∧
      result = written.map fun _ => t.rowCount := by
  have hgrows := growsAbove_makeParent fs path.toList
  unfold save at h
  split at h
  case h_1 fs₁ e hmade =>
    rw [hmade] at hgrows
    obtain ⟨rfl, rfl⟩ := Prod.mk.inj h
    exact .inl ⟨hgrows, e, rfl⟩
  case h_2 fs₁ hmade =>
    rw [hmade] at hgrows
    split at h
    case h_1 e hcreate =>
      obtain ⟨rfl, rfl⟩ := Prod.mk.inj h
      exact .inl ⟨hgrows, _, rfl⟩
    case h_2 system place hcreate =>
      obtain ⟨rfl, rfl⟩ := Prod.mk.inj h
      exact .inr ⟨fs₁, system, place, _, hgrows, hcreate, rfl, rfl⟩

theorem frame_of_save {result : Except SaveError Nat} (h : save t path fs = (fs', result)) :
    Frame path.toList fs fs' := by
  rcases save_cases h with ⟨hgrows, -⟩ | ⟨fs₁, system, place, written, hgrows, hcreate, hwrite, -⟩
  · exact hgrows.frame
  · have hp := (BufferedFile.opens_of_create hcreate).leadsTo.ne_nil
    obtain ⟨⟨f, hstays, rfl⟩, -⟩ := exists_stays_writeTable (f := { system, place }) hp hwrite
    exact frame_of_create hgrows hcreate hstays

/-- A standard stream takes everything, so that a failure is elsewhere. -/
theorem streamed_of_save_error {e : SaveError} (h : save t path fs = (fs', .error e)) :
    fs'.streamed = fs.streamed := by
  rcases save_cases h with ⟨hgrows, -⟩ | ⟨fs₁, system, place, written, hgrows, hcreate, hwrite, he⟩
  · exact hgrows.streamed
  · have hopens := BufferedFile.opens_of_create hcreate
    obtain ⟨⟨f, hstays, rfl⟩, hrefused⟩ :=
      exists_stays_writeTable (f := { system, place }) hopens.leadsTo.ne_nil hwrite
    have hstart := hopens.streamed.trans hgrows.streamed
    cases written with
    | ok => cases he
    | error cause => exact (hstays.fills.streamed_eq (hrefused cause rfl)).trans hstart

/-- **Saving touches only its target.** Whether it succeeds or fails, nothing changes but the file
that the path leads to and directories above it that were missing. If one of them cannot be made,
all that was there is as it was. If it succeeds, the file holds the whole table. -/
theorem save_frame {result : Except SaveError Nat} (h : save t path fs = (fs', result)) :
    Frame path.toList fs fs' ∧
    (∀ e, result = .error e → e.IsCreation →
      ∀ place node, fs.node? place = some node → fs'.node? place = some node) ∧
    (∀ rows, result = .ok rows → Kept fs fs' path (encode t)) := by
  refine ⟨frame_of_save h, ?_, ?_⟩
  · rintro e rfl hcreation place node hnode
    rcases save_cases h with ⟨hgrows, -⟩ | ⟨fs₁, system, p, written, -, -, hwrite, herror⟩
    · rcases hgrows.node place with hsame | ⟨hnone, -⟩
      · exact hsame.trans hnode
      · cases hnone.symm.trans hnode
    · cases written with
      | ok => cases herror
      | error e' =>
        obtain rfl := Except.error.inj herror
        obtain ⟨cause, hcause⟩ := exists_cause_of_writeTable (congrArg Prod.snd hwrite)
        exact absurd hcreation (SaveError.not_isCreation hcause)
  · rintro rows rfl
    exact (save_eq_ok h).2

/-- The working directory with a note in it. -/
def besideNote : FileSystem := FileSystem.empty.put ["note", "work"] (.file "read me")

/-- A table that does not fit into what is gathered before it is passed on. -/
def longTable : Table where
  columns := ["text"]
  rows := List.replicate 85 [.text (.ofList (List.replicate 99 'x'))]
  nodup := by decide
  width := by decide

/-- A file may be cut where it is passed on for the last time, and again where it is closed. -/
theorem save_frame_quotedTable :
    (∃ fs', save quotedTable "out/t.csv" besideNote = (fs', .ok 3) ∧
      Frame "out/t.csv".toList besideNote fs' ∧
      Kept besideNote fs' "out/t.csv" (encode quotedTable)) ∧
    (∃ fs', save quotedTable "note/t.csv" besideNote =
        (fs', .error (.directory "note" .alreadyExists)) ∧
      Frame "note/t.csv".toList besideNote fs' ∧
      fs'.node? ["note", "work"] = some (.file "read me")) ∧
    (let cut : FileSystem := { besideNote with faults := [some ⟨1, .noSpace⟩, some ⟨0, .noSpace⟩] }
      ∃ fs', save quotedTable "note" cut = (fs', .error (.finishing "note" .noSpace)) ∧
        Frame "note".toList cut fs' ∧ fs'.node? ["note", "work"] = some (.scrap [0xef])) ∧
    let cut : FileSystem := { besideNote with faults := [none, some ⟨100, .noSpace⟩] }
    ∃ fs', save longTable "out/t.csv" cut = (fs', .error (.finishing "out/t.csv" .noSpace)) ∧
      Frame "out/t.csv".toList cut fs' := by
  refine ⟨?_, ?_, ?_, ?_⟩
  · have hsaved : (save quotedTable "out/t.csv" besideNote).2 = .ok 3 := by decide +kernel
    have h := save_eq_of_snd hsaved
    exact ⟨_, h, (save_frame h).1, (save_frame h).2.2 3 rfl⟩
  · have hsaved : (save quotedTable "note/t.csv" besideNote).2 =
        .error (.directory "note" .alreadyExists) := by decide +kernel
    have h := save_eq_of_snd hsaved
    exact ⟨_, h, (save_frame h).1, (save_frame h).2.1 _ rfl ⟨_, _, .inl rfl⟩ _ _ (by decide)⟩
  · intro cut
    have hsaved : (save quotedTable "note" cut).2 = .error (.finishing "note" .noSpace) := by
      decide +kernel
    have hscrap : (save quotedTable "note" cut).1.node? ["note", "work"] =
        some (.scrap [0xef]) := by decide +kernel
    have h := save_eq_of_snd hsaved
    exact ⟨_, h, (save_frame h).1, hscrap⟩
  · intro cut
    have hsaved : (save longTable "out/t.csv" cut).2 =
        .error (.finishing "out/t.csv" .noSpace) := by decide +kernel
    have h := save_eq_of_snd hsaved
    exact ⟨_, h, (save_frame h).1⟩

end MarketQuery.Csv
