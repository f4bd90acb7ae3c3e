import MarketQuery.Csv
import MarketQuery.Proofs.FileSystem.Writing

/-!
# What saving leaves

* `Kept`: a path leads to a file with a content, to a device that keeps nothing, or to a standard
  stream that got the content;
* `grows_makeParent`: before the file is opened, only directories are made;
* `exists_stays_writeTable`, `sent_writeTable`: writing changes the file alone, and passes on the
  content of the table;
* `exists_of_save`, `save_eq_ok`: a saved table is kept, and the count is that of its rows.
-/

namespace MarketQuery.Csv

open FileSystem

/-- After a change the path leads to a file with the content, or to what was there before: a device
that keeps nothing, or a standard stream, which got the content. -/
inductive Kept (before after : FileSystem) (path content : String) : Prop
  | file (found : after.find path.toList = .ok (.file content))
      (streamed : after.streamed = before.streamed)
  | void {place : Location} (leads : after.LeadsTo path.toList place)
      (old : before.node? place = some .void) (found : after.find path.toList = .ok .void)
      (streamed : after.streamed = before.streamed)
  | standard {place : Location} {s : StandardStream} {texts : List String}
      (leads : after.LeadsTo path.toList place) (old : before.node? place = some (.standard s))
      (found : after.find path.toList = .ok (.standard s))
      (streamed : after.streamed = before.streamed ++ texts.map (s, ·))
      (whole : String.join texts = content)

theorem encode_ne_empty (t : Table) : encode t ≠ "" := by
  intro h
  have := congrArg String.toList h
  simp [encode, parts, mark] at this

theorem grows_makeParent (fs : FileSystem) (path : List Char) :
    Grows fs (makeParent fs path).1 := by
  unfold makeParent
  split
  · exact .refl fs
  · exact .refl fs
  · exact grows_makeDirectories fs _

/-! ## Writing an open file -/

section Writing

variable {f : BufferedFile} {t : Table} {path : String}

theorem stays_fillFile (hp : f.place ≠ []) (t : Table) (path : String) :
    BufferedFile.Stays f (fillFile t path f).1 ∧
      ∀ e, (fillFile t path f).2 = .error e →
        ∀ s, f.system.node? f.place ≠ some (.standard s) := by
  have h := BufferedFile.runs_writeAll hp (parts t)
  unfold fillFile
  split
  · rw [‹f.writeAll _ = _›] at h
    exact ⟨h.stays, fun _ _ => h.refused _ rfl⟩
  · rename_i g _
    rw [‹f.writeAll _ = _›] at h
    have hflush := h.stays.runs (BufferedFile.runs_flush (h.ne_nil hp))
    refine ⟨hflush.stays, fun e he => ?_⟩
    obtain ⟨cause, hcause, -⟩ := mapError_eq_error_iff.1 he
    exact hflush.refused cause hcause

theorem exists_stays_writeTable (hp : f.place ≠ []) {fs : FileSystem}
    {written : Except SaveError Unit} (hw : writeTable t path f = (fs, written)) :
    (∃ f', BufferedFile.Stays f f' ∧ f'.system = fs) ∧
      ∀ e, written = .error e → ∀ s, f.system.node? f.place ≠ some (.standard s) := by
  obtain ⟨rfl, rfl⟩ := Prod.mk.inj hw
  obtain ⟨hstays, hrefused⟩ := stays_fillFile hp t path
  have hclose := BufferedFile.runs_flush (hstays.place ▸ hp)
  exact ⟨⟨_, hstays.trans hclose.stays, rfl⟩, hrefused⟩

theorem sent_writeTable (hp : f.place ≠ []) {before fs : FileSystem} (hf : f.Holds before "")
    (h : writeTable t path f = (fs, .ok ())) :
    BufferedFile.Sent before fs f.place (encode t) := by
  have hplace := (stays_fillFile hp t path).1.place
  rcases hfill : fillFile t path f with ⟨f', written⟩
  rw [writeTable, hfill] at h
  rw [hfill] at hplace
  obtain ⟨rfl, rfl⟩ := Prod.mk.inj h
  unfold fillFile at hfill
  split at hfill
  · cases (Prod.mk.inj hfill).2
  · rename_i g hwritten
    have hg := BufferedFile.holds_writeAll hp hf hwritten
    have hruns := BufferedFile.runs_writeAll hp (parts t)
    rw [hwritten] at hruns
    rcases hflush : g.flush with ⟨g', flushed⟩
    rw [hflush] at hfill
    obtain ⟨rfl, hok⟩ := Prod.mk.inj hfill
    obtain rfl := mapError_eq_ok_iff.1 hok
    obtain ⟨⟨htaken, sent, hs, hsent⟩, hempty⟩ :=
      BufferedFile.holds_flush (hruns.ne_nil hp) hg hflush
    rw [hempty, String.append_empty, String.empty_append] at hsent
    rw [BufferedFile.close_of_flushed hempty, ← hplace, encode, hsent]
    exact hs

end Writing

/-! ## Saving -/

theorem save_eq_of_snd {t : Table} {path : String} {fs : FileSystem}
    {result : Except SaveError Nat} (h : (save t path fs).2 = result) :
    save t path fs = ((save t path fs).1, result) :=
  Prod.ext rfl h

theorem exists_of_save {t : Table} {path : String} {fs fs' : FileSystem} {rows : Nat}
    (h : save t path fs = (fs', .ok rows)) :
    rows = t.rowCount ∧ ∃ fs₁ system place, makeParent fs path.toList = (fs₁, .ok ()) ∧
      fs₁.create path.toList = .ok (system, place) ∧
      writeTable t path { system, place } = (fs', .ok ()) := by
  unfold save at h
  split at h
  · cases (Prod.mk.inj h).2
  rename_i fs₁ hmade
  split at h
  · cases (Prod.mk.inj h).2
  rename_i system place hcreate
  rcases hwrite : writeTable t path { system, place } with ⟨fs₂, written⟩
  rw [hwrite] at h
  obtain ⟨rfl, hok⟩ := Prod.mk.inj h
  cases written with
  | error e => cases hok
  | ok u => exact ⟨(Except.ok.inj hok).symm, fs₁, system, place, hmade, hcreate, hwrite⟩

theorem save_eq_ok {t : Table} {path : String} {fs fs' : FileSystem} {rows : Nat}
    (h : save t path fs = (fs', .ok rows)) :
    rows = t.rowCount ∧ Kept fs fs' path (encode t) := by
  obtain ⟨hrows, fs₁, system, place, hmade, hcreate, hwrite⟩ := exists_of_save h
  refine ⟨hrows, ?_⟩
  have hgrows := grows_makeParent fs path.toList
  rw [hmade] at hgrows
  have hopens := BufferedFile.opens_of_create hcreate
  have hp : place ≠ [] := hopens.leadsTo.ne_nil
  obtain ⟨⟨f, hstays, rfl⟩, -⟩ := exists_stays_writeTable (f := { system, place }) hp hwrite
  have hleads := hopens.leadsTo.mono
    ((hopens.system.trans hstays.system).keepsDirectories hopens.node)
  have hstart : system.streamed = fs.streamed := hopens.streamed.trans hgrows.streamed
  -- What is no file was there before the directories were made.
  have hold : ∀ {node : Node}, node.isFile = false → node ≠ .directory →
      f.system.node? place = some node → fs.node? place = some node := by
    intro node hfile hdirectory hnode
    have hfirst := hopens.device node hfile ((hstays.fills.node?_eq hfile).2 hnode)
    exact hgrows.node?_of_ne_directory hfirst hdirectory
  have hsilent (hnode : ∀ s, f.system.node? place ≠ some (.standard s)) :
      f.system.streamed = fs.streamed := by
    refine (hstays.fills.streamed_eq fun s hs => hnode s ?_).trans hstart
    exact (hstays.fills.node?_eq rfl).1 hs
  have hsent := sent_writeTable hp hopens.holds hwrite
  generalize hcontent : encode t = content at hsent
  cases hsent with
  | file hn => exact .file (find_of_leadsTo hleads hn) (hsilent (by simp [hn]))
  | full => exact absurd hcontent (encode_ne_empty t)
  | void hn =>
    exact .void hleads (hold rfl nofun hn) (find_of_leadsTo hleads hn) (hsilent (by simp [hn]))
  | standard hn hstreamed =>
    exact .standard hleads (hold rfl nofun hn) (find_of_leadsTo hleads hn)
      (hgrows.streamed ▸ hstreamed) rfl

end MarketQuery.Csv
