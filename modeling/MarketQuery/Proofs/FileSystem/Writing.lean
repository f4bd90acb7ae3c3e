import MarketQuery.FileSystem.Buffer
import MarketQuery.Proofs.FileSystem.Places

/-!
# What buffered writing leaves

* `Fills`: at one place, a file gets another content or a standard stream gets texts;
* `Stays`: only what is written may change so, also on a failure; `Runs`: and a standard stream
  refuses nothing; `runs_writeAll`, `runs_flush`;
* `Sent`, `Holds`: the text given so far was passed on or is pending; `holds_writeAll`,
  `holds_flush`: writing without a failure puts the texts behind it;
* `Opens`, `opens_of_create`: a file at the start of writing.
-/

namespace MarketQuery.BufferedFile

open FileSystem

variable {f f' g : BufferedFile} {text given : String}

/-! ## What stays -/

/-- At a place a file may get another content and a standard stream may get texts. No other stream
gets anything. -/
inductive Fills (place : Location) (fs fs' : FileSystem) : Prop
  | none (node : fs'.node? place = fs.node? place) (streamed : fs'.streamed = fs.streamed)
  | file (old : IsFile fs place) (new : IsFile fs' place) (streamed : fs'.streamed = fs.streamed)
  | standard {s : StandardStream} {texts : List String}
      (old : fs.node? place = some (.standard s)) (new : fs'.node? place = some (.standard s))
      (streamed : fs'.streamed = fs.streamed ++ texts.map (s, ·))

namespace Fills

variable {place : Location} {fs fs₁ fs₂ fs₃ : FileSystem}

theorem refl (place : Location) (fs : FileSystem) : Fills place fs fs := .none rfl rfl

theorem trans (h : Fills place fs₁ fs₂) (h' : Fills place fs₂ fs₃) : Fills place fs₁ fs₃ := by
  cases h with
  | none hn hs =>
    cases h' with
    | none hn' hs' => exact .none (hn'.trans hn) (hs'.trans hs)
    | file old new hs' => exact .file (old.congr hn.symm) new (hs'.trans hs)
    | standard old new hs' => exact .standard (hn.symm.trans old) new (hs ▸ hs')
  | file old new hs =>
    cases h' with
    | none hn' hs' => exact .file old (new.congr hn') (hs'.trans hs)
    | file _ new' hs' => exact .file old new' (hs'.trans hs)
    | standard old' => cases new.of_node? old'
  | standard old new hs =>
    cases h' with
    | none hn' hs' => exact .standard old (hn'.trans new) (hs'.trans hs)
    | file old' => cases old'.of_node? new
    | @standard s' texts' old' new' hs' =>
      cases new.symm.trans old'
      exact .standard old new' (by rw [hs', hs, List.append_assoc, ← List.map_append])

/-- What is no file stays what it is. -/
theorem node?_eq {node : Node} (h : Fills place fs fs₁) (hfile : node.isFile = false) :
    fs.node? place = some node ↔ fs₁.node? place = some node := by
  cases h with
  | none hn => rw [hn]
  | file old new =>
    constructor <;> intro hnode
    · exact absurd (old.of_node? hnode) (by simp [hfile])
    · exact absurd (new.of_node? hnode) (by simp [hfile])
  | standard old new => rw [old, new]

/-- What is no standard stream brings nothing to one. -/
theorem streamed_eq (h : Fills place fs fs₁)
    (hnode : ∀ s, fs.node? place ≠ some (.standard s)) : fs₁.streamed = fs.streamed := by
  cases h with
  | none _ hstreamed => exact hstreamed
  | file _ _ hstreamed => exact hstreamed
  | standard hold => exact absurd hold (hnode _)

end Fills

/-- The same place is written and nothing is changed elsewhere. -/
structure Stays (f f' : BufferedFile) : Prop where
  place : f'.place = f.place
  system : SameElsewhere f.place f.system f'.system
  fills : Fills f.place f.system f'.system

theorem Stays.refl (f : BufferedFile) : Stays f f := ⟨rfl, .refl .., .refl ..⟩

theorem Stays.trans {f₁ f₂ f₃ : BufferedFile} (h : Stays f₁ f₂) (h' : Stays f₂ f₃) :
    Stays f₁ f₃ :=
  ⟨h'.place.trans h.place, h.system.trans (h.place ▸ h'.system),
    h.fills.trans (h.place ▸ h'.fills)⟩

/-- What is pending is no matter of the file system. -/
theorem Stays.of_system (h : Stays f g) (hplace : f'.place = g.place)
    (hsystem : f'.system = g.system) : Stays f f' :=
  ⟨hplace.trans h.place, hsystem ▸ h.system, hsystem ▸ h.fills⟩

theorem stays_put (hp : f.place ≠ []) {node node' : Node}
    (hnode : f.system.node? f.place = some node) (hf : node.isFile) (hf' : node'.isFile) :
    Stays f { f with system := f.system.spend.put f.place node' } := by
  refine ⟨rfl, ⟨rfl, fun p h => ?_⟩, .file ⟨node, hnode, hf⟩ ⟨node', ?_, hf'⟩ rfl⟩
  · rw [node?_put _ hp, if_neg h, node?_spend]
  · rw [node?_put _ hp, if_pos rfl]

theorem stays_of_appended (hp : f.place ≠ []) {start : Nat} {system : FileSystem}
    (h : Appended f.system f.place text start system) : Stays f { f with system } := by
  cases h with
  | nothing => exact .refl f
  | file hnode hf => exact stays_put hp hnode hf (isFile_extend hf ..)
  | void => exact .refl f
  | @standard s hnode =>
    have hstreamed : (f.system.stream s text).streamed =
      f.system.streamed ++ [text].map (s, ·) := rfl
    exact ⟨rfl, ⟨rfl, fun _ _ => rfl⟩, .standard hnode hnode hstreamed⟩

/-- A standard stream takes everything. -/
theorem stays_of_cut (hp : f.place ≠ []) {start : Nat} {system : FileSystem}
    (h : Cut f.system f.place text start system) : Stays f { f with system } ∧
      ∀ s, f.system.node? f.place ≠ some (.standard s) := by
  cases h with
  | file hnode hf stop =>
    refine ⟨stays_put hp hnode hf (isFile_extend hf ..), fun s hs => ?_⟩
    cases hnode.symm.trans hs
    cases hf
  | refused h => exact ⟨.refl f, h⟩

/-- Only what is written changes, and if it is a standard stream there is no failure. -/
structure Runs (f : BufferedFile) (result : BufferedFile × Except IoError Unit) : Prop where
  stays : Stays f result.1
  refused : ∀ e, result.2 = .error e → ∀ s, f.system.node? f.place ≠ some (.standard s)

theorem Runs.ne_nil {r : Except IoError Unit} (h : Runs f (g, r)) (hp : f.place ≠ []) :
    g.place ≠ [] :=
  h.stays.place ▸ hp

theorem Stays.runs {result : BufferedFile × Except IoError Unit} (h : Stays f g)
    (h' : Runs g result) : Runs f result := by
  refine ⟨h.trans h'.stays, fun e he s hs => h'.refused e he s ?_⟩
  rw [h.place]
  exact (h.fills.node?_eq rfl).1 hs

theorem runs_pass (hp : f.place ≠ []) (text : String) : Runs f (f.pass text) := by
  unfold pass
  split
  · exact ⟨stays_of_appended hp (append_eq_ok ‹_›), nofun⟩
  · obtain ⟨hstays, hrefused⟩ := stays_of_cut hp (append_eq_error ‹_›)
    exact ⟨hstays, fun _ _ => hrefused⟩

theorem runs_flush (hp : f.place ≠ []) : Runs f f.flush := by
  unfold flush
  split
  · exact ⟨(stays_of_appended hp (append_eq_ok ‹_›)).of_system rfl rfl, nofun⟩
  · obtain ⟨hstays, hrefused⟩ := stays_of_cut hp (append_eq_error ‹_›)
    exact ⟨hstays.of_system rfl rfl, fun _ _ => hrefused⟩

theorem runs_store (hp : f.place ≠ []) (text : String) : Runs f (f.store text) := by
  unfold store
  split_ifs
  · exact runs_pass hp text
  · exact ⟨(Stays.refl f).of_system rfl rfl, nofun⟩

theorem runs_write (hp : f.place ≠ []) (text : String) : Runs f (f.write text) := by
  unfold write
  split_ifs
  · exact runs_store hp text
  · have h := runs_flush hp
    split
    · rw [‹f.flush = _›] at h
      exact h.stays.runs (runs_store (h.ne_nil hp) text)
    · exact h

theorem runs_writeAll (hp : f.place ≠ []) (texts : List String) : Runs f (f.writeAll texts) := by
  induction texts generalizing f with
  | nil => exact ⟨.refl f, nofun⟩
  | cons text rest ih =>
    have h := runs_write hp text
    unfold writeAll
    split
    · rw [‹f.write text = _›] at h
      exact h.stays.runs (ih (h.ne_nil hp))
    · exact h

/-! ## What is written -/

/-- A text was passed on to what is at a place since a file system was as it was. A device without
space has got nothing, and what a device that keeps nothing has got cannot be told. -/
inductive Sent (before fs : FileSystem) (place : Location) : String → Prop
  | file {text : String} (h : fs.node? place = some (.file text)) : Sent before fs place text
  | full (h : fs.node? place = some .full) : Sent before fs place ""
  | void {text : String} (h : fs.node? place = some .void) : Sent before fs place text
  | standard {s : StandardStream} {texts : List String} (h : fs.node? place = some (.standard s))
      (streamed : fs.streamed = before.streamed ++ texts.map (s, ·)) :
      Sent before fs place (String.join texts)

/-- The given text was passed on or is pending. -/
def Holds (before : FileSystem) (f : BufferedFile) (given : String) : Prop :=
  f.taken = 0 ∧ ∃ sent, Sent before f.system f.place sent ∧ given = sent ++ f.pending

variable {before : FileSystem}

theorem sent_append {fs fs' : FileSystem} {place : Location} {sent : String} (hp : place ≠ [])
    (hs : Sent before fs place sent) (h : fs.append place text = .ok fs') :
    Sent before fs' place (sent ++ text) := by
  cases append_eq_ok h with
  | nothing hsize =>
    obtain rfl : text = "" := String.utf8ByteSize_eq_zero_iff.1 (Nat.le_zero.1 hsize)
    rwa [String.append_empty]
  | file hnode hf =>
    cases hs with
    | file hs =>
      cases hnode.symm.trans hs
      refine .file ?_
      rw [node?_put _ hp, if_pos rfl, Node.extend, if_pos ⟨rfl, Nat.le_refl _⟩]
    | full hs | void hs | standard hs =>
      cases hnode.symm.trans hs
      cases hf
  | void hnode => exact .void hnode
  | standard hnode =>
    cases hs with
    | @standard s texts hs streamed =>
      cases hnode.symm.trans hs
      have hjoin : String.join texts ++ text = String.join (texts ++ [text]) := by
        simp [String.join_append]
      rw [hjoin]
      refine .standard hnode ?_
      simp [stream, streamed]
    | file hs | full hs | void hs => cases hnode.symm.trans hs

theorem pass_eq_ok (h : f.pass text = (f', .ok ())) :
    ∃ system, f.system.append f.place text = .ok system ∧ f' = { f with system } := by
  unfold pass at h
  split at h
  · exact ⟨_, ‹_›, (Prod.mk.inj h).1.symm⟩
  · cases (Prod.mk.inj h).2

theorem flush_eq_ok (h : f.flush = (f', .ok ())) :
    ∃ system, f.system.append f.place f.pending f.taken = .ok system ∧
      f' = { f with system, pending := "", taken := 0 } := by
  unfold flush at h
  split at h
  · exact ⟨_, ‹_›, (Prod.mk.inj h).1.symm⟩
  · cases (Prod.mk.inj h).2

theorem holds_flush (hp : f.place ≠ []) (hg : f.Holds before given)
    (h : f.flush = (f', .ok ())) : f'.Holds before given ∧ f'.pending = "" := by
  obtain ⟨htaken, sent, hs, rfl⟩ := hg
  obtain ⟨system, ha, rfl⟩ := flush_eq_ok h
  rw [htaken] at ha
  exact ⟨⟨rfl, sent ++ f.pending, sent_append hp hs ha, (String.append_empty).symm⟩, rfl⟩

theorem holds_store (hp : f.place ≠ []) (hg : f.Holds before given)
    (hroom : f.pending = "" ∨ f.pending.utf8ByteSize + text.utf8ByteSize ≤ capacity)
    (h : f.store text = (f', .ok ())) : f'.Holds before (given ++ text) := by
  obtain ⟨htaken, sent, hs, rfl⟩ := hg
  unfold store at h
  split_ifs at h with hlarge
  · -- A text that takes all the room is passed on when nothing is pending before it.
    have hempty : f.pending = "" := by
      rcases hroom with hroom | hroom
      · exact hroom
      · exact String.utf8ByteSize_eq_zero_iff.1 (by omega)
    obtain ⟨system, ha, rfl⟩ := pass_eq_ok h
    refine ⟨htaken, sent ++ text, sent_append hp hs ha, ?_⟩
    simp [hempty]
  · obtain rfl := (Prod.mk.inj h).1
    exact ⟨htaken, sent, hs, String.append_assoc⟩

theorem holds_write (hp : f.place ≠ []) (hg : f.Holds before given)
    (h : f.write text = (f', .ok ())) : f'.Holds before (given ++ text) := by
  unfold write at h
  rw [hg.1, Nat.sub_zero] at h
  split_ifs at h with hroom
  · exact holds_store hp hg (.inr hroom) h
  · split at h
    case h_1 g hflush =>
      obtain ⟨hg', hempty⟩ := holds_flush hp hg hflush
      have hruns := runs_flush hp
      rw [hflush] at hruns
      exact holds_store (hruns.ne_nil hp) hg' (.inl hempty) h
    case h_2 hfailed => exact absurd h (hfailed _)

theorem holds_writeAll (hp : f.place ≠ []) (hg : f.Holds before given) {texts : List String}
    (h : f.writeAll texts = (f', .ok ())) : f'.Holds before (given ++ String.join texts) := by
  induction texts generalizing f given with
  | nil =>
    obtain rfl := (Prod.mk.inj h).1
    rwa [String.join_nil, String.append_empty]
  | cons text rest ih =>
    unfold writeAll at h
    split at h
    case h_1 g hwrite =>
      have hruns := runs_write hp text
      rw [hwrite] at hruns
      rw [String.join_cons, ← String.append_assoc]
      exact ih (hruns.ne_nil hp) (holds_write hp hg hwrite) h
    case h_2 hfailed => exact absurd h (hfailed _)

/-- With nothing pending, closing a file passes on nothing. -/
theorem close_of_flushed (h : f.pending = "") : f.close = f.system := by
  simp [close, flush, append, h]

/-! ## Opened files -/

/-- A file is open for writing at the place that a path names, and nothing has been written yet. -/
structure Opens (fs : FileSystem) (path : List Char) (f : BufferedFile) : Prop where
  leadsTo : fs.LeadsTo path f.place
  node : fs.node? f.place ≠ some .directory
  system : SameElsewhere f.place fs f.system
  holds : f.Holds fs ""
  streamed : f.system.streamed = fs.streamed
  device : ∀ node : Node, node.isFile = false → f.system.node? f.place = some node →
    fs.node? f.place = some node

theorem opens_of_create {fs system : FileSystem} {path : List Char} {place : Location}
    (h : fs.create path = .ok (system, place)) : Opens fs path { system, place } := by
  obtain ⟨hleads, hopening⟩ := create_eq_ok h
  cases hopening with
  | file hfree =>
    have hput := node?_put fs hleads.ne_nil (.file "") place
    rw [if_pos rfl] at hput
    refine ⟨hleads, fun hd => ?_, sameElsewhere_put fs hleads.ne_nil _, ⟨rfl, "", .file hput, rfl⟩,
      rfl, fun node hfile hnode => ?_⟩
    · rcases hfree with hnone | hfile
      · cases hnone.symm.trans hd
      · cases hfile.of_node? hd
    · cases hput.symm.trans hnode
      cases hfile
  | @device node hnode hfile hdirectory =>
    refine ⟨hleads, fun hd => hdirectory (Option.some.inj (hnode.symm.trans hd)), .refl ..,
      ⟨rfl, "", ?_, rfl⟩, rfl, fun _ _ => id⟩
    cases node with
    | directory => exact absurd rfl hdirectory
    | file _ | scrap _ => cases hfile
    | void => exact .void hnode
    | full => exact .full hnode
    | standard s =>
      have hstreamed : fs.streamed = fs.streamed ++ ([] : List String).map (s, ·) := by simp
      have hsent := Sent.standard hnode hstreamed
      rwa [String.join_nil] at hsent

end MarketQuery.BufferedFile
