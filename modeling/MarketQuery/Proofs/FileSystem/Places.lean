import Mathlib.Tactic.Common
import MarketQuery.FileSystem
import MarketQuery.Proofs.Traversal

/-!
# Where paths lead before and after a change

* `Names`, `LeadsTo`: a path names a place below a directory; `find_of_leadsTo`: what is found
  there;
* `KeepsDirectories`: no directory is lost; `LeadsTo.mono`: paths go on leading to their places;
* `SameElsewhere`: file systems that differ at most at a place;
* `Opening`, `Appended`, `Cut`: what opening and writing do; `create_eq_ok`, `append_eq_ok`,
  `append_eq_error`;
* `Grows`: file systems that differ by new directories only; `grows_makeDirectories`.
-/

namespace MarketQuery.FileSystem

/-- A path names a place below a directory, with or without a slash behind the name. -/
def Names (fs : FileSystem) (path : List Char) (place : Location) : Prop :=
  ∃ last, fs.locate path = .ok last ∧ last.isNameless = false ∧
    child last.directory last.piece = .ok place

/-- A path names a place below a directory. -/
def LeadsTo (fs : FileSystem) (path : List Char) (place : Location) : Prop :=
  ∃ last, fs.locate path = .ok last ∧ last.isNameless = false ∧ last.slash = false ∧
    child last.directory last.piece = .ok place

/-- A file is at a place. -/
def IsFile (fs : FileSystem) (place : Location) : Prop :=
  ∃ node, fs.node? place = some node ∧ node.isFile

theorem IsFile.of_node? {fs : FileSystem} {place : Location} {node : Node} (h : IsFile fs place)
    (hn : fs.node? place = some node) : node.isFile := by
  obtain ⟨node', hn', hf⟩ := h
  cases hn.symm.trans hn'
  exact hf

theorem IsFile.congr {fs fs' : FileSystem} {place : Location} (h : IsFile fs place)
    (hn : fs'.node? place = fs.node? place) : IsFile fs' place := by
  obtain ⟨node, hn', hf⟩ := h
  exact ⟨node, hn.trans hn', hf⟩

theorem ne_nil_of_child {directory place : Location} {name : List Char}
    (h : child directory name = .ok place) : place ≠ [] := by
  unfold child at h
  dsimp only at h
  split at h
  · cases h
  · obtain rfl := Except.ok.inj h
    exact List.cons_ne_nil _ _

theorem Names.ne_nil {fs : FileSystem} {path : List Char} {place : Location}
    (h : fs.Names path place) : place ≠ [] := by
  obtain ⟨last, -, -, hc⟩ := h
  exact ne_nil_of_child hc

theorem LeadsTo.ne_nil {fs : FileSystem} {path : List Char} {place : Location}
    (h : fs.LeadsTo path place) : place ≠ [] := by
  obtain ⟨last, -, -, -, hc⟩ := h
  exact ne_nil_of_child hc

theorem find_of_leadsTo {fs : FileSystem} {path : List Char} {place : Location} {node : Node}
    (h : fs.LeadsTo path place) (hn : fs.node? place = some node) : fs.find path = .ok node := by
  obtain ⟨last, hl, hname, hslash, hc⟩ := h
  simp only [find, hl, bind, Except.bind, hname, hc, hn, hslash]
  cases node <;> rfl

/-! ## Kept directories -/

/-- Every directory of a file system is one of the other, which works in the same directory. -/
structure KeepsDirectories (fs fs' : FileSystem) : Prop where
  workingDirectory : fs'.workingDirectory = fs.workingDirectory
  directory : ∀ place, fs.node? place = some .directory → fs'.node? place = some .directory

section Kept

variable {fs fs' : FileSystem} (h : KeepsDirectories fs fs')
include h

theorem enter_mono {start place : Location} {piece : List Char}
    (he : fs.enter start piece = .ok place) : fs'.enter start piece = .ok place := by
  unfold enter at he ⊢
  split_ifs at he ⊢
  · exact he
  · exact he
  · obtain ⟨below, hc, he⟩ := bind_eq_ok_iff.1 he
    refine bind_eq_ok_iff.2 ⟨below, hc, ?_⟩
    split at he
    · rw [h.directory _ ‹_›]
      exact he
    · cases he
    · cases he

theorem foldlM_enter_mono {start place : Location} {pieces : List (List Char)}
    (he : pieces.foldlM fs.enter start = .ok place) :
    pieces.foldlM fs'.enter start = .ok place := by
  induction pieces generalizing start with
  | nil => exact he
  | cons piece pieces ih =>
    rw [List.foldlM_cons] at he ⊢
    obtain ⟨below, hp, he⟩ := bind_eq_ok_iff.1 he
    exact bind_eq_ok_iff.2 ⟨below, enter_mono h hp, ih he⟩

theorem locate_mono {path : List Char} {last : LastStep} (hl : fs.locate path = .ok last) :
    fs'.locate path = .ok last := by
  have hstart : fs'.start path = fs.start path := by rw [start, start, h.workingDirectory]
  unfold locate at hl ⊢
  split_ifs at hl ⊢
  rw [hstart]
  unfold lastStep at hl ⊢
  split at hl
  · exact hl
  · obtain ⟨directory, hd, hl⟩ := bind_eq_ok_iff.1 hl
    exact bind_eq_ok_iff.2 ⟨directory, foldlM_enter_mono h hd, hl⟩

theorem Names.mono {path : List Char} {place : Location} (hn : fs.Names path place) :
    fs'.Names path place := by
  obtain ⟨last, hloc, hrest⟩ := hn
  exact ⟨last, locate_mono h hloc, hrest⟩

theorem LeadsTo.mono {path : List Char} {place : Location} (hl : fs.LeadsTo path place) :
    fs'.LeadsTo path place := by
  obtain ⟨last, hloc, hrest⟩ := hl
  exact ⟨last, locate_mono h hloc, hrest⟩

end Kept

/-! ## Changes at one place -/

/-- Two file systems differ at most at a place. -/
structure SameElsewhere (place : Location) (fs fs' : FileSystem) : Prop where
  workingDirectory : fs'.workingDirectory = fs.workingDirectory
  node : ∀ p, p ≠ place → fs'.node? p = fs.node? p

theorem SameElsewhere.refl (place : Location) (fs : FileSystem) : SameElsewhere place fs fs :=
  ⟨rfl, fun _ _ => rfl⟩

theorem SameElsewhere.trans {place : Location} {fs₁ fs₂ fs₃ : FileSystem}
    (h : SameElsewhere place fs₁ fs₂) (h' : SameElsewhere place fs₂ fs₃) :
    SameElsewhere place fs₁ fs₃ :=
  ⟨h'.workingDirectory.trans h.workingDirectory, fun p hp => (h'.node p hp).trans (h.node p hp)⟩

theorem sameElsewhere_put (fs : FileSystem) {place : Location} (hp : place ≠ []) (node : Node) :
    SameElsewhere place fs (fs.put place node) :=
  ⟨rfl, fun p h => by rw [node?_put fs hp, if_neg h]⟩

theorem SameElsewhere.keepsDirectories {place : Location} {fs fs' : FileSystem}
    (h : SameElsewhere place fs fs') (hp : fs.node? place ≠ some .directory) :
    KeepsDirectories fs fs' := by
  refine ⟨h.workingDirectory, fun p hd => ?_⟩
  rw [h.node p fun e => hp (e ▸ hd), hd]

/-! ## Opening and writing -/

/-- What opening a place for writing makes of a file system. -/
inductive Opening (fs : FileSystem) (place : Location) : FileSystem → Prop
  | file (free : fs.node? place = none ∨ IsFile fs place) :
      Opening fs place (fs.put place (.file ""))
  | device {node : Node} (old : fs.node? place = some node) (hfile : node.isFile = false)
      (hdirectory : node ≠ .directory) : Opening fs place fs

theorem create_eq_ok {fs fs' : FileSystem} {path : List Char} {place : Location}
    (h : fs.create path = .ok (fs', place)) : fs.LeadsTo path place ∧ Opening fs place fs' := by
  obtain ⟨last, hl, h⟩ := bind_eq_ok_iff.1 h
  split_ifs at h with hname
  obtain ⟨place', hc, h⟩ := bind_eq_ok_iff.1 h
  rw [Bool.or_eq_true, not_or, Bool.not_eq_true, Bool.not_eq_true] at hname
  have hleads : fs.LeadsTo path place' := ⟨last, hl, hname.1, hname.2, hc⟩
  split at h
  case h_1 | h_2 => cases h
  all_goals obtain ⟨rfl, rfl⟩ := Prod.mk.inj (Except.ok.inj h)
  case h_3 | h_4 => exact ⟨hleads, .file (.inr ⟨_, ‹_›, rfl⟩)⟩
  case h_5 => exact ⟨hleads, .file (.inl ‹_›)⟩
  case h_6 | h_7 | h_8 => exact ⟨hleads, .device ‹_› rfl (by simp)⟩

section Appending

variable {fs fs' : FileSystem} {place : Location} {text : String} {start : Nat}

@[simp]
theorem node?_spend (fs : FileSystem) (place : Location) :
    fs.spend.node? place = fs.node? place := rfl

theorem isFile_ofOctets (octets : List UInt8) : (Node.ofOctets octets).isFile := by
  unfold Node.ofOctets
  dsimp only
  split_ifs <;> rfl

theorem isFile_extend {node : Node} (h : node.isFile) (text : String) (start stop : Nat) :
    (node.extend text start stop).isFile := by
  cases node with
  | file content =>
    unfold Node.extend
    split_ifs
    · rfl
    · exact isFile_ofOctets _
  | scrap octets => exact isFile_ofOctets _
  | directory | void | full | standard _ => cases h

/-- What a writing that succeeds makes of a file system. -/
inductive Appended (fs : FileSystem) (place : Location) (text : String) (start : Nat) :
    FileSystem → Prop
  | nothing (h : text.utf8ByteSize ≤ start) : Appended fs place text start fs
  | file {node : Node} (h : fs.node? place = some node) (hf : node.isFile) :
      Appended fs place text start
        (fs.spend.put place (node.extend text start text.utf8ByteSize))
  | void (h : fs.node? place = some .void) : Appended fs place text start fs
  | standard {s : StandardStream} (h : fs.node? place = some (.standard s)) :
      Appended fs place text start (fs.stream s text)

/-- What a writing that fails makes of a file system. -/
inductive Cut (fs : FileSystem) (place : Location) (text : String) (start : Nat) :
    FileSystem → Prop
  | file {node : Node} (h : fs.node? place = some node) (hf : node.isFile) (stop : Nat) :
      Cut fs place text start (fs.spend.put place (node.extend text start stop))
  | refused (h : ∀ s, fs.node? place ≠ some (.standard s)) : Cut fs place text start fs

theorem append_eq_ok (h : fs.append place text start = .ok fs') :
    Appended fs place text start fs' := by
  unfold append fill at h
  split_ifs at h with hsize
  · obtain rfl := Except.ok.inj h
    exact .nothing hsize
  split at h
  case h_1 | h_2 =>
    split at h
    · obtain rfl := Except.ok.inj h
      exact .file ‹_› rfl
    · cases h
  case h_3 =>
    obtain rfl := Except.ok.inj h
    exact .void ‹_›
  case h_4 =>
    obtain rfl := Except.ok.inj h
    exact .standard ‹_›
  case h_5 | h_6 | h_7 => cases h

theorem append_eq_error {i : Interruption} (h : fs.append place text start = .error i) :
    Cut fs place text start i.system := by
  unfold append fill at h
  split_ifs at h
  split at h
  case h_1 | h_2 =>
    split at h
    · cases h
    · obtain rfl := Except.error.inj h
      exact .file ‹_› rfl _
  case h_3 | h_4 => cases h
  case h_5 | h_6 | h_7 =>
    obtain rfl := Except.error.inj h
    exact .refused (by simp [*])

end Appending

/-! ## New directories -/

/-- A file system with new directories where nothing was. -/
structure Grows (fs fs' : FileSystem) : Prop where
  workingDirectory : fs'.workingDirectory = fs.workingDirectory
  streamed : fs'.streamed = fs.streamed
  node : ∀ p, fs'.node? p = fs.node? p ∨ (fs.node? p = none ∧ fs'.node? p = some .directory)

theorem Grows.refl (fs : FileSystem) : Grows fs fs := ⟨rfl, rfl, fun _ => .inl rfl⟩

theorem Grows.trans {fs₁ fs₂ fs₃ : FileSystem} (h : Grows fs₁ fs₂) (h' : Grows fs₂ fs₃) :
    Grows fs₁ fs₃ := by
  refine ⟨h'.workingDirectory.trans h.workingDirectory, h'.streamed.trans h.streamed, fun p => ?_⟩
  rcases h.node p with h₁ | ⟨h₁, h₂⟩
  · exact h₁ ▸ h'.node p
  · rcases h'.node p with h₃ | ⟨h₃, -⟩
    · exact .inr ⟨h₁, h₃.trans h₂⟩
    · cases h₂.symm.trans h₃

theorem Grows.node?_of_ne_directory {fs fs' : FileSystem} {place : Location} {node : Node}
    (h : Grows fs fs') (hn : fs'.node? place = some node) (hd : node ≠ .directory) :
    fs.node? place = some node := by
  rcases h.node place with hsame | ⟨-, hmade⟩
  · exact hsame.symm.trans hn
  · exact absurd (Option.some.inj (hn.symm.trans hmade)) hd

theorem Grows.keepsDirectories {fs fs' : FileSystem} (h : Grows fs fs') :
    KeepsDirectories fs fs' := by
  refine ⟨h.workingDirectory, fun p hp => ?_⟩
  rcases h.node p with he | ⟨hnone, -⟩
  · exact he.trans hp
  · cases hnone.symm.trans hp

theorem makeDirectory_eq_ok {fs fs' : FileSystem} {path : List Char}
    (h : fs.makeDirectory path = .ok fs') :
    ∃ place, fs.Names path place ∧ fs.node? place = none ∧ fs' = fs.put place .directory := by
  obtain ⟨last, hl, h⟩ := bind_eq_ok_iff.1 h
  split_ifs at h with hname
  obtain ⟨place, hc, h⟩ := bind_eq_ok_iff.1 h
  split at h
  · cases h
  · cases h
  · exact ⟨place, ⟨last, hl, Bool.eq_false_iff.2 hname, hc⟩, ‹_›, (Except.ok.inj h).symm⟩

theorem grows_makeDirectory {fs fs' : FileSystem} {path : List Char}
    (h : fs.makeDirectory path = .ok fs') : Grows fs fs' := by
  obtain ⟨place, hnames, hnone, rfl⟩ := makeDirectory_eq_ok h
  refine ⟨rfl, rfl, fun p => ?_⟩
  rw [node?_put fs hnames.ne_nil]
  split_ifs with hp
  · exact .inr ⟨hp ▸ hnone, rfl⟩
  · exact .inl rfl

theorem grows_makeAll (fs : FileSystem) (paths : List (List Char)) :
    Grows fs (fs.makeAll paths).1 := by
  induction paths generalizing fs with
  | nil => exact .refl fs
  | cons path above ih =>
    unfold makeAll
    split
    · exact grows_makeDirectory ‹_›
    · have habove := ih fs
      split
      · rwa [‹fs.makeAll above = _›] at habove
      · rw [‹fs.makeAll above = _›] at habove
        split
        · exact habove.trans (grows_makeDirectory ‹_›)
        · exact habove
    · exact .refl fs

theorem grows_makeDirectories (fs : FileSystem) (path : List Char) :
    Grows fs (fs.makeDirectories path).1 :=
  grows_makeAll fs _

end MarketQuery.FileSystem
