import MarketQuery.Proofs.FileSystem.Places

/-!
# Which directories are made

* `GrowsAlong`: a file system has new directories, each at a place that one of some paths names;
* `growsAlong_makeAll`: making a directory and those above it names what it makes, also on a
  failure;
* `growsAlong_makeDirectories`: the paths are the one asked for and those above it.
-/

namespace MarketQuery.FileSystem

/-- A file system with new directories, each where one of the paths leads to now. -/
structure GrowsAlong (paths : List (List Char)) (fs fs' : FileSystem) : Prop
    extends Grows fs fs' where
  names : ∀ place, fs.node? place = none → fs'.node? place = some .directory →
    ∃ path ∈ paths, fs'.Names path place

namespace GrowsAlong

variable {paths paths' : List (List Char)} {fs fs₁ fs₂ fs₃ : FileSystem}

theorem refl (paths : List (List Char)) (fs : FileSystem) : GrowsAlong paths fs fs where
  toGrows := .refl fs
  names := by
    intro place hnone hdirectory
    cases hnone.symm.trans hdirectory

theorem subset (h : GrowsAlong paths fs₁ fs₂) (hsub : paths ⊆ paths') :
    GrowsAlong paths' fs₁ fs₂ where
  toGrows := h.toGrows
  names := by
    intro place hnone hdirectory
    obtain ⟨path, hpath, hnames⟩ := h.names place hnone hdirectory
    exact ⟨path, hsub hpath, hnames⟩

/-- No directory is lost on the way, so that paths go on leading to what was made first. -/
theorem trans (h : GrowsAlong paths fs₁ fs₂) (h' : GrowsAlong paths fs₂ fs₃) :
    GrowsAlong paths fs₁ fs₃ where
  toGrows := h.toGrows.trans h'.toGrows
  names := by
    intro place hnone hdirectory
    rcases h.node place with hsame | ⟨-, hmade⟩
    · exact h'.names place (hsame.trans hnone) hdirectory
    · obtain ⟨path, hpath, hnames⟩ := h.names place hnone hmade
      exact ⟨path, hpath, hnames.mono h'.toGrows.keepsDirectories⟩

end GrowsAlong

theorem growsAlong_makeDirectory {paths : List (List Char)} {path : List Char}
    {fs fs' : FileSystem} (hpath : path ∈ paths) (h : fs.makeDirectory path = .ok fs') :
    GrowsAlong paths fs fs' where
  toGrows := grows_makeDirectory h
  names := by
    intro place hnone hdirectory
    have hkept := (grows_makeDirectory h).keepsDirectories
    obtain ⟨made, hnames, -, rfl⟩ := makeDirectory_eq_ok h
    by_cases hplace : place = made
    · subst hplace
      exact ⟨path, hpath, hnames.mono hkept⟩
    · rw [node?_put fs hnames.ne_nil, if_neg hplace] at hdirectory
      cases hnone.symm.trans hdirectory

theorem growsAlong_makeAll (fs : FileSystem) (paths : List (List Char)) :
    GrowsAlong paths fs (fs.makeAll paths).1 := by
  induction paths generalizing fs with
  | nil => exact .refl [] fs
  | cons path above ih =>
    have hpath : path ∈ path :: above := List.mem_cons_self
    unfold makeAll
    split
    · exact growsAlong_makeDirectory hpath ‹_›
    · have habove := (ih fs).subset (List.subset_cons_self path above)
      split
      · rwa [‹fs.makeAll above = _›] at habove
      · rw [‹fs.makeAll above = _›] at habove
        split
        · exact habove.trans (growsAlong_makeDirectory hpath ‹_›)
        · exact habove
    · exact .refl _ fs

theorem growsAlong_makeDirectories (fs : FileSystem) (path : List Char) :
    GrowsAlong (Path.ancestors path) fs (fs.makeDirectories path).1 :=
  (growsAlong_makeAll fs _).subset (List.takeWhile_prefix _).subset

end MarketQuery.FileSystem
