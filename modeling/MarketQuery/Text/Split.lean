/-!
# Text split at a character

* `splitAt`: the pieces of a text between the places of a character;
* `join_splitAt`: joined again with that character they give the text;
* `notMem_of_mem_splitAt`: no piece holds the character.
-/

namespace MarketQuery.Text

/-- The pieces between the places of a character, always at least one. -/
def splitAt (separator : Char) : List Char → List (List Char)
  | [] => [[]]
  | c :: rest =>
    if c = separator then [] :: splitAt separator rest
    else
      match splitAt separator rest with
      | [] => [[c]]
      | piece :: pieces => (c :: piece) :: pieces

/-- Pieces joined with a character. -/
def join (separator : Char) (pieces : List (List Char)) : List Char :=
  [separator].intercalate pieces

theorem splitAt_ne_nil (separator : Char) (cs : List Char) : splitAt separator cs ≠ [] := by
  cases cs with
  | nil => simp [splitAt]
  | cons c rest =>
    simp only [splitAt]
    split
    · simp
    · split <;> simp

theorem join_splitAt (separator : Char) (cs : List Char) :
    join separator (splitAt separator cs) = cs := by
  induction cs with
  | nil => rfl
  | cons c rest ih =>
    simp only [splitAt]
    split
    case isTrue h =>
      cases hp : splitAt separator rest with
      | nil => exact absurd hp (splitAt_ne_nil separator rest)
      | cons piece pieces =>
        rw [hp] at ih
        simp only [join, List.intercalate_cons_cons] at ih ⊢
        simp [ih, h]
    case isFalse h =>
      cases hp : splitAt separator rest with
      | nil => exact absurd hp (splitAt_ne_nil separator rest)
      | cons piece pieces =>
        rw [hp] at ih
        cases pieces with
        | nil =>
          simp only [join, List.intercalate_singleton] at ih ⊢
          simp [ih]
        | cons next pieces =>
          simp only [join, List.intercalate_cons_cons] at ih ⊢
          simp [← ih]

theorem notMem_of_mem_splitAt {separator : Char} {cs piece : List Char}
    (h : piece ∈ splitAt separator cs) : separator ∉ piece := by
  induction cs generalizing piece with
  | nil => simp_all [splitAt]
  | cons c rest ih =>
    simp only [splitAt] at h
    split at h
    case isTrue =>
      rcases List.mem_cons.1 h with h | h
      · simp [h]
      · exact ih h
    case isFalse hc =>
      cases hp : splitAt separator rest with
      | nil => exact absurd hp (splitAt_ne_nil separator rest)
      | cons first pieces =>
        rw [hp] at h ih
        rcases List.mem_cons.1 h with h | h
        · have := ih List.mem_cons_self
          simp [h, this, Ne.symm hc]
        · exact ih (List.mem_cons_of_mem _ h)

end MarketQuery.Text
