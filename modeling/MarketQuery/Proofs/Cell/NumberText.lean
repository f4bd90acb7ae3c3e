import MarketQuery.Cell
import MarketQuery.Proofs.Number.Numerals
import MarketQuery.Proofs.Text.Trim

/-!
# Cells of numbers that come as text

* `Number.not_isDecimal_of_mem`: an integer has digits and a sign alone;
* `Number.IsDecimal.trimsTo`, `Number.IsReal.trimsTo`: numbers are written without blanks;
* `Cell.OfNumberText`, `Cell.ofNumberText_eq_iff`: the cell of a text that should be a number, told
  by the grammar of integers and numbers;
* `Cell.OfMeasureText`, `Cell.asFloat_ofNumberText_eq_iff`: the cell of a text that is measured,
  which is never an integer.
-/

namespace MarketQuery

namespace Number

variable {cs : List Char} {c : Char}

theorem not_isDecimal_of_mem {z : Int} (hc : c ∈ cs) (hdigit : ¬ c.isDigit)
    (hsign : c ≠ '+' ∧ c ≠ '-') : ¬ IsDecimal cs z := by
  intro h
  cases h with
  | unsigned _ hd => exact hdigit (hd c hc)
  | plus _ hd => exact hdigit (hd c ((List.mem_cons.1 hc).resolve_left hsign.1))
  | minus _ hd => exact hdigit (hd c ((List.mem_cons.1 hc).resolve_left hsign.2))

theorem isBlank_of_isNumberChar (h : IsNumberChar c) : Text.isBlank c = false := by
  rcases h with halnum | hother
  · rcases Bool.or_eq_true_iff.1 halnum with halpha | hdigit
    · exact Text.isBlank_of_isAlpha halpha
    · exact Text.isBlank_of_isDigit hdigit
  · have hsign : c = '+' ∨ c = '-' ∨ c = '.' := by simpa using hother
    rcases hsign with rfl | rfl | rfl <;> decide

theorem IsDecimal.trimsTo {z : Int} (h : IsDecimal cs z) : Text.TrimsTo cs cs :=
  Text.trimsTo_self fun c hc => isBlank_of_isNumberChar (isNumberChar_of_isDecimal h c hc)

theorem IsReal.trimsTo {x : Binary64} (h : IsReal cs x) : Text.TrimsTo cs cs :=
  Text.trimsTo_self fun c hc => isBlank_of_isNumberChar (isNumberChar_of_isReal h c hc)

end Number

namespace Cell

open Number Text

/-- The cell of a text that should be a number: an integer of 64 bits, else a number, if that stands
between its blanks. -/
inductive OfNumberText (s : String) : Cell → Prop
  | integer {core : List Char} {n : Int64} (ht : TrimsTo s.toList core)
      (hn : IsDecimal core n.toInt) : OfNumberText s (.int n)
  | real {core : List Char} {x : Binary64} (ht : TrimsTo s.toList core)
      (hint : ∀ n : Int64, ¬ IsDecimal core n.toInt) (hx : IsReal core x) :
      OfNumberText s (.float x)
  | missing {core : List Char} (ht : TrimsTo s.toList core)
      (hint : ∀ n : Int64, ¬ IsDecimal core n.toInt) (hreal : ∀ x, ¬ IsReal core x) :
      OfNumberText s .null

/-- The cell of a text that is measured: a number, that nearest to an integer of 64 bits too. -/
inductive OfMeasureText (s : String) : Cell → Prop
  | integer {core : List Char} {n : Int64} (ht : TrimsTo s.toList core)
      (hn : IsDecimal core n.toInt) : OfMeasureText s (.float (.ofInt n.toInt))
  | real {core : List Char} {x : Binary64} (ht : TrimsTo s.toList core)
      (hint : ∀ n : Int64, ¬ IsDecimal core n.toInt) (hx : IsReal core x) :
      OfMeasureText s (.float x)
  | missing {core : List Char} (ht : TrimsTo s.toList core)
      (hint : ∀ n : Int64, ¬ IsDecimal core n.toInt) (hreal : ∀ x, ¬ IsReal core x) :
      OfMeasureText s .null

variable {s : String} {core : List Char} {c : Cell}

theorem ofNumberText_of_trimsTo (ht : TrimsTo s.toList core) : ofNumberText s =
    match readInt64? core with
    | some n => .int n
    | none =>
      match readBinary64? core with
      | some x => .float x
      | none => .null := by
  rw [ofNumberText, trimList_eq_iff.2 ht]
  -- A dash or nothing is no number either.
  by_cases hplace : isPlaceholder core = true
  · rw [if_pos hplace]
    rcases Bool.or_eq_true_iff.1 hplace with h | h <;> rw [of_decide_eq_true h] <;> rfl
  · exact if_neg hplace

theorem ofNumberText_of {s : String} {c : Cell} (h : OfNumberText s c) : ofNumberText s = c := by
  cases h with
  | integer ht hn => rw [ofNumberText_of_trimsTo ht, readInt64?_eq_some_iff.2 hn]
  | real ht hint hx =>
    rw [ofNumberText_of_trimsTo ht, readInt64?_eq_none_iff.2 hint, readBinary64?_eq_some_iff.2 hx]
  | missing ht hint hreal =>
    rw [ofNumberText_of_trimsTo ht, readInt64?_eq_none_iff.2 hint,
      readBinary64?_eq_none_iff.2 hreal]

/-- Every text has a cell. -/
theorem exists_ofNumberText (s : String) : ∃ c, OfNumberText s c := by
  obtain ⟨core, ht⟩ := exists_trimsTo s.toList
  rcases integer_or_real_or_neither core with ⟨n, hn⟩ | ⟨hint, x, hx⟩ | ⟨hint, hreal⟩
  · exact ⟨_, .integer ht hn⟩
  · exact ⟨_, .real ht hint hx⟩
  · exact ⟨_, .missing ht hint hreal⟩

theorem ofNumberText_eq_iff : ofNumberText s = c ↔ OfNumberText s c :=
  eq_iff_of_exists (exists_ofNumberText s) fun _ => ofNumberText_of

theorem asFloat_ofNumberText_eq_iff : (ofNumberText s).asFloat = c ↔ OfMeasureText s c := by
  constructor
  · rintro rfl
    generalize hc : ofNumberText s = c
    cases ofNumberText_eq_iff.1 hc with
    | integer ht hn => exact .integer ht hn
    | real ht hint hx => exact .real ht hint hx
    | missing ht hint hreal => exact .missing ht hint hreal
  · intro h
    cases h with
    | integer ht hn => rw [ofNumberText_of (.integer ht hn)]; rfl
    | real ht hint hx => rw [ofNumberText_of (.real ht hint hx)]; rfl
    | missing ht hint hreal => rw [ofNumberText_of (.missing ht hint hreal)]; rfl

end Cell

end MarketQuery
