import MarketQuery.Proofs.Number.Numerals
import MarketQuery.Proofs.Text.Trim
import MarketQuery.Value

/-!
# The values that texts stand for

A text is tried as a truth value, then as an integer of 64 bits, then as a number. The blanks around
it are left out for the two kinds of numbers only.

* `Number.isDecimal_ofInt`, `Number.exists_isReal_of_isDecimal`: written integers are integers to
  read, and integers of any size are numbers to read;
* `sameWord_boolText_iff`, `Value.not_truth_of_isDecimal`: the words of truth values, which
  have no digits;
* `Value.StandsFor`, `Value.coerce_eq_iff`: the value that a text stands for, told by the grammar;
* **`Value.coerce_by_ladder`**: a text is taken for the first that it is of these kinds.
-/

namespace MarketQuery

/-! ## Integers among the numbers -/

namespace Number

variable {cs : List Char} {z : Int}

theorem isDecimal_ofInt (z : Int) : IsDecimal (ofInt false z) z := by
  rw [isDecimal_iff, readSign_ofInt, ← digitsValue_eq, digitsValue_digitsOf, signedInt_natAbs]
  exact ⟨Nat.toDigits_ne_nil, isDigit_of_mem_digitsOf _, rfl⟩

/-- The integers that 64 bits hold. -/
theorem exists_toInt_iff : (∃ n : Int64, n.toInt = z) ↔ -2 ^ 63 ≤ z ∧ z < 2 ^ 63 := by
  rw [← fitsInt64_iff, fitsInt64, Bool.and_eq_true, decide_eq_true_iff, decide_eq_true_iff]
  rfl

theorem isNumeral_digits {digits : List Char} (hne : digits ≠ []) (hd : ∀ c ∈ digits, c.isDigit) :
    IsNumeral digits ⟨digits, [], 0⟩ := by
  have h : IsNumeral (digits ++ ([] ++ [])) ⟨digits, [], 0⟩ :=
    .intro hd .absent .absent fun hnil => hne hnil.1
  rwa [List.append_nil, List.append_nil] at h

/-- An integer is a number to read, however great it is. -/
theorem exists_isReal_of_isDecimal (h : IsDecimal cs z) : ∃ x, IsReal cs x := by
  cases h with
  | unsigned hne hd => exact ⟨_, .numeral .absent (isNumeral_digits hne hd)⟩
  | plus hne hd => exact ⟨_, .numeral .plus (isNumeral_digits hne hd)⟩
  | minus hne hd => exact ⟨_, .numeral .minus (isNumeral_digits hne hd)⟩

theorem exists_isDigit_of_isDecimal (h : IsDecimal cs z) : ∃ c ∈ cs, c.isDigit := by
  cases h with
  | unsigned hne hd =>
    obtain ⟨c, digits, rfl⟩ := List.exists_cons_of_ne_nil hne
    exact ⟨c, List.mem_cons_self, hd c List.mem_cons_self⟩
  | plus hne hd | minus hne hd =>
    obtain ⟨c, digits, rfl⟩ := List.exists_cons_of_ne_nil hne
    exact ⟨c, List.mem_cons_of_mem _ List.mem_cons_self, hd c List.mem_cons_self⟩

/-- An integer is written without blanks. -/
theorem trimsTo_of_isDecimal (h : IsDecimal cs z) {before after : List Char}
    (hbefore : ∀ c ∈ before, Text.isBlank c = true) (hafter : ∀ c ∈ after, Text.isBlank c = true) :
    Text.TrimsTo (before ++ cs ++ after) cs := by
  have hblank : ∀ c ∈ cs, Text.isBlank c = false := by
    cases h with
    | unsigned _ hd => exact fun c hc => Text.isBlank_of_isDigit (hd c hc)
    | plus _ hd | minus _ hd =>
      exact List.forall_mem_cons.2 ⟨by decide, fun c hc => Text.isBlank_of_isDigit (hd c hc)⟩
  exact .intro hbefore hafter (fun c hc => hblank c (List.mem_of_mem_head? hc))
    fun c hc => hblank c (List.mem_of_mem_getLast? hc)

end Number

open Number Text

/-! ## Words of truth values -/

theorem sameWord_boolText_iff {t : String} {b : Bool} :
    sameWord t (boolText b) = true ↔ IsWord (boolText b) t.toList := by
  have hlower : lowerList (boolText b).toList = (boolText b).toList := by
    cases b <;> decide
  rw [sameWord, decide_eq_true_iff, hlower]
  rfl

namespace Value

variable {raw : String} {core : List Char} {v : Value}

theorem not_truth_of_isDecimal {z : Int} (ht : TrimsTo raw.toList core) (hz : IsDecimal core z)
    (b : Bool) : ¬ IsWord (boolText b) raw.toList := by
  intro hword
  obtain ⟨c, hc, hdigit⟩ := exists_isDigit_of_isDecimal hz
  exact not_isAlpha_of_isDigit hdigit (hword.isAlpha (by cases b <;> decide) c (ht.mem hc))

/-! ## The ladder -/

/-- The value that a text stands for. A truth value is its word, whatever the case of the letters.
What is none is an integer of 64 bits or a number if that stands between its blanks, and else the
text as it is. -/
inductive StandsFor (raw : String) : Value → Prop
  | truth {b : Bool} (hb : IsWord (boolText b) raw.toList) : StandsFor raw (.bool b)
  | integer {core : List Char} {n : Int64} (htruth : ∀ b, ¬ IsWord (boolText b) raw.toList)
      (ht : TrimsTo raw.toList core) (hn : IsDecimal core n.toInt) : StandsFor raw (.int n)
  | real {core : List Char} {x : Binary64} (htruth : ∀ b, ¬ IsWord (boolText b) raw.toList)
      (ht : TrimsTo raw.toList core) (hint : ∀ n : Int64, ¬ IsDecimal core n.toInt)
      (hx : IsReal core x) : StandsFor raw (.float x)
  | itself {core : List Char} (htruth : ∀ b, ¬ IsWord (boolText b) raw.toList)
      (ht : TrimsTo raw.toList core) (hint : ∀ n : Int64, ¬ IsDecimal core n.toInt)
      (hreal : ∀ x, ¬ IsReal core x) : StandsFor raw (.text raw)

theorem coerce_truth {b : Bool} (hb : IsWord (boolText b) raw.toList) : coerce raw = .bool b := by
  unfold coerce
  cases b with
  | true => exact if_pos (sameWord_boolText_iff.2 hb)
  | false =>
    have htrue : ¬ sameWord raw "true" = true := fun h =>
      absurd (hb.symm.trans (sameWord_boolText_iff.1 h : IsWord (boolText true) _)) (by decide)
    exact (if_neg htrue).trans (if_pos (sameWord_boolText_iff.2 hb))

theorem coerce_of_not_truth (htruth : ∀ b, ¬ IsWord (boolText b) raw.toList)
    (ht : TrimsTo raw.toList core) : coerce raw = match readInt64? core with
      | some n => .int n
      | none =>
        match readBinary64? core with
        | some x => .float x
        | none => .text raw := by
  rw [← trimList_eq_iff.2 ht]
  exact (if_neg fun h => htruth true (sameWord_boolText_iff.1 h)).trans
    (if_neg fun h => htruth false (sameWord_boolText_iff.1 h))

theorem coerce_of_standsFor (h : StandsFor raw v) : coerce raw = v := by
  cases h with
  | truth hb => exact coerce_truth hb
  | integer htruth ht hn => rw [coerce_of_not_truth htruth ht, readInt64?_eq_some_iff.2 hn]
  | real htruth ht hint hx =>
    rw [coerce_of_not_truth htruth ht, readInt64?_eq_none_iff.2 hint,
      readBinary64?_eq_some_iff.2 hx]
  | itself htruth ht hint hreal =>
    rw [coerce_of_not_truth htruth ht, readInt64?_eq_none_iff.2 hint,
      readBinary64?_eq_none_iff.2 hreal]

/-- Every text stands for a value. -/
theorem exists_standsFor (raw : String) : ∃ v, StandsFor raw v := by
  by_cases htruth : ∃ b, IsWord (boolText b) raw.toList
  · obtain ⟨b, hb⟩ := htruth
    exact ⟨_, .truth hb⟩
  rw [not_exists] at htruth
  obtain ⟨core, ht⟩ := exists_trimsTo raw.toList
  rcases integer_or_real_or_neither core with ⟨n, hn⟩ | ⟨hint, x, hx⟩ | ⟨hint, hreal⟩
  · exact ⟨_, .integer htruth ht hn⟩
  · exact ⟨_, .real htruth ht hint hx⟩
  · exact ⟨_, .itself htruth ht hint hreal⟩

theorem coerce_eq_iff : coerce raw = v ↔ StandsFor raw v :=
  eq_iff_of_exists (exists_standsFor raw) fun _ => coerce_of_standsFor

theorem coerce_integer {n : Int64} (ht : TrimsTo raw.toList core) (hn : IsDecimal core n.toInt) :
    coerce raw = .int n :=
  coerce_of_standsFor (.integer (not_truth_of_isDecimal ht hn) ht hn)

/-- An integer that 64 bits do not hold is a number. -/
theorem exists_coerce_float {z : Int} (ht : TrimsTo raw.toList core) (hz : IsDecimal core z)
    (hbeyond : ∀ n : Int64, n.toInt ≠ z) : ∃ x, coerce raw = .float x := by
  obtain ⟨x, hx⟩ := exists_isReal_of_isDecimal hz
  have hint (n : Int64) : ¬ IsDecimal core n.toInt := fun hn => hbeyond n (hn.unique hz)
  exact ⟨x, coerce_of_standsFor (.real (not_truth_of_isDecimal ht hz) ht hint hx)⟩

/-- **A text stands for a truth value, else for an integer of 64 bits, else for a number, else for
itself**, the blanks around it being left out for integers and numbers. So digits with an optional
sign stand for the integer that they denote if 64 bits hold it and for a number if not, and the text
of every such integer stands for it, whatever blanks are around it. -/
theorem coerce_by_ladder :
    (∀ raw v, coerce raw = v ↔ StandsFor raw v) ∧
    (∀ raw core z, TrimsTo raw.toList core → IsDecimal core z →
      (-2 ^ 63 ≤ z ∧ z < 2 ^ 63 → ∃ n : Int64, n.toInt = z ∧ coerce raw = .int n) ∧
      (¬ (-2 ^ 63 ≤ z ∧ z < 2 ^ 63) → ∃ x, coerce raw = .float x)) ∧
    ∀ (n : Int64) (before after : List Char), (∀ c ∈ before, isBlank c = true) →
      (∀ c ∈ after, isBlank c = true) →
      coerce (.ofList (before ++ (intText n).toList ++ after)) = .int n := by
  refine ⟨fun _ _ => coerce_eq_iff, fun raw core z ht hz => ⟨?_, ?_⟩, ?_⟩
  · intro hfits
    obtain ⟨n, rfl⟩ := exists_toInt_iff.2 hfits
    exact ⟨n, rfl, coerce_integer ht hz⟩
  · intro hbeyond
    exact exists_coerce_float ht hz fun n hn => hbeyond (exists_toInt_iff.1 ⟨n, hn⟩)
  · intro n before after hbefore hafter
    have hn : IsDecimal (intText n).toList n.toInt := by
      rw [intText, String.toList_ofList]
      exact isDecimal_ofInt n.toInt
    refine coerce_integer ?_ hn
    rw [String.toList_ofList]
    exact trimsTo_of_isDecimal hn hbefore hafter

/-- Blanks are left out around an integer, but not around the word of a truth value. -/
example : coerce "\t+0007 " = .int 7 ∧ coerce "True" = .bool true ∧
    coerce "True " = .text "True " := by
  decide +kernel

end Value

end MarketQuery
