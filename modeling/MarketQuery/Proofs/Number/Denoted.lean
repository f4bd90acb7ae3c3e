import Mathlib.Algebra.Order.Field.Rat
import Mathlib.Tactic.Linarith
import Mathlib.Tactic.Positivity
import MarketQuery.Number.Notation
import MarketQuery.Number.Reader
import MarketQuery.Proofs.Number.Characters
import MarketQuery.Proofs.Number.Integers

/-!
# What written numbers denote

A numeral denotes a rational exactly, whether or not there is a number of 64 bits for it.

* `Numeral.value`, `numeral?`, `denoted?`: the rational that a numeral denotes, and the numeral with
  its sign that a text is;
* `digitsValue_digitsOf`: written digits have the value they are written for;
* `Numeral.read?_pointed`: digits with a point, and an exponent behind them, are read as such;
* `numeral?_withExponent`: a decimal with an exponent denotes itself;
* `numeral?_fixed`, `numeral?_scientific`: what the texts of numbers denote.
-/

namespace MarketQuery.Number

/-- The rational that a numeral denotes. -/
def Numeral.value (n : Numeral) : ℚ :=
  digitsValue (n.whole ++ n.fraction) * 10 ^ (n.exponent - n.fraction.length)

/-- The numeral that a text is, behind its sign, minus giving `true`. -/
def numeral? (s : String) : Option (Bool × Numeral) :=
  let (negative, cs) := readSign s.toList
  (Numeral.read? cs).map (negative, ·)

/-- A rational with a sign put before it. -/
def withSign (negative : Bool) (x : ℚ) : ℚ := if negative then -x else x

/-- The rational that a text denotes. -/
def denoted? (s : String) : Option ℚ :=
  (numeral? s).map fun (negative, n) => withSign negative n.value

/-! ## Digits -/

theorem digitsValue_digitsOf (n : Nat) : digitsValue (digitsOf n) = n :=
  Nat.ofDigitChars_ten_toDigits

theorem digitsValue_replicate_append (zeros : Nat) (digits : List Char) :
    digitsValue (List.replicate zeros '0' ++ digits) = digitsValue digits := by
  change Nat.ofDigitChars 10 (List.replicate zeros '0' ++ digits) 0 = Nat.ofDigitChars 10 digits 0
  rw [Nat.ofDigitChars_append, Nat.ofDigitChars_replicate_zero, Nat.mul_zero]

theorem isDigit_of_mem_digitsOf (n : Nat) : ∀ c ∈ digitsOf n, c.isDigit :=
  fun _ => Nat.isDigit_of_mem_toDigits (by decide) (by decide)

theorem spanDigits_append {digits rest : List Char} (hd : ∀ c ∈ digits, c.isDigit)
    (hr : ∀ c ∈ rest.head?, ¬ c.isDigit) : spanDigits (digits ++ rest) = (digits, rest) := by
  have hrest : rest.takeWhile Char.isDigit = [] ∧ rest.dropWhile Char.isDigit = rest := by
    cases rest with
    | nil => exact ⟨rfl, rfl⟩
    | cons c rest =>
      have hc : ¬ c.isDigit := hr c rfl
      simp [hc]
  rw [spanDigits, List.takeWhile_append_of_pos hd, List.dropWhile_append_of_pos hd, hrest.1,
    hrest.2, List.append_nil]

/-! ## Signs and exponents -/

theorem readSign_signed {negative : Bool} {cs : List Char} (h : ∀ c ∈ cs.head?, c.isDigit) :
    readSign (signed negative cs) = (negative, cs) := by
  cases negative with
  | true => rfl
  | false =>
    change readSign cs = (false, cs)
    unfold readSign
    split
    · exact absurd (h '-' rfl) (by decide)
    · exact absurd (h '+' rfl) (by decide)
    · rfl

theorem readSign_ofInt (plusSign : Bool) (z : Int) :
    readSign (ofInt plusSign z) = (decide (z < 0), digitsOf z.natAbs) := by
  by_cases h : z < 0
  · simp [ofInt, h, readSign]
  · cases plusSign with
    | true => simp [ofInt, h, readSign]
    | false => simp [ofInt, h, readSign_of_digits (isDigit_of_mem_digitsOf _)]

theorem signedInt_natAbs (z : Int) : signedInt (decide (z < 0)) z.natAbs = z := by
  unfold signedInt
  split
  next h =>
    have : z < 0 := of_decide_eq_true h
    omega
  next h =>
    have : ¬ z < 0 := fun hz => h (decide_eq_true hz)
    omega

theorem Numeral.readExponent?_ofInt (plusSign : Bool) (z : Int) :
    readExponent? ('e' :: ofInt plusSign z) = some z := by
  have hall : (digitsOf z.natAbs).all Char.isDigit := List.all_eq_true.2 (isDigit_of_mem_digitsOf _)
  have hne : digitsOf z.natAbs ≠ [] := Nat.toDigits_ne_nil
  simp [readExponent?, readSign_ofInt, hall, hne, digitsValue_digitsOf, signedInt_natAbs]

/-! ## Digits with a point -/

variable {digits : List Char}

/-- Digits with a point are digits before it and as many as there are places behind it. -/
theorem exists_pointed (places : Nat) (hd : ∀ c ∈ digits, c.isDigit) :
    ∃ whole fraction, pointed places digits =
        whole ++ (if places = 0 then [] else '.' :: fraction) ∧
      whole ≠ [] ∧ (∀ c ∈ whole, c.isDigit) ∧ (∀ c ∈ fraction, c.isDigit) ∧
      fraction.length = places ∧ digitsValue (whole ++ fraction) = digitsValue digits := by
  let padded := List.replicate (places + 1 - digits.length) '0' ++ digits
  have hlength : places + 1 ≤ padded.length := by
    rw [List.length_append, List.length_replicate]
    omega
  have hpadded : ∀ c ∈ padded, c.isDigit := by
    intro c hc
    rcases List.mem_append.1 hc with hc | hc
    · rw [(List.mem_replicate.1 hc).2]
      rfl
    · exact hd c hc
  refine ⟨padded.take (padded.length - places), padded.drop (padded.length - places), ?_, ?_,
    fun c hc => hpadded c (List.mem_of_mem_take hc),
    fun c hc => hpadded c (List.mem_of_mem_drop hc),
    ?_, ?_⟩
  · by_cases h : places = 0 <;> simp [pointed, h, padded]
  · refine List.ne_nil_of_length_pos ?_
    rw [List.length_take]
    omega
  · rw [List.length_drop]
    omega
  · rw [List.take_append_drop, digitsValue_replicate_append]

theorem head?_pointed (places : Nat) (hd : ∀ c ∈ digits, c.isDigit) (rest : List Char) :
    ∀ c ∈ (pointed places digits ++ rest).head?, c.isDigit := by
  obtain ⟨whole, fraction, hpointed, hne, hwhole, -⟩ := exists_pointed places hd
  obtain ⟨c, cs, rfl⟩ := List.exists_cons_of_ne_nil hne
  rw [hpointed]
  rintro d ⟨⟩
  exact hwhole _ List.mem_cons_self

theorem Numeral.read?_pointed (places : Nat) (hd : ∀ c ∈ digits, c.isDigit) {power : List Char}
    {z : Int} (hz : readExponent? power = some z) (he : ∀ c ∈ power.head?, c = 'e') :
    ∃ n, read? (pointed places digits ++ power) = some n ∧ n.fraction.length = places ∧
      n.value = digitsValue digits * 10 ^ (z - places) := by
  obtain ⟨whole, fraction, hpointed, hne, hwhole, hfraction, hlength, hvalue⟩ :=
    exists_pointed places hd
  have hpower : ∀ c ∈ power.head?, ¬ c.isDigit := fun c hc => he c hc ▸ by decide
  refine ⟨⟨whole, fraction, z⟩, ?_, hlength, by rw [Numeral.value, hvalue, hlength]⟩
  rw [hpointed, read?]
  by_cases h : places = 0
  · have hempty : fraction = [] := List.length_eq_zero_iff.1 (hlength.trans h)
    have hread : readFraction power = ([], power) := by
      unfold readFraction
      split
      · exact absurd (he '.' rfl) (by decide)
      · rfl
    simp [h, spanDigits_append hwhole hpower, hread, hne, hz, hempty]
  · rw [if_neg h, List.append_assoc, spanDigits_append hwhole (by rintro c ⟨⟩; decide)]
    simp [readFraction, spanDigits_append hfraction hpower, hne, hz]

/-! ## Texts of numbers -/

/-- A natural number with its point put in place denotes that part of a power of ten. -/
theorem numeral?_pointed (places : Nat) (negative : Bool) (n : Nat) :
    ∃ numeral, numeral? (.ofList (signed negative (pointed places (digitsOf n)))) =
        some (negative, numeral) ∧
      numeral.fraction.length = places ∧ numeral.value = n / 10 ^ places := by
  have hdigits := isDigit_of_mem_digitsOf n
  have hz : Numeral.readExponent? [] = some 0 := rfl
  obtain ⟨numeral, hread, hlength, hvalue⟩ := Numeral.read?_pointed places hdigits hz (by simp)
  have hhead := head?_pointed places hdigits []
  rw [List.append_nil] at hread hhead
  refine ⟨numeral, ?_, hlength, ?_⟩
  · rw [numeral?, String.toList_ofList, readSign_signed hhead]
    simp [hread]
  · rw [hvalue, digitsValue_digitsOf, zero_sub, zpow_neg, zpow_natCast, div_eq_mul_inv]

theorem numeral?_fixed (places : Nat) (negative : Bool) (code : Fin Binary64.codeBound) :
    ∃ n, numeral? (fixed places (.finite negative code)) = some (negative, n) ∧
      n.fraction.length = places ∧ n.value = inPlaces places code / 10 ^ places :=
  numeral?_pointed places negative (inPlaces places code)

/-- A decimal with an exponent denotes itself. -/
theorem numeral?_withExponent (plusSign negative : Bool) (d : Decimal) :
    ∃ n, numeral? (.ofList (signed negative (withExponent plusSign d))) = some (negative, n) ∧
      n.value = d.digits * 10 ^ d.exponent := by
  have hdigits := isDigit_of_mem_digitsOf d.digits
  have hz := Numeral.readExponent?_ofInt plusSign (d.exponent + ((digitsOf d.digits).length - 1))
  obtain ⟨n, hread, -, hvalue⟩ :=
    Numeral.read?_pointed ((digitsOf d.digits).length - 1) hdigits hz (by simp)
  have hpos : 1 ≤ (digitsOf d.digits).length := List.length_pos_iff.2 Nat.toDigits_ne_nil
  refine ⟨n, ?_, ?_⟩
  · rw [numeral?, String.toList_ofList]
    simp only [withExponent, readSign_signed (head?_pointed _ hdigits _), hread, Option.map_some]
  · rw [hvalue, digitsValue_digitsOf, Nat.cast_sub hpos]
    congr 2
    push_cast
    ring

theorem write_scientific (negative : Bool) (code : Fin Binary64.codeBound) :
    write .scientific (.finite negative code) =
      .ofList (signed negative (withExponent false (decimalOf .up code))) := rfl

theorem numeral?_scientific (negative : Bool) (code : Fin Binary64.codeBound) :
    ∃ n, numeral? (write .scientific (.finite negative code)) = some (negative, n) ∧
      n.value = (decimalOf .up code).digits * 10 ^ (decimalOf .up code).exponent :=
  numeral?_withExponent false negative (decimalOf .up code)

theorem mem_write_scientific (negative : Bool) (code : Fin Binary64.codeBound) :
    'e' ∈ (write .scientific (.finite negative code)).toList := by
  rw [write_scientific, String.toList_ofList]
  cases negative <;> simp [signed, withExponent]

theorem notMem_fixed (places : Nat) (negative : Bool) (code : Fin Binary64.codeBound) :
    'e' ∉ (fixed places (.finite negative code)).toList := by
  obtain ⟨whole, fraction, hpointed, -, hwhole, hfraction, -⟩ :=
    exists_pointed places (isDigit_of_mem_digitsOf (inPlaces places code))
  have hdigit {cs : List Char} (h : ∀ c ∈ cs, c.isDigit) : 'e' ∉ cs :=
    fun he => absurd (h 'e' he) (by decide)
  rw [fixed, String.toList_ofList, hpointed]
  cases negative <;> split <;> simp [signed, hdigit hwhole, hdigit hfraction]

end MarketQuery.Number
