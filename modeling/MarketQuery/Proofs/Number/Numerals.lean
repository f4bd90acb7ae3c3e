import Mathlib.Data.List.TakeWhile
import MarketQuery.Proofs.Number.Denoted

/-!
# Numerals and the numbers they are read as

* `IsSign`, `IsFraction`, `IsExponent`, `IsNumeral`: the parts of a numeral, and a numeral of them;
* `IsReal`: the number of 64 bits that a text stands for, by a numeral or a word with an optional
  sign;
* `Numeral.read?_eq_some_iff`, **`readBinary64?_eq_some_iff`**: they are read just where they are
  written;
* `eq_iff_of_exists`, `integer_or_real_or_neither`: a result told by a relation; what a text is read
  as;
* `isNumberChar_of_isDecimal`, `isNumberChar_of_isReal`: integers and numbers are written with ASCII
  letters, digits, signs and points alone.
-/

namespace MarketQuery.Number

/-! ## The parts -/

/-- An optional sign, minus giving `true`. -/
inductive IsSign : List Char → Bool → Prop
  | absent : IsSign [] false
  | plus : IsSign ['+'] false
  | minus : IsSign ['-'] true

/-- An optional point, and the digits behind it. -/
inductive IsFraction : List Char → List Char → Prop
  | absent : IsFraction [] []
  | point {digits : List Char} (hd : ∀ c ∈ digits, c.isDigit) : IsFraction ('.' :: digits) digits

/-- An optional exponent, which is an integer behind the letter `e`. -/
inductive IsExponent : List Char → Int → Prop
  | absent : IsExponent [] 0
  | power {e : Char} {cs : List Char} {z : Int} (he : e = 'e' ∨ e = 'E') (hz : IsDecimal cs z) :
      IsExponent (e :: cs) z

/-- Digits with at most one point, at least one of them in all, and an optional exponent. -/
inductive IsNumeral : List Char → Numeral → Prop
  | intro {whole point fraction power : List Char} {exponent : Int}
      (hwhole : ∀ c ∈ whole, c.isDigit) (hfraction : IsFraction point fraction)
      (hexponent : IsExponent power exponent) (hne : ¬(whole = [] ∧ fraction = [])) :
      IsNumeral (whole ++ (point ++ power)) { whole, fraction, exponent }

/-- A word, whatever the case of its ASCII letters. -/
def IsWord (word : String) (cs : List Char) : Prop := cs.map Char.toLower = word.toList

instance (word : String) (cs : List Char) : Decidable (IsWord word cs) :=
  inferInstanceAs (Decidable (_ = _))

/-- The number of 64 bits that a text stands for: that nearest to a numeral, or one that has a word,
with an optional sign. -/
inductive IsReal : List Char → Binary64 → Prop
  | numeral {sign cs : List Char} {negative : Bool} {n : Numeral} (hs : IsSign sign negative)
      (hn : IsNumeral cs n) : IsReal (sign ++ cs) (n.toBinary64 negative)
  | infinite {sign cs : List Char} {negative : Bool} (hs : IsSign sign negative)
      (hw : IsWord "inf" cs ∨ IsWord "infinity" cs) : IsReal (sign ++ cs) (.infinite negative)
  | nan {sign cs : List Char} {negative : Bool} (hs : IsSign sign negative)
      (hw : IsWord "nan" cs) : IsReal (sign ++ cs) .nan

variable {sign cs rest : List Char} {negative : Bool} {n : Numeral}

/-! ## Signs -/

theorem exists_readSign (cs : List Char) : ∃ sign negative rest,
    readSign cs = (negative, rest) ∧ IsSign sign negative ∧ cs = sign ++ rest := by
  unfold readSign
  split
  · exact ⟨_, _, _, rfl, .minus, rfl⟩
  · exact ⟨_, _, _, rfl, .plus, rfl⟩
  · exact ⟨_, _, _, rfl, .absent, rfl⟩

theorem readSign_append (hs : IsSign sign negative) (h : ∀ c ∈ cs.head?, c ≠ '+' ∧ c ≠ '-') :
    readSign (sign ++ cs) = (negative, cs) := by
  cases hs with
  | plus | minus => rfl
  | absent =>
    rw [List.nil_append]
    unfold readSign
    split
    · exact absurd rfl (h '-' rfl).2
    · exact absurd rfl (h '+' rfl).1
    · rfl

/-! ## Numerals -/

theorem exists_spanDigits (cs : List Char) : ∃ digits rest,
    spanDigits cs = (digits, rest) ∧ (∀ c ∈ digits, c.isDigit) ∧ cs = digits ++ rest :=
  ⟨_, _, rfl, fun _ => List.mem_takeWhile_imp, List.takeWhile_append_dropWhile.symm⟩

namespace Numeral

theorem readFraction_append {point fraction rest : List Char} (h : IsFraction point fraction)
    (hr : ∀ c ∈ rest.head?, ¬ c.isDigit ∧ c ≠ '.') :
    readFraction (point ++ rest) = (fraction, rest) := by
  cases h with
  | point hd => exact spanDigits_append hd fun c hc => (hr c hc).1
  | absent =>
    rw [List.nil_append]
    unfold readFraction
    split
    · exact absurd rfl (hr '.' rfl).2
    · rfl

theorem exists_readFraction (cs : List Char) : ∃ point fraction rest,
    readFraction cs = (fraction, rest) ∧ IsFraction point fraction ∧ cs = point ++ rest := by
  unfold readFraction
  split
  next rest =>
    obtain ⟨digits, after, hspan, hd, hrest⟩ := exists_spanDigits rest
    exact ⟨_, _, _, hspan, .point hd, congrArg _ hrest⟩
  next => exact ⟨_, _, _, rfl, .absent, rfl⟩

theorem readExponent?_eq_some_iff {z : Int} : readExponent? cs = some z ↔ IsExponent cs z := by
  constructor
  · intro h
    cases cs with
    | nil =>
      obtain rfl := Option.some.inj h
      exact .absent
    | cons e cs =>
      obtain ⟨⟨he, hne, hd⟩, hz⟩ := Option.ite_none_right_eq_some.1 h
      rw [digitsValue_eq] at hz
      exact .power he (isDecimal_iff.2 ⟨hne, List.all_eq_true.1 hd, (Option.some.inj hz).symm⟩)
  · intro h
    cases h with
    | absent => rfl
    | power he hz =>
      obtain ⟨hne, hd, rfl⟩ := isDecimal_iff.1 hz
      rw [← digitsValue_eq]
      exact if_pos ⟨he, hne, List.all_eq_true.2 hd⟩

theorem head?_exponent {power : List Char} {z : Int} (h : IsExponent power z) :
    ∀ c ∈ power.head?, ¬ c.isDigit ∧ c ≠ '.' := by
  cases h with
  | absent => simp
  | power he =>
    rintro c ⟨⟩
    rcases he with rfl | rfl <;> decide

theorem head?_fraction {point fraction power : List Char} {z : Int}
    (h : IsFraction point fraction) (hz : IsExponent power z) :
    ∀ c ∈ (point ++ power).head?, ¬ c.isDigit := by
  cases h with
  | absent => exact fun c hc => (head?_exponent hz c hc).1
  | point =>
    rintro c ⟨⟩
    decide

/-- A numeral is read just where it is written. -/
theorem read?_eq_some_iff : read? cs = some n ↔ IsNumeral cs n := by
  constructor
  · intro h
    obtain ⟨whole, rest, hspan, hwhole, rfl⟩ := exists_spanDigits cs
    obtain ⟨point, fraction, power, hread, hfraction, rfl⟩ := exists_readFraction rest
    rw [read?, hspan] at h
    simp only [hread] at h
    obtain ⟨hne, h⟩ := Option.ite_none_left_eq_some.1 h
    obtain ⟨z, hz, rfl⟩ := Option.map_eq_some_iff.1 h
    exact .intro hwhole hfraction (readExponent?_eq_some_iff.1 hz) hne
  · rintro ⟨hwhole, hfraction, hexponent, hne⟩
    rw [read?, spanDigits_append hwhole (head?_fraction hfraction hexponent)]
    simp only [readFraction_append hfraction (head?_exponent hexponent), if_neg hne,
      readExponent?_eq_some_iff.2 hexponent, Option.map_some]

theorem exists_head_numeral (h : IsNumeral cs n) :
    ∃ c, cs.head? = some c ∧ (c.isDigit ∨ c = '.') := by
  rcases h with @⟨whole, point, fraction, power, exponent, hwhole, hfraction, hexponent, hne⟩
  cases whole with
  | cons c whole => exact ⟨c, rfl, .inl (hwhole c List.mem_cons_self)⟩
  | nil =>
    cases hfraction with
    | absent => exact absurd ⟨rfl, rfl⟩ hne
    | point => exact ⟨'.', rfl, .inr rfl⟩

end Numeral

/-! ## Words -/

theorem readWord?_eq_some_iff {x : Binary64} : readWord? negative cs = some x ↔
    ((IsWord "inf" cs ∨ IsWord "infinity" cs) ∧ x = .infinite negative) ∨
      (IsWord "nan" cs ∧ x = .nan) := by
  unfold readWord? IsWord
  by_cases h : cs.map Char.toLower = "inf".toList ∨ cs.map Char.toLower = "infinity".toList
  · have hnan : ¬ cs.map Char.toLower = "nan".toList := by
      rcases h with h | h <;> rw [h] <;> decide
    rw [if_pos h, Option.some.injEq, and_iff_right h, or_iff_left fun hx => hnan hx.1, eq_comm]
  · rw [if_neg h, or_iff_right fun hx => h hx.1, Option.ite_none_right_eq_some, Option.some.injEq,
      @eq_comm _ x]

theorem isAlpha_of_isAlpha_toLower {c : Char} (h : c.toLower.isAlpha) : c.isAlpha := by
  by_cases hupper : c.val ≥ 'A'.val ∧ c.val ≤ 'Z'.val
  · exact Bool.or_eq_true_iff.2 (.inl (decide_eq_true hupper))
  · have hsame : c.toLower = c := dif_neg hupper
    rwa [hsame] at h

theorem not_isAlpha_of_isDigit {c : Char} (h : c.isDigit) : ¬ c.isAlpha := by
  have hdigit : 48 ≤ c.toNat ∧ c.toNat ≤ 57 := Char.isDigit_iff_toNat.1 h
  intro halpha
  rcases Bool.or_eq_true_iff.1 halpha with hupper | hlower
  · have : 65 ≤ c.toNat := (of_decide_eq_true hupper).1
    omega
  · have : 97 ≤ c.toNat := of_decide_eq_true (Bool.and_eq_true_iff.1 hlower).1
    omega

theorem IsWord.isAlpha {word : String} (h : IsWord word cs)
    (hword : word.toList.all Char.isAlpha) : ∀ c ∈ cs, c.isAlpha :=
  fun _ hc => isAlpha_of_isAlpha_toLower
    (List.all_eq_true.1 hword _ (h ▸ List.mem_map_of_mem hc))

/-- Every word for a number is made of letters. -/
theorem isAlpha_of_readWord? {x : Binary64} (h : readWord? negative cs = some x) :
    ∀ c ∈ cs, c.isAlpha := by
  rcases readWord?_eq_some_iff.1 h with ⟨hw | hw, -⟩ | ⟨hw, -⟩ <;> exact hw.isAlpha (by decide)

theorem readWord?_numeral (h : IsNumeral cs n) (negative : Bool) :
    readWord? negative cs = none := by
  obtain ⟨c, hhead, hc⟩ := Numeral.exists_head_numeral h
  rw [Option.eq_none_iff_forall_ne_some]
  intro x hx
  have halpha : c.isAlpha := isAlpha_of_readWord? hx c (List.mem_of_mem_head? hhead)
  rcases hc with hc | rfl
  · exact not_isAlpha_of_isDigit hc halpha
  · exact absurd halpha (by decide)

/-! ## Numbers -/

theorem readBinary64?_of_sign (h : readSign cs = (negative, rest)) : readBinary64? cs =
    (readWord? negative rest).or ((Numeral.read? rest).map (Numeral.toBinary64 negative)) := by
  rw [readBinary64?, h]
  dsimp only
  cases readWord? negative rest <;> rfl

theorem readBinary64?_word {x : Binary64} (hs : IsSign sign negative)
    (h : readWord? negative cs = some x) : readBinary64? (sign ++ cs) = some x := by
  have hsign : readSign (sign ++ cs) = (negative, cs) := readSign_append hs fun c hc => by
    have halpha : c.isAlpha := isAlpha_of_readWord? h c (List.mem_of_mem_head? hc)
    exact ⟨fun hc => absurd (hc ▸ halpha) (by decide), fun hc => absurd (hc ▸ halpha) (by decide)⟩
  rw [readBinary64?_of_sign hsign, h, Option.some_or]

theorem readBinary64?_eq_some_iff {x : Binary64} : readBinary64? cs = some x ↔ IsReal cs x := by
  constructor
  · intro h
    obtain ⟨sign, negative, rest, hsign, hs, rfl⟩ := exists_readSign cs
    rw [readBinary64?_of_sign hsign] at h
    cases hword : readWord? negative rest with
    | some y =>
      rw [hword] at h
      obtain rfl := Option.some.inj h
      rcases readWord?_eq_some_iff.1 hword with ⟨hw, rfl⟩ | ⟨hw, rfl⟩
      · exact .infinite hs hw
      · exact .nan hs hw
    | none =>
      rw [hword, Option.none_or] at h
      obtain ⟨n, hn, rfl⟩ := Option.map_eq_some_iff.1 h
      exact .numeral hs (Numeral.read?_eq_some_iff.1 hn)
  · intro h
    cases h with
    | numeral hs hn =>
      obtain ⟨c, hhead, hc⟩ := Numeral.exists_head_numeral hn
      have hsign : readSign _ = _ := readSign_append hs fun d hd => by
        obtain rfl := Option.some.inj (hhead.symm.trans hd)
        rcases hc with hc | rfl
        · exact ne_sign_of_isDigit hc
        · decide
      rw [readBinary64?_of_sign hsign, readWord?_numeral hn, Option.none_or,
        Numeral.read?_eq_some_iff.2 hn]
      rfl
    | infinite hs hw => exact readBinary64?_word hs (readWord?_eq_some_iff.2 (.inl ⟨hw, rfl⟩))
    | nan hs hw => exact readBinary64?_word hs (readWord?_eq_some_iff.2 (.inr ⟨hw, rfl⟩))

theorem readBinary64?_eq_none_iff : readBinary64? cs = none ↔ ∀ x, ¬ IsReal cs x := by
  rw [Option.eq_none_iff_forall_ne_some]
  exact forall_congr' fun x => readBinary64?_eq_some_iff.not

/-! ## What a text is read as -/

/-- A result is told by a relation if there is always one and the relation determines it. -/
theorem eq_iff_of_exists {α : Type} {P : α → Prop} {result a : α} (hex : ∃ a, P a)
    (hunique : ∀ a, P a → result = a) : result = a ↔ P a := by
  refine ⟨?_, hunique a⟩
  rintro rfl
  obtain ⟨a, ha⟩ := hex
  rwa [hunique a ha]

/-- A text is an integer of 64 bits, else a number, else neither. -/
theorem integer_or_real_or_neither (cs : List Char) :
    (∃ n : Int64, IsDecimal cs n.toInt) ∨
      ((∀ n : Int64, ¬ IsDecimal cs n.toInt) ∧ ∃ x, IsReal cs x) ∨
      ((∀ n : Int64, ¬ IsDecimal cs n.toInt) ∧ ∀ x, ¬ IsReal cs x) := by
  by_cases hint : ∃ n : Int64, IsDecimal cs n.toInt
  · exact .inl hint
  · by_cases hreal : ∃ x, IsReal cs x
    · exact .inr (.inl ⟨not_exists.1 hint, hreal⟩)
    · exact .inr (.inr ⟨not_exists.1 hint, not_exists.1 hreal⟩)

/-! ## Their characters -/

/-- An ASCII letter, a digit, a sign or the point. -/
def IsNumberChar (c : Char) : Prop := c.isAlphanum = true ∨ c ∈ ['+', '-', '.']

instance (c : Char) : Decidable (IsNumberChar c) := inferInstanceAs (Decidable (_ ∨ _))

theorem isNumberChar_of_isDigit {c : Char} (h : c.isDigit) : IsNumberChar c :=
  .inl (Bool.or_eq_true_iff.2 (.inr h))

theorem isNumberChar_of_isAlpha {c : Char} (h : c.isAlpha) : IsNumberChar c :=
  .inl (Bool.or_eq_true_iff.2 (.inl h))

theorem isNumberChar_of_isSign (hs : IsSign sign negative) : ∀ c ∈ sign, IsNumberChar c := by
  cases hs with
  | absent => simp
  | plus | minus => exact List.forall_mem_singleton.2 (by decide)

theorem isNumberChar_of_isDecimal {z : Int} (h : IsDecimal cs z) : ∀ c ∈ cs, IsNumberChar c := by
  cases h with
  | unsigned _ hd => exact fun c hc => isNumberChar_of_isDigit (hd c hc)
  | plus _ hd | minus _ hd =>
    exact List.forall_mem_cons.2 ⟨by decide, fun c hc => isNumberChar_of_isDigit (hd c hc)⟩

theorem isNumberChar_of_isFraction {point fraction : List Char} (h : IsFraction point fraction) :
    ∀ c ∈ point, IsNumberChar c := by
  cases h with
  | absent => simp
  | point hd =>
    exact List.forall_mem_cons.2 ⟨by decide, fun c hc => isNumberChar_of_isDigit (hd c hc)⟩

theorem isNumberChar_of_isExponent {power : List Char} {z : Int} (h : IsExponent power z) :
    ∀ c ∈ power, IsNumberChar c := by
  cases h with
  | absent => simp
  | power he hz =>
    refine List.forall_mem_cons.2 ⟨?_, isNumberChar_of_isDecimal hz⟩
    rcases he with rfl | rfl <;> decide

theorem isNumberChar_of_isNumeral (h : IsNumeral cs n) : ∀ c ∈ cs, IsNumberChar c := by
  obtain ⟨hwhole, hfraction, hexponent, -⟩ := h
  rw [List.forall_mem_append, List.forall_mem_append]
  exact ⟨fun c hc => isNumberChar_of_isDigit (hwhole c hc), isNumberChar_of_isFraction hfraction,
    isNumberChar_of_isExponent hexponent⟩

theorem IsWord.isNumberChar {word : String} (h : IsWord word cs)
    (hword : word.toList.all Char.isAlpha) : ∀ c ∈ cs, IsNumberChar c :=
  fun c hc => isNumberChar_of_isAlpha (h.isAlpha hword c hc)

theorem isNumberChar_of_isReal {x : Binary64} (h : IsReal cs x) : ∀ c ∈ cs, IsNumberChar c := by
  cases h with
  | numeral hs hn =>
    exact List.forall_mem_append.2 ⟨isNumberChar_of_isSign hs, isNumberChar_of_isNumeral hn⟩
  | infinite hs hw =>
    refine List.forall_mem_append.2 ⟨isNumberChar_of_isSign hs, ?_⟩
    rcases hw with hw | hw <;> exact hw.isNumberChar (by decide)
  | nan hs hw =>
    exact List.forall_mem_append.2 ⟨isNumberChar_of_isSign hs, hw.isNumberChar (by decide)⟩

end MarketQuery.Number
