import MarketQuery.Json.Value
import MarketQuery.Proofs.Number.Numerals

/-!
# Numbers as JSON writes them

A number of JSON is a numeral without a plus sign, without zeros before its other digits and with
digits behind its point.

* `IsWhole`, `IsNumber`: the digits before a point, and a number with the token that it is;
* `readNumber?_eq_some_iff`: a number is read just where it is written;
* `Value.read?_number`: the value of a text that is a number;
* `quoted`, `Value.read?_quoted`: the literal of a text without quotes, backslashes and control
  characters, and its value;
* `IsNumber.isNumeral`: a number is a numeral with a sign.
-/

namespace MarketQuery.Json

open MarketQuery.Number (readSign spanDigits IsSign IsFraction IsExponent IsDecimal IsNumeral)

/-! ## The parts -/

/-- The digits before a point: at least one, and a zero stands alone. -/
structure IsWhole (digits : List Char) : Prop where
  ne_nil : digits ≠ []
  isDigit : ∀ c ∈ digits, c.isDigit
  zero_alone : digits.head? = some '0' → digits = ['0']

/-- A number of JSON and its token. -/
inductive IsNumber : List Char → NumberToken → Prop
  | intro {sign whole point fraction power : List Char} {negative : Bool} {exponent : Int}
      (hs : IsSign sign negative) (hplus : sign ≠ ['+']) (hwhole : IsWhole whole)
      (hfraction : IsFraction point fraction) (hpoint : point ≠ ['.'])
      (hexponent : IsExponent power exponent) :
      IsNumber (sign ++ (whole ++ (point ++ power)))
        { negative, numeral := { whole, fraction, exponent },
          isInteger := point = [] && power = [] }

variable {cs rest digits whole fraction power point sign : List Char} {negative : Bool}
  {token : NumberToken}

theorem readWhole?_eq (hspan : spanDigits cs = (digits, rest)) : readWhole? cs =
    if digits ≠ [] ∧ (digits.head? = some '0' → digits = ['0']) then some (digits, rest)
    else none := by
  rw [readWhole?, hspan]
  cases digits with
  | nil => rfl
  | cons c digits =>
    by_cases hc : c = '0'
    · subst hc
      cases digits <;> simp
    · simp [hc]

theorem readWhole?_append (hwhole : IsWhole whole) (hr : ∀ c ∈ rest.head?, ¬ c.isDigit) :
    readWhole? (whole ++ rest) = some (whole, rest) := by
  rw [readWhole?_eq (Number.spanDigits_append hwhole.isDigit hr),
    if_pos ⟨hwhole.ne_nil, hwhole.zero_alone⟩]

theorem isWhole_of_readWhole? (h : readWhole? cs = some (whole, rest)) :
    IsWhole whole ∧ cs = whole ++ rest := by
  obtain ⟨digits, left, hspan, hdigits, rfl⟩ := Number.exists_spanDigits cs
  rw [readWhole?_eq hspan] at h
  obtain ⟨⟨hne, hzero⟩, heq⟩ := Option.ite_none_right_eq_some.1 h
  obtain ⟨rfl, rfl⟩ := Prod.mk.inj (Option.some.inj heq)
  exact ⟨⟨hne, hdigits, hzero⟩, rfl⟩

theorem readFraction?_append (hfraction : IsFraction point fraction) (hpoint : point ≠ ['.'])
    (hr : ∀ c ∈ rest.head?, ¬ c.isDigit ∧ c ≠ '.') :
    readFraction? (point ++ rest) = some (fraction, rest) := by
  cases hfraction with
  | absent =>
    rw [List.nil_append]
    unfold readFraction?
    split
    · exact absurd rfl (hr '.' rfl).2
    · rfl
  | point hd =>
    have hspan := Number.spanDigits_append hd fun c hc => (hr c hc).1
    rw [List.cons_append, readFraction?, hspan]
    split
    next heq => exact absurd (congrArg _ (Prod.mk.inj heq).1) hpoint
    next heq => exact congrArg some heq.symm

theorem isFraction_of_readFraction? (h : readFraction? cs = some (fraction, rest)) :
    ∃ point, IsFraction point fraction ∧ point ≠ ['.'] ∧ cs = point ++ rest := by
  unfold readFraction? at h
  split at h
  next after =>
    obtain ⟨digits, left, hspan, hdigits, rfl⟩ := Number.exists_spanDigits after
    rw [hspan] at h
    split at h
    next => cases h
    next hne heq =>
      obtain ⟨rfl, rfl⟩ := Prod.mk.inj heq
      obtain ⟨rfl, rfl⟩ := Prod.mk.inj (Option.some.inj h)
      refine ⟨_, .point hdigits, fun hp => ?_, rfl⟩
      exact hne (List.cons.inj hp).2
  next =>
    obtain ⟨rfl, rfl⟩ := Prod.mk.inj (Option.some.inj h)
    exact ⟨_, .absent, by simp, rfl⟩

theorem spanDigits_eq_iff_of_nil :
    spanDigits cs = (digits, []) ↔ digits = cs ∧ ∀ c ∈ cs, c.isDigit := by
  constructor
  · intro h
    obtain ⟨digits, left, hspan, hdigits, rfl⟩ := Number.exists_spanDigits cs
    obtain ⟨rfl, rfl⟩ := Prod.mk.inj (hspan.symm.trans h)
    simpa using hdigits
  · rintro ⟨rfl, hdigits⟩
    have hspan : spanDigits (digits ++ []) = (digits, []) :=
      Number.spanDigits_append hdigits (by simp)
    rwa [List.append_nil] at hspan

/-- At the end of a text an exponent is read just where it is written. -/
theorem readExponent?_eq_some_iff {exponent? : Option Int} :
    readExponent? power = some (exponent?, []) ↔
      IsExponent power (exponent?.getD 0) ∧ exponent?.isNone = decide (power = []) := by
  cases power with
  | nil =>
    constructor
    · intro h
      obtain ⟨rfl, -⟩ := Prod.mk.inj (Option.some.inj h)
      exact ⟨.absent, rfl⟩
    · rintro ⟨-, hnone⟩
      rw [Option.isNone_iff_eq_none.1 hnone]
      rfl
  | cons e cs =>
    have hnil : decide (e :: cs = []) = false := rfl
    by_cases he : e = 'e' ∨ e = 'E'
    · have hpower {z : Int} : IsExponent (e :: cs) z ↔ IsDecimal cs z :=
        ⟨fun h => by cases h; assumption, .power he⟩
      obtain ⟨negative, digits, hsign⟩ : ∃ negative digits, readSign cs = (negative, digits) :=
        ⟨_, _, rfl⟩
      rw [readExponent?, if_pos he, hpower, Number.isDecimal_iff, hsign, hnil]
      constructor
      · intro h
        obtain ⟨digits, left, hspan, hdigits, rfl⟩ := Number.exists_spanDigits digits
        simp only [hspan] at h
        split at h
        next => cases h
        next hne heq =>
          obtain ⟨rfl, rfl⟩ := Prod.mk.inj heq
          obtain ⟨rfl, rfl⟩ := Prod.mk.inj (Option.some.inj h)
          rw [List.append_nil, ← Number.digitsValue_eq]
          exact ⟨⟨hne, hdigits, rfl⟩, rfl⟩
      · rintro ⟨⟨hne, hdigits, hz⟩, hsome⟩
        obtain ⟨z, rfl⟩ := Option.isSome_iff_exists.1 (by simpa using hsome)
        simp only [spanDigits_eq_iff_of_nil.2 ⟨rfl, hdigits⟩]
        rw [Number.digitsValue_eq]
        exact congrArg (fun z => some (some z, [])) hz.symm
    · rw [readExponent?, if_neg he]
      constructor
      · intro h
        cases (Prod.mk.inj (Option.some.inj h)).2
      · rintro ⟨hpower, -⟩
        cases hpower with
        | power he' => exact absurd he' he

/-! ## Numbers -/

/-- Behind its sign a number is read part by part. -/
theorem readNumber?_append (hs : IsSign sign negative) (hplus : sign ≠ ['+'])
    (hr : sign = [] → ∀ c ∈ rest.head?, c ≠ '-') : readNumber? (sign ++ rest) = do
      let (whole, cs) ← readWhole? rest
      let (fraction, cs) ← readFraction? cs
      let (exponent, cs) ← readExponent? cs
      let numeral := { whole, fraction, exponent := exponent.getD 0 }
      return ({ negative, numeral, isInteger := fraction = [] && exponent.isNone }, cs) := by
  cases hs with
  | minus => rfl
  | plus => exact absurd rfl hplus
  | absent =>
    rw [List.nil_append, readNumber?]
    rintro rest rfl
    exact hr rfl '-' rfl rfl

theorem exists_minus (cs : List Char) : ∃ sign negative rest, IsSign sign negative ∧
    sign ≠ ['+'] ∧ (sign = [] → ∀ c ∈ rest.head?, c ≠ '-') ∧ cs = sign ++ rest := by
  by_cases h : cs.head? = some '-'
  · obtain ⟨rest, rfl⟩ := List.head?_eq_some_iff.1 h
    exact ⟨['-'], true, rest, .minus, by decide, by simp, rfl⟩
  · exact ⟨[], false, cs, .absent, by simp, fun _ c hc he => h (he ▸ hc), rfl⟩

theorem isInteger_eq (hfraction : IsFraction point fraction) (hpoint : point ≠ ['.']) :
    decide (fraction = []) = decide (point = []) := by
  cases hfraction with
  | absent => rfl
  | point =>
    refine decide_eq_decide.2 (iff_of_false (fun h => hpoint ?_) (by simp))
    rw [h]

/-- **A number is read just where it is written.** -/
theorem readNumber?_eq_some_iff : readNumber? cs = some (token, []) ↔ IsNumber cs token := by
  constructor
  · intro h
    obtain ⟨sign, negative, rest, hs, hplus, hr, rfl⟩ := exists_minus cs
    rw [readNumber?_append hs hplus hr] at h
    obtain ⟨⟨whole, rest⟩, hreadWhole, h⟩ := Option.bind_eq_some_iff.1 h
    obtain ⟨⟨fraction, power⟩, hreadFraction, h⟩ := Option.bind_eq_some_iff.1 h
    obtain ⟨⟨exponent?, left⟩, hreadExponent, h⟩ := Option.bind_eq_some_iff.1 h
    obtain ⟨rfl, rfl⟩ := Prod.mk.inj (Option.some.inj h)
    obtain ⟨hwhole, rfl⟩ := isWhole_of_readWhole? hreadWhole
    obtain ⟨point, hfraction, hpoint, rfl⟩ := isFraction_of_readFraction? hreadFraction
    obtain ⟨hexponent, hnone⟩ := readExponent?_eq_some_iff.1 hreadExponent
    rw [isInteger_eq hfraction hpoint, hnone]
    exact .intro hs hplus hwhole hfraction hpoint hexponent
  · rintro @⟨sign, whole, point, fraction, power, negative, exponent, hs, hplus, hwhole, hfraction,
      hpoint, hexponent⟩
    have hhead : ∀ c ∈ (whole ++ (point ++ power)).head?, c ≠ '-' := by
      obtain ⟨c, digits, rfl⟩ := List.exists_cons_of_ne_nil hwhole.ne_nil
      rintro d ⟨⟩
      exact (Number.ne_sign_of_isDigit (hwhole.isDigit c List.mem_cons_self)).2
    let exponent? := if power = [] then none else some exponent
    have hreadExponent : readExponent? power = some (exponent?, []) := by
      rw [readExponent?_eq_some_iff]
      cases hexponent with
      | absent => exact ⟨.absent, rfl⟩
      | power he hz => exact ⟨.power he hz, rfl⟩
    have hexponent? : exponent?.getD 0 = exponent ∧ exponent?.isNone = decide (power = []) := by
      cases hexponent with
      | absent => exact ⟨rfl, rfl⟩
      | power he hz => exact ⟨rfl, rfl⟩
    rw [readNumber?_append hs hplus fun _ => hhead,
      readWhole?_append hwhole (Number.Numeral.head?_fraction hfraction hexponent)]
    simp [readFraction?_append hfraction hpoint (Number.Numeral.head?_exponent hexponent),
      hreadExponent, hexponent?, isInteger_eq hfraction hpoint]

theorem IsNumber.isNumeral (h : IsNumber cs token) : ∃ sign rest,
    cs = sign ++ rest ∧ IsSign sign token.negative ∧ IsNumeral rest token.numeral := by
  obtain ⟨hs, -, hwhole, hfraction, -, hexponent⟩ := h
  exact ⟨_, _, rfl, hs, .intro hwhole.isDigit hfraction hexponent fun h => hwhole.ne_nil h.1⟩

theorem IsNumber.exists_head (h : IsNumber cs token) :
    ∃ c rest, cs = c :: rest ∧ (c = '-' ∨ c.isDigit) := by
  obtain ⟨hs, hplus, hwhole, -, -, -⟩ := h
  obtain ⟨c, digits, rfl⟩ := List.exists_cons_of_ne_nil hwhole.ne_nil
  cases hs with
  | plus => exact absurd rfl hplus
  | minus => exact ⟨_, _, rfl, .inl rfl⟩
  | absent => exact ⟨_, _, rfl, .inr (hwhole.isDigit c List.mem_cons_self)⟩

/-! ## Texts of JSON -/

theorem Tree.readValue?_number (h : IsNumber cs token) (fuel : Nat) :
    readValue? (fuel + 1) cs = some (.number token, []) := by
  obtain ⟨c, rest, rfl, hc⟩ := h.exists_head
  have hne (d : Char) (hsign : d ≠ '-') (hdigit : ¬ d.isDigit) : c ≠ d := by
    rintro rfl
    exact hc.elim hsign hdigit
  have hspace : ¬ isSpace c = true := by
    simp [isSpace, hne ' ' (by decide) (by decide), hne '\n' (by decide) (by decide),
      hne '\t' (by decide) (by decide), hne '\r' (by decide) (by decide)]
  rw [readValue?, skipSpace, List.dropWhile_cons_of_neg hspace]
  split
  case h_7 =>
    rw [readNumber?_eq_some_iff.2 h]
    rfl
  all_goals
    next heq => exact absurd (List.cons.inj heq).1 (hne _ (by decide) (by decide))

theorem Value.read?_number {t : String} (h : IsNumber t.toList token) :
    Value.read? t = (Number.ofToken? token).map .number := by
  rw [Value.read?, Tree.read?, Tree.readList?]
  simp only [Tree.readValue?_number h]
  rfl

/-- The literal of a text that is written as it is. -/
def quoted (t : String) : String := "\"" ++ t ++ "\""

/-- No character is half of a surrogate pair. -/
theorem isHigh_toNat (c : Char) : isHigh c.toNat = false ∧ isLow c.toNat = false := by
  have hvalid : c.toNat < 0xD800 ∨ 0xDFFF < c.toNat ∧ c.toNat < 0x110000 := c.valid
  simp only [isHigh, isLow, Bool.and_eq_false_iff, decide_eq_false_iff_not]
  omega

theorem charsOf?_map_toNat : ∀ cs : List Char, charsOf? (cs.map Char.toNat) = some cs
  | [] => rfl
  | [c] => by simp [charsOf?, isHigh_toNat]
  | c :: d :: cs => by
    have ih := charsOf?_map_toNat (d :: cs)
    rw [List.map_cons] at ih
    rw [List.map_cons, List.map_cons, charsOf?]
    simp [isHigh_toNat, ih]

theorem readText?_append (h : ∀ c ∈ cs, 0x20 ≤ c.toNat ∧ c ≠ '"' ∧ c ≠ '\\') (rest : List Char) :
    readText? (cs ++ '"' :: rest) = some (cs.map Char.toNat, rest) := by
  induction cs with
  | nil => rfl
  | cons c cs ih =>
    obtain ⟨⟨hcode, hquote, hbackslash⟩, hcs⟩ := List.forall_mem_cons.1 h
    rw [List.cons_append, readText?]
    · simp [ih hcs, hcode, hbackslash, guard]
    exacts [hquote, fun _ _ _ _ _ h => absurd h hbackslash, fun _ _ h => absurd h hbackslash]

theorem Tree.readValue?_quoted (h : ∀ c ∈ cs, 0x20 ≤ c.toNat ∧ c ≠ '"' ∧ c ≠ '\\') (fuel : Nat) :
    readValue? (fuel + 1) ('"' :: (cs ++ ['"'])) = some (.string (some (.ofList cs)), []) := by
  have hspace : ¬ isSpace '"' = true := by decide
  rw [readValue?, skipSpace, List.dropWhile_cons_of_neg hspace]
  change (readText? (cs ++ ['"'])).map _ = _
  have htext : textOf? (cs.map Char.toNat) = some (.ofList cs) := by
    rw [textOf?, charsOf?_map_toNat]
    rfl
  rw [readText?_append h, ← htext]
  rfl

/-- A text without quotes, backslashes and control characters is the value of its literal. -/
theorem Value.read?_quoted {t : String}
    (h : ∀ c ∈ t.toList, 0x20 ≤ c.toNat ∧ c ≠ '"' ∧ c ≠ '\\') :
    Value.read? (quoted t) = some (.string t) := by
  have hlist : (quoted t).toList = '"' :: (t.toList ++ ['"']) := by
    rw [quoted, String.toList_append, String.toList_append]
    rfl
  rw [Value.read?, Tree.read?, Tree.readList?, hlist]
  simp only [Tree.readValue?_quoted h, String.ofList_toList]
  rfl

end MarketQuery.Json
