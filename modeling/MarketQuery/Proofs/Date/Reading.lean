import MarketQuery.Date
import MarketQuery.Proofs.Number.Denoted
import MarketQuery.Proofs.Number.Places
import MarketQuery.Proofs.Text.Trim

/-!
# How dates are read and written

* `Date.readDigits?_append`, `Date.readPart?_append`, `Date.readYear?_append`: digits are read up to
  where they end or as many as are taken;
* `Date.readWith?_eq_some`: a date that is read is a day, with the year that was read first;
* `Date.year_bounds`: a year without a sign has four digits at most;
* `Date.isDigit_of_mem_padded`, `Date.placeValue_padded`, `Date.length_padded`: a number is written
  with a count of digits that have its value.
-/

namespace MarketQuery.Date

open Number Text

variable {limit : Nat} {digits rest cs : List Char}

/-! ## Digits -/

theorem takeWhile_take_eq_nil (h : ∀ c ∈ cs.head?, ¬ c.isDigit) (limit : Nat) :
    (cs.take limit).takeWhile Char.isDigit = [] := by
  cases limit with
  | zero => rfl
  | succ limit =>
    cases cs with
    | nil => rfl
    | cons c cs =>
      have hc : ¬ c.isDigit := h c rfl
      simp [hc]

theorem readDigits?_append (hne : digits ≠ []) (hd : ∀ c ∈ digits, c.isDigit)
    (hlength : digits.length ≤ limit)
    (hstop : digits.length = limit ∨ ∀ c ∈ rest.head?, ¬ c.isDigit) :
    readDigits? limit (digits ++ rest) = some (placeValue digits, rest) := by
  have hrest : (rest.take (limit - digits.length)).takeWhile Char.isDigit = [] := by
    rcases hstop with heq | hstop
    · rw [heq, Nat.sub_self]
      rfl
    · exact takeWhile_take_eq_nil hstop _
  have htaken : ((digits ++ rest).take limit).takeWhile Char.isDigit = digits := by
    rw [List.take_append, List.take_of_length_le hlength, List.takeWhile_append_of_pos hd, hrest,
      List.append_nil]
  obtain ⟨c, cs, rfl⟩ := List.exists_cons_of_ne_nil hne
  unfold readDigits?
  rw [htaken]
  simp only [List.drop_left, digitsValue_eq]

theorem readDigits?_eq_none (h : ∀ c ∈ cs.head?, ¬ c.isDigit) : readDigits? limit cs = none := by
  rw [readDigits?, takeWhile_take_eq_nil h]

theorem readDigits?_lt {n : Nat} (h : readDigits? limit cs = some (n, rest)) : n < 10 ^ limit := by
  unfold readDigits? at h
  split at h
  case h_1 => cases h
  case h_2 =>
    cases h
    have hd : ∀ c ∈ (cs.take limit).takeWhile Char.isDigit, c.isDigit :=
      fun c hc => List.mem_takeWhile_imp hc
    have hlength : ((cs.take limit).takeWhile Char.isDigit).length ≤ limit :=
      ((List.takeWhile_prefix _).length_le).trans (List.length_take_le _ _)
    rw [digitsValue_eq]
    exact (placeValue_lt hd).trans_le (Nat.pow_le_pow_right (by decide) hlength)

theorem dropWhile_isBlank_append (hne : digits ≠ []) (hd : ∀ c ∈ digits, c.isDigit)
    (rest : List Char) : (digits ++ rest).dropWhile isBlank = digits ++ rest := by
  obtain ⟨c, cs, rfl⟩ := List.exists_cons_of_ne_nil hne
  refine dropWhile_eq_self fun d hc => ?_
  obtain rfl := Option.some.inj hc
  exact isBlank_of_isDigit (hd _ List.mem_cons_self)

/-! ## Months and days -/

theorem readPart?_append (hd : ∀ c ∈ digits, c.isDigit) (hlength : digits.length = 2) :
    readPart? 2 (digits ++ rest) = some (placeValue digits, rest) := by
  have hne : digits ≠ [] := List.ne_nil_of_length_eq_add_one hlength
  rw [readPart?, dropWhile_isBlank_append hne hd]
  exact readDigits?_append hne hd hlength.le (.inl hlength)

theorem readPart?_eq_none (hblank : ∀ c ∈ cs.head?, isBlank c = false)
    (hdigit : ∀ c ∈ cs.head?, ¬ c.isDigit) : readPart? 2 cs = none := by
  rw [readPart?, dropWhile_eq_self hblank]
  exact readDigits?_eq_none hdigit

/-! ## Years -/

theorem readYear?_of_unsigned (hblank : ∀ c ∈ cs.head?, isBlank c = false)
    (hsign : ∀ c ∈ cs.head?, c ≠ '+' ∧ c ≠ '-') :
    readYear? cs = (readDigits? 4 cs).map fun (n, rest) => ((n : Int), rest) := by
  rw [readYear?, dropWhile_eq_self hblank]
  split
  · exact absurd rfl (hsign '-' rfl).2
  · exact absurd rfl (hsign '+' rfl).1
  · rfl

theorem readYear?_append (hd : ∀ c ∈ digits, c.isDigit) (hlength : digits.length = 4) :
    readYear? (digits ++ rest) = some ((placeValue digits : Int), rest) := by
  have hne : digits ≠ [] := List.ne_nil_of_length_eq_add_one hlength
  have hhead : ∀ c ∈ (digits ++ rest).head?, c.isDigit := by
    obtain ⟨c, cs, rfl⟩ := List.exists_cons_of_ne_nil hne
    rintro d ⟨⟩
    exact hd _ List.mem_cons_self
  rw [readYear?_of_unsigned (fun c hc => isBlank_of_isDigit (hhead c hc))
    fun c hc => ne_sign_of_isDigit (hhead c hc), readDigits?_append hne hd hlength.le
      (.inl hlength)]
  rfl

/-- All digits behind a sign belong to the year. -/
theorem readYear?_signed {sign : Char} (hsign : sign = '-' ∨ sign = '+')
    (hd : ∀ c ∈ digits, c.isDigit) (hne : digits ≠ []) :
    ∃ year, readYear? (sign :: digits) = some (year, []) := by
  have hread : readDigits? digits.length digits = some (placeValue digits, []) := by
    have h : readDigits? digits.length (digits ++ []) = some (placeValue digits, []) :=
      readDigits?_append hne hd le_rfl (.inl rfl)
    rwa [List.append_nil] at h
  have hblank : ∀ c ∈ (sign :: digits).head?, isBlank c = false := by
    rcases hsign with rfl | rfl <;> (rintro c ⟨⟩; decide)
  rw [readYear?, dropWhile_eq_self hblank]
  rcases hsign with rfl | rfl
  · exact ⟨_, congrArg (Option.map _) hread⟩
  · exact ⟨_, congrArg (Option.map _) hread⟩

/-! ## Whole dates -/

theorem readSeparator?_append (separator rest : List Char) :
    readSeparator? separator (separator ++ rest) = some rest := by
  have hprefix : separator.isPrefixOf (separator ++ rest) = true :=
    List.isPrefixOf_iff_prefix.2 (List.prefix_append _ _)
  rw [readSeparator?, if_pos hprefix, List.drop_left]

variable {separator : List Char} {d : Date}

/-- A date that is read is a day, with the year that was read first. -/
theorem readWith?_eq_some (h : readWith? separator cs = some d) :
    d.Exists ∧ ∃ rest, readYear? cs = some (d.year, rest) := by
  obtain ⟨⟨year, rest⟩, hyear, h⟩ := Option.bind_eq_some_iff.1 h
  obtain ⟨rest₁, -, h⟩ := Option.bind_eq_some_iff.1 h
  obtain ⟨⟨month, rest₂⟩, -, h⟩ := Option.bind_eq_some_iff.1 h
  obtain ⟨rest₃, -, h⟩ := Option.bind_eq_some_iff.1 h
  obtain ⟨⟨day, rest₄⟩, -, h⟩ := Option.bind_eq_some_iff.1 h
  obtain ⟨_, hguard, h⟩ := Option.bind_eq_some_iff.1 h
  obtain rfl := Option.some.inj h
  exact ⟨((Option.guard_eq_some' _).1 hguard).2, rest, hyear⟩

theorem read?_eq_some (h : read? cs = some d) :
    d.Exists ∧ ∃ rest, readYear? cs = some (d.year, rest) := by
  rcases (Option.orElse_eq_some _ _ _).1 h with h | ⟨-, h⟩
  · exact readWith?_eq_some h
  · exact readWith?_eq_some h

/-- A year without a sign has four digits at most. -/
theorem year_bounds (hblank : ∀ c ∈ cs.head?, isBlank c = false)
    (hsign : ∀ c ∈ cs.head?, c ≠ '+' ∧ c ≠ '-') (h : read? cs = some d) :
    0 ≤ d.year ∧ d.year ≤ 9999 := by
  obtain ⟨-, rest, hyear⟩ := read?_eq_some h
  rw [readYear?_of_unsigned hblank hsign] at hyear
  obtain ⟨⟨n, rest'⟩, hn, heq⟩ := Option.map_eq_some_iff.1 hyear
  obtain ⟨hn', -⟩ := Prod.mk.inj heq
  have hlt : n < 10 ^ 4 := readDigits?_lt hn
  omega

theorem readWith?_eq_none {year : Int} (hyear : readYear? cs = some (year, rest))
    (h : ∀ rest', readSeparator? separator rest = some rest' → readPart? 2 rest' = none) :
    readWith? separator cs = none := by
  simp only [readWith?, hyear, Option.bind_eq_bind, Option.bind_some]
  cases hrest : readSeparator? separator rest with
  | none => rfl
  | some rest' =>
    rw [Option.bind_some, h rest' hrest]
    rfl

/-- Behind a sign, digits alone are a year without a month. -/
theorem read?_signed {sign : Char} (hsign : sign = '-' ∨ sign = '+')
    (hd : ∀ c ∈ digits, c.isDigit) (hne : digits ≠ []) : read? (sign :: digits) = none := by
  obtain ⟨year, hyear⟩ := readYear?_signed hsign hd hne
  have hplain : readWith? [] (sign :: digits) = none := by
    refine readWith?_eq_none hyear fun rest' hrest => ?_
    obtain rfl := Option.some.inj hrest
    exact readPart?_eq_none (by simp) (by simp)
  have hdashed : readWith? ['-'] (sign :: digits) = none :=
    readWith?_eq_none hyear fun rest' hrest => by cases hrest
  rw [read?, hplain, hdashed]
  rfl

/-! ## Written numbers -/

theorem isDigit_of_mem_padded (count n : Nat) : ∀ c ∈ padded count n, c.isDigit := by
  intro c hc
  rcases List.mem_append.1 hc with hc | hc
  · rw [List.eq_of_mem_replicate hc]
    rfl
  · exact isDigit_of_mem_digitsOf n c hc

theorem placeValue_padded (count n : Nat) : placeValue (padded count n) = n := by
  rw [← digitsValue_eq, padded, digitsValue_replicate_append, digitsValue_digitsOf]

theorem length_padded {count n : Nat} (hcount : 0 < count) (hn : n < 10 ^ count) :
    (padded count n).length = count := by
  have hlength : (digitsOf n).length ≤ count := Nat.toDigits_length 10 n count hcount hn
  rw [padded, List.length_append, List.length_replicate]
  omega

end MarketQuery.Date
