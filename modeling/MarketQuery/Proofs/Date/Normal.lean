import MarketQuery.Proofs.Date.Spelling

/-!
# Dates without dashes

A date is written without dashes. That is eight digits for the years that have four of them; years
before these and after them are written with a sign, and what is so written is no date to read.

* `IsEightDigits`: the text is eight digits;
* `Date.isEightDigits_compact`, `Date.exists_signed`: how the days of a year are written;
* **`Catalog.readDate_normal`**: a date that is taken is in eight digits and taken again just if its
  year has four digits at most and no minus.
-/

namespace MarketQuery

open Number Text

/-- The text is eight digits. -/
def IsEightDigits (s : String) : Prop := s.toList.length = 8 ∧ ∀ c ∈ s.toList, c.isDigit

namespace Date

variable {d : Date}

/-! ## Years of four digits -/

theorem exists_spelling (h : d.InCalendar) (hl : 0 ≤ d.year) (hu : d.year ≤ 9999) :
    ∃ s : Spelling, s.date = d := by
  obtain ⟨-, hmonth, -, hday⟩ := h.bounds
  refine ⟨{
    year := padded 4 d.year.toNat
    month := padded 2 d.month
    day := padded 2 d.day
    digits_year := isDigit_of_mem_padded 4 _
    digits_month := isDigit_of_mem_padded 2 _
    digits_day := isDigit_of_mem_padded 2 _
    length_year := length_padded (by decide) (by omega)
    length_month := length_padded (by decide) (by omega)
    length_day := length_padded (by decide) (by omega) }, ?_⟩
  simp only [Spelling.date, placeValue_padded, Int.toNat_of_nonneg hl]

theorem isEightDigits_compact (s : Spelling) : IsEightDigits s.date.compact := by
  rw [s.compact_date, IsEightDigits, String.toList_ofList]
  exact ⟨s.length_written, s.digits_written⟩

/-! ## Other years -/

/-- Other years have a sign. -/
theorem exists_signed (h : ¬ (0 ≤ d.year ∧ d.year ≤ 9999)) :
    ∃ sign digits, (sign = '-' ∨ sign = '+') ∧ digits ≠ [] ∧ (∀ c ∈ digits, c.isDigit) ∧
      d.compact = .ofList (sign :: digits) := by
  have hsign : ∃ sign, (sign = '-' ∨ sign = '+') ∧ yearSign d.year = [sign] := by
    unfold yearSign
    by_cases hneg : d.year < 0
    · exact ⟨'-', .inl rfl, by rw [if_pos hneg]⟩
    · exact ⟨'+', .inr rfl, by rw [if_neg hneg, if_neg (by omega)]⟩
  obtain ⟨sign, hsign, hyear⟩ := hsign
  refine ⟨sign, padded 4 d.year.natAbs ++ padded 2 d.month ++ padded 2 d.day, hsign, ?_, ?_, ?_⟩
  · intro hnil
    have hday : padded 2 d.day = [] := (List.append_eq_nil_iff.1 hnil).2
    exact absurd (List.append_eq_nil_iff.1 hday).2 Nat.toDigits_ne_nil
  · simp only [List.mem_append]
    rintro c ((hc | hc) | hc) <;> exact isDigit_of_mem_padded _ _ c hc
  · rw [compact, hyear, List.singleton_append, List.cons_append, List.cons_append]

theorem trimList_signed {sign : Char} {digits : List Char} (hsign : sign = '-' ∨ sign = '+')
    (hne : digits ≠ []) (hd : ∀ c ∈ digits, c.isDigit) :
    trimList (sign :: digits) = sign :: digits := by
  refine trimList_eq_self (List.cons_ne_nil _ _) ?_ ?_
  · rcases hsign with rfl | rfl <;> (rintro c ⟨⟩; decide)
  · intro c hc
    rw [List.getLast?_cons_of_ne_nil hne] at hc
    exact isBlank_of_isDigit (hd c (List.mem_of_mem_getLast? hc))

end Date

namespace Catalog

open Date

variable {name text date : String}

/-- **A date that is taken is written in eight digits just if its year has four digits at most and
no minus**, and just then it is taken again and stays what it is. A date that does not start with a
sign is always of that kind; from a year with a sign a text may come that is no date. -/
theorem readDate_normal (h : readDate name text = .ok date) :
    (∃ d : Date, read? (trimList text.toList) = some d ∧ d.InCalendar ∧ date = d.compact ∧
      (IsEightDigits date ↔ 0 ≤ d.year ∧ d.year ≤ 9999)) ∧
    (IsEightDigits date ↔ readDate name date = .ok date) ∧
    (¬ IsEightDigits date → ∃ fault, readDate name date = .error fault) ∧
    ((∀ c ∈ (trimList text.toList).head?, c ≠ '+' ∧ c ≠ '-') → IsEightDigits date) := by
  obtain ⟨d, hread, rfl⟩ := readDate_eq_ok_iff.1 h
  have hday : d.InCalendar := (exists_iff.1 (read?_eq_some hread).1).2.2
  by_cases hyear : 0 ≤ d.year ∧ d.year ≤ 9999
  · obtain ⟨s, rfl⟩ := exists_spelling hday hyear.1 hyear.2
    have hdigits := isEightDigits_compact s
    have hagain : readDate name s.date.compact = .ok s.date.compact := by
      have h : readDate name (.ofList ([] ++ s.written [] ++ [])) = .ok (.ofList (s.written [])) :=
        readDate_of_exists (s.exists_date_iff.2 hday) (by simp) (by simp) (by simp) name
      rwa [List.nil_append, List.append_nil, ← s.compact_date] at h
    exact ⟨⟨_, hread, hday, rfl, iff_of_true hdigits hyear⟩, iff_of_true hdigits hagain,
      fun h => absurd hdigits h, fun _ => hdigits⟩
  · obtain ⟨sign, digits, hsign, hne, hd, hcompact⟩ := exists_signed hyear
    have hdigits : ¬ IsEightDigits d.compact := by
      rintro ⟨-, hall⟩
      rw [hcompact, String.toList_ofList] at hall
      have := hall sign List.mem_cons_self
      rcases hsign with rfl | rfl <;> exact absurd this (by decide)
    have hagain : readDate name d.compact = .error (.date name (trim d.compact)) := by
      refine readDate_eq_error_iff.2 ⟨?_, rfl⟩
      rw [hcompact, String.toList_ofList, trimList_signed hsign hne hd, read?_signed hsign hd hne]
    refine ⟨⟨d, hread, hday, rfl, iff_of_false hdigits hyear⟩, iff_of_false hdigits ?_,
      fun _ => ⟨_, hagain⟩, fun hunsigned => ?_⟩
    · rw [hagain]
      nofun
    · exact absurd (year_bounds (isBlank_head_trimList _) hunsigned hread) hyear

theorem readDate_normal_short :
    readDate "end_date" " 24- 3-5" = .ok "00240305" ∧
      readDate "end_date" "00240305" = .ok "00240305" ∧ IsEightDigits "00240305" := by
  have h : readDate "end_date" " 24- 3-5" = .ok "00240305" := by decide +kernel
  obtain ⟨-, hagain, -, hdigits⟩ := readDate_normal h
  have hhead : (trimList " 24- 3-5".toList).head? = some '2' := by decide +kernel
  have height : IsEightDigits "00240305" := hdigits fun c hc => by
    rw [hhead] at hc
    obtain rfl := Option.some.inj hc
    decide
  exact ⟨h, hagain.1 height, height⟩

/-- A date beyond the years of four digits is taken, but what is made of it is no date. -/
theorem readDate_not_normal :
    readDate "start_date" "+12345-6-7" = .ok "+123450607" ∧ ¬ IsEightDigits "+123450607" ∧
      readDate "start_date" "+123450607" = .error (.date "start_date" "+123450607") := by
  refine ⟨by decide +kernel, ?_, by decide +kernel⟩
  rintro ⟨hlength, -⟩
  exact absurd hlength (by decide +kernel)

end Catalog

end MarketQuery
