import MarketQuery.Catalog.Bars
import MarketQuery.Proofs.Date.Calendar
import MarketQuery.Proofs.Date.Reading

/-!
# Dates in eight digits

A date may be spelled with four digits for the year, two for the month and two for the day, with
dashes between them or without.

* `Date.Spelling`: such digits; `Date.Spelling.date`, `Date.Spelling.written`: the date that they
  name, and the digits with a separator between them;
* `Date.Spelling.read?_written`: with dashes or without, they are read just if the day exists;
* `Date.Spelling.compact_date`: the date is written back with the same digits;
* `Date.Spelling.lt_iff_before`: digits are in the order of the days;
* **`Catalog.readDate_spelling`**: all of this for an argument that is a date.
-/

namespace MarketQuery

open Number Text

namespace Date

/-- Four digits for a year, two for a month and two for a day. -/
structure Spelling where
  year : List Char
  month : List Char
  day : List Char
  digits_year : ∀ c ∈ year, c.isDigit
  digits_month : ∀ c ∈ month, c.isDigit
  digits_day : ∀ c ∈ day, c.isDigit
  length_year : year.length = 4
  length_month : month.length = 2
  length_day : day.length = 2

namespace Spelling

variable (s s' : Spelling) {separator : List Char}

/-- The date that digits name, if there is such a day. -/
def date : Date := ⟨placeValue s.year, placeValue s.month, placeValue s.day⟩

/-- The digits with a separator between year, month and day. -/
def written (separator : List Char) : List Char :=
  s.year ++ (separator ++ (s.month ++ (separator ++ s.day)))

theorem year_lt : placeValue s.year < 10 ^ 4 := by
  have h := placeValue_lt s.digits_year
  rwa [s.length_year] at h

theorem exists_date_iff : s.date.Exists ↔ s.date.InCalendar := by
  have hyear := s.year_lt
  rw [exists_iff, minYear, maxYear]
  change -262143 ≤ (placeValue s.year : Int) ∧ (placeValue s.year : Int) ≤ 262142 ∧ _ ↔ _
  exact ⟨fun h => h.2.2, fun h => ⟨by omega, by omega, h⟩⟩

/-! ## Reading -/

theorem readWith?_written (separator : List Char) :
    readWith? separator (s.written separator) = if s.date.Exists then some s.date else none := by
  have hday : readPart? 2 s.day = some (placeValue s.day, []) := by
    have h : readPart? 2 (s.day ++ []) = some (placeValue s.day, []) :=
      readPart?_append s.digits_day s.length_day
    rwa [List.append_nil] at h
  rw [written, readWith?, readYear?_append s.digits_year s.length_year]
  simp only [Option.bind_eq_bind, Option.bind_some, readSeparator?_append,
    readPart?_append s.digits_month s.length_month, hday]
  change ((guard (True ∧ s.date.Exists) : Option Unit).bind fun _ => some s.date) = _
  simp only [true_and, guard]
  split <;> rfl

theorem exists_month_eq : ∃ c cs, s.month = c :: cs ∧ c.isDigit = true := by
  obtain ⟨c, cs, hcs⟩ :=
    List.exists_cons_of_ne_nil (List.ne_nil_of_length_eq_add_one s.length_month)
  exact ⟨c, cs, hcs, s.digits_month c (hcs ▸ List.mem_cons_self)⟩

/-- Without a dash behind the year there is none to read. -/
theorem readWith?_dash_written : readWith? ['-'] (s.written []) = none := by
  refine readWith?_eq_none (readYear?_append s.digits_year s.length_year) fun rest hrest => ?_
  obtain ⟨c, cs, hmonth, hc⟩ := s.exists_month_eq
  have hdash : c ≠ '-' := by
    rintro rfl
    exact absurd hc (by decide)
  rw [hmonth, readSeparator?, if_neg] at hrest
  · cases hrest
  · simpa using hdash.symm

/-- A dash is no month. -/
theorem readWith?_written_dash : readWith? [] (s.written ['-']) = none := by
  refine readWith?_eq_none (readYear?_append s.digits_year s.length_year) fun rest hrest => ?_
  obtain rfl := Option.some.inj hrest
  exact readPart?_eq_none (by rintro c ⟨⟩; decide) (by rintro c ⟨⟩; decide)

theorem read?_written (h : separator ∈ [[], ['-']]) :
    read? (s.written separator) = if s.date.Exists then some s.date else none := by
  rcases List.mem_pair.1 h with rfl | rfl
  · rw [read?, readWith?_written, readWith?_dash_written]
    split <;> rfl
  · rw [read?, readWith?_written_dash, readWith?_written]
    rfl

/-! ## Writing -/

theorem padded_placeValue {count : Nat} {digits : List Char} (hd : ∀ c ∈ digits, c.isDigit)
    (hlength : digits.length = count) (hcount : 0 < count) :
    padded count (placeValue digits) = digits := by
  have hlt : placeValue digits < 10 ^ count := hlength ▸ placeValue_lt hd
  exact eq_of_placeValue_eq (isDigit_of_mem_padded count _) hd
    ((length_padded hcount hlt).trans hlength.symm) (placeValue_padded count _)

theorem compact_date : s.date.compact = .ofList (s.written []) := by
  have hyear := s.year_lt
  have hsign : yearSign (placeValue s.year) = [] := by
    rw [yearSign, if_neg (by omega), if_pos (by omega)]
  simp [compact, date, written, hsign, padded_placeValue s.digits_year s.length_year,
    padded_placeValue s.digits_month s.length_month, padded_placeValue s.digits_day s.length_day]

/-! ## Order -/

theorem number_date : s.date.number = placeValue (s.written []) := by
  simp only [written, List.nil_append, placeValue_append, List.length_append, s.length_month,
    s.length_day, number, date]
  push_cast
  ring

theorem digits_written : ∀ c ∈ s.written [], c.isDigit := by
  simp only [written, List.nil_append, List.mem_append]
  rintro c (h | h | h)
  · exact s.digits_year c h
  · exact s.digits_month c h
  · exact s.digits_day c h

theorem length_written : (s.written []).length = 8 := by
  simp [written, s.length_year, s.length_month, s.length_day]

theorem lt_iff_before (h : s.date.InCalendar) (h' : s'.date.InCalendar) :
    String.ofList (s.written []) < String.ofList (s'.written []) ↔ s.date.Before s'.date := by
  rw [before_iff h h', number_date, number_date, String.lt_iff_toList_lt, String.toList_ofList,
    String.toList_ofList, lt_iff_placeValue_lt s.digits_written s'.digits_written
      (s.length_written.trans s'.length_written.symm), Nat.cast_lt]

end Spelling

end Date

/-! ## Arguments that are dates -/

namespace Catalog

open Date

variable {name text date : String} {fault : ArgumentFault}

theorem readDate_eq_ok_iff : readDate name text = .ok date ↔
    ∃ d, read? (trimList text.toList) = some d ∧ date = d.compact := by
  rw [readDate]
  cases read? (trimList text.toList) with
  | some d => simp [eq_comm]
  | none => simp

theorem readDate_eq_error_iff : readDate name text = .error fault ↔
    read? (trimList text.toList) = none ∧ fault = .date name (trim text) := by
  rw [readDate]
  cases read? (trimList text.toList) with
  | some d => simp
  | none => simp [trim, eq_comm]

variable {before after separator : List Char}

theorem trimList_spelling (s : Spelling) (hbefore : ∀ c ∈ before, isBlank c = true)
    (hafter : ∀ c ∈ after, isBlank c = true) :
    trimList (before ++ s.written separator ++ after) = s.written separator := by
  have hne : s.year ≠ [] := List.ne_nil_of_length_eq_add_one s.length_year
  have hday : s.day ≠ [] := List.ne_nil_of_length_eq_add_one s.length_day
  refine trimList_between hbefore hafter (List.append_ne_nil_of_left_ne_nil hne _) ?_ ?_
  · intro c hc
    rw [Spelling.written, List.head?_append_of_ne_nil _ hne] at hc
    exact isBlank_of_isDigit (s.digits_year c (List.mem_of_mem_head? hc))
  · intro c hc
    have hlast : (s.written separator).getLast? = s.day.getLast? := by
      simp [Spelling.written, List.getLast?_append, List.getLast?_eq_some_getLast hday]
    rw [hlast] at hc
    exact isBlank_of_isDigit (s.digits_day c (List.mem_of_mem_getLast? hc))

theorem read?_trimList_spelling (s : Spelling) (hbefore : ∀ c ∈ before, isBlank c = true)
    (hafter : ∀ c ∈ after, isBlank c = true) (hseparator : separator ∈ [[], ['-']]) :
    read? (trimList (String.ofList (before ++ s.written separator ++ after)).toList) =
      if s.date.Exists then some s.date else none := by
  rw [String.toList_ofList, trimList_spelling s hbefore hafter, s.read?_written hseparator]

theorem readDate_of_exists {s : Spelling} (h : s.date.Exists)
    (hbefore : ∀ c ∈ before, isBlank c = true) (hafter : ∀ c ∈ after, isBlank c = true)
    (hseparator : separator ∈ [[], ['-']]) (name : String) :
    readDate name (.ofList (before ++ s.written separator ++ after)) =
      .ok (.ofList (s.written [])) := by
  refine readDate_eq_ok_iff.2 ⟨s.date, ?_, s.compact_date.symm⟩
  rw [read?_trimList_spelling s hbefore hafter hseparator, if_pos h]

theorem readDate_of_not_exists {s : Spelling} (h : ¬ s.date.Exists)
    (hbefore : ∀ c ∈ before, isBlank c = true) (hafter : ∀ c ∈ after, isBlank c = true)
    (hseparator : separator ∈ [[], ['-']]) (name : String) :
    readDate name (.ofList (before ++ s.written separator ++ after)) =
      .error (.date name (.ofList (s.written separator))) := by
  refine readDate_eq_error_iff.2 ⟨?_, ?_⟩
  · rw [read?_trimList_spelling s hbefore hafter hseparator, if_neg h]
  · rw [trim, String.toList_ofList, trimList_spelling s hbefore hafter]

/-- **A date in eight digits is taken just if there is such a day**, with dashes or without them and
whatever blanks are around it, and is given back without dashes. Else the fault names the parameter
and what was found between the blanks. Of two such dates the one that comes first in the calendar is
the lesser text. -/
theorem readDate_spelling (s : Spelling) (hbefore : ∀ c ∈ before, isBlank c = true)
    (hafter : ∀ c ∈ after, isBlank c = true) (hseparator : separator ∈ [[], ['-']])
    (name : String) :
    let result := readDate name (.ofList (before ++ s.written separator ++ after))
    ((∃ date, result = .ok date) ↔ s.date.InCalendar) ∧
    (∀ date, result = .ok date → date = .ofList (s.written [])) ∧
    (∀ fault, result = .error fault →
      (Failure.argument fault).kind = "ValueError" ∧
      (Failure.argument fault).message = name ++ " must be a date like 20240101, got '" ++
        .ofList (s.written separator) ++ "'") ∧
    ∀ s' : Spelling, s.date.InCalendar → s'.date.InCalendar →
      (String.ofList (s.written []) < String.ofList (s'.written []) ↔ s.date.Before s'.date) := by
  intro result
  by_cases h : s.date.Exists
  · have hok : result = .ok (.ofList (s.written [])) :=
      readDate_of_exists h hbefore hafter hseparator name
    refine ⟨iff_of_true ⟨_, hok⟩ (s.exists_date_iff.1 h), ?_, ?_, fun s' => s.lt_iff_before s'⟩
    · intro date hdate
      exact Except.ok.inj (hdate.symm.trans hok)
    · intro fault hfault
      cases hfault.symm.trans hok
  · have herror : result = .error (.date name (.ofList (s.written separator))) :=
      readDate_of_not_exists h hbefore hafter hseparator name
    refine ⟨iff_of_false ?_ (s.exists_date_iff.not.1 h), ?_, ?_, fun s' => s.lt_iff_before s'⟩
    · rintro ⟨date, hdate⟩
      cases hdate.symm.trans herror
    · intro date hdate
      cases hdate.symm.trans herror
    · intro fault hfault
      obtain rfl := Except.error.inj (hfault.symm.trans herror)
      exact ⟨rfl, rfl⟩

/-- The 29th of February of a full hundred that is a leap year. -/
def leapDay : Spelling where
  year := ['2', '0', '0', '0']
  month := ['0', '2']
  day := ['2', '9']
  digits_year := List.all_eq_true.1 rfl
  digits_month := List.all_eq_true.1 rfl
  digits_day := List.all_eq_true.1 rfl
  length_year := rfl
  length_month := rfl
  length_day := rfl

theorem readDate_spelling_leapDay :
    (∀ c ∈ [' ', '\t'], isBlank c = true) ∧ (∀ c ∈ ['\u3000'], isBlank c = true) ∧
      ['-'] ∈ [[], ['-']] ∧ leapDay.date.InCalendar ∧
      readDate "start_date" " \t2000-02-29\u3000" = .ok "20000229" := by
  have hbefore : ∀ c ∈ [' ', '\t'], isBlank c = true := List.all_eq_true.1 (by decide)
  have hafter : ∀ c ∈ ['\u3000'], isBlank c = true := List.all_eq_true.1 (by decide)
  have hseparator : ['-'] ∈ [[], ['-']] := by decide
  have hday : leapDay.date.InCalendar := .leapDay (by decide) (fun _ => by decide)
  obtain ⟨htaken, hdate, -⟩ := readDate_spelling leapDay hbefore hafter hseparator "start_date"
  obtain ⟨date, hok⟩ := htaken.2 hday
  obtain rfl := hdate date hok
  exact ⟨hbefore, hafter, hseparator, hday, hok⟩

end Catalog

end MarketQuery
