import Mathlib.Algebra.Order.Ring.Int
import Mathlib.Logic.Function.Iterate
import MarketQuery.Date

/-!
# The calendar

* `Date.InCalendar`: the days of the Gregorian calendar, month by month;
* `Date.exists_iff`: the days that can be reckoned with are those of the years that can be;
* `Date.next`, `Date.Before`: the day after a day, and the days that come on from it;
* `Date.number`: year, month and day in one number; `Date.before_iff`: days follow one another in
  the order of their numbers.
-/

namespace MarketQuery

/-! ## Lengths of months -/

/-- The months of 31 days. -/
def longMonths : List Nat := [1, 3, 5, 7, 8, 10, 12]

/-- The months of 30 days. -/
def shortMonths : List Nat := [4, 6, 9, 11]

theorem isLeapYear_iff {year : Int} :
    isLeapYear year = true ↔ 4 ∣ year ∧ (100 ∣ year → 400 ∣ year) := by
  simp only [isLeapYear, Bool.and_eq_true, Bool.or_eq_true, decide_eq_true_eq]
  omega

variable {year : Int} {month : Nat}

theorem monthLength_long (h : month ∈ longMonths) : monthLength year month = 31 := by
  simp only [longMonths, List.mem_cons, List.not_mem_nil, or_false] at h
  rcases h with rfl | rfl | rfl | rfl | rfl | rfl | rfl <;> rfl

theorem monthLength_short (h : month ∈ shortMonths) : monthLength year month = 30 := by
  simp only [shortMonths, List.mem_cons, List.not_mem_nil, or_false] at h
  rcases h with rfl | rfl | rfl | rfl <;> rfl

theorem monthLength_february (year : Int) :
    monthLength year 2 = if 4 ∣ year ∧ (100 ∣ year → 400 ∣ year) then 29 else 28 := by
  simp only [monthLength, isLeapYear_iff]

theorem month_cases_iff :
    month ∈ longMonths ∨ month ∈ shortMonths ∨ month = 2 ↔ 1 ≤ month ∧ month ≤ 12 := by
  simp only [longMonths, shortMonths, List.mem_cons, List.not_mem_nil, or_false]
  omega

/-- Only the months of a year have days. -/
theorem month_cases (h : 0 < monthLength year month) :
    month ∈ longMonths ∨ month ∈ shortMonths ∨ month = 2 := by
  unfold monthLength at h
  split at h
  case h_12 => exact .inr (.inr rfl)
  case h_13 => exact absurd h (lt_irrefl 0)
  all_goals simp [longMonths, shortMonths]

theorem monthLength_bounds (year : Int) (hl : 1 ≤ month) (hu : month ≤ 12) :
    1 ≤ monthLength year month ∧ monthLength year month ≤ 31 := by
  rcases month_cases_iff.2 ⟨hl, hu⟩ with h | h | rfl
  · rw [monthLength_long h]
    decide
  · rw [monthLength_short h]
    decide
  · rw [monthLength_february]
    split <;> decide

namespace Date

/-- A day of the Gregorian calendar, carried on before its adoption. Every fourth year has a 29th of
February, but of the years of full hundreds only every fourth. -/
inductive InCalendar : Date → Prop
  | long {year : Int} {month day : Nat} (hmonth : month ∈ longMonths) (hl : 1 ≤ day)
      (hu : day ≤ 31) : InCalendar ⟨year, month, day⟩
  | short {year : Int} {month day : Nat} (hmonth : month ∈ shortMonths) (hl : 1 ≤ day)
      (hu : day ≤ 30) : InCalendar ⟨year, month, day⟩
  | february {year : Int} {day : Nat} (hl : 1 ≤ day) (hu : day ≤ 28) : InCalendar ⟨year, 2, day⟩
  | leapDay {year : Int} (hfour : 4 ∣ year) (hhundred : 100 ∣ year → 400 ∣ year) :
      InCalendar ⟨year, 2, 29⟩

variable {d e : Date}

theorem inCalendar_iff : d.InCalendar ↔ 1 ≤ d.day ∧ d.day ≤ monthLength d.year d.month := by
  constructor
  · intro h
    cases h with
    | long hmonth hl hu => exact ⟨hl, (monthLength_long hmonth).symm ▸ hu⟩
    | short hmonth hl hu => exact ⟨hl, (monthLength_short hmonth).symm ▸ hu⟩
    | @february year day hl hu =>
      refine ⟨hl, hu.trans ?_⟩
      rw [monthLength_february]
      split <;> decide
    | leapDay hfour hhundred =>
      refine ⟨show 1 ≤ 29 by decide, ?_⟩
      rw [monthLength_february, if_pos ⟨hfour, hhundred⟩]
  · obtain ⟨year, month, day⟩ := d
    rintro ⟨hl, hu⟩
    rcases month_cases (Nat.lt_of_lt_of_le hl hu) with hmonth | hmonth | rfl
    · exact .long hmonth hl (monthLength_long hmonth ▸ hu)
    · exact .short hmonth hl (monthLength_short hmonth ▸ hu)
    · dsimp only at hl hu
      rw [monthLength_february] at hu
      split at hu
      case isTrue hleap =>
        by_cases hday : day = 29
        · subst hday
          exact .leapDay hleap.1 hleap.2
        · exact .february hl (by omega)
      case isFalse => exact .february hl hu

theorem exists_iff : d.Exists ↔ minYear ≤ d.year ∧ d.year ≤ maxYear ∧ d.InCalendar := by
  rw [inCalendar_iff]
  rfl

/-! ## The order of days -/

/-- The day after. -/
def next (d : Date) : Date :=
  if d.day < monthLength d.year d.month then { d with day := d.day + 1 }
  else if d.month < 12 then ⟨d.year, d.month + 1, 1⟩
  else ⟨d.year + 1, 1, 1⟩

/-- A day is reached from another one by going on from day to day. -/
def Before (d e : Date) : Prop := ∃ n, 0 < n ∧ next^[n] d = e

/-- Year, month and day in one number, two digits for the month and two for the day. -/
def number (d : Date) : Int := (d.year * 100 + d.month) * 100 + d.day

/-- Two digits hold the month and the day. -/
theorem InCalendar.bounds (h : d.InCalendar) :
    1 ≤ d.month ∧ d.month ≤ 12 ∧ 1 ≤ d.day ∧ d.day ≤ 31 := by
  obtain ⟨hl, hu⟩ := inCalendar_iff.1 h
  obtain ⟨hmonth, hmonth'⟩ := month_cases_iff.1 (month_cases (Nat.lt_of_lt_of_le hl hu))
  have := (monthLength_bounds d.year hmonth hmonth').2
  omega

theorem InCalendar.eq_of_number_eq (hd : d.InCalendar) (he : e.InCalendar)
    (h : d.number = e.number) : d = e := by
  have hdb := hd.bounds
  have heb := he.bounds
  obtain ⟨year, month, day⟩ := d
  obtain ⟨year', month', day'⟩ := e
  simp only [number] at h hdb heb
  obtain rfl : year = year' := by omega
  obtain rfl : month = month' := by omega
  obtain rfl : day = day' := by omega
  rfl

theorem InCalendar.next (h : d.InCalendar) : d.next.InCalendar := by
  obtain ⟨hmonth, hmonth', hday, -⟩ := h.bounds
  unfold Date.next
  split
  case isTrue hlt => exact inCalendar_iff.2 ⟨by simp, hlt⟩
  case isFalse =>
    split
    case isTrue hlt =>
      exact inCalendar_iff.2 ⟨le_rfl, (monthLength_bounds _ (by simp) hlt).1⟩
    case isFalse =>
      exact inCalendar_iff.2 ⟨le_rfl, (monthLength_bounds _ le_rfl (show 1 ≤ 12 by decide)).1⟩

theorem number_lt_next (h : d.InCalendar) : d.number < d.next.number := by
  obtain ⟨hmonth, hmonth', hday, hday'⟩ := h.bounds
  unfold next
  split
  case isTrue =>
    simp only [number]
    omega
  case isFalse => split <;> simp only [number] <;> omega

/-- No day comes between a day and the next one. -/
theorem next_number_le (hd : d.InCalendar) (he : e.InCalendar) (h : d.number < e.number) :
    d.next.number ≤ e.number := by
  have hdb := hd.bounds
  have heb := he.bounds
  simp only [number] at h
  unfold next
  split
  case isTrue =>
    simp only [number]
    omega
  case isFalse hfull =>
    -- No day is left in the month, so the later one is in another month.
    have hother : ¬ (d.year = e.year ∧ d.month = e.month) := by
      rintro ⟨hyear, hmonth⟩
      have hlast := (inCalendar_iff.1 he).2
      rw [← hyear, ← hmonth] at hlast
      omega
    split <;> simp only [number] <;> omega

theorem inCalendar_iterate_next (h : d.InCalendar) (n : Nat) : (next^[n] d).InCalendar := by
  induction n with
  | zero => exact h
  | succ n ih =>
    rw [Function.iterate_succ_apply']
    exact ih.next

theorem number_lt_iterate_next (h : d.InCalendar) {n : Nat} (hn : 0 < n) :
    d.number < (next^[n] d).number := by
  induction n with
  | zero => exact absurd hn (lt_irrefl 0)
  | succ n ih =>
    rw [Function.iterate_succ_apply']
    have hstep := number_lt_next (inCalendar_iterate_next h n)
    rcases Nat.eq_zero_or_pos n with rfl | hpos
    · exact hstep
    · exact (ih hpos).trans hstep

theorem before_of_number_lt (hd : d.InCalendar) (he : e.InCalendar) (h : d.number < e.number) :
    d.Before e := by
  -- Every step brings the number nearer to that of the later day and never beyond.
  induction hgap : (e.number - d.number).toNat using Nat.strongRecOn generalizing d with
  | _ gap ih =>
    have hstep := number_lt_next hd
    rcases (next_number_le hd he h).lt_or_eq with hlt | heq
    · obtain ⟨n, -, hn⟩ := ih _ (by omega) hd.next hlt rfl
      exact ⟨n + 1, n.succ_pos, hn⟩
    · exact ⟨1, Nat.one_pos, hd.next.eq_of_number_eq he heq⟩

/-- Days follow one another in the order of their numbers. -/
theorem before_iff (hd : d.InCalendar) (he : e.InCalendar) :
    d.Before e ↔ d.number < e.number := by
  constructor
  · rintro ⟨n, hn, rfl⟩
    exact number_lt_iterate_next hd hn
  · exact before_of_number_lt hd he

end Date

end MarketQuery
