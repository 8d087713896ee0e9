import Overseer.Time.Date

set_option autoImplicit false

namespace Overseer.Time.Date

-- Days before a year, up to the end of the cycle, where the last year is longer by a day.
def yearStart (y : Nat) : Nat := daysBeforeYear y + y / 400

-- A century that ends with a leap year is the last one of a cycle, and so are the last four years of it.
def yearLength (century four year : Nat) : Nat := if year = 3 ∧ (four < 24 ∨ century = 3) then 366 else 365

section Year

variable (century four year : Nat) (centuries : century < 4) (fours : four < 25) (years : year < 4)
include centuries fours years

theorem year_start : yearStart (100 * century + 4 * four + year) = 36524 * century + 1461 * four + 365 * year := by
  unfold yearStart daysBeforeYear
  omega

theorem year_end :
    yearStart (100 * century + 4 * four + year + 1) =
      36524 * century + 1461 * four + 365 * year + yearLength century four year := by
  unfold yearStart daysBeforeYear yearLength
  split <;> omega

-- What is taken from the days for leap years leaves 365 of them for each year.
theorem year_found (day : Nat) (inside : day < yearLength century four year) :
    yearOfCycle (36524 * century + 1461 * four + 365 * year + day) = 100 * century + 4 * four + year := by
  unfold yearLength at inside
  by_cases last : century = 3 ∧ four = 24 ∧ year = 3 ∧ day = 365
  · obtain ⟨rfl, rfl, rfl, rfl⟩ := last
    rfl
  · have whole : (36524 * century + 1461 * four + 365 * year + day) / 146096 = 0 := by
      split at inside <;> omega
    have hundreds : (36524 * century + 1461 * four + 365 * year + day) / 36524 = century := by
      split at inside <;> omega
    have leaps : (36524 * century + 1461 * four + 365 * year + day) / 1460 = 25 * century + four ∧ day < 365 ∨
        (36524 * century + 1461 * four + 365 * year + day) / 1460 = 25 * century + four + 1 ∧ 0 < day ∧ day < 366 := by
      split at inside <;> omega
    rw [yearOfCycle, whole, hundreds]
    rcases leaps with ⟨fourths, short⟩ | ⟨fourths, long⟩
    · rw [fourths]
      omega
    · rw [fourths]
      omega

end Year

theorem between_years (n y : Nat) (below : n < yearStart y) : ∃ x < y, yearStart x ≤ n ∧ n < yearStart (x + 1) := by
  induction y with
  | zero => cases below
  | succ y ih =>
      by_cases early : n < yearStart y
      · obtain ⟨x, less, found⟩ := ih early
        exact ⟨x, Nat.lt_succ_of_lt less, found⟩
      · exact ⟨y, Nat.lt_succ_self y, Nat.not_lt.mp early, below⟩

theorem year_of_cycle (n : Nat) (inside : n < 146097) :
    yearOfCycle n < 400 ∧ yearStart (yearOfCycle n) ≤ n ∧ n < yearStart (yearOfCycle n + 1) := by
  obtain ⟨y, below, after, before⟩ := between_years n 400 inside
  obtain ⟨century, four, year, centuries, fours, years, rfl⟩ :
      ∃ century four year, century < 4 ∧ four < 25 ∧ year < 4 ∧ y = 100 * century + 4 * four + year :=
    ⟨y / 100, y % 100 / 4, y % 4, by omega⟩
  have start := year_start century four year centuries fours years
  have stop := year_end century four year centuries fours years
  rw [start] at after
  rw [stop] at before
  obtain ⟨day, rfl⟩ := Nat.exists_eq_add_of_le after
  rw [year_found century four year centuries fours years day (by omega), start, stop]
  exact ⟨below, after, before⟩

theorem year_starts (x y : Nat) (le : x ≤ y) : yearStart x ≤ yearStart y := by
  induction le with
  | refl => exact Nat.le_refl _
  | step _ ih =>
      refine Nat.le_trans ih ?_
      unfold yearStart daysBeforeYear
      omega

theorem year_unique (n x y : Nat) (own : yearStart x ≤ n ∧ n < yearStart (x + 1)) (other : yearStart y ≤ n ∧ n < yearStart (y + 1)) :
    x = y := by
  rcases Nat.lt_trichotomy x y with less | same | more
  · have later := year_starts (x + 1) y less
    omega
  · exact same
  · have later := year_starts (y + 1) x more
    omega

-- A day in its cycle, its year and its month, each counted from 0, where years and months begin with March.
structure Parts (n cycles : Int) (year month day : Nat) : Prop where
  number : n + epochShift = cycles * cycle + (yearStart year + daysBeforeMonth month + day : Nat)
  inCycle : year < 400
  inYear : month < 12 ∧ yearStart year + daysBeforeMonth month + day < yearStart (year + 1)
  inMonth : daysBeforeMonth month + day < daysBeforeMonth (month + 1)
  date : ofDayNumber n =
    ⟨cycles * 400 + year + (if month < 10 then 0 else 1), if month < 10 then month + 3 else month - 9, day + 1⟩

theorem month_found (d : Nat) (inside : d < 366) :
    (5 * d + 2) / 153 < 12 ∧ daysBeforeMonth ((5 * d + 2) / 153) ≤ d ∧ d < daysBeforeMonth ((5 * d + 2) / 153 + 1) := by
  unfold daysBeforeMonth
  omega

theorem year_short (y : Nat) (inside : y < 400) : yearStart y = daysBeforeYear y ∧ yearStart (y + 1) ≤ daysBeforeYear y + 366 := by
  unfold yearStart daysBeforeYear
  omega

theorem date_of_parts (n cycles : Int) (year month day : Nat)
    (number : n + epochShift = cycles * cycle + (daysBeforeYear year + (daysBeforeMonth month + day) : Nat))
    (inCycle : daysBeforeYear year + (daysBeforeMonth month + day) < 146097)
    (inYear : yearOfCycle (daysBeforeYear year + (daysBeforeMonth month + day)) = year)
    (inMonth : (5 * (daysBeforeMonth month + day) + 2) / 153 = month) :
    ofDayNumber n =
      ⟨cycles * 400 + year + (if month < 10 then 0 else 1), if month < 10 then month + 3 else month - 9, day + 1⟩ := by
  have quotient : (n + epochShift) / cycle = cycles := by
    unfold cycle at *
    omega
  have remainder : ((n + epochShift) % cycle).toNat = daysBeforeYear year + (daysBeforeMonth month + day) := by
    unfold cycle at *
    omega
  simp only [ofDayNumber, quotient, remainder, inYear, inMonth, Nat.add_sub_cancel_left]

theorem parts_found {n cycles : Int} {year month day : Nat}
    (number : n + epochShift = cycles * cycle + (yearStart year + daysBeforeMonth month + day : Nat)) (inCycle : year < 400)
    (inYear : month < 12 ∧ yearStart year + daysBeforeMonth month + day < yearStart (year + 1))
    (inMonth : daysBeforeMonth month + day < daysBeforeMonth (month + 1)) : Parts n cycles year month day := by
  refine ⟨number, inCycle, inYear, inMonth, ?_⟩
  have start := (year_short year inCycle).1
  have whole : yearStart (year + 1) ≤ 146097 := year_starts (year + 1) 400 inCycle
  rw [Nat.add_assoc] at number inYear
  obtain ⟨-, found⟩ := year_of_cycle (yearStart year + (daysBeforeMonth month + day)) (by omega)
  have own := year_unique _ _ _ found ⟨Nat.le_add_right _ _, inYear.2⟩
  rw [start] at number own inYear
  refine date_of_parts n cycles year month day number (by omega) own ?_
  unfold daysBeforeMonth at inMonth ⊢
  omega

theorem parts (n : Int) : ∃ cycles year month day, Parts n cycles year month day := by
  have high : (n + epochShift) % cycle < 146097 := Int.emod_lt_of_pos _ (by decide)
  obtain ⟨inCycle, same⟩ := Int.eq_ofNat_of_zero_le (Int.emod_nonneg (n + epochShift) (b := cycle) (by decide))
  have number : n + epochShift = (n + epochShift) / cycle * cycle + inCycle := by
    rw [← same, Int.mul_comm, Int.mul_ediv_add_emod]
  rw [same] at high
  obtain ⟨year, below, after, before⟩ := between_years inCycle 400 (Int.ofNat_lt.mp high)
  obtain ⟨inYear, rfl⟩ := Nat.exists_eq_add_of_le after
  have short := year_short year below
  obtain ⟨months, later, sooner⟩ := month_found inYear (by omega)
  generalize (5 * inYear + 2) / 153 = month at months later sooner
  obtain ⟨day, rfl⟩ := Nat.exists_eq_add_of_le later
  rw [← Nat.add_assoc] at number before
  exact ⟨_, year, month, day, parts_found number below ⟨months, before⟩ sooner⟩

section Order

variable {n m cycles cycles' : Int} {year year' month month' day day' : Nat}

theorem parts_bounded (own : Parts n cycles year month day) :
    yearStart year + daysBeforeMonth month + day < 146097 ∧ day < 31 := by
  obtain ⟨-, inCycle, ⟨-, inYear⟩, inMonth, -⟩ := own
  have last := year_starts (year + 1) 400 inCycle
  have all : yearStart 400 = 146097 := rfl
  refine ⟨by omega, ?_⟩
  unfold daysBeforeMonth at inMonth
  omega

theorem parts_ordered (first : Parts n cycles year month day) (second : Parts m cycles' year' month' day') (less : n < m) :
    cycles < cycles' ∨ cycles = cycles' ∧
      (year < year' ∨ year = year' ∧ (month < month' ∨ month = month' ∧ day < day')) := by
  have bound := (parts_bounded first).1
  have bound' := (parts_bounded second).1
  obtain ⟨number, inCycle, ⟨-, inYear⟩, inMonth, -⟩ := first
  obtain ⟨number', inCycle', ⟨-, inYear'⟩, inMonth', -⟩ := second
  unfold cycle at number number'
  rcases Int.lt_trichotomy cycles cycles' with before | rfl | after
  · exact .inl before
  · refine .inr ⟨rfl, ?_⟩
    rcases Nat.lt_trichotomy year year' with before | rfl | after
    · exact .inl before
    · refine .inr ⟨rfl, ?_⟩
      rcases Nat.lt_trichotomy month month' with before | rfl | after
      · exact .inl before
      · exact .inr ⟨rfl, by omega⟩
      · have months : daysBeforeMonth (month' + 1) ≤ daysBeforeMonth month := by
          unfold daysBeforeMonth
          omega
        omega
    · have years := year_starts (year' + 1) year after
      omega
  · omega

end Order

def Before (a b : Date) : Prop :=
  a.year < b.year ∨ a.year = b.year ∧ (a.month < b.month ∨ a.month = b.month ∧ a.day < b.day)

theorem later_day (n m : Int) (less : n < m) : (ofDayNumber n).Before (ofDayNumber m) := by
  obtain ⟨cycles, year, month, day, own⟩ := parts n
  obtain ⟨cycles', year', month', day', own'⟩ := parts m
  have order := parts_ordered own own' less
  obtain ⟨-, inCycle, ⟨months, -⟩, -, date⟩ := own
  obtain ⟨-, inCycle', ⟨months', -⟩, -, date'⟩ := own'
  rw [date, date']
  unfold Before
  dsimp only
  split <;> split <;> omega

-- January and February belong to the year before.
theorem day_number_parts (cycles : Int) (year month day : Nat) (years : year < 400) (months : month < 12) :
    dayNumber ⟨cycles * 400 + year + (if month < 10 then 0 else 1), if month < 10 then month + 3 else month - 9, day + 1⟩ =
      cycles * cycle + (daysBeforeYear year + daysBeforeMonth month + day : Nat) - epochShift := by
  have quotient : (cycles * 400 + year) / 400 = cycles := by omega
  have remainder : ((cycles * 400 + year) % 400).toNat = year := by omega
  by_cases spring : month < 10
  · have late : ¬month + 3 ≤ 2 := by omega
    simp only [dayNumber, if_pos spring, if_neg late, Int.add_zero, Nat.add_sub_cancel, quotient, remainder]
  · have early : month - 9 ≤ 2 := by omega
    have back : month - 9 + 9 = month := by omega
    simp only [dayNumber, if_neg spring, if_pos early, Int.add_sub_cancel, Nat.add_sub_cancel, quotient, remainder, back]

theorem day_number (n : Int) : (ofDayNumber n).dayNumber = n := by
  obtain ⟨cycles, year, month, day, number, inCycle, ⟨months, -⟩, -, date⟩ := parts n
  rw [date, day_number_parts cycles year month day inCycle months, ← (year_short year inCycle).1, ← number,
    Int.add_sub_cancel]

theorem date_bounded (n : Int) :
    (1 ≤ (ofDayNumber n).month ∧ (ofDayNumber n).month ≤ 12) ∧ 1 ≤ (ofDayNumber n).day ∧ (ofDayNumber n).day ≤ 31 := by
  obtain ⟨cycles, year, month, day, own⟩ := parts n
  have days := (parts_bounded own).2
  have months := own.inYear.1
  rw [own.date]
  dsimp only
  refine ⟨?_, Nat.succ_pos day, days⟩
  split <;> omega

def IsLeapYear (year : Int) : Prop := year % 4 = 0 ∧ (year % 100 ≠ 0 ∨ year % 400 = 0)

instance : DecidablePred IsLeapYear := fun _ => inferInstanceAs (Decidable (_ ∧ _))

def monthLength (year : Int) (month : Nat) : Nat :=
  if month = 2 then if IsLeapYear year then 29 else 28 else if month ∈ [4, 6, 9, 11] then 30 else 31

def next (d : Date) : Date :=
  if d.day < monthLength d.year d.month then ⟨d.year, d.month, d.day + 1⟩
  else if d.month < 12 then ⟨d.year, d.month + 1, 1⟩
  else ⟨d.year + 1, 1, 1⟩

-- A cycle has whole leap years, so the rule can be told from the year in it.
theorem leap_in_cycle (cycles : Int) (year : Nat) :
    IsLeapYear (cycles * 400 + year + 1) ↔ 4 ∣ year + 1 ∧ (¬100 ∣ year + 1 ∨ 400 ∣ year + 1) := by
  unfold IsLeapYear
  omega

theorem year_length (cycles : Int) (year : Nat) :
    yearStart (year + 1) = yearStart year + if IsLeapYear (cycles * 400 + year + 1) then 366 else 365 := by
  have fewer : year / 100 ≤ year := Nat.div_le_self year 100
  have fours : 100 ∣ year + 1 → 4 ∣ year + 1 := Nat.dvd_trans (by decide)
  have hundreds : 400 ∣ year + 1 → 100 ∣ year + 1 := Nat.dvd_trans (by decide)
  simp only [leap_in_cycle, yearStart, daysBeforeYear, Nat.succ_div]
  by_cases four : 4 ∣ year + 1
  · by_cases hundred : 100 ∣ year + 1
    · by_cases last : 400 ∣ year + 1
      · simp only [four, hundred, last, if_true, not_true, or_true, and_true]
        omega
      · simp only [four, hundred, last, if_true, if_false, not_true, or_false, and_false]
        omega
    · simp only [four, hundred, mt hundreds hundred, if_true, if_false, not_false_eq_true, or_false, and_true]
      omega
  · have hundred := mt fours four
    simp only [four, hundred, mt hundreds hundred, if_false, false_and]
    omega

theorem year_days (year : Nat) : yearStart year + 365 ≤ yearStart (year + 1) := by
  rw [year_length 0 year]
  split <;> omega

theorem other_months : ∀ month < 11,
    (if month < 10 then month + 3 else month - 9) ≠ 2 ∧ daysBeforeMonth (month + 1) = daysBeforeMonth month +
      if (if month < 10 then month + 3 else month - 9) ∈ [4, 6, 9, 11] then 30 else 31 := by
  decide

theorem month_length (cycles : Int) (year month : Nat) (months : month < 12) :
    daysBeforeMonth month +
        monthLength (cycles * 400 + year + (if month < 10 then 0 else 1)) (if month < 10 then month + 3 else month - 9) =
      min (daysBeforeMonth (month + 1)) (yearStart (year + 1) - yearStart year) := by
  have length := year_length cycles year
  rcases Nat.lt_or_eq_of_le (Nat.le_of_lt_succ months) with earlier | rfl
  · obtain ⟨other, stop⟩ := other_months month earlier
    have inside : daysBeforeMonth (month + 1) ≤ 337 := by
      unfold daysBeforeMonth
      omega
    have days := year_days year
    rw [monthLength, if_neg other, ← stop]
    omega
  · have start : daysBeforeMonth 11 = 337 := rfl
    have stop : daysBeforeMonth (11 + 1) = 367 := rfl
    rw [length, start, stop, Nat.add_sub_cancel_left]
    change 337 + (if IsLeapYear (cycles * 400 + year + 1) then 29 else 28) = _
    split <;> rfl

theorem first_of_month (year : Int) (month : Nat) (further : month < 11) :
    (⟨year + (if month + 1 < 10 then 0 else 1), if month + 1 < 10 then month + 1 + 3 else month + 1 - 9, 1⟩ : Date) =
      if (if month < 10 then month + 3 else month - 9) < 12 then
        ⟨year + (if month < 10 then 0 else 1), (if month < 10 then month + 3 else month - 9) + 1, 1⟩
      else ⟨year + (if month < 10 then 0 else 1) + 1, 1, 1⟩ := by
  rcases Nat.lt_trichotomy month 9 with less | rfl | more
  · have early : month + 1 < 10 ∧ month < 10 ∧ month + 3 < 12 := by omega
    simp only [early, if_true]
  · simp
  · obtain rfl : month = 10 := by omega
    rfl

theorem next_day (n : Int) : ofDayNumber (n + 1) = (ofDayNumber n).next := by
  obtain ⟨cycles, year, month, day, number, inCycle, ⟨months, inYear⟩, inMonth, date⟩ := parts n
  have length := month_length cycles year month months
  have days := year_days year
  rw [date, next]
  dsimp only
  generalize monthLength _ _ = last at length ⊢
  by_cases more : day + 1 < last
  · have later : Parts (n + 1) cycles year month (day + 1) :=
      parts_found (by omega) inCycle ⟨months, by omega⟩ (by omega)
    rw [later.date, if_pos more]
  · rw [if_neg more]
    by_cases further : month < 11
    · have inside : daysBeforeMonth (month + 1) ≤ 337 ∧ daysBeforeMonth (month + 1) < daysBeforeMonth (month + 1 + 1) := by
        unfold daysBeforeMonth
        omega
      have later : Parts (n + 1) cycles year (month + 1) 0 :=
        parts_found (by omega) inCycle ⟨by omega, by omega⟩ inside.2
      rw [later.date, Nat.zero_add, first_of_month _ _ further]
    · -- The last of February ends its year, and with the year its cycle may end.
      obtain rfl : month = 11 := by omega
      have february : daysBeforeMonth 11 = 337 ∧ daysBeforeMonth (11 + 1) = 367 := ⟨rfl, rfl⟩
      have short := year_short year inCycle
      have ends : n + 1 + epochShift = cycles * cycle + yearStart (year + 1) := by omega
      rcases Nat.lt_or_eq_of_le (Nat.succ_le_of_lt inCycle) with inner | whole
      · have later : Parts (n + 1) cycles (year + 1) 0 0 :=
          parts_found ends inner ⟨by decide, Nat.lt_of_lt_of_le (Nat.lt_add_of_pos_right (by decide)) (year_days _)⟩ (by decide)
        rw [later.date]
        exact congrArg (Date.mk · 3 1) (by omega)
      · obtain rfl : year = 399 := Nat.succ.inj whole
        have later : Parts (n + 1) (cycles + 1) 0 0 0 := by
          refine parts_found (ends.trans ?_) (by decide) ⟨by decide, by decide⟩ (by decide)
          rw [Int.add_mul, Int.one_mul, Int.add_assoc]
          exact congrArg (cycles * cycle + ·) (by decide)
        rw [later.date]
        exact congrArg (Date.mk · 3 1) (by omega)

example : ofDayNumber 0 = ⟨1970, 1, 1⟩ := by decide

end Overseer.Time.Date
