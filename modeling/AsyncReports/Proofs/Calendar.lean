import AsyncReports.Date
import Mathlib.Algebra.Order.Ring.Int
import Mathlib.Logic.Function.Iterate
import Mathlib.Tactic.IntervalCases
import Mathlib.Tactic.Linarith

set_option autoImplicit false

/-!
# Day numbers and the calendar

The calendar is the rule which day comes next. Day numbers follow it: the next day has the next number, and year, month
and day are found again from the number. So counting days is walking through the calendar, over the ends of months and
years, leap days, and the year zero alike.
-/

namespace AsyncReports

namespace Civil

theorem isLeap_iff {year : Int} : isLeap year ↔ year % 4 = 0 ∧ (year % 100 ≠ 0 ∨ year % 400 = 0) := by
  simp [isLeap]

/-! ## Years that begin in March -/

/-- The days of so many years. -/
def daysOf (years : Int) : Int := 365 * years + years / 4 - years / 100 + years / 400

/-- The year, which begins in March. -/
def marchYear (c : Civil) : Int := if c.month ≤ 2 then c.year - 1 else c.year

/-- The month in that year, from zero. -/
def marchMonth (c : Civil) : Int := ((c.month + 9) % 12 : Nat)

/-- The day in that year, from zero. -/
def marchDay (c : Civil) : Int := (153 * c.marchMonth + 2) / 5 + c.day - 1

theorem dayNumber_eq (c : Civil) : c.dayNumber = daysOf c.marchYear + c.marchDay - 719468 := by
  unfold dayNumber daysOf marchDay marchYear marchMonth
  dsimp only
  omega

theorem daysOf_year (year : Int) : daysOf year = daysOf (year - 1) + 365 + if isLeap year then 1 else 0 := by
  unfold daysOf
  split_ifs with leap
  · rw [isLeap_iff] at leap
    omega
  · rw [isLeap_iff] at leap
    omega

theorem daysOf_periods (years periods : Int) : daysOf (years + 400 * periods) = daysOf years + 146097 * periods := by
  unfold daysOf
  omega

theorem daysOf_mono {a b : Int} (le : a ≤ b) : daysOf a ≤ daysOf b := by
  have fours : a / 4 ≤ b / 4 := Int.ediv_le_ediv (by decide) le
  have hundreds : b / 100 - a / 100 ≤ b - a := by omega
  have periods : a / 400 ≤ b / 400 := Int.ediv_le_ediv (by decide) le
  unfold daysOf
  linarith only [le, fours, hundreds, periods]

/-! ## The next day -/

theorem monthLength_pos (year : Int) (month : Nat) : 1 ≤ monthLength year month := by
  unfold monthLength
  split_ifs <;> decide

theorem monthLength_le (year : Int) (month : Nat) : monthLength year month ≤ 31 := by
  unfold monthLength
  split_ifs <;> decide

theorem monthLength_february (year : Int) : (monthLength year 2 : Int) = 28 + if isLeap year then 1 else 0 := by
  rw [monthLength, if_pos rfl]
  split_ifs <;> rfl

theorem Valid.next {c : Civil} (valid : c.Valid) : c.next.Valid := by
  obtain ⟨first, last, one, length⟩ := valid
  unfold Civil.next
  split_ifs with inMonth inYear
  · exact ⟨first, last, Nat.le_add_left 1 c.day, inMonth⟩
  · exact ⟨Nat.le_add_left 1 c.month, inYear, le_refl 1, monthLength_pos _ _⟩
  · exact ⟨le_refl 1, Nat.one_le_ofNat, le_refl 1, monthLength_pos _ _⟩

theorem dayNumber_next {c : Civil} (valid : c.Valid) : c.next.dayNumber = c.dayNumber + 1 := by
  obtain ⟨year, month, day⟩ := c
  obtain ⟨first, last, one, length⟩ := valid
  simp only at first last one length
  rw [dayNumber_eq, dayNumber_eq]
  unfold next
  split_ifs with inMonth inYear
  · simp only [marchYear, marchMonth, marchDay]
    omega
  · obtain rfl : day = monthLength year month := Nat.le_antisymm length (Nat.le_of_not_lt inMonth)
    by_cases february : month = 2
    · subst february
      have turn := daysOf_year year
      have last := monthLength_february year
      simp only [marchYear, marchMonth, marchDay]
      split_ifs at turn last ⊢ <;> omega
    · simp only [marchYear, marchMonth, marchDay, monthLength, february, if_false]
      interval_cases month <;> simp <;> omega
  · obtain rfl : month = 12 := Nat.le_antisymm last (Nat.le_of_not_lt inYear)
    obtain rfl : day = 31 := Nat.le_antisymm length (Nat.le_of_not_lt inMonth)
    simp only [marchYear, marchMonth, marchDay, add_sub_cancel_right]
    split_ifs <;> omega

theorem iterate_next {c : Civil} (valid : c.Valid) (days : Nat) :
    (next^[days] c).Valid ∧ (next^[days] c).dayNumber = c.dayNumber + days := by
  induction days with
  | zero => exact ⟨valid, (add_zero _).symm⟩
  | succ days ih =>
    rw [Function.iterate_succ_apply']
    refine ⟨ih.1.next, ?_⟩
    rw [dayNumber_next ih.1, ih.2, Nat.cast_succ, add_assoc]

/-! ## Year, month and day of a number -/

/-- The centuries before a day of a period. The last day of a period does not open a fifth one. -/
theorem centuries_eq {a s : Int} (ha : 0 ≤ a ∧ a < 4) (hs : 0 ≤ s) (short : s < 36524 ∨ a = 3 ∧ s = 36524) :
    (36524 * a + s) / 36524 - (36524 * a + s) / 146096 = a := by
  rcases short with short | ⟨rfl, rfl⟩
  · have whole : (36524 * a + s) / 36524 = a := by omega
    have none : (36524 * a + s) / 146096 = 0 := by omega
    rw [whole, none, sub_zero]
  · rfl

/-- The year of a day in its period, which has `a` centuries, `b` times four years and `c` years before it. -/
theorem yearOfPeriod_eq {a b c r : Int} (ha : 0 ≤ a ∧ a < 4) (hb : 0 ≤ b ∧ b < 25) (hc : 0 ≤ c ∧ c < 4)
    (hr : 0 ≤ r ∧ r ≤ 365) (leap : r = 365 → c = 3 ∧ (b ≠ 24 ∨ a = 3)) {d : Int}
    (hd : d = 36524 * a + (1461 * b + 365 * c + r)) :
    (d - d / 1460 + d / 36524 - d / 146096) / 365 = 100 * a + 4 * b + c := by
  have centuries : d / 36524 - d / 146096 = a := by
    rw [hd]
    exact centuries_eq ha (by omega) (by omega)
  have quads : d / 1460 = (24 * a + b + 365 * c + r) / 1460 + (25 * a + b) := by
    have split : d = 24 * a + b + 365 * c + r + 1460 * (25 * a + b) := by omega
    rw [split, Int.add_mul_ediv_left _ _ (by decide)]
  -- A leap day would be one too many for its year, but just there the division by 1460 takes one off.
  have bounds : 0 ≤ r - (24 * a + b + 365 * c + r) / 1460 ∧ r - (24 * a + b + 365 * c + r) / 1460 < 365 := by
    clear hd centuries quads
    omega
  have rest : d - d / 1460 + d / 36524 - d / 146096 =
      (r - (24 * a + b + 365 * c + r) / 1460) + 365 * (100 * a + 4 * b + c) := by
    linarith only [hd, centuries, quads]
  rw [rest, Int.add_mul_ediv_left _ _ (by decide), Int.ediv_eq_zero_of_lt bounds.1 bounds.2, zero_add]

/-- The month is found from the day in the year, and only a leap day is the last of 366. -/
theorem Valid.marchDay_spec {c : Civil} (valid : c.Valid) :
    (0 ≤ c.marchDay ∧ c.marchDay ≤ 365) ∧ (c.marchDay = 365 → isLeap (c.marchYear + 1)) ∧
      (5 * c.marchDay + 2) / 153 = c.marchMonth := by
  obtain ⟨year, month, day⟩ := c
  obtain ⟨first, last, one, length⟩ := valid
  simp only at first last one length
  by_cases february : month = 2
  · subst february
    have last := monthLength_february year
    have shifted : marchDay ⟨year, 2, day⟩ = 336 + day := by
      simp only [marchMonth, marchDay]
      omega
    rw [shifted]
    by_cases leap : isLeap year
    · rw [if_pos leap] at last
      refine ⟨by omega, fun _ => ?_, ?_⟩
      · simpa [marchYear] using leap
      · simp only [marchMonth]
        omega
    · rw [if_neg leap] at last
      refine ⟨by omega, by omega, ?_⟩
      simp only [marchMonth]
      omega
  · simp only [monthLength, february, if_false] at length
    simp only [marchYear, marchMonth, marchDay]
    interval_cases month <;> simp at length ⊢ <;> omega

theorem Valid.period {c : Civil} (valid : c.Valid) {d : Int} (hd : d = daysOf (c.marchYear % 400) + c.marchDay) :
    (0 ≤ d ∧ d < 146097) ∧ (d - d / 1460 + d / 36524 - d / 146096) / 365 = c.marchYear % 400 := by
  obtain ⟨bounds, leap, -⟩ := valid.marchDay_spec
  rw [isLeap_iff] at leap
  generalize c.marchDay = r at *
  generalize c.marchYear = year at *
  have split : d = 36524 * (year % 400 / 100) + (1461 * (year % 100 / 4) + 365 * (year % 4) + r) := by
    rw [hd, daysOf]
    omega
  refine ⟨by omega, ?_⟩
  rw [yearOfPeriod_eq (by omega) (by omega) (by omega) bounds (by omega) split]
  omega

theorem ofDayNumber_dayNumber {c : Civil} (valid : c.Valid) : ofDayNumber c.dayNumber = c := by
  obtain ⟨bounds, -, month⟩ := valid.marchDay_spec
  obtain ⟨inPeriod, year⟩ := valid.period rfl
  have shifted : c.dayNumber + 719468 =
      daysOf (c.marchYear % 400) + c.marchDay + 146097 * (c.marchYear / 400) := by
    have periods := daysOf_periods (c.marchYear % 400) (c.marchYear / 400)
    rw [Int.emod_add_mul_ediv] at periods
    rw [dayNumber_eq, periods]
    omega
  have place : (c.dayNumber + 719468) % 146097 = daysOf (c.marchYear % 400) + c.marchDay := by
    rw [shifted, Int.add_mul_emod_self_left, Int.emod_eq_of_lt inPeriod.1 inPeriod.2]
  have period : (c.dayNumber + 719468) / 146097 = c.marchYear / 400 := by
    rw [shifted, Int.add_mul_ediv_left _ _ (by decide), Int.ediv_eq_zero_of_lt inPeriod.1 inPeriod.2, zero_add]
  have inYear : daysOf (c.marchYear % 400) + c.marchDay -
      (365 * (c.marchYear % 400) + c.marchYear % 400 / 4 - c.marchYear % 400 / 100) = c.marchDay := by
    unfold daysOf
    omega
  unfold ofDayNumber
  simp only [place, period, year, inYear, month]
  obtain ⟨first, last, one, -⟩ := valid
  rw [show c.marchYear % 400 + c.marchYear / 400 * 400 = c.marchYear by omega]
  unfold marchDay marchYear marchMonth
  obtain ⟨year, month, day⟩ := c
  simp only at first last one
  rw [Civil.mk.injEq]
  dsimp only
  refine ⟨?_, ?_, ?_⟩
  · split_ifs <;> omega
  · split_ifs <;> omega
  · omega

/-- Walking on from early enough a day, every day number is met. -/
theorem exists_dayNumber (n : Int) : ∃ c : Civil, c.Valid ∧ c.dayNumber = n := by
  let early : Civil := ⟨400 * -(n.natAbs : Int), 1, 1⟩
  have valid : early.Valid := ⟨le_refl 1, Nat.one_le_ofNat, le_refl 1, monthLength_pos _ _⟩
  have before : early.dayNumber ≤ n := by
    unfold early dayNumber
    dsimp only
    omega
  obtain ⟨met, number⟩ := iterate_next valid (n - early.dayNumber).toNat
  exact ⟨_, met, by omega⟩

theorem valid_ofDayNumber (n : Int) : (ofDayNumber n).Valid := by
  obtain ⟨c, valid, rfl⟩ := exists_dayNumber n
  rw [ofDayNumber_dayNumber valid]
  exact valid

theorem dayNumber_ofDayNumber (n : Int) : (ofDayNumber n).dayNumber = n := by
  obtain ⟨c, valid, rfl⟩ := exists_dayNumber n
  rw [ofDayNumber_dayNumber valid]

/-- So many days on in the calendar is so many day numbers on. -/
theorem iterate_next_eq_iff {c d : Civil} (valid : c.Valid) (valid' : d.Valid) (days : Nat) :
    next^[days] c = d ↔ c.dayNumber + days = d.dayNumber := by
  obtain ⟨met, number⟩ := iterate_next valid days
  rw [← number]
  refine ⟨congrArg dayNumber, fun same => ?_⟩
  rw [← ofDayNumber_dayNumber met, same, ofDayNumber_dayNumber valid']

/-! ## The dates that there are -/

/-- The day exists, and its year is one of those that dates can have. -/
def Supported (c : Civil) : Prop := c.Valid ∧ -262143 ≤ c.year ∧ c.year ≤ 262142

instance (c : Civil) : Decidable c.Supported := inferInstanceAs (Decidable (_ ∧ _))

/-- A day lies between the first of January of its year and the last of December. -/
theorem Valid.within_year {c : Civil} (valid : c.Valid) :
    daysOf (c.year - 1) + 306 ≤ c.dayNumber + 719468 ∧ c.dayNumber + 719468 ≤ daysOf c.year + 305 := by
  obtain ⟨bounds, leap, month⟩ := valid.marchDay_spec
  obtain ⟨first, last, -⟩ := valid
  have turn := daysOf_year c.year
  rw [dayNumber_eq]
  by_cases early : c.month ≤ 2
  · have shifted : c.marchMonth = c.month + 9 := by
      rw [marchMonth, Nat.mod_eq_of_lt (by omega)]
      rfl
    have year : c.marchYear = c.year - 1 := if_pos early
    rw [year, sub_add_cancel] at leap
    rw [year]
    by_cases leaps : isLeap c.year
    · rw [if_pos leaps] at turn
      omega
    · have short : c.marchDay ≠ 365 := fun whole => leaps (leap whole)
      rw [if_neg leaps] at turn
      omega
  · have shifted : c.marchMonth = c.month - 3 := by
      rw [marchMonth]
      omega
    have year : c.marchYear = c.year := if_neg early
    rw [year]
    split_ifs at turn <;> omega

theorem dayNumber_inRange_iff {c : Civil} (valid : c.Valid) :
    firstDay ≤ c.dayNumber ∧ c.dayNumber ≤ lastDay ↔ -262143 ≤ c.year ∧ c.year ≤ 262142 := by
  obtain ⟨lower, upper⟩ := valid.within_year
  have first : firstDay + 719468 = daysOf (-262144) + 306 := by decide
  have last : lastDay + 719468 = daysOf 262142 + 305 := by decide
  constructor
  · rintro ⟨begins, ends⟩
    refine ⟨not_lt.1 fun before => ?_, not_lt.1 fun after => ?_⟩
    · have years := daysOf_mono (Int.le_sub_one_of_lt before)
      norm_num at years
      omega
    · have years := daysOf_mono (Int.le_sub_one_of_lt after)
      omega
  · rintro ⟨begins, ends⟩
    have years := daysOf_mono (sub_le_sub_right begins 1)
    have years' := daysOf_mono ends
    norm_num at years
    omega

example : dayNumber ⟨-262143, 1, 1⟩ = firstDay ∧ dayNumber ⟨262142, 12, 31⟩ = lastDay := by decide

end Civil

namespace Date

theorem civil_valid (d : Date) : d.civil.Valid := Civil.valid_ofDayNumber d.day

theorem dayNumber_civil (d : Date) : d.civil.dayNumber = d.day := Civil.dayNumber_ofDayNumber d.day

theorem ofDay?_day (d : Date) : ofDay? d.day = some d := dif_pos d.inRange

theorem civil_supported (d : Date) : d.civil.Supported := by
  refine ⟨d.civil_valid, (Civil.dayNumber_inRange_iff d.civil_valid).1 ?_⟩
  rw [dayNumber_civil]
  exact d.inRange

theorem exists_civil {c : Civil} (supported : c.Supported) : ∃ d : Date, d.civil = c :=
  ⟨⟨c.dayNumber, (Civil.dayNumber_inRange_iff supported.1).2 supported.2⟩, Civil.ofDayNumber_dayNumber supported.1⟩

/-- Dates are as many days apart as the calendar goes from one to the other. -/
theorem iterate_next_civil_iff (d e : Date) (days : Nat) :
    Civil.next^[days] d.civil = e.civil ↔ d.day + days = e.day := by
  rw [Civil.iterate_next_eq_iff d.civil_valid e.civil_valid, dayNumber_civil, dayNumber_civil]

theorem ofCivil?_civil (d : Date) : ofCivil? d.civil = some d := by
  rw [ofCivil?, if_pos d.civil_valid, dayNumber_civil, ofDay?_day]

end Date

end AsyncReports
