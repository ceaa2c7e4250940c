set_option autoImplicit false

/-!
# Calendar dates

A date is a day of the Gregorian calendar, extended to all years; there is a year zero. It is held as the number
of days since 1970-01-01, so that order and distance are those of whole numbers, and seen as year, month and day
through `Date.civil`. The calendar itself is the rule `Civil.next`.
-/

namespace AsyncReports

/-- Year, month and day, not necessarily of a day that exists. -/
structure Civil where
  year : Int
  month : Nat
  day : Nat
deriving DecidableEq

namespace Civil

def isLeap (year : Int) : Bool := year % 4 = 0 && (year % 100 ≠ 0 || year % 400 = 0)

def monthLength (year : Int) (month : Nat) : Nat :=
  if month = 2 then if isLeap year then 29 else 28
  else if month = 4 || month = 6 || month = 9 || month = 11 then 30
  else 31

/-- The day exists. -/
def Valid (c : Civil) : Prop :=
  1 ≤ c.month ∧ c.month ≤ 12 ∧ 1 ≤ c.day ∧ c.day ≤ monthLength c.year c.month

instance (c : Civil) : Decidable c.Valid := inferInstanceAs (Decidable (_ ∧ _))

/-- The day after. -/
def next (c : Civil) : Civil :=
  if c.day < monthLength c.year c.month then { c with day := c.day + 1 }
  else if c.month < 12 then ⟨c.year, c.month + 1, 1⟩
  else ⟨c.year + 1, 1, 1⟩

/-- Days since 1970-01-01. The year is taken to begin in March, so that a leap day comes last. -/
def dayNumber (c : Civil) : Int :=
  let year := if c.month ≤ 2 then c.year - 1 else c.year
  let month : Int := ((c.month + 9) % 12 : Nat)
  365 * year + year / 4 - year / 100 + year / 400 + (153 * month + 2) / 5 + c.day - 719469

/-- The inverse of `dayNumber`: the day is placed in its period of 400 years, then in its year. -/
def ofDayNumber (n : Int) : Civil :=
  let shifted := n + 719468
  let inPeriod := shifted % 146097
  let yearOfPeriod := (inPeriod - inPeriod / 1460 + inPeriod / 36524 - inPeriod / 146096) / 365
  let inYear := inPeriod - (365 * yearOfPeriod + yearOfPeriod / 4 - yearOfPeriod / 100)
  let month := (5 * inYear + 2) / 153
  let year := yearOfPeriod + shifted / 146097 * 400
  ⟨if month < 10 then year else year + 1, (if month < 10 then month + 3 else month - 9).toNat,
    (inYear - (153 * month + 2) / 5 + 1).toNat⟩

end Civil

/-- The day number of -262143-01-01, the first date. -/
def firstDay : Int := -96465292

/-- The day number of +262142-12-31, the last date. -/
def lastDay : Int := 95026236

structure Date where
  day : Int
  inRange : firstDay ≤ day ∧ day ≤ lastDay
deriving DecidableEq

namespace Date

instance : LE Date := ⟨fun a b => a.day ≤ b.day⟩

instance : LT Date := ⟨fun a b => a.day < b.day⟩

instance (a b : Date) : Decidable (a ≤ b) := inferInstanceAs (Decidable (a.day ≤ b.day))

instance (a b : Date) : Decidable (a < b) := inferInstanceAs (Decidable (a.day < b.day))

def first : Date := ⟨firstDay, by decide⟩

instance : Inhabited Date := ⟨first⟩

def ofDay? (day : Int) : Option Date :=
  if h : firstDay ≤ day ∧ day ≤ lastDay then some ⟨day, h⟩ else none

def ofCivil? (c : Civil) : Option Date :=
  if c.Valid then ofDay? c.dayNumber else none

def civil (d : Date) : Civil := .ofDayNumber d.day

/-- The date `days` later, where there is one. -/
def later? (d : Date) (days : Nat) : Option Date := ofDay? (d.day + days)

/-- The date `days` earlier, where there is one. -/
def earlier? (d : Date) (days : Nat) : Option Date := ofDay? (d.day - days)

end Date

end AsyncReports
