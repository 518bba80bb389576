import SqlScribe.Text.Basic

/-!
# Calendar dates

Dates of the Gregorian calendar, extended to all years from -262143 to 262142, the year 0 included.
A `Date` exists by construction: its month and its day are ones that its year has.
-/

namespace SqlScribe.Calendar

/-- Every fourth year has a leap day, except the full centuries that 400 does not divide. -/
def isLeapYear (year : Int) : Bool :=
  year % 4 == 0 && (year % 100 != 0 || year % 400 == 0)

/-- Number of days in a month of a year; a number that names no month has none. -/
def daysInMonth (year : Int) (month : Nat) : Nat :=
  match month with
  | 2 => if isLeapYear year then 29 else 28
  | 4 | 6 | 9 | 11 => 30
  | 1 | 3 | 5 | 7 | 8 | 10 | 12 => 31
  | _ => 0

/-- The first year with dates. -/
def firstYear : Int := -262143

/-- The last year with dates. -/
def lastYear : Int := 262142

/-- A day of the calendar. -/
structure Date where
  year : Int
  month : Nat
  day : Nat
  year_mem : firstYear ≤ year ∧ year ≤ lastYear
  day_mem : 1 ≤ day ∧ day ≤ daysInMonth year month
deriving DecidableEq

namespace Date

/-- The date with the given numbers, if the calendar has one. -/
def ofNumbers? (year month day : Int) : Option Date :=
  if h : (firstYear ≤ year ∧ year ≤ lastYear) ∧ 0 ≤ month ∧
      1 ≤ day.toNat ∧ day.toNat ≤ daysInMonth year month.toNat then
    some ⟨year, month.toNat, day.toNat, h.1, h.2.2⟩
  else
    none

/-- Every date has numbers, and they name it. -/
theorem ofNumbers?_self (date : Date) :
    ofNumbers? date.year date.month date.day = some date := by
  rcases date with ⟨year, month, day, hyear, hday⟩
  simp [ofNumbers?, hyear, hday]

/-- Years from 0 to 9999 have at least four digits; all others have a sign in front of them too. -/
def yearText (year : Int) : List Char :=
  if 0 ≤ year ∧ year ≤ 9999 then
    Text.paddedText 4 year.toNat
  else
    (if year < 0 then '-' else '+') :: Text.paddedText 4 year.natAbs

/-- Year, month and day, with hyphens between them. -/
def text (date : Date) : List Char :=
  yearText date.year ++ '-' :: Text.paddedText 2 date.month ++ '-' :: Text.paddedText 2 date.day

end Date

end SqlScribe.Calendar
