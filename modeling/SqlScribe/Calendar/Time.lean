import SqlScribe.Calendar.Date

/-!
# Times of day

A time counts nanoseconds within its second. The last second of a minute may be a leap second: its
count of nanoseconds then goes on past a whole second, and it is written as second 60.
-/

namespace SqlScribe.Calendar

/-- Nanoseconds in a second. -/
def nanosPerSecond : Nat := 1000000000

/-- A time of day. Its count of nanoseconds goes past a whole second only behind second 59, where a
minute can end in a leap second. A count that goes past it behind another second is no time here: a
clock that lets the nanoseconds of any second be set on their own can hold one, and such times are
left out. -/
structure Time where
  hour : Nat
  minute : Nat
  second : Nat
  nano : Nat
  hour_lt : hour < 24
  minute_lt : minute < 60
  second_lt : second < 60
  nano_lt : nano < 2 * nanosPerSecond
  leap : nanosPerSecond ≤ nano → second = 59
deriving DecidableEq

namespace Time

/-- The time with the given numbers, if the clock shows one. -/
def ofNumbers? (hour minute second nano : Int) : Option Time :=
  if h : (0 ≤ hour ∧ 0 ≤ minute ∧ 0 ≤ second ∧ 0 ≤ nano) ∧ hour.toNat < 24 ∧ minute.toNat < 60 ∧
      second.toNat < 60 ∧ nano.toNat < 2 * nanosPerSecond ∧
      (nanosPerSecond ≤ nano.toNat → second.toNat = 59) then
    some ⟨hour.toNat, minute.toNat, second.toNat, nano.toNat,
      h.2.1, h.2.2.1, h.2.2.2.1, h.2.2.2.2.1, h.2.2.2.2.2⟩
  else
    none

/-- Every time has numbers, and they name it. -/
theorem ofNumbers?_self (time : Time) :
    ofNumbers? time.hour time.minute time.second time.nano = some time := by
  rcases time with ⟨hour, minute, second, nano, hhour, hminute, hsecond, hnano, hleap⟩
  simp [ofNumbers?, hhour, hminute, hsecond, hnano]
  exact hleap

/-- The second as a clock shows it: 60 in a leap second. -/
def shownSecond (time : Time) : Nat :=
  time.second + time.nano / nanosPerSecond

/-- Whole microseconds within the second that the clock shows. -/
def micro (time : Time) : Nat :=
  time.nano % nanosPerSecond / 1000

/-- Hour, minute and second with colons between them, then a point and the microseconds. -/
def text (time : Time) : List Char :=
  Text.paddedText 2 time.hour ++ ':' :: Text.paddedText 2 time.minute ++
    ':' :: Text.paddedText 2 time.shownSecond ++ '.' :: Text.paddedText 6 time.micro

end Time

/-- A time on a date. -/
structure Timestamp where
  date : Date
  time : Time
deriving DecidableEq

namespace Timestamp

/-- The date and the time, with a blank between them. -/
def text (stamp : Timestamp) : List Char :=
  stamp.date.text ++ ' ' :: stamp.time.text

end Timestamp

end SqlScribe.Calendar
