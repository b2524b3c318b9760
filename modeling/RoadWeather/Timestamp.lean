/-!
# Timestamps

A date and time of day with its offset from UTC. Two timestamps with different offsets may denote
the same instant; the offset is kept, but only instants are compared.

The calendar is the Gregorian one, carried on to the years before it was introduced and beyond the
year 0 to the negative ones. Not every timestamp has a text: a document has no room for a negative
year, nor for an offset of a day and more or one that is no whole number of minutes.
-/

namespace RoadWeather

def isLeapYear (year : Int) : Bool := year % 4 = 0 && (year % 100 ≠ 0 || year % 400 = 0)

/-- The number of days of a month, `0` where there is no such month. -/
def daysInMonth (year : Int) (month : Nat) : Nat :=
  match month with
  | 1 | 3 | 5 | 7 | 8 | 10 | 12 => 31
  | 4 | 6 | 9 | 11 => 30
  | 2 => if isLeapYear year then 29 else 28
  | _ => 0

/-- The parts of a date and time of day, with the offset from UTC in seconds. -/
structure Timestamp.Parts where
  year : Int
  month : Nat
  day : Nat
  hour : Nat
  minute : Nat
  second : Nat
  nanosecond : Nat
  offset : Int
  deriving DecidableEq

/-- Whether parts are those of a timestamp. The offset is less than 26 hours. -/
structure Timestamp.Parts.IsValid (p : Timestamp.Parts) : Prop where
  year_mem : -9999 ≤ p.year ∧ p.year ≤ 9999
  month_mem : 1 ≤ p.month ∧ p.month ≤ 12
  day_mem : 1 ≤ p.day ∧ p.day ≤ daysInMonth p.year p.month
  hour_lt : p.hour < 24
  minute_lt : p.minute < 60
  second_lt : p.second < 60
  nanosecond_lt : p.nanosecond < 1000000000
  offset_mem : -93600 < p.offset ∧ p.offset < 93600

instance (p : Timestamp.Parts) : Decidable p.IsValid :=
  decidable_of_iff
    ((-9999 ≤ p.year ∧ p.year ≤ 9999) ∧ (1 ≤ p.month ∧ p.month ≤ 12) ∧
      (1 ≤ p.day ∧ p.day ≤ daysInMonth p.year p.month) ∧ p.hour < 24 ∧ p.minute < 60 ∧
      p.second < 60 ∧ p.nanosecond < 1000000000 ∧ -93600 < p.offset ∧ p.offset < 93600)
    ⟨fun ⟨year, month, day, hour, minute, second, nanosecond, offset⟩ ↦
      ⟨year, month, day, hour, minute, second, nanosecond, offset⟩,
    fun ⟨year, month, day, hour, minute, second, nanosecond, offset⟩ ↦
      ⟨year, month, day, hour, minute, second, nanosecond, offset⟩⟩

/-- A date and time of day, with the offset from UTC. -/
structure Timestamp extends Timestamp.Parts where
  valid : toParts.IsValid
  deriving DecidableEq

namespace Timestamp

/-- The start of the year 0 in UTC, from which instants are counted. -/
instance : Inhabited Timestamp := ⟨⟨⟨0, 1, 1, 0, 0, 0, 0, 0⟩, by decide⟩⟩

/-- The number of days before the first of January of a year, from that of the year 0; negative for
the years before it. -/
def daysBeforeYear (year : Int) : Int :=
  365 * year + (year + 3) / 4 - (year + 99) / 100 + (year + 399) / 400

/-- The number of days of a year before the first of a month. -/
def daysBeforeMonth (year : Int) (month : Nat) : Nat :=
  (List.range (month - 1)).foldl (fun days m ↦ days + daysInMonth year (m + 1)) 0

/-- The seconds from the start of the day in UTC; negative, or beyond the day, where the date in
UTC is another one. -/
def secondInUtc (t : Timestamp) : Int := (t.hour * 60 + t.minute) * 60 + t.second - t.offset

/-- The instant, in nanoseconds from the start of the year 0 in UTC. -/
def instant (t : Timestamp) : Int :=
  let days := daysBeforeYear t.year + daysBeforeMonth t.year t.month + (t.day - 1)
  (days * 86400 + t.secondInUtc) * 1000000000 + t.nanosecond

/-- Whether the timestamp is in the last second of a month in UTC. -/
def inLastSecondOfMonth (t : Timestamp) : Bool :=
  let day := t.day + t.secondInUtc / 86400
  t.secondInUtc % 86400 = 86399 && (day = 0 || day = daysInMonth t.year t.month)

end Timestamp

end RoadWeather
