import CommandDispatch.Text.Basic

/-! # Calendar time

Seconds since the start of 1970 as a date and a time of day of the Gregorian calendar, and the form
in which the journal writes them.
-/

namespace CommandDispatch

/-- A date and a time of day. Months and days count from one, weekdays from Sunday as zero. -/
structure CalendarTime where
  year : Int
  month : Nat
  day : Nat
  weekday : Nat
  hour : Nat
  minute : Nat
  second : Nat
  deriving DecidableEq

namespace CalendarTime

/-- The date of a day, given by its distance from the start of 1970: year, month and day. Years are
counted from March, in eras of four hundred years. -/
def dateOfDay (day : Int) : Int × Nat × Nat :=
  let shifted := day + 719468
  let era := shifted / 146097
  let dayOfEra := (shifted % 146097).toNat
  let yearOfEra := (dayOfEra - dayOfEra / 1460 + dayOfEra / 36524 - dayOfEra / 146096) / 365
  let dayOfYear := dayOfEra - (365 * yearOfEra + yearOfEra / 4 - yearOfEra / 100)
  let monthFromMarch := (5 * dayOfYear + 2) / 153
  let dayOfMonth := dayOfYear - (153 * monthFromMarch + 2) / 5 + 1
  let month := if monthFromMarch < 10 then monthFromMarch + 3 else monthFromMarch - 9
  (yearOfEra + era * 400 + (if month ≤ 2 then 1 else 0), month, dayOfMonth)

/-- The date and time of day of a number of seconds since the start of 1970. -/
def ofSeconds (seconds : Int) : CalendarTime :=
  let day := seconds / 86400
  let secondOfDay := (seconds % 86400).toNat
  let date := dateOfDay day
  { year := date.1
    month := date.2.1
    day := date.2.2
    weekday := ((day + 4) % 7).toNat
    hour := secondOfDay / 3600
    minute := secondOfDay / 60 % 60
    second := secondOfDay % 60 }

/-- The greatest year that can be written. A year is counted from zero where it is written, and from
1900 elsewhere, in 32 bits. -/
def lastYear : Int := 2147483647

/-- A clock can hold a number of seconds of 64 bits. -/
def isClockReading (seconds : Int) : Bool :=
  -9223372036854775808 ≤ seconds && seconds ≤ 9223372036854775807

/-- The calendar knows the years that fit into 32 bits, counted from 1900. -/
def isKnown (t : CalendarTime) : Bool :=
  -2147483648 ≤ t.year - 1900 && t.year - 1900 ≤ lastYear

def weekdayNames : List Text := ["Sun", "Mon", "Tue", "Wed", "Thu", "Fri", "Sat"]

def monthNames : List Text :=
  ["Jan", "Feb", "Mar", "Apr", "May", "Jun", "Jul", "Aug", "Sep", "Oct", "Nov", "Dec"]

/-- Weekday, month, day of the month in three columns, time of day, and year. -/
def text (t : CalendarTime) : Text :=
  .concat [weekdayNames.getD t.weekday [], " ", monthNames.getD (t.month - 1) [],
    Text.padLeft 3 (Text.decimal t.day), " ", Text.twoDigits t.hour, ":", Text.twoDigits t.minute,
    ":", Text.twoDigits t.second, " ", Text.integer t.year]

end CalendarTime

end CommandDispatch
