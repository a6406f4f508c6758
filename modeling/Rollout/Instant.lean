/-
Points in time, counted in milliseconds, and the calendar they are written in: years of the
Gregorian calendar continued in both directions, and days without leap seconds.

Years are counted from the first of March, so that a leap day is the last day of its year,
and in eras of 400 years, all of which have the same number of days.
-/
namespace Rollout

/-- The milliseconds since the start of 1970. -/
structure Instant where
  millis : Int
  deriving DecidableEq

namespace Instant

/-- A day of the calendar. Months and days are counted from one. -/
structure Day where
  year : Int
  month : Int
  day : Int

/-- The number of a day, the first of January 1970 being zero. -/
def Day.number (d : Day) : Int :=
  let year := if d.month ≤ 2 then d.year - 1 else d.year
  let era := year / 400
  let inEra := year - era * 400
  let month := if 2 < d.month then d.month - 3 else d.month + 9
  let inYear := (153 * month + 2) / 5 + d.day - 1
  era * 146097 + inEra * 365 + inEra / 4 - inEra / 100 + inYear - 719468

/-- The day with a number. -/
def Day.ofNumber (n : Int) : Day :=
  let shifted := n + 719468
  let era := shifted / 146097
  let inEra := shifted - era * 146097
  let years := (inEra - inEra / 1460 + inEra / 36524 - inEra / 146096) / 365
  let inYear := inEra - (365 * years + years / 4 - years / 100)
  let month := (5 * inYear + 2) / 153
  let civilMonth := if month < 10 then month + 3 else month - 9
  ⟨years + era * 400 + (if civilMonth ≤ 2 then 1 else 0), civilMonth,
    inYear - (153 * month + 2) / 5 + 1⟩

/-- The number of a day whose month and day may lie outside their ranges. A month counted
from one beyond twelve runs into the next years, and a day into the next months. -/
def dayNumber (year month day : Int) : Int :=
  let months := month - 1
  Day.number ⟨year + months / 12, months % 12 + 1, 1⟩ + day - 1

def millisPerDay : Int := 86400000

/-- The instant at a time of a day. -/
def ofParts (year month day hour minute second milli : Int) : Instant :=
  ⟨dayNumber year month day * millisPerDay + hour * 3600000 + minute * 60000 + second * 1000 + milli⟩

/-- The day an instant lies in. -/
def day (i : Instant) : Day := .ofNumber (i.millis / millisPerDay)

/-- The milliseconds of its day that have passed. -/
def ofDay (i : Instant) : Nat := (i.millis % millisPerDay).toNat

/-- The digits of a number, filled up with zeros in front. -/
def padded (width n : Nat) : List Char :=
  let ds := Nat.toDigits 10 n
  List.replicate (width - ds.length) '0' ++ ds

/-- Hours, minutes and seconds of an instant. -/
def clock (i : Instant) : List Char :=
  let seconds := i.ofDay / 1000
  padded 2 (seconds / 3600) ++ ':' :: padded 2 (seconds / 60 % 60) ++ ':' :: padded 2 (seconds % 60)

/-- A year has four digits, or a sign and six where four do not suffice. -/
def yearChars (year : Int) : List Char :=
  if 0 ≤ year ∧ year ≤ 9999 then padded 4 year.toNat
  else (if year < 0 then '-' else '+') :: padded 6 year.natAbs

/-- The date and the time of an instant, to the millisecond. -/
def text (i : Instant) : String :=
  let d := i.day
  String.ofList
    (yearChars d.year ++ '-' :: padded 2 d.month.toNat ++ '-' :: padded 2 d.day.toNat
      ++ 'T' :: i.clock ++ '.' :: padded 3 (i.ofDay % 1000) ++ ['Z'])

/-- The text of an instant without a time at the start of a day, and without milliseconds
where there are none. -/
def shortText (i : Instant) : String :=
  let cs := i.text.toList
  if i.ofDay = 0 then String.ofList (cs.take (cs.length - 14))
  else if i.ofDay % 1000 = 0 then String.ofList (cs.take (cs.length - 5))
  else i.text

def weekdays : List String := ["Sun", "Mon", "Tue", "Wed", "Thu", "Fri", "Sat"]

def months : List String :=
  ["Jan", "Feb", "Mar", "Apr", "May", "Jun", "Jul", "Aug", "Sep", "Oct", "Nov", "Dec"]

/-- The instant in words: weekday, date, time and zone. -/
def longText (i : Instant) : String :=
  let d := i.day
  let weekday := weekdays.getD ((i.millis / millisPerDay + 4) % 7).toNat ""
  let month := months.getD (d.month.toNat - 1) ""
  let year := if d.year < 0 then '-' :: padded 6 d.year.natAbs else padded 4 d.year.toNat
  weekday ++ " " ++ month ++ " "
    ++ String.ofList (padded 2 d.day.toNat ++ ' ' :: year ++ ' ' :: i.clock)
    ++ " GMT+0000 (Coordinated Universal Time)"

end Instant
end Rollout
