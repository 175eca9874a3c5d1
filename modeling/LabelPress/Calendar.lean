import LabelPress.Numeral

/-!
# Calendar dates and moments

Dates of the proleptic Gregorian calendar from year 1 to year 9999, and moments of a day to the
microsecond, with or without an offset from universal time. A date has a day number counted from
1970-01-01, and `Date.ofDays?` leads back from there.
-/

namespace LabelPress

/-- Why parts do not make a date or a moment. -/
inductive CalendarFault where
  | year (number : Int)
  | month
  | day
  | hour
  | minute
  | second
  /-- The offset, in minutes, is a day or more. -/
  | offset (minutes : Int)
  deriving DecidableEq, Repr

/-- A length of time in days and seconds, with the seconds within a day. -/
def durationText (seconds : Int) : String :=
  let days := Int.fdiv seconds 86400
  let rest := Int.fmod seconds 86400
  let parts := (if days = 0 then [] else ["days=" ++ signedNumeral days]) ++
    (if rest = 0 then [] else ["seconds=" ++ signedNumeral rest])
  "datetime.timedelta(" ++ (if parts.isEmpty then "0" else String.intercalate ", " parts) ++ ")"

/-- The wording of a fault. -/
def CalendarFault.message : CalendarFault → String
  | .year y => "year " ++ signedNumeral y ++ " is out of range"
  | .month => "month must be in 1..12"
  | .day => "day is out of range for month"
  | .hour => "hour must be in 0..23"
  | .minute => "minute must be in 0..59"
  | .second => "second must be in 0..59"
  | .offset minutes =>
    "offset must be a timedelta strictly between -timedelta(hours=24) and timedelta(hours=24), not " ++
      durationText (minutes * 60) ++ "."

/-- A date. -/
structure Date where
  year : Nat
  month : Nat
  day : Nat
  deriving DecidableEq, Repr

/-- A moment of a day; `offset` is how many minutes its clock is ahead of universal time. -/
structure Moment where
  date : Date
  hour : Nat
  minute : Nat
  second : Nat
  microsecond : Nat
  offset : Option Int
  deriving DecidableEq, Repr

namespace Date

/-- Whether a year has a 29th of February. -/
def isLeap (year : Nat) : Bool :=
  year % 4 = 0 && (year % 100 ≠ 0 || year % 400 = 0)

/-- The number of days of a month. -/
def monthLength (year month : Nat) : Nat :=
  if month = 2 then (if isLeap year then 29 else 28)
  else if month = 4 ∨ month = 6 ∨ month = 9 ∨ month = 11 then 30
  else 31

/-- Makes a date of a year, a month and a day; the first of them that is out of range is the fault. -/
def ofParts (year month day : Nat) : Except CalendarFault Date :=
  if year < 1 ∨ 9999 < year then .error (.year year)
  else if month < 1 ∨ 12 < month then .error .month
  else if day < 1 ∨ monthLength year month < day then .error .day
  else .ok ⟨year, month, day⟩

/-- The days from 1970-01-01 to the date. -/
def dayNumber (d : Date) : Int :=
  let before := d.year - 1
  let yearDays := before * 365 + before / 4 - before / 100 + before / 400
  let monthDays := (List.range (d.month - 1)).foldl (fun days m => days + monthLength d.year (m + 1)) 0
  (yearDays + monthDays + d.day : Nat) - (719163 : Int)

/-- Finds the month that holds a day of the year, counted from zero. -/
def monthOf (year : Nat) : (fuel month day : Nat) → Nat × Nat
  | 0, month, day => (month, day + 1)
  | fuel + 1, month, day =>
    if day < monthLength year month then (month, day + 1)
    else monthOf year fuel (month + 1) (day - monthLength year month)

/-- The date with a day number, or the year if that is out of range. -/
def ofDays (days : Int) : Except CalendarFault Date :=
  let n := days + 719162
  let era := Int.fdiv n 146097
  let dayOfEra := (Int.fmod n 146097).toNat
  let century := min (dayOfEra / 36524) 3
  let dayOfCentury := dayOfEra - century * 36524
  let cycle := dayOfCentury / 1461
  let dayOfCycle := dayOfCentury - cycle * 1461
  let yearOfCycle := min (dayOfCycle / 365) 3
  let year : Int := era * 400 + (century * 100 + cycle * 4 + yearOfCycle + 1 : Nat)
  if year < 1 ∨ 9999 < year then .error (.year year)
  else
    let (month, day) := monthOf year.toNat 12 1 (dayOfCycle - yearOfCycle * 365)
    .ok ⟨year.toNat, month, day⟩

/-- `YYYY-MM-DD`. -/
def isoText (d : Date) : String :=
  paddedNumeral 4 d.year ++ "-" ++ paddedNumeral 2 d.month ++ "-" ++ paddedNumeral 2 d.day

/-- The date as a call of its constructor. -/
def constructorText (d : Date) : String :=
  "datetime.date(" ++ numeral d.year ++ ", " ++ numeral d.month ++ ", " ++ numeral d.day ++ ")"

end Date

namespace Moment

/-- Makes a moment of its parts; the offset is checked first, then the date, then the time. -/
def ofParts (year month day hour minute second microsecond : Nat) (offset : Option Int) :
    Except CalendarFault Moment := do
  match offset with
  | some minutes => if 1440 ≤ minutes.natAbs then throw (.offset minutes)
  | none => pure ()
  let date ← Date.ofParts year month day
  if 23 < hour then throw .hour
  if 59 < minute then throw .minute
  if 59 < second then throw .second
  return ⟨date, hour, minute, second, microsecond, offset⟩

/-- The moment that lies some microseconds after the start of 1970, in universal time. -/
def ofMicroseconds (total : Int) : Except CalendarFault Moment := do
  let seconds := Int.fdiv total 1000000
  let date ← Date.ofDays (Int.fdiv seconds 86400)
  let inDay := (Int.fmod seconds 86400).toNat
  return ⟨date, inDay / 3600, inDay / 60 % 60, inDay % 60, (Int.fmod total 1000000).toNat, some 0⟩

/-- The microseconds from the start of 1970, by the clock of the moment less its offset. -/
def microseconds (m : Moment) : Int :=
  let minutes := (m.date.dayNumber * 24 + m.hour) * 60 + m.minute - m.offset.getD 0
  (minutes * 60 + m.second) * 1000000 + m.microsecond

/-- The offset as a sign, hours and minutes. -/
def offsetText (minutes : Int) : String :=
  (if minutes < 0 then "-" else "+") ++ paddedNumeral 2 (minutes.natAbs / 60) ++ ":" ++
    paddedNumeral 2 (minutes.natAbs % 60)

/-- The time of day; a fraction is written only if there is one. -/
def timeText (m : Moment) : String :=
  paddedNumeral 2 m.hour ++ ":" ++ paddedNumeral 2 m.minute ++ ":" ++ paddedNumeral 2 m.second ++
    (if m.microsecond = 0 then "" else "." ++ paddedNumeral 6 m.microsecond)

/-- Date and time with a separator between them, and the offset if there is one. -/
def isoText (m : Moment) (separator : String) : String :=
  m.date.isoText ++ separator ++ m.timeText ++
    (match m.offset with
    | some minutes => offsetText minutes
    | none => "")

/-- The moment as a call of its constructor: trailing zeros of the time are left out. -/
def constructorText (m : Moment) : String :=
  let time :=
    if m.microsecond ≠ 0 then [m.hour, m.minute, m.second, m.microsecond]
    else if m.second ≠ 0 then [m.hour, m.minute, m.second]
    else [m.hour, m.minute]
  let zone := match m.offset with
    | none => []
    | some minutes =>
      ["tzinfo=" ++ (if minutes = 0 then "datetime.timezone.utc"
        else "datetime.timezone(" ++ durationText (minutes * 60) ++ ")")]
  "datetime.datetime(" ++
    String.intercalate ", "
      (([m.date.year, m.date.month, m.date.day] ++ time).map numeral ++ zone) ++ ")"

/-- Whether two moments are the same: with offsets on both sides by instant, without by clock. -/
def equals (a b : Moment) : Bool :=
  a.offset.isSome == b.offset.isSome && a.microseconds == b.microseconds

end Moment
end LabelPress
