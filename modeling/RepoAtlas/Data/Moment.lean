/-!
# Dates and times

Configuration texts may hold dates, times of day and their combinations, with or without an offset
from universal time. They are carried along only to be written out again: `Moment.iso` is the
standard form, and `Moment.structural`, which names every part, is used inside lists and tables.
-/

namespace RepoAtlas

/-- A calendar date. -/
structure Date where
  year : Nat
  month : Nat
  day : Nat
deriving DecidableEq, Repr

/-- A time of day to the microsecond. -/
structure DayTime where
  hour : Nat
  minute : Nat
  second : Nat
  microsecond : Nat
deriving DecidableEq, Repr

/-- A date, a time of day, or both with an optional offset from universal time in minutes. -/
inductive Moment where
  | date (date : Date)
  | time (time : DayTime)
  | dateTime (date : Date) (time : DayTime) (offset : Option Int)
deriving DecidableEq, Repr

def Date.monthLength (year month : Nat) : Nat :=
  if month == 2 then
    (if year % 4 == 0 && (year % 100 != 0 || year % 400 == 0) then 29 else 28)
  else if month == 4 || month == 6 || month == 9 || month == 11 then 30
  else 31

/-- Whether the calendar has this date; it begins with the year 1. -/
def Date.isValid (d : Date) : Bool :=
  1 ≤ d.year && 1 ≤ d.month && d.month ≤ 12 && 1 ≤ d.day && d.day ≤ monthLength d.year d.month

/-- Whether a clock shows this time; leap seconds are not shown. -/
def DayTime.isValid (t : DayTime) : Bool := t.hour < 24 && t.minute < 60 && t.second < 60

namespace Moment

def padded (width n : Nat) : String :=
  let digits := Nat.toDigits 10 n
  String.ofList (List.replicate (width - digits.length) '0' ++ digits)

/-- A date as year, month and day. -/
def isoDate (d : Date) : String :=
  padded 4 d.year ++ "-" ++ padded 2 d.month ++ "-" ++ padded 2 d.day

/-- A time with its microseconds only where there are any. -/
def isoTime (t : DayTime) : String :=
  padded 2 t.hour ++ ":" ++ padded 2 t.minute ++ ":" ++ padded 2 t.second
    ++ (if t.microsecond = 0 then "" else "." ++ padded 6 t.microsecond)

def isoOffset (minutes : Int) : String :=
  (if minutes < 0 then "-" else "+") ++ padded 2 (minutes.natAbs / 60) ++ ":"
    ++ padded 2 (minutes.natAbs % 60)

/-- The standard form, with a space between a date and its time. -/
def iso : Moment → String
  | .date d => isoDate d
  | .time t => isoTime t
  | .dateTime d t offset =>
    isoDate d ++ " " ++ isoTime t ++ ((offset.map isoOffset).getD "")

def commaList (numbers : List Nat) : String := ", ".intercalate (numbers.map toString)

/-- The parts of a time that are written: seconds and microseconds only up to the last that is not
zero. -/
def timeParts (t : DayTime) : List Nat :=
  [t.hour, t.minute]
    ++ (if t.second = 0 ∧ t.microsecond = 0 then [] else [t.second])
    ++ (if t.microsecond = 0 then [] else [t.microsecond])

/-- An offset by its parts; days are borrowed so that the seconds are not negative. -/
def structuralOffset (minutes : Int) : String :=
  if minutes = 0 then "datetime.timezone.utc"
  else
    let parts :=
      if minutes < 0 then "days=-1, seconds=" ++ toString (86400 + 60 * minutes)
      else "seconds=" ++ toString (60 * minutes)
    "datetime.timezone(datetime.timedelta(" ++ parts ++ "))"

def structural : Moment → String
  | .date d => "datetime.date(" ++ commaList [d.year, d.month, d.day] ++ ")"
  | .time t => "datetime.time(" ++ commaList (timeParts t) ++ ")"
  | .dateTime d t offset =>
    "datetime.datetime(" ++ commaList ([d.year, d.month, d.day] ++ timeParts t)
      ++ (match offset with
        | some minutes => ", tzinfo=" ++ structuralOffset minutes
        | none => "")
      ++ ")"

end Moment

end RepoAtlas
