/-!
# Dates and times

A calendar date, a time of day, or both, possibly with an offset from universal time. A moment has
a plain text (`Moment.display`) and one that names its parts (`Moment.describe`).
-/

namespace OpReturn.Toml

/-- A day of the calendar. -/
structure Date where
  year : Nat
  month : Nat
  day : Nat
deriving DecidableEq, Repr

/-- A time of day. -/
structure Time where
  hour : Nat
  minute : Nat
  second : Nat
  microsecond : Nat
deriving DecidableEq, Repr

/-- A date, a time, or a date with a time and possibly an offset in minutes. -/
inductive Moment where
  | date (d : Date)
  | time (t : Time)
  | both (d : Date) (t : Time) (offset : Option Int)
deriving DecidableEq, Repr

/-- The number of days of a month. -/
def daysIn (year month : Nat) : Nat :=
  if month = 2 then
    if year % 4 = 0 ∧ (year % 100 ≠ 0 ∨ year % 400 = 0) then 29 else 28
  else if month = 4 ∨ month = 6 ∨ month = 9 ∨ month = 11 then 30
  else 31

/-- Is the date one of the calendar? -/
def Date.isValid (d : Date) : Bool :=
  1 ≤ d.year && 1 ≤ d.month && d.month ≤ 12 && 1 ≤ d.day && d.day ≤ daysIn d.year d.month

/-- A number with zeros in front up to `width` digits. -/
def padded (width n : Nat) : String :=
  let digits := Nat.toDigits 10 n
  String.ofList (List.replicate (width - digits.length) '0' ++ digits)

namespace Moment

/-- A date as year, month and day. -/
def dateText (d : Date) : String :=
  padded 4 d.year ++ "-" ++ padded 2 d.month ++ "-" ++ padded 2 d.day

/-- A time as hour, minute and second, and a fraction if there is one. -/
def timeText (t : Time) : String :=
  padded 2 t.hour ++ ":" ++ padded 2 t.minute ++ ":" ++ padded 2 t.second
    ++ if t.microsecond = 0 then "" else "." ++ padded 6 t.microsecond

/-- An offset as signed hours and minutes. -/
def offsetText (minutes : Int) : String :=
  (if minutes < 0 then "-" else "+") ++ padded 2 (minutes.natAbs / 60) ++ ":"
    ++ padded 2 (minutes.natAbs % 60)

/-- The plain text of a moment. -/
def display : Moment → String
  | .date d => dateText d
  | .time t => timeText t
  | .both d t offset => dateText d ++ " " ++ timeText t ++ (offset.map offsetText).getD ""

/-- The name of a moment's type. -/
def typeName : Moment → String
  | .date _ => "datetime.date"
  | .time _ => "datetime.time"
  | .both .. => "datetime.datetime"

/-- Numbers with commas between them. -/
def commaList (numbers : List Nat) : String := ", ".intercalate (numbers.map toString)

/-- The parts of a time: seconds and microseconds only as far as they are needed. -/
def timeParts (t : Time) : List Nat :=
  if t.microsecond ≠ 0 then [t.hour, t.minute, t.second, t.microsecond]
  else if t.second ≠ 0 then [t.hour, t.minute, t.second]
  else [t.hour, t.minute]

/-- An offset with its parts named: whole days and the seconds beyond them. -/
def describeOffset (minutes : Int) : String :=
  if minutes = 0 then "datetime.timezone.utc"
  else
    let days := minutes.fdiv 1440
    let seconds := minutes.fmod 1440 * 60
    let parts := (if days = 0 then [] else ["days=" ++ toString days])
      ++ (if seconds = 0 then [] else ["seconds=" ++ toString seconds])
    "datetime.timezone(datetime.timedelta(" ++ ", ".intercalate parts ++ "))"

/-- The text of a moment that names its type and lists its parts. -/
def describe (moment : Moment) : String :=
  let parts := match moment with
    | .date d => commaList [d.year, d.month, d.day]
    | .time t => commaList (timeParts t)
    | .both d t offset => commaList ([d.year, d.month, d.day] ++ timeParts t)
        ++ (offset.map fun minutes => ", tzinfo=" ++ describeOffset minutes).getD ""
  moment.typeName ++ "(" ++ parts ++ ")"

end Moment
end OpReturn.Toml
