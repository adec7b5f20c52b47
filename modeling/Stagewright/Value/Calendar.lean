import Stagewright.Text.Quoted

/-!
Dates and times of the proleptic Gregorian calendar, years 1 to 9999, as configuration files may
hold them. A time zone is a distance from universal time in whole minutes.
-/

namespace Stagewright

structure Date where
  year : Nat
  month : Nat
  day : Nat
deriving DecidableEq, Repr

structure DateTime where
  date : Date
  hour : Nat
  minute : Nat
  second : Nat
  microsecond : Nat
  /-- Minutes ahead of universal time; none when the time names no zone. -/
  offset : Option Int
deriving DecidableEq, Repr

/-- What is wrong with the fields of a date or time. -/
inductive CalendarFault where
  | year (year : Nat)
  | month
  | day
  | hour
  | minute
  | second
  | offset (minutes : Int)
deriving DecidableEq, Repr

/-- Decimal digits, filled up with zeros on the left. -/
def padded (width n : Nat) : String :=
  let digits := Nat.toDigits 10 n
  String.ofList (List.replicate (width - digits.length) '0' ++ digits)

/-- A span of minutes as whole days and the seconds that remain, which are never negative. -/
def spanLiteral (minutes : Int) : String :=
  let days := Int.fdiv minutes 1440
  let seconds := Int.fmod minutes 1440 * 60
  let fields := (if days = 0 then [] else ["days=" ++ toString days]) ++
    (if seconds = 0 then [] else ["seconds=" ++ toString seconds])
  let inside := if fields.isEmpty then "0" else ", ".intercalate fields
  "datetime.timedelta(" ++ inside ++ ")"

def CalendarFault.message : CalendarFault → String
  | .year y => "year " ++ toString y ++ " is out of range"
  | .month => "month must be in 1..12"
  | .day => "day is out of range for month"
  | .hour => "hour must be in 0..23"
  | .minute => "minute must be in 0..59"
  | .second => "second must be in 0..59"
  | .offset minutes => "offset must be a timedelta strictly between -timedelta(hours=24) and " ++
      "timedelta(hours=24), not " ++ spanLiteral minutes ++ "."

def isLeapYear (year : Nat) : Bool := year % 4 = 0 && (year % 100 ≠ 0 || year % 400 = 0)

def daysInMonth (year month : Nat) : Nat :=
  if month = 2 then (if isLeapYear year then 29 else 28)
  else if month = 4 ∨ month = 6 ∨ month = 9 ∨ month = 11 then 30
  else 31

/-- A date with the given fields, if the calendar has it. -/
def Date.make (year month day : Nat) : Except CalendarFault Date :=
  if year < 1 ∨ 9999 < year then .error (.year year)
  else if month < 1 ∨ 12 < month then .error .month
  else if day < 1 ∨ daysInMonth year month < day then .error .day
  else .ok ⟨year, month, day⟩

/-- A time with the given fields. The zone is checked before the date, the date before the hour. -/
def DateTime.make (year month day hour minute second microsecond : Nat) (offset : Option Int) :
    Except CalendarFault DateTime := do
  if let some minutes := offset then
    if minutes.natAbs ≥ 1440 then throw (.offset minutes)
  let date ← Date.make year month day
  if hour > 23 then throw .hour
  if minute > 59 then throw .minute
  if second > 59 then throw .second
  return ⟨date, hour, minute, second, microsecond, offset⟩

def Date.text (d : Date) : String :=
  padded 4 d.year ++ "-" ++ padded 2 d.month ++ "-" ++ padded 2 d.day

/-- A date and a time of day; the fraction is left out when zero, the zone when none is named. -/
def DateTime.text (t : DateTime) : String :=
  t.date.text ++ " " ++ padded 2 t.hour ++ ":" ++ padded 2 t.minute ++ ":" ++ padded 2 t.second ++
    (if t.microsecond = 0 then "" else "." ++ padded 6 t.microsecond) ++
    match t.offset with
    | none => ""
    | some minutes => (if minutes < 0 then "-" else "+") ++ padded 2 (minutes.natAbs / 60) ++ ":" ++
        padded 2 (minutes.natAbs % 60)

/-- A date as an expression of the generated program. -/
def Date.literal (d : Date) : String :=
  "datetime.date(" ++ ", ".intercalate [toString d.year, toString d.month, toString d.day] ++ ")"

/-- A time as an expression of the generated program; zero seconds are left out. -/
def DateTime.literal (t : DateTime) : String :=
  let seconds :=
    if t.microsecond ≠ 0 then [t.second, t.microsecond]
    else if t.second ≠ 0 then [t.second]
    else []
  let fields := [t.date.year, t.date.month, t.date.day, t.hour, t.minute] ++ seconds
  let zone := match t.offset with
    | none => []
    | some 0 => ["tzinfo=datetime.timezone.utc"]
    | some minutes => ["tzinfo=datetime.timezone(" ++ spanLiteral minutes ++ ")"]
  "datetime.datetime(" ++ ", ".intercalate (fields.map toString ++ zone) ++ ")"

/-- Days since a fixed day before the first year. -/
def Date.ordinal (d : Date) : Nat :=
  let y := d.year - 1
  let before := (List.range d.month).foldl
    (fun n m => if m = 0 then n else n + daysInMonth d.year m) 0
  365 * y + y / 4 - y / 100 + y / 400 + before + d.day

/-- The same moment told in universal time: minutes, and microseconds past them. Two times that
name a zone are equal as keys when they denote one moment. -/
def DateTime.instant (t : DateTime) : Int × Nat :=
  ((t.date.ordinal * 1440 + t.hour * 60 + t.minute : Nat) - t.offset.getD 0,
    t.second * 1000000 + t.microsecond)

end Stagewright
