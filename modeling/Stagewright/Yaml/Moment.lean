import Stagewright.Value.Basic

/-!
Dates and times as they are written in documents: a date, and behind a letter T or white space a
time of day, which may name its zone.
-/

namespace Stagewright.Yaml

/-- Digits of a fixed number, or one or two of them. -/
def twoDigits? : List Char → Option (Nat × List Char)
  | a :: b :: rest =>
    if a.isDigit && b.isDigit then some (10 * (a.toNat - 48) + (b.toNat - 48), rest) else none
  | _ => none

def oneOrTwoDigits? : List Char → Option (Nat × List Char)
  | a :: rest =>
    if !a.isDigit then none
    else
      match rest with
      | b :: more =>
        if b.isDigit then some (10 * (a.toNat - 48) + (b.toNat - 48), more)
        else some (a.toNat - 48, rest)
      | [] => some (a.toNat - 48, [])
  | [] => none

/-- The rest behind a character that has to stand here. -/
def behind? (c : Char) : List Char → Option (List Char)
  | d :: rest => if d = c then some rest else none
  | [] => none

/-- A time of day. -/
structure Clock where
  hour : Nat
  minute : Nat
  second : Nat
  microsecond : Nat
  offset : Option Int
deriving DecidableEq, Repr

structure Moment where
  year : Nat
  month : Nat
  day : Nat
  clock : Option Clock
deriving DecidableEq, Repr

/-- The first six digits of a fraction, as millionths. -/
def millionths (digits : List Char) : Nat :=
  (digits.take 6 ++ List.replicate (6 - digits.length) '0').foldl
    (fun n d => 10 * n + (d.toNat - 48)) 0

/-- The zone behind a time, in minutes. -/
def zone? : List Char → Option (Option Int)
  | [] => some none
  | cs => do
    match cs.dropWhile fun c => c = ' ' || c = '\t' with
    | ['Z'] => return some 0
    | sign :: rest =>
      guard (sign = '+' || sign = '-')
      let (hours, rest) ← oneOrTwoDigits? rest
      let minutes ← match rest with
        | [] => some 0
        | rest => do
          let (minutes, rest) ← twoDigits? (← behind? ':' rest)
          guard rest.isEmpty
          pure minutes
      let offset : Int := hours * 60 + minutes
      return some (if sign = '-' then -offset else offset)
    | [] => none

/-- The time of day behind a date. -/
def clock? (cs : List Char) : Option Clock := do
  let (hour, cs) ← oneOrTwoDigits? cs
  let (minute, cs) ← twoDigits? (← behind? ':' cs)
  let (second, cs) ← twoDigits? (← behind? ':' cs)
  let fraction := if cs.head? = some '.' then (cs.drop 1).takeWhile Char.isDigit else []
  let cs := if cs.head? = some '.' then cs.drop (fraction.length + 1) else cs
  return ⟨hour, minute, second, millionths fraction, ← zone? cs⟩

/-- The date and the time that the characters write out. -/
def moment? (cs : List Char) : Option Moment := do
  let (century, cs) ← twoDigits? cs
  let (year, cs) ← twoDigits? cs
  let (month, cs) ← oneOrTwoDigits? (← behind? '-' cs)
  let (day, cs) ← oneOrTwoDigits? (← behind? '-' cs)
  let date : Moment := ⟨100 * century + year, month, day, none⟩
  match cs with
  | [] => return date
  | c :: rest =>
    let blank (c : Char) : Bool := c = ' ' || c = '\t'
    let time ←
      if c = 'T' || c = 't' then some rest
      else if blank c then some (rest.dropWhile blank)
      else none
    return { date with clock := some (← clock? time) }

/-- The calendar value of a moment. -/
def Moment.scalar (m : Moment) : Except CalendarFault Scalar :=
  match m.clock with
  | none => (Date.make m.year m.month m.day).map .date
  | some c =>
    (DateTime.make m.year m.month m.day c.hour c.minute c.second c.microsecond c.offset).map
      .dateTime

end Stagewright.Yaml
