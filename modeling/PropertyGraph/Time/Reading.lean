/-
# Reading points in time

A text denotes a point in time up to the unit at which it stops: a year of any size with an optional
sign, and behind it month, day, hours, minutes and seconds of two digits each, the seconds with a
fraction of at most eighteen digits.  A time of day may be followed by its distance from universal
time.  Where a text stops fitting this, the fault tells the position.
-/
import PropertyGraph.Time.Moment

namespace PropertyGraph

/-- Why a text denotes no point in time. -/
inductive MomentFault
  /-- The text stops fitting at some position. -/
  | unreadable (text : String) (position : Nat)
  /-- A part of the text is a number that the calendar or the clock does not have. -/
  | outOfRange (part text : String)
deriving DecidableEq, Repr

/-- The wording of a fault. -/
def MomentFault.message : MomentFault → String
  | .unreadable s position =>
    "Error parsing datetime string \"" ++ s ++ "\" at position " ++ toString position
  | .outOfRange part s => part ++ " out of range in datetime string \"" ++ s ++ "\""

namespace Moment

/-- Whether a character is ASCII white space. -/
def isSpace (c : Char) : Bool := c == ' ' || (9 ≤ c.toNat && c.toNat ≤ 13)

/-- Digits as a number. -/
def number (cs : List Char) : Nat := cs.foldl (fun n c => 10 * n + (c.toNat - '0'.toNat)) 0

/-- A number folded into 64 bits with a sign, as counting on past the last one does. -/
def folded (i : Int) : Int := Int.bmod i 18446744073709551616

/-- The number of days in a month. -/
def daysIn (year : Int) (month : Nat) : Nat :=
  if month = 2 then
    if year % 4 = 0 ∧ (year % 100 ≠ 0 ∨ year % 400 = 0) then 29 else 28
  else if month = 4 ∨ month = 6 ∨ month = 9 ∨ month = 11 then 30
  else 31

/-- Where reading a text ends early. -/
inductive Stop
  /-- The text stops fitting, and this is left of it. -/
  | unfit (rest : List Char)
  /-- A part of it is out of range. -/
  | outOfRange (part : String)

/-- A number of two digits between bounds. -/
def readTwo (part : String) (least most : Nat) : List Char → Except Stop (Nat × List Char)
  | a :: b :: cs =>
    if a.isDigit ∧ b.isDigit then
      let n := number [a, b]
      if least ≤ n ∧ n ≤ most then .ok (n, cs) else .error (.outOfRange part)
    else .error (.unfit (a :: b :: cs))
  | cs => .error (.unfit cs)

/-- A number of one digit or two, up to a bound. -/
def readUpToTwo (part : String) (most : Nat) : List Char → Except Stop (Nat × List Char)
  | a :: b :: cs =>
    if a.isDigit ∧ b.isDigit then readTwo part 0 most (a :: b :: cs)
    else if a.isDigit then .ok (number [a], b :: cs)
    else .error (.unfit (a :: b :: cs))
  | [a] => if a.isDigit then .ok (number [a], []) else .error (.unfit [a])
  | [] => .error (.unfit [])

/-- The minutes behind the hours of a distance from universal time, with an optional colon. -/
def readOffsetMinutes (cs : List Char) : Except Stop (Nat × List Char) :=
  match cs with
  | [] => .ok (0, [])
  | ':' :: cs => readUpToTwo "Timezone minutes offset" 59 cs
  | cs => readUpToTwo "Timezone minutes offset" 59 cs

/-- The distance from universal time at the end of a text, in minutes. -/
def readOffset (cs : List Char) : Except Stop (Int × List Char) :=
  let distance (negative : Bool) (cs : List Char) : Except Stop (Int × List Char) := do
    let (hours, cs) ← readUpToTwo "Timezone hours offset" 23 cs
    let (minutes, cs) ← readOffsetMinutes cs
    let total : Int := 60 * hours + minutes
    return (if negative then -total else total, cs)
  match cs.dropWhile isSpace with
  | 'Z' :: cs => .ok (0, cs)
  | '+' :: cs => distance false cs
  | '-' :: cs => distance true cs
  | cs => .ok (0, cs)

/-- A fraction of a second behind its point, with the unit at which it stops. -/
def readFraction (cs : List Char) : (Nat × TimeUnit) × List Char :=
  let digits := (cs.take 18).takeWhile Char.isDigit
  let unit : TimeUnit :=
    if digits.length ≤ 3 then .millisecond
    else if digits.length ≤ 6 then .microsecond
    else if digits.length ≤ 9 then .nanosecond
    else if digits.length ≤ 12 then .picosecond
    else if digits.length ≤ 15 then .femtosecond
    else .attosecond
  ((number (digits ++ List.replicate (18 - digits.length) '0'), unit), cs.drop digits.length)

/-- A time of day on a date. -/
def readClock (date : Moment) (cs : List Char) :
    Except Stop ((Moment × TimeUnit) × List Char) := do
  let (hour, cs) ← readTwo "Hours" 0 23 cs
  let m := { date with hour }
  match cs with
  | ':' :: cs => do
    let (minute, cs) ← readTwo "Minutes" 0 59 cs
    let m := { m with minute }
    match cs with
    | ':' :: cs => do
      let (second, cs) ← readTwo "Seconds" 0 59 cs
      let m := { m with second }
      match cs with
      | '.' :: cs =>
        let ((attosecond, unit), cs) := readFraction cs
        return (({ m with attosecond }, unit), cs)
      | cs => return ((m, .second), cs)
    | cs => return ((m, .minute), cs)
  | cs => return ((m, .hour), cs)

/-- A time of day on a date, with an optional distance from universal time and blanks behind it. -/
def readClockAt (date : Moment) (cs : List Char) :
    Except Stop ((Moment × TimeUnit) × List Char) := do
  let ((m, unit), cs) ← readClock date cs
  let (minutes, cs) ← readOffset cs
  let shifted :=
    if minutes = 0 then m
    else ofAttoseconds (m.sinceEpoch - minutes * TimeUnit.minute.attoseconds)
  return ((shifted, unit), cs.dropWhile isSpace)

/-- What follows the year. -/
def readInYear (year : Int) (cs : List Char) :
    Except Stop ((Moment × TimeUnit) × List Char) := do
  match cs with
  | [] => return (({ year }, .year), [])
  | '-' :: cs =>
    let (month, cs) ← readTwo "Month" 1 12 cs
    match cs with
    | [] => return (({ year, month }, .month), [])
    | '-' :: cs =>
      let (day, cs) ← readTwo "Day" 1 (daysIn year month) cs
      let date : Moment := { year, month, day }
      match cs with
      | [] => return ((date, .day), [])
      | c :: rest => if c = 'T' ∨ c = ' ' then readClockAt date rest else throw (.unfit (c :: rest))
    | cs => throw (.unfit cs)
  | cs => throw (.unfit cs)

/-- A point in time at the front of a text.  Only a minus sign without blanks in front of it makes
the year negative. -/
def read (cs : List Char) : Except Stop ((Moment × TimeUnit) × List Char) :=
  match cs.dropWhile isSpace with
  | [] => .error (.unfit [])
  | c :: rest =>
    let unsigned := if c = '-' ∨ c = '+' then rest else c :: rest
    if unsigned.isEmpty then .error (.unfit [])
    else
      let year : Int := number (unsigned.takeWhile Char.isDigit)
      readInYear (folded (if cs.head? = some '-' then -year else year))
        (unsigned.dropWhile Char.isDigit)

/-- The point in time that a text denotes, and the unit at which the text stops. -/
def ofText (s : String) : Except MomentFault (Moment × TimeUnit) :=
  match read s.toList with
  | .ok (result, []) => .ok result
  | .ok (_, rest) | .error (.unfit rest) => .error (.unreadable s (s.length - rest.length))
  | .error (.outOfRange part) => .error (.outOfRange part s)

end Moment

end PropertyGraph
