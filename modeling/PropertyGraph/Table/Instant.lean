/-
# Points in time in table cells

A cell tells a point in time by a text more freely than a scalar does: the year has four digits, but
the parts of the date may be separated by any of a few characters, or stand together, and where they
are separated one digit is enough for a part.  The same holds for the time of day and its colons.
-/
import PropertyGraph.Number.Decimal
import PropertyGraph.Time.Reading

namespace PropertyGraph

/-- Why the text of a cell tells no point in time. -/
inductive CellMomentFault
  /-- The text is laid out in no known way. -/
  | unreadable
  /-- The text is rather a number than a point in time. -/
  | unlikely
  /-- A part of the date or the time is out of its bounds, which are told by a sentence. -/
  | outOfBounds (bounds : String)
deriving DecidableEq, Repr

/-- The wording of a fault of the text of a cell at some position. -/
def CellMomentFault.message (s : String) (position : Nat) (fault : CellMomentFault) : String :=
  let wording := match fault with
    | .unreadable => "Unknown datetime string format, unable to parse: " ++ s
    | .unlikely => "Given date string \"" ++ s ++ "\" not likely a datetime"
    | .outOfBounds bounds => bounds ++ ": " ++ s
  wording ++ ", at position " ++ toString position

namespace CellMoment

/-- A number of two digits at the front of a text, or of one if that is enough. -/
def readPart (single : Bool) : List Char → Except CellMomentFault (Nat × List Char)
  | a :: b :: cs =>
    if a.isDigit && b.isDigit then .ok (Moment.number [a, b], cs)
    else if a.isDigit && single then .ok (Moment.number [a], b :: cs)
    else .error .unreadable
  | [a] => if a.isDigit && single then .ok (Moment.number [a], []) else .error .unreadable
  | [] => .error .unreadable

/-- A part of a date or a time that has to keep to its bounds. -/
def checkPart (bounds : String) (least most n : Nat) : Except CellMomentFault Unit :=
  if least ≤ n ∧ n ≤ most then .ok () else .error (.outOfBounds bounds)

/-- What may stand behind a date and a time: blanks, and a distance from universal time. -/
def finish (m : Moment) (cs : List Char) : Except CellMomentFault Moment :=
  match Moment.readOffset cs with
  | .ok (minutes, rest) =>
    if !(rest.dropWhile Moment.isSpace).isEmpty then .error .unreadable
    else if minutes = 0 then .ok m
    else .ok (.ofAttoseconds (m.sinceEpoch - minutes * TimeUnit.minute.attoseconds))
  | .error _ => .error .unreadable

/-- The seconds of a time of day, possibly with a fraction. -/
def readSeconds (single : Bool) (m : Moment) (cs : List Char) :
    Except CellMomentFault Moment := do
  let (second, cs) ← readPart single cs
  checkPart "second must be in 0..59" 0 59 second
  let m := { m with second }
  match cs with
  | '.' :: cs =>
    let ((attosecond, _), cs) := Moment.readFraction cs
    finish { m with attosecond } cs
  | cs => finish m cs

/-- The minutes of a time of day, and what follows. -/
def readMinutes (single : Bool) (m : Moment) (cs : List Char) :
    Except CellMomentFault Moment := do
  let (minute, cs) ← readPart single cs
  checkPart "minute must be in 0..59" 0 59 minute
  let m := { m with minute }
  match cs with
  | [] => return m
  | c :: rest =>
    if single && c = ':' then readSeconds single m rest
    else if !single && c.isDigit then readSeconds single m (c :: rest)
    else finish m (c :: rest)

/-- The hours of a time of day, and what follows.  Hours of one digit need minutes. -/
def readHours (date : Moment) (cs : List Char) : Except CellMomentFault Moment := do
  let (hour, rest) ← readPart true cs
  checkPart "hour must be in 0..23" 0 23 hour
  let m := { date with hour }
  let isWhole := rest.length + 2 = cs.length
  match rest with
  | ':' :: rest => readMinutes true m rest
  | [] => if isWhole then return m else throw .unreadable
  | c :: rest =>
    if c.isDigit then readMinutes false m (c :: rest)
    else if isWhole then finish m (c :: rest)
    else throw .unreadable

/-- The day of a month, and what follows. -/
def readDay (single : Bool) (year month : Nat) (cs : List Char) :
    Except CellMomentFault Moment := do
  let (day, cs) ← readPart single cs
  checkPart "day is out of range for month" 1 (Moment.daysIn year month) day
  let m : Moment := { year, month, day }
  match cs with
  | [] => return m
  | c :: rest => if c = 'T' ∨ c = ' ' then readHours m rest else throw .unreadable

/-- What follows a year: a month and a day between separators, or of two digits each. -/
def readInYear (year : Nat) (cs : List Char) : Except CellMomentFault Moment := do
  match cs with
  | [] => return { year }
  | c :: rest =>
    let (month, behind) ← readPart (!c.isDigit) (if c.isDigit then c :: rest else rest)
    if !c.isDigit ∧ c ∉ ['-', '.', '/', '\\', ' '] then
      throw .unreadable
    checkPart "month must be in 1..12" 1 12 month
    match behind with
    | [] => if c.isDigit then throw .unreadable else return { year, month }
    | d :: behind =>
      if c.isDigit then readDay false year month (d :: behind)
      else if d = c then readDay true year month behind
      else throw .unreadable

/-- Whether a text is a number below a thousand, or one of the letters that only stand beside an
hour. -/
def isUnlikely (s : String) : Bool :=
  if s.startsWith "0" then false
  else if ["a", "A", "m", "M", "p", "P", "t", "T"].contains s then true
  else match Double.ofText? s with
    | some (.finite negative m e) =>
      let (n, d) := Double.quotient m e
      negative || n < 1000 * d
    | _ => false

/-- The point in time that the text of a cell tells. -/
def ofText (s : String) : Except CellMomentFault Moment :=
  let cs := s.toList.dropWhile Moment.isSpace
  let year := cs.take 4
  let read :=
    if year.length = 4 && year.all Char.isDigit then readInYear (Moment.number year) (cs.drop 4)
    else .error .unreadable
  match read with
  | .error .unreadable => .error (if isUnlikely s then .unlikely else .unreadable)
  | read => read

end CellMoment

end PropertyGraph
