/-
# Points in time

A point in time by the calendar and the clock, its text, and its number of steps of some unit from
the epoch.  Years may have any sign and size; the calendar is carried on in both directions as it is
today.
-/
import PropertyGraph.Text.Padded

namespace PropertyGraph

/-- The unit up to which a point in time is known. -/
inductive TimeUnit
  | year
  | month
  | week
  | day
  | hour
  | minute
  | second
  | millisecond
  | microsecond
  | nanosecond
  | picosecond
  | femtosecond
  | attosecond
deriving DecidableEq, Repr

namespace TimeUnit

/-- All units, the coarsest first. -/
def all : List TimeUnit :=
  [.year, .month, .week, .day, .hour, .minute, .second, .millisecond, .microsecond, .nanosecond,
    .picosecond, .femtosecond, .attosecond]

/-- The short name of a unit. -/
def code : TimeUnit → String
  | .year => "Y"
  | .month => "M"
  | .week => "W"
  | .day => "D"
  | .hour => "h"
  | .minute => "m"
  | .second => "s"
  | .millisecond => "ms"
  | .microsecond => "us"
  | .nanosecond => "ns"
  | .picosecond => "ps"
  | .femtosecond => "fs"
  | .attosecond => "as"

/-- The position of a unit among all units. -/
def rank (u : TimeUnit) : Nat := all.idxOf u

/-- The finer one of two units. -/
def finer (a b : TimeUnit) : TimeUnit := if a.rank < b.rank then b else a

/-- Whether a unit is part of a day. -/
def isClock (u : TimeUnit) : Bool := TimeUnit.day.rank < u.rank

/-- The number of attoseconds in a unit; years and months have no fixed length and count as days. -/
def attoseconds : TimeUnit → Nat
  | .year | .month | .day => 86400000000000000000000
  | .week => 604800000000000000000000
  | .hour => 3600000000000000000000
  | .minute => 60000000000000000000
  | .second => 1000000000000000000
  | .millisecond => 1000000000000000
  | .microsecond => 1000000000000
  | .nanosecond => 1000000000
  | .picosecond => 1000000
  | .femtosecond => 1000
  | .attosecond => 1

/-- The number of digits after the point that a fraction of a second has in a unit. -/
def fractionDigits : TimeUnit → Nat
  | .millisecond => 3
  | .microsecond => 6
  | .nanosecond => 9
  | .picosecond => 12
  | .femtosecond => 15
  | .attosecond => 18
  | _ => 0

end TimeUnit

/-- A point in time. -/
structure Moment where
  year : Int
  month : Nat := 1
  day : Nat := 1
  hour : Nat := 0
  minute : Nat := 0
  second : Nat := 0
  attosecond : Nat := 0
deriving DecidableEq, Repr, Inhabited

namespace Moment

/-! ### Text -/

/-- A year with four characters at least, a sign being one of them. -/
def yearText (year : Int) : String :=
  if year < 0 then "-" ++ Text.padZeros 3 (toString year.natAbs)
  else Text.padZeros 4 (toString year)

/-- A number with two digits at least. -/
def twoDigits (n : Nat) : String := Text.padZeros 2 (toString n)

/-- The calendar date of a point in time. -/
def dateText (m : Moment) : String :=
  yearText m.year ++ "-" ++ twoDigits m.month ++ "-" ++ twoDigits m.day

/-- The time of day of a point in time, up to the second. -/
def clockText (m : Moment) : String :=
  twoDigits m.hour ++ ":" ++ twoDigits m.minute ++ ":" ++ twoDigits m.second

/-- A point and so many digits of the fraction of a second; nothing if there are none. -/
def fractionText (m : Moment) (digits : Nat) : String :=
  if digits = 0 then ""
  else "." ++ String.ofList ((Text.padZeros 18 (toString m.attosecond)).toList.take digits)

/-- A point in time up to some unit. -/
def textTo (m : Moment) : TimeUnit → String
  | .year => yearText m.year
  | .month => yearText m.year ++ "-" ++ twoDigits m.month
  | .week | .day => m.dateText
  | .hour => m.dateText ++ "T" ++ twoDigits m.hour
  | .minute => m.dateText ++ "T" ++ twoDigits m.hour ++ ":" ++ twoDigits m.minute
  | unit => m.dateText ++ "T" ++ m.clockText ++ m.fractionText unit.fractionDigits

/-- A point in time as date and time of day, the latter up to the second or the shorter one of two
fractions that hold it down to the nanosecond. -/
def text (m : Moment) : String :=
  let nanoseconds := m.attosecond / TimeUnit.nanosecond.attoseconds
  m.dateText ++ " " ++ m.clockText ++
    m.fractionText (if nanoseconds = 0 then 0 else if nanoseconds % 1000 = 0 then 6 else 9)

/-! ### Counting -/

/-- The number of days from the first of March in the year 0 to the epoch. -/
def epochDay : Int := 719468

/-- The calendar date so many days after the first of March in the year 0.  Years begin in March,
so that the leap day comes last. -/
def ofDays (days : Int) : Moment :=
  let era := days / 146097
  let inEra := days % 146097
  let yearInEra := (inEra - inEra / 1460 + inEra / 36524 - inEra / 146096) / 365
  let inYear := inEra - (365 * yearInEra + yearInEra / 4 - yearInEra / 100)
  let monthFromMarch := (5 * inYear + 2) / 153
  let day := inYear - (153 * monthFromMarch + 2) / 5 + 1
  let month := if monthFromMarch < 10 then monthFromMarch + 3 else monthFromMarch - 9
  { year := yearInEra + era * 400 + if month ≤ 2 then 1 else 0
    month := month.toNat
    day := day.toNat }

/-- The number of days from the first of March in the year 0 to the calendar date of a point in
time. -/
def toDays (m : Moment) : Int :=
  let year : Int := m.year - if m.month ≤ 2 then 1 else 0
  let inEra := year % 400
  let monthFromMarch : Int := if m.month ≤ 2 then m.month + 9 else m.month - 3
  year / 400 * 146097 + 365 * inEra + inEra / 4 - inEra / 100 + (153 * monthFromMarch + 2) / 5 +
    m.day - 1

/-- The number of attoseconds from the epoch to a point in time. -/
def sinceEpoch (m : Moment) : Int :=
  let seconds : Int := (m.toDays - epochDay) * 86400 + 3600 * m.hour + 60 * m.minute + m.second
  seconds * TimeUnit.second.attoseconds + m.attosecond

/-- The point in time so many attoseconds after the epoch. -/
def ofAttoseconds (count : Int) : Moment :=
  let inDay := (count % TimeUnit.day.attoseconds).toNat
  let seconds := inDay / TimeUnit.second.attoseconds
  { ofDays (count / TimeUnit.day.attoseconds + epochDay) with
    hour := seconds / 3600
    minute := seconds / 60 % 60
    second := seconds % 60
    attosecond := inDay % TimeUnit.second.attoseconds }

/-- The number of complete steps of a unit from the epoch to a point in time. -/
def steps (m : Moment) : TimeUnit → Int
  | .year => m.year - 1970
  | .month => 12 * (m.year - 1970) + m.month - 1
  | unit => m.sinceEpoch / unit.attoseconds

/-- The point in time so many steps of a unit after the epoch. -/
def ofSteps (unit : TimeUnit) (count : Int) : Moment :=
  match unit with
  | .year => { year := 1970 + count }
  | .month => { year := 1970 + count / 12, month := (count % 12).toNat + 1 }
  | unit => ofAttoseconds (count * unit.attoseconds)

end Moment

end PropertyGraph
