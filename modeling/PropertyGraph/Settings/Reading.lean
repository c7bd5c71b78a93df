/-
# Reading settings

A setting is taken from the arguments, else from an environment variable, else from an environment
file, else it has its default.  Names are compared without regard to case; variables carry a
prefix that the host chooses.  Values may be given as text throughout.
-/
import PropertyGraph.Payload
import PropertyGraph.Settings.Basic
import PropertyGraph.Settings.EnvFile
import PropertyGraph.Text.UpperCase

namespace PropertyGraph

namespace Settings

/-- A threshold by its name in any case. -/
def readLevel (v : Value) : Checked Level :=
  match v.shown? with
  | .error fault => Checked.fault (.unwritable fault)
  | .ok name => match Level.all.find? fun level => Text.upper? name == some level.name with
    | some level => .ok level
    | none => Checked.fault (.unknownLevel v)

/-- The texts that mean true. -/
def trueTexts : List String := ["1", "on", "t", "true", "y", "yes"]

/-- The texts that mean false. -/
def falseTexts : List String := ["0", "off", "f", "false", "n", "no"]

/-- A truth value given as text. -/
def readBoolText (s : String) : Checked Bool :=
  let s := Text.lowerAscii s
  if s ∈ trueTexts then .ok true
  else if s ∈ falseTexts then .ok false
  else Checked.fault .unclearBool

/-- The double that a plain value counts as; of a complex number the real part. -/
def plainDouble? : Value → Option Double
  | .bool b => some (.ofInt (if b then 1 else 0))
  | .number n => some n.toDouble
  | .complex re _ => some re
  | _ => none

/-- The double that a value converts to: a number or truth value of any width, or an array without
dimensions that holds one, possibly as a text. -/
def toDouble? : Value → Option Double
  | .array type _ [] [content] => match type.unwrap content, content.decodeText? with
    | .complex _ _, _ => none
    | _, some s => Double.ofText? s
    | v, none => plainDouble? v.plain
  | v => plainDouble? v.plain

/-- Whether a whole number is taken from a double: it has to fit 64 bits with a sign, and be greater
than the least number that does. -/
def fitsFromDouble (i : Int) : Bool := Number.fitsSigned i && Number.fitsSigned (i - 1)

/-- A truth value given as a whole number: 1 or 0. -/
def readBoolInt (i : Int) : Checked Bool :=
  if i = 0 then .ok false
  else if i = 1 then .ok true
  else Checked.fault .unclearBool

/-- A truth value. -/
def readBool (v : Value) : Checked Bool :=
  match v, v.decodeText? with
  | _, some s => readBoolText s
  | .bool b, none => .ok b
  | .bytes _, none => Checked.fault .unclearBool
  | .number (.int i), none =>
    if Number.fitsSigned i then readBoolInt i else Checked.fault .notBool
  | v, none => match (toDouble? v).bind Double.toInt? with
    | some i => if fitsFromDouble i then readBoolInt i else Checked.fault .notBool
    | none => Checked.fault .notBool

/-! ### Whole numbers on paper -/

/-- Digits behind a zero without the zeros and underscores in front.  The last character of these
stays if nothing else is left, or if a point follows. -/
def afterZero? (last : Char) : List Char → Option (List Char)
  | [] => some [last]
  | c :: cs =>
    if c = '0' ∨ c = '_' then afterZero? c cs
    else if c.isDigit ∨ c = '-' then some (c :: cs)
    else if c = '.' then some (last :: c :: cs)
    else none

/-- Digits without zeros in front. -/
def withoutLeadingZeros? : List Char → Option (List Char)
  | '0' :: cs => afterZero? '0' cs
  | c :: cs => if c.isDigit ∨ c = '-' then some (c :: cs) else none
  | [] => none

/-- Digits without a fraction that has only zeros. -/
def withoutZeroFraction (cs : List Char) : List Char :=
  match cs.dropWhile (· != '.') with
  | _ :: c :: fraction =>
    if (c :: fraction).all (· == '0') then cs.takeWhile (· != '.') else cs
  | _ => cs

/-- Digits without underscores, if these stand singly and inside. -/
def withoutUnderscores (cs : List Char) : List Char :=
  let groups := cs.splitOn '_'
  if groups.all fun g => !g.isEmpty then groups.flatten else cs

/-- A whole number on paper, reduced to a possible minus sign and digits as far as it is one. -/
def plainInteger? (s : String) : Option (List Char) := do
  let cs ← match Text.trimBy Text.isWhiteSpace s.toList with
    | '+' :: '-' :: _ => none
    | '+' :: cs => some cs
    | cs => some cs
  let (sign, cs) := match cs with
    | '-' :: cs => (['-'], cs)
    | cs => ([], cs)
  let digits ← withoutLeadingZeros? cs
  return sign ++ withoutUnderscores (withoutZeroFraction digits)

/-- The greatest number of characters that a whole number may have on paper. -/
def integerLength : Nat := Number.digitLimit

/-- A whole number given as text: a sign and digits, with blanks around it, zeros in front, single
underscores between digits and a fraction of zeros where they do no harm. -/
def readIntegerText (s : String) : Checked Int :=
  match plainInteger? s with
  | none => Checked.fault .unclearInteger
  | some cs =>
    let (negative, digits) := match cs with
      | '-' :: digits => (true, digits)
      | digits => (false, digits)
    match Double.takeDigits digits with
    | (n, count, rest) =>
      if count = 0 ∨ (digits.head? = some '0' ∧ 1 < count) then Checked.fault .unclearInteger
      else if integerLength < count + (if negative then 1 else 0) then Checked.fault .tooLarge
      else if rest.isEmpty then .ok (Double.signed negative n)
      else Checked.fault .unclearInteger

/-- A whole number given as a double. -/
def readIntegerDouble (x : Double) : Checked Int :=
  match x with
  | .finite _ _ _ => match x.toInt? with
    | some i => if fitsFromDouble i then .ok i else Checked.fault .tooLarge
    | none => Checked.fault .fractional
  | _ => Checked.fault .notFinite

/-- A whole number. -/
def readInteger (v : Value) : Checked Int :=
  match v, v.decodeText? with
  | _, some s => readIntegerText s
  | .bool b, none => .ok (if b then 1 else 0)
  | .number (.int i), none => .ok i
  | .bytes _, none => Checked.fault .unclearInteger
  | v, none => match toDouble? v with
    | some x => readIntegerDouble x
    | none => Checked.fault .notInteger

/-- Where settings come from. -/
structure Sources where
  /-- The settings given directly. -/
  arguments : List (String × Value) := []
  /-- The environment variables. -/
  environment : List (String × String) := []
  /-- The text of the environment file. -/
  envFile : String := ""

/-- Whether two names are the same in any case. -/
def sameName (a b : String) : Bool := Text.lowerAscii a == Text.lowerAscii b

/-- The argument of some name, or else the first one whose name differs only in case. -/
def argument? (name : String) (arguments : List (String × Value)) : Option Value :=
  let exact := arguments.find? fun e => e.1 == name
  (exact.or (arguments.find? fun e => sameName e.1 name)).map Prod.snd

/-- The last variable of some name, in any case. -/
def lookupVariable {α : Type} (name : String) (entries : List (String × α)) : Option α :=
  (entries.reverse.find? fun e => sameName e.1 name).map Prod.snd

/-- The value of a setting, if any source has one. -/
def Sources.value? (s : Sources) (variablePrefix name : String) : Option Value :=
  let ofFile := (EnvFile.bindings s.environment s.envFile).entries
  (argument? name s.arguments).or <|
    ((lookupVariable (variablePrefix ++ name) s.environment).map Value.text).or <|
      ((lookupVariable (variablePrefix ++ name) ofFile).join).map Value.text

/-- A setting from the sources, or its default. -/
def Sources.setting {α : Type} (s : Sources) (variablePrefix name : String) (default : α)
    (read : Value → Checked α) : Checked α :=
  match s.value? variablePrefix name with
  | some v => Checked.under (.name name) (read v)
  | none => .ok default

/-- The settings from all sources. -/
def ofSources (variablePrefix : String) (s : Sources) : Checked Settings := do
  let defaults : Settings := {}
  let (logLevel, logJson, labelPruning, progressEvery) ←
    Checked.both (s.setting variablePrefix "LOG_LEVEL" defaults.logLevel readLevel) <|
    Checked.both (s.setting variablePrefix "LOG_JSON" defaults.logJson readBool) <|
    Checked.both (s.setting variablePrefix "LABEL_PRUNING" defaults.labelPruning readBool)
      (s.setting variablePrefix "PROGRESS_EVERY" defaults.progressEvery readInteger)
  return { logLevel, logJson, labelPruning, progressEvery }

end Settings

end PropertyGraph
