/-
# Environment files

A text of lines `NAME=value`.  There may be blanks around the sign of equality and the word
`export` in front; a value may be quoted, and then span lines; `#` starts a comment at the
beginning of a line and after a blank.  Where a line stops fitting this, the rest of it is passed
over together with what was read of it.

A value may refer to what has been defined before it: the name in braces behind a dollar sign
stands for its value, and a default may follow the name after a colon and a minus sign.
-/
import PropertyGraph.OrderedMap
import PropertyGraph.Text.Blank

namespace PropertyGraph.EnvFile

/-- The mark that some editors put in front of a text. -/
def byteOrderMark : Char := Char.ofNat 0xfeff

/-- A text with a line feed as the end of every line. -/
def plainLines : List Char → List Char
  | '\r' :: '\n' :: cs => '\n' :: plainLines cs
  | '\r' :: cs => '\n' :: plainLines cs
  | c :: cs => c :: plainLines cs
  | [] => []

/-- The characters of a file: without a byte order mark, and with plain ends of lines. -/
def characters (s : String) : List Char :=
  match s.toList with
  | c :: cs => plainLines (if c = byteOrderMark then cs else c :: cs)
  | [] => []

/-- Whether a character is a blank within a line. -/
def isInlineBlank (c : Char) : Bool := Text.isBlank c && c != '\n'

/-- A text without the blanks in front that belong to its line. -/
def skipBlanks (cs : List Char) : List Char := cs.dropWhile isInlineBlank

/-- A text from the next line on. -/
def nextLine (cs : List Char) : List Char := (cs.dropWhile (· != '\n')).drop 1

/-- What reading a part of a line gives: the part and what follows it, or else the text from where
it stopped fitting. -/
abbrev Read (α : Type) := Except (List Char) (α × List Char)

/-- A text without the word `export` and the blanks behind it. -/
def skipExport (cs : List Char) : List Char :=
  match cs with
  | 'e' :: 'x' :: 'p' :: 'o' :: 'r' :: 't' :: c :: rest =>
    if isInlineBlank c then skipBlanks rest else cs
  | _ => cs

/-! ### Names and values -/

/-- The characters up to a closing quote, and what follows it.  A character behind a backslash does
not close. -/
def splitQuoted? (quote : Char) : List Char → Option (List Char × List Char)
  | [] => none
  | '\\' :: c :: cs => (splitQuoted? quote cs).map fun (value, rest) => ('\\' :: c :: value, rest)
  | c :: cs =>
    if c = quote then some ([], cs)
    else (splitQuoted? quote cs).map fun (value, rest) => (c :: value, rest)

/-- The escapes between single quotes. -/
def singleEscape? (c : Char) : Option Char :=
  if c = '\\' ∨ c = '\'' then some c else none

/-- The escapes between double quotes. -/
def doubleEscape? (c : Char) : Option Char :=
  if c = '\\' ∨ c = '\'' ∨ c = '\"' then some c
  else match c with
    | 'a' => some (Char.ofNat 7)
    | 'b' => some (Char.ofNat 8)
    | 'f' => some (Char.ofNat 12)
    | 'n' => some '\n'
    | 'r' => some '\r'
    | 't' => some '\t'
    | 'v' => some (Char.ofNat 11)
    | _ => none

/-- A text with its escapes undone; a backslash in front of anything else stays. -/
def unescape (escape? : Char → Option Char) : List Char → List Char
  | [] => []
  | [c] => [c]
  | c :: d :: cs =>
    if c = '\\' then
      match escape? d with
      | some e => e :: unescape escape? cs
      | none => c :: unescape escape? (d :: cs)
    else c :: unescape escape? (d :: cs)

/-- A line up to a blank that is followed by `#`, possibly over more blanks.  `blanks` are the
blanks just seen, the latest first. -/
def beforeComment (blanks : List Char) : List Char → List Char
  | [] => blanks.reverse
  | c :: cs =>
    if Text.isBlank c then beforeComment (c :: blanks) cs
    else if c = '#' ∧ blanks ≠ [] then []
    else blanks.reverse ++ c :: beforeComment [] cs

/-- The name at the front of a text: quoted, or up to a blank, `=` or `#`; a comment has none. -/
def takeName (cs : List Char) : Read (Option (List Char)) :=
  match cs with
  | '#' :: _ => .ok (none, cs)
  | '\'' :: inner =>
    match inner.takeWhile (· != '\''), inner.dropWhile (· != '\'') with
    | c :: name, _ :: rest => .ok (some (c :: name), rest)
    | _, _ => .error cs
  | cs =>
    let inName (c : Char) := !(c == '=' || c == '#' || Text.isBlank c)
    match cs.takeWhile inName with
    | [] => .error cs
    | name => .ok (some name, cs.dropWhile inName)

/-- The value behind a sign of equality, and what follows it: a quoted text, or the line up to a
comment. -/
def takeValue (cs : List Char) : Read (List Char) :=
  let value := skipBlanks cs
  let quoted (quote : Char) (escape? : Char → Option Char) (inner : List Char) :
      Read (List Char) :=
    match splitQuoted? quote inner with
    | some (content, rest) => .ok (unescape escape? content, rest)
    | none => .error value
  match value with
  | '\'' :: inner => quoted '\'' singleEscape? inner
  | '\"' :: inner => quoted '\"' doubleEscape? inner
  | value =>
    let line := value.takeWhile (· != '\n')
    let blanks := (cs.takeWhile isInlineBlank).reverse
    let content := Text.trimBy Text.isBlank (beforeComment blanks line)
    .ok (content, value.dropWhile (· != '\n'))

/-- What follows the rest of a line that holds nothing but blanks and a comment. -/
def endLine (cs : List Char) : Read Unit :=
  match skipBlanks cs with
  | [] => .ok ((), [])
  | c :: rest => if c = '#' ∨ c = '\n' then .ok ((), nextLine (c :: rest)) else .error cs

/-- The binding at the front of a text: a name with its value, a name without a value, or nothing
at all. -/
def takeBinding (cs : List Char) :
    Except (List Char) (Option (String × Option String) × List Char) := do
  let (name?, cs) ← takeName (skipExport cs)
  let (value?, cs) ← match skipBlanks cs with
    | '=' :: cs => do
      let (value, cs) ← takeValue cs
      pure (some value, cs)
    | cs => pure (none, cs)
  let (_, rest) ← endLine cs
  return (name?.map fun name => (String.ofList name, value?.map String.ofList), rest)

/-- The bindings of a text as they stand there, at most `fuel` of them. -/
def bindingsWithin : Nat → List Char → List (String × Option String)
  | 0, _ => []
  | fuel + 1, cs =>
    match cs.dropWhile Text.isBlank with
    | [] => []
    | cs => match takeBinding cs with
      | .ok (some binding, rest) => binding :: bindingsWithin fuel rest
      | .ok (none, rest) => bindingsWithin fuel rest
      | .error rest => bindingsWithin fuel (nextLine rest)

/-- The bindings of a file as they stand there, in order. -/
def rawBindings (s : String) : List (String × Option String) :=
  let cs := characters s
  bindingsWithin (cs.length + 1) cs

/-! ### References -/

/-- A reference to a value. -/
structure Reference where
  /-- The name under which the value is looked up. -/
  name : String
  /-- What stands for the value if the name is not defined. -/
  default : String
deriving DecidableEq, Repr

/-- The inside of a reference at the front of a text, up to the closing brace, and what follows
it. -/
def takeReference? (cs : List Char) : Option (Reference × List Char) :=
  let inName (c : Char) := c != '\x7d' && c != ':'
  let name := String.ofList (cs.takeWhile inName)
  match cs.dropWhile inName with
  | '\x7d' :: rest => some (⟨name, ""⟩, rest)
  | ':' :: '-' :: rest => match rest.dropWhile (· != '\x7d') with
    | _ :: after => some (⟨name, String.ofList (rest.takeWhile (· != '\x7d'))⟩, after)
    | [] => none
  | _ => none

/-- A text with its references replaced, at most `fuel` characters of it. -/
def expandWithin (resolve : Reference → String) : Nat → List Char → List Char
  | 0, cs => cs
  | _, [] => []
  | fuel + 1, '$' :: '\x7b' :: cs =>
    match takeReference? cs with
    | some (reference, rest) =>
      (resolve reference).toList ++ expandWithin resolve fuel rest
    | none => '$' :: expandWithin resolve fuel ('\x7b' :: cs)
  | fuel + 1, c :: cs => c :: expandWithin resolve fuel cs

/-- A text with its references replaced. -/
def expand (resolve : Reference → String) (s : String) : String :=
  String.ofList (expandWithin resolve s.length s.toList)

/-- The values of the names of a file.  A name without a value has none. -/
abbrev Bindings := OrderedMap String (Option String)

/-- What a reference stands for: the value of a name that the file has defined before, or else of an
environment variable. -/
def Bindings.resolve (environment : List (String × String)) (defined : Bindings)
    (reference : Reference) : String :=
  match defined.find? reference.name with
  | some value => value.getD ""
  | none => ((environment.find? fun e => e.1 == reference.name).map Prod.snd).getD
    reference.default

/-- The bindings of an environment file.  A name that is defined again keeps its place. -/
def bindings (environment : List (String × String)) (s : String) : Bindings :=
  (rawBindings s).foldl
    (fun defined (name, value) =>
      defined.insert name (value.map (expand (defined.resolve environment))))
    .empty

end PropertyGraph.EnvFile
