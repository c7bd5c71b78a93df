/-
# Quoted text

Text and byte strings as they appear inside messages: between single quotes, or between double
quotes where that saves escaping a single quote.  A backslash and the quote in use are escaped,
tab, line feed and carriage return have short escapes, and any other character that is not
printable is written by its code in hexadecimal.
-/
import PropertyGraph.Text.Printable

namespace PropertyGraph.Text

/-- A number in lower-case hexadecimal, filled with zeros up to a width. -/
def hex (width n : Nat) : String :=
  let digits := Nat.toDigits 16 n
  String.ofList (List.replicate (width - digits.length) '0' ++ digits)

/-- The quote that goes around a text. -/
def quoteFor (cs : List Char) : Char :=
  if cs.contains '\'' && !cs.contains '\"' then '\"' else '\''

/-- The escape of a character that cannot stand for itself whatever the quote is. -/
def shortEscape? (c : Char) : Option String :=
  if c = '\\' then some "\\\\"
  else if c = '\n' then some "\\n"
  else if c = '\r' then some "\\r"
  else if c = '\t' then some "\\t"
  else none

/-- The escape of a character by its code in hexadecimal. -/
def codeEscape (code : Nat) : String :=
  if code < 0x100 then "\\x" ++ hex 2 code
  else if code < 0x10000 then "\\u" ++ hex 4 code
  else "\\U" ++ hex 8 code

/-- A character between quotes. -/
def escapeChar (quote c : Char) : String :=
  if c = quote then String.ofList ['\\', c]
  else match shortEscape? c with
    | some escape => escape
    | none => if isPrintable c then String.singleton c else codeEscape c.toNat

/-- A text between quotes. -/
def quoted (s : String) : String :=
  let cs := s.toList
  let quote := quoteFor cs
  String.singleton quote ++ String.join (cs.map (escapeChar quote)) ++ String.singleton quote

/-- A byte between quotes: ASCII as a character is, anything else by its code. -/
def escapeByte (quote : Char) (b : UInt8) : String :=
  if b < 0x7f then escapeChar quote (Char.ofNat b.toNat) else codeEscape b.toNat

/-- A byte string between quotes, marked by a letter in front. -/
def quotedBytes (bytes : List UInt8) : String :=
  let quote := quoteFor (bytes.map fun b => Char.ofNat b.toNat)
  "b" ++ String.singleton quote ++ String.join (bytes.map (escapeByte quote)) ++
    String.singleton quote

end PropertyGraph.Text
