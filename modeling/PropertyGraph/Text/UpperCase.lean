/-
# Upper case

The full upper-case mapping of Unicode, as far as it leads into ASCII: besides the ASCII letters a
few others have an upper-case form that is made of ASCII letters only.
-/
namespace PropertyGraph.Text

/-- The upper-case form of a character, if it is ASCII. -/
def upperChar? (c : Char) : Option (List Char) :=
  if c.toNat < 0x80 then some [c.toUpper]
  else match c.toNat with
    | 0x00df => some ['S', 'S']
    | 0x0131 => some ['I']
    | 0x017f => some ['S']
    | 0xfb00 => some ['F', 'F']
    | 0xfb01 => some ['F', 'I']
    | 0xfb02 => some ['F', 'L']
    | 0xfb03 => some ['F', 'F', 'I']
    | 0xfb04 => some ['F', 'F', 'L']
    | 0xfb05 => some ['S', 'T']
    | 0xfb06 => some ['S', 'T']
    | _ => none

/-- The upper-case form of a text, if it is ASCII. -/
def upper? (s : String) : Option String :=
  (s.toList.mapM upperChar?).map fun parts => String.ofList parts.flatten

/-- ASCII letters in lower case, all else as it is. -/
def lowerAscii (s : String) : String := String.ofList (s.toList.map Char.toLower)

end PropertyGraph.Text
