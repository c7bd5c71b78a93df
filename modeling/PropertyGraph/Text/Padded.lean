/-
# Padded text

Text filled up to a width with blanks or zeros; text that is wide enough stays as it is.
-/
namespace PropertyGraph.Text

/-- A text of `n` copies of a character. -/
def repeated (c : Char) (n : Nat) : String := String.ofList (List.replicate n c)

/-- A text filled with blanks in front. -/
def padLeft (width : Nat) (s : String) : String := repeated ' ' (width - s.length) ++ s

/-- A text filled with blanks at the end. -/
def padRight (width : Nat) (s : String) : String := s ++ repeated ' ' (width - s.length)

/-- A text filled with zeros in front. -/
def padZeros (width : Nat) (s : String) : String := repeated '0' (width - s.length) ++ s

/-- The greatest length of a text in a list. -/
def widest (texts : List String) : Nat := texts.foldl (fun n s => max n s.length) 0

end PropertyGraph.Text
