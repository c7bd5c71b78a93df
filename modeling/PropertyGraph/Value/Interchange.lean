/-
# Values as data for other programs

Other programs know nothing, truth values, numbers, texts, lists, and maps whose keys are texts.  A
value is turned into these: a tuple becomes a list, a key becomes a text, and whatever has no
counterpart becomes the text that a message would quote.
-/
import PropertyGraph.OrderedMap
import PropertyGraph.Value.Written

namespace PropertyGraph.Value

/-- A key as a text. -/
def keyText : Value → String
  | .text s | .sized .text (.text s) => s
  | .null => "null"
  | .bool b => if b then "true" else "false"
  | .number (.double .nan) => "NaN"
  | .number (.double (.infinity negative)) => if negative then "-Infinity" else "Infinity"
  | .number n | .sized .float64 (.number n) => n.text
  | v => v.written

mutual

/-- A value as data for other programs. -/
def interchanged : Value → Value
  | .null => .null
  | .bool b => .bool b
  | .number n | .sized .float64 (.number n) => .number n
  | .text s | .sized .text (.text s) => .text s
  | .list items | .tuple items => .list (interchangedItems items)
  | .map entries =>
    .map ((OrderedMap.ofList (interchangedEntries entries)).entries.map fun e => (.text e.1, e.2))
  | v => .text v.written

/-- The members of a collection as data. -/
def interchangedItems : List Value → List Value
  | [] => []
  | v :: vs => interchanged v :: interchangedItems vs

/-- The entries of a map as data.  Of entries whose keys become the same text the last one
counts. -/
def interchangedEntries : List (Value × Value) → List (String × Value)
  | [] => []
  | (k, v) :: es => (k.keyText, interchanged v) :: interchangedEntries es

end

end PropertyGraph.Value
