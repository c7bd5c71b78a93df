/-
# Words in nested brackets

The text of a grid of words: the words of a row stand between brackets, the rows of a plane stand
below each other between brackets, and so on.  A row that is too long goes on in the next line.  Of
a large grid only the edges are shown, with dots for what is left out.
-/
import PropertyGraph.Text.Blank
import PropertyGraph.Text.Padded

namespace PropertyGraph

/-- One dimension of what is shown of a grid. -/
structure Axis where
  /-- How many items are shown. -/
  length : Nat
  /-- Whether items in the middle are left out. -/
  cut : Bool
deriving DecidableEq, Repr

namespace Axis

/-- A grid with more words than this is not shown in full. -/
def fullSize : Nat := 1000

/-- The number of items that are shown at either end of a dimension that is not shown in full. -/
def edge : Nat := 3

/-- The number of words of a grid with the given lengths. -/
def sizeOf (shape : List Nat) : Nat := shape.foldl (· * ·) 1

/-- Whether a dimension of some length is cut in a grid that is not shown in full. -/
def isCut (whole : Bool) (n : Nat) : Bool := !whole && 2 * edge < n

/-- What is shown of a grid with the given lengths. -/
def ofShape (shape : List Nat) : List Axis :=
  let whole := sizeOf shape ≤ fullSize
  shape.map fun n => if isCut whole n then ⟨2 * edge, true⟩ else ⟨n, false⟩

end Axis

/-- A list in parts of the same length. -/
def partsOf {α : Type} (count size : Nat) (items : List α) : List (List α) :=
  (List.range count).map fun i => (items.drop (i * size)).take size

/-- The items of a grid that are shown. -/
def visibleItems {α : Type} (whole : Bool) : List Nat → List α → List α
  | [], items => items
  | n :: shape, items =>
    let parts := partsOf n (Axis.sizeOf shape) items
    let parts := if Axis.isCut whole n then
        parts.take Axis.edge ++ parts.drop (n - Axis.edge)
      else parts
    parts.flatMap (visibleItems whole shape)

/-- A grid laid out: what divides its words, and how wide a line may be. -/
structure GridLayout where
  /-- What stands between two words. -/
  separator : String
  /-- The width of what stands in front of the grid. -/
  indent : Nat
  /-- The greatest width of a line. -/
  width : Nat
deriving DecidableEq, Repr

namespace GridLayout

/-- A text without the blanks at its end. -/
def trimEnd (s : String) : String := String.ofList (Text.trimEndBy (· == ' ') s.toList)

/-- Lines under construction. -/
structure Lines where
  /-- The lines that are complete, each with its end. -/
  done : String
  /-- The line to which words are added. -/
  line : String

/-- The lines with a word of one line added, in a new line if it does not fit. -/
def addWord (hanging : String) (width : Nat) (t : Lines) (word : String) : Lines :=
  if t.line.length + word.length > width ∧ hanging.length < t.line.length then
    ⟨t.done ++ trimEnd t.line ++ "\n", hanging ++ word⟩
  else ⟨t.done, t.line ++ word⟩

/-- The lines with a word of several lines added, which stay below each other. -/
def addBlock (hanging : String) (width : Nat) (t : Lines) (words : List String) : Lines :=
  let widest := Text.widest words
  let start : Lines :=
    if t.line.length + widest > width ∧ hanging.length < t.line.length then
      ⟨t.done ++ trimEnd t.line ++ "\n", hanging⟩
    else t
  let block := match words with
    | [] => start
    | w :: ws => ws.foldl
        (fun (u : Lines) v =>
          ⟨u.done ++ trimEnd u.line ++ "\n", Text.repeated ' ' start.line.length ++ v⟩)
        ⟨start.done, start.line ++ w⟩
  { block with line := block.line ++
      Text.repeated ' ' (widest - (words.getLast?.map String.length).getD 0) }

/-- The lines with a word added. -/
def add (hanging : String) (width : Nat) (t : Lines) (word : String) : Lines :=
  match (word.toList.splitOn '\n').map String.ofList with
  | [_] => addWord hanging width t word
  | words => addBlock hanging width t words

/-- The lines with words added, divided from each other. -/
def addAll (layout : GridLayout) (hanging : String) (width : Nat) (t : Lines) :
    List String → Lines
  | [] => t
  | [w] => add hanging width t w
  | w :: ws =>
    let t := add hanging width t w
    addAll layout hanging width { t with line := t.line ++ layout.separator } ws

/-- Words with dots where items are left out. -/
def withDots (axis : Axis) (words : List String) : List String :=
  if axis.cut then words.take Axis.edge ++ "..." :: words.drop Axis.edge else words

/-- The text of a grid whose dimensions follow `depth` others; `words` are the words shown. -/
def renderFrom (layout : GridLayout) (depth : Nat) : List Axis → List String → String
  | [], words => words.headD ""
  | [axis], words =>
    let hanging := Text.repeated ' ' (layout.indent + 1 + depth)
    -- One column is kept for each bracket that closes.
    let width := layout.width - depth - 1
    let t := layout.addAll hanging width ⟨"", hanging⟩ (withDots axis words)
    "[" ++ String.ofList ((t.done ++ t.line).toList.drop hanging.length) ++ "]"
  | axis :: axes, words =>
    let parts := partsOf axis.length (Axis.sizeOf (axes.map Axis.length)) words
    let rows := withDots axis (parts.map (renderFrom layout (depth + 1) axes))
    let divider := trimEnd layout.separator ++ Text.repeated '\n' axes.length ++
      Text.repeated ' ' (layout.indent + 1 + depth)
    "[" ++ divider.intercalate rows ++ "]"

/-- The text of a grid of which these words are shown. -/
def render (layout : GridLayout) (axes : List Axis) (words : List String) : String :=
  layout.renderFrom 0 axes words

end GridLayout

end PropertyGraph
