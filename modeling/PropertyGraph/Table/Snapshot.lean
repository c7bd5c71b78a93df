/-
# Tables as graphs

A graph can be given as two tables.  The table of nodes has a column `id` and possibly `labels`;
the table of relationships has columns `start`, `end` and `type` and possibly `id`.  All other
columns are properties, and a missing cell is an absent property.
-/
import PropertyGraph.Network.Snapshot
import PropertyGraph.Table.Column

namespace PropertyGraph

/-- A table. -/
structure Table where
  /-- The columns, in order. -/
  columns : List Column

/-- A row of a table: its cells under the names of their columns. -/
abbrev Row := OrderedMap Value Value

namespace Table

/-- The name of a column among others: where there are only texts, a missing name is
not-a-number. -/
def columnName (allTexts : Bool) (name : Value) : Value :=
  if allTexts && name.isMissing then Column.missingNumber else name

/-- A table of columns.  Of columns with the same name the last one counts, in the place of the
first one; a column that is too short is extended by missing cells. -/
def ofColumns (columns : List Column) : Table :=
  let named := OrderedMap.ofList (columns.map fun c => (c.name, c))
  let height := named.entries.foldl (fun n e => max n e.2.cells.length) 0
  let allTexts := named.keys.all fun name => name.asText?.isSome || name.isMissing
  ⟨named.entries.map fun e => { e.2.extendTo height with name := columnName allTexts e.1 }⟩

/-- Whether a table has a column of some name. -/
def hasColumn (t : Table) (name : String) : Bool := t.columns.any fun c => c.name == .text name

/-- The number of rows. -/
def height (t : Table) : Nat := t.columns.foldl (fun n c => max n c.cells.length) 0

/-- The row at a position. -/
def row (t : Table) (i : Nat) : Row :=
  .ofList (t.columns.map fun c => (c.name, c.cells[i]?.getD Column.missingNumber))

/-- The rows, from top to bottom. -/
def rows (t : Table) : List Row := (List.range t.height).map t.row

/-- The year of the first point in time, row by row, that is out of range. -/
def yearOutOfRange? (t : Table) : Option Int :=
  (t.rows.flatMap OrderedMap.entries).findSome? fun e => match e.2 with
    | .instant m => if m.year < 1 ∨ 9999 < m.year then some m.year else none
    | _ => none

/-- The rows, all of whose points in time have to be in range. -/
def readRows (t : Table) : Except SourceFault (List Row) :=
  match t.yearOutOfRange? with
  | some year => .error (.yearOutOfRange year)
  | none => .ok t.rows

end Table

namespace Row

/-- The cell in a column. -/
def cell (r : Row) (name : String) : Value := (OrderedMap.find? r (.text name)).getD .null

/-- The cells outside some columns that are not missing. -/
def presentCells (r : Row) (names : List String) : List (Value × Value) :=
  r.entries.filter fun e => !(names.any fun n => e.1 == .text n) && !e.2.isMissing

/-- A row read as a node. -/
def readNode (r : Row) : Except SourceFault Node := do
  let id ← Ident.ofForeign? (r.cell "id")
  let labels ← parseLabels (r.cell "labels")
  Node.ofParts? id labels (r.presentCells ["id", "labels"])

/-- A row read as a relationship, which is numbered by its position if it has no identifier. -/
def readRelationship (r : Row) (position : Nat) : Except SourceFault Relationship := do
  let id ← Ident.ofForeign? ((OrderedMap.find? r (.text "id")).getD (.int position))
  let type ← (r.cell "type").foreignText?
  let source ← Ident.ofForeign? (r.cell "start")
  let target ← Ident.ofForeign? (r.cell "end")
  Relationship.ofParts? id type source target (r.presentCells ["id", "type", "start", "end"])

end Row

namespace Table

/-- The relationships that a table holds. -/
def readRelationships (t : Table) : Except SourceFault (List Relationship) := do
  let missing := ["end", "start", "type"].filter fun name => !t.hasColumn name
  unless missing.isEmpty do
    throw (.missingColumns missing)
  (← t.readRows).zipIdx.mapM fun (r, i) => Row.readRelationship r i

/-- Two tables read as a graph; the second one may be absent. -/
def toSnapshot? (nodes : Table) (relationships : Option Table) :
    Except SourceFault Snapshot := do
  unless nodes.hasColumn "id" do
    throw .noIdColumn
  let nodes ← (← nodes.readRows).mapM Row.readNode
  let relationships ← match relationships with
    | some t => t.readRelationships
    | none => pure []
  Snapshot.ofParts? nodes relationships

/-- Two tables read as a graph, reported on. -/
def readSnapshot (nodes : Table) (relationships : Option Table) :
    Attempt SourceFault Snapshot := do
  let s ← Attempt.ofExcept (toSnapshot? nodes relationships)
  Attempt.log (.tablesRead s.nodes.length s.relationships.length)
  return s

end Table

end PropertyGraph
