/-
# Tables recoded

A recoding writes the cells of a table in another way, each by its column.  The columns, the rows
and the points in time keep their places, so a recoding that rows are read through, row by row, is
one that tables are read through (`Table.toSnapshot?_recoded`).
-/
import PropertyGraph.Proofs.OrderedMap
import PropertyGraph.Proofs.Table.Rows

namespace PropertyGraph

/-- Another way to write the cells of a table. -/
structure Recoding where
  /-- A cell of the column of some name, written in the other way. -/
  recode : Value → Value → Value
  /-- Columns of the same name are written alike. -/
  congr : ∀ j k, (j == k) = true → recode j = recode k
  /-- Points in time stay, and nothing becomes one. -/
  instant : ∀ k cell m, recode k cell = .instant m ↔ cell = .instant m

/-! ### Rows -/

namespace Row

variable {c : Recoding} {r : Row}

/-- A row with its cells recoded. -/
def recoded (c : Recoding) (r : Row) : Row := OrderedMap.mapEntries r c.recode

lemma find?_recoded (k : Value) :
    OrderedMap.find? (r.recoded c) k = (OrderedMap.find? r k).map (c.recode k) :=
  OrderedMap.find?_mapEntries fun j => c.congr j k

/-- A column whose cells stay as they are has the same cell as before. -/
lemma cell_recoded_of_forall {name : String} (h : ∀ cell, c.recode (.text name) cell = cell) :
    (r.recoded c).cell name = r.cell name := by
  rw [cell, cell, find?_recoded]
  cases OrderedMap.find? r (.text name) with
  | none => rfl
  | some v => exact h v

/-- The present cells are the same if only cells of other columns are recoded. -/
lemma presentCells_recoded {names : List String}
    (h : ∀ k cell, names.any (k == .text ·) = false → c.recode k cell = cell) :
    (r.recoded c).presentCells names = r.presentCells names := by
  rw [presentCells, presentCells, recoded, OrderedMap.entries_mapEntries]
  generalize OrderedMap.entries r = entries
  induction entries with
  | nil => rfl
  | cons e entries ih =>
    rw [List.map_cons, List.filter_cons, List.filter_cons, ih]
    cases hnames : names.any (e.1 == .text ·) with
    | true => simp
    | false => simp [h e.1 e.2 hnames]

end Row

/-! ### Tables -/

namespace Table

variable {c : Recoding} {t : Table}

/-- A column, up to some height, with its cells recoded. -/
def recodedColumn (c : Recoding) (height : Nat) (column : Column) : Column where
  name := column.name
  type := column.type
  cells := (List.range height).map fun i =>
    c.recode column.name (column.cells[i]?.getD Column.missingNumber)

/-- A table with its cells recoded. -/
def recoded (c : Recoding) (t : Table) : Table := ⟨t.columns.map (recodedColumn c t.height)⟩

lemma hasColumn_recoded (name : String) : (t.recoded c).hasColumn name = t.hasColumn name := by
  simp [hasColumn, recoded, recodedColumn, Function.comp_def]

lemma height_recoded : (t.recoded c).height = t.height := by
  by_cases h : t.columns = []
  · rw [height, height, recoded, h]
    rfl
  · refine height_of_forall (by simpa [recoded] using h) fun column hcolumn => ?_
    obtain ⟨column, -, rfl⟩ := List.mem_map.1 hcolumn
    simp [recodedColumn]

lemma rows_recoded : (t.recoded c).rows = t.rows.map (Row.recoded c) := by
  rw [rows, rows, height_recoded, List.map_map]
  refine List.map_congr_left fun i hi => ?_
  have hi : i < t.height := List.mem_range.1 hi
  rw [Function.comp_apply, Row.recoded, row, row, OrderedMap.mapEntries_ofList c.congr, recoded]
  simp [recodedColumn, Function.comp_def, hi]

/-- The year of a point in time in a cell, if it is out of range. -/
private def yearOutside? : Value → Option Int
  | .instant m => if m.year < 1 ∨ 9999 < m.year then some m.year else none
  | _ => none

lemma yearOutOfRange?_eq : t.yearOutOfRange? =
    (t.rows.flatMap OrderedMap.entries).findSome? fun e => yearOutside? e.2 := rfl

lemma yearOutside?_recode (k cell : Value) :
    yearOutside? (c.recode k cell) = yearOutside? cell := by
  by_cases h : ∃ m, cell = .instant m
  · obtain ⟨m, rfl⟩ := h
    rw [(c.instant k (.instant m) m).2 rfl]
  · have hrecode : ¬∃ m, c.recode k cell = .instant m := by simpa only [c.instant] using h
    have hnone (v : Value) (hv : ¬∃ m, v = .instant m) : yearOutside? v = none := by
      cases v <;> first | rfl | exact absurd ⟨_, rfl⟩ hv
    rw [hnone _ h, hnone _ hrecode]

lemma yearOutOfRange?_recoded : (t.recoded c).yearOutOfRange? = t.yearOutOfRange? := by
  rw [yearOutOfRange?_eq, yearOutOfRange?_eq, rows_recoded, List.flatMap_map]
  generalize t.rows = rows
  induction rows with
  | nil => rfl
  | cons r rows ih =>
    rw [List.flatMap_cons, List.flatMap_cons, List.findSome?_append, List.findSome?_append, ih,
      Row.recoded, OrderedMap.entries_mapEntries, List.findSome?_map]
    simp only [Function.comp_def, yearOutside?_recode]

lemma readRows_recoded : (t.recoded c).readRows = t.readRows.map (List.map (Row.recoded c)) := by
  rw [readRows, readRows, yearOutOfRange?_recoded, rows_recoded]
  cases t.yearOutOfRange? <;> rfl

lemma readRelationships_recoded (c : Recoding)
    (h : ∀ r i, (Row.recoded c r).readRelationship i = r.readRelationship i) :
    (t.recoded c).readRelationships = t.readRelationships := by
  simp only [readRelationships, hasColumn_recoded, readRows_recoded]
  cases t.readRows with
  | error fault => rfl
  | ok rows =>
    simp only [Except.map, bind, Except.bind]
    rw [List.zipIdx_map, List.mapM_map,
      show (fun p : Row × Nat => p.1.readRelationship p.2) ∘ Prod.map (Row.recoded c) id =
        fun p => p.1.readRelationship p.2 from funext fun p => h p.1 p.2]

/-- Tables are read through a recoding that their rows are read through. -/
theorem toSnapshot?_recoded (c : Recoding)
    (h : ∀ r, (Row.recoded c r).readNode = r.readNode) (relationships : Option Table) :
    toSnapshot? (t.recoded c) relationships = toSnapshot? t relationships := by
  simp only [toSnapshot?, hasColumn_recoded, readRows_recoded]
  cases t.readRows with
  | error fault => rfl
  | ok rows =>
    simp only [Except.map, bind, Except.bind]
    rw [List.mapM_map, show Row.readNode ∘ Row.recoded c = Row.readNode from funext h]

/-- Only what the table of relationships is read as counts. -/
lemma toSnapshot?_congr {t' : Table} (h : t'.readRelationships = t.readRelationships)
    (nodes : Table) : toSnapshot? nodes (some t') = toSnapshot? nodes (some t) := by
  simp only [toSnapshot?, h]

end Table

end PropertyGraph
