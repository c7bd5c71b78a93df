/-
# Tables of elements

A table with a row for every element is made of columns that tell a cell of each element
(`tableOf`).  If the columns have distinct names, a row finds under each name the cell of its
element, whatever the order of the columns (`find?_rowOf`), and the rows of the table are those of
the elements (`Table.rows_tableOf`).

Such a table is what is made of columns of objects, as long as no cell is a scalar of a fixed width
(`Table.exists_ofCells_eq`).  A number or truth value of a fixed width is given back as the plain
value, but this is stored as the same property (`Column.ofValue?_objectCell`).
-/
import PropertyGraph.Proofs.Network.Attributes
import PropertyGraph.Proofs.Property.Reading
import PropertyGraph.Table.Snapshot

namespace PropertyGraph

/-- A column by its name and by the cell that each element has in it. -/
abbrev CellsOf (α : Type) := String × (α → Value)

/-- The table of some columns with a row for every element; the cells read back as they are. -/
def tableOf {α : Type} (columns : List (CellsOf α)) (elements : List α) : Table :=
  ⟨columns.map fun c => ⟨.text c.1, .object, elements.map c.2⟩⟩

/-! ### Columns of objects -/

namespace Column

/-- A column of objects gives back every cell but the scalars of a fixed width. -/
lemma objectCell_eq_self {v : Value} (h : ∀ type content, v ≠ .sized type content) :
    objectCell v = v := by
  cases v with
  | sized type content => exact absurd rfl (h type content)
  | _ => rfl

/-- Unless it is a point in time, a cell of a column of objects is stored as what was put in. -/
lemma ofValue?_objectCell {v : Value} (h : ∀ unit content, v ≠ .sized (.datetime64 unit) content) :
    Property.ofValue? (objectCell v) = Property.ofValue? v := by
  cases v with
  | sized type content =>
    cases type with
    | datetime64 unit => exact absurd rfl (h unit content)
    | _ => cases content <;> rfl
  | _ => rfl

end Column

lemma Value.ne_instant_of_isMissing {v : Value} (h : v.isMissing = true) (m : Moment) :
    v ≠ .instant m := by
  rintro rfl
  cases h

section Rows

variable {α : Type} {columns : List (CellsOf α)} {elements : List α} {a : α} {k : String}

/-- The row of an element. -/
def rowOf (columns : List (CellsOf α)) (a : α) : Row :=
  .ofList (columns.map fun c => (.text c.1, c.2 a))

lemma entries_rowOf (h : (columns.map Prod.fst).Nodup) (a : α) :
    (rowOf columns a).entries = columns.map fun c => (.text c.1, c.2 a) := by
  refine OrderedMap.entries_ofList_of_pairwise (List.pairwise_map.2 ?_)
  refine (List.pairwise_map.1 h).imp fun hne => ?_
  rw [Value.text_beq]
  exact beq_eq_false_iff_ne.2 hne

/-- The cell of an element in a column of some name. -/
lemma find?_rowOf (h : (columns.map Prod.fst).Nodup) {f : α → Value} (hf : (k, f) ∈ columns) :
    (rowOf columns a).find? (.text k) = some (f a) := by
  have hcolumn : (OrderedMap.ofList columns).find? k = some f := by
    rw [OrderedMap.find?_eq_some_iff, OrderedMap.entries_ofList h]
    exact hf
  rw [OrderedMap.find?, OrderedMap.entries_ofList h] at hcolumn
  rw [OrderedMap.find?, entries_rowOf h, List.find?_map, Option.map_map]
  have hname : (fun e : Value × Value => e.1 == .text k) ∘
      (fun c : CellsOf α => (Value.text c.1, c.2 a)) = fun c => c.1 == k := rfl
  obtain ⟨c, hc, rfl⟩ := Option.map_eq_some_iff.1 hcolumn
  rw [hname, hc]
  rfl

lemma find?_rowOf_of_notMem (h : (columns.map Prod.fst).Nodup)
    (hk : k ∉ columns.map Prod.fst) : (rowOf columns a).find? (.text k) = none := by
  refine OrderedMap.find?_eq_none_of_forall fun e he => ?_
  rw [entries_rowOf h] at he
  obtain ⟨c, hc, rfl⟩ := List.mem_map.1 he
  rw [Value.text_beq]
  exact beq_eq_false_iff_ne.2 fun heq => hk (heq ▸ List.mem_map_of_mem hc)

lemma cell_rowOf (h : (columns.map Prod.fst).Nodup) {f : α → Value} (hf : (k, f) ∈ columns) :
    Row.cell (rowOf columns a) k = f a := by
  rw [Row.cell, find?_rowOf h hf, Option.getD_some]

namespace Table

lemma hasColumn_tableOf (hk : k ∈ columns.map Prod.fst) :
    (tableOf columns elements).hasColumn k = true := by
  obtain ⟨c, hc, rfl⟩ := List.mem_map.1 hk
  refine List.any_eq_true.2 ⟨_, List.mem_map_of_mem hc, ?_⟩
  exact beq_self_eq_true c.1

/-- Where all columns are equally high, so is the table. -/
lemma height_of_forall {t : Table} {n : Nat} (h : t.columns ≠ [])
    (hcolumns : ∀ c ∈ t.columns, c.cells.length = n) : t.height = n := by
  have hfold (cs : List Column) (hcs : ∀ c ∈ cs, c.cells.length = n) (m : Nat) :
      cs.foldl (fun m c => max m c.cells.length) m = if cs = [] then m else max m n := by
    induction cs generalizing m with
    | nil => rfl
    | cons c cs ih =>
      obtain ⟨hc, hcs⟩ := List.forall_mem_cons.1 hcs
      rw [List.foldl_cons, ih hcs, hc]
      split <;> simp
  rw [height, hfold t.columns hcolumns, if_neg h, Nat.zero_max]

lemma height_tableOf (h : columns ≠ []) :
    (tableOf columns elements).height = elements.length := by
  refine height_of_forall (by simpa [tableOf] using h) fun c hc => ?_
  obtain ⟨column, -, rfl⟩ := List.mem_map.1 hc
  exact List.length_map _

/-- The rows of a table are those of its elements. -/
theorem rows_tableOf (h : columns ≠ []) :
    (tableOf columns elements).rows = elements.map (rowOf columns) := by
  have hheight : (tableOf columns elements).height = elements.length := height_tableOf h
  refine List.ext_getElem (by simp [rows, hheight]) fun i hi _ => ?_
  have hlt : i < elements.length := by simpa [rows, hheight] using hi
  simp only [rows, List.getElem_map, List.getElem_range, row, rowOf, tableOf, List.map_map]
  congr 1
  refine List.map_congr_left fun c _ => ?_
  simp [List.getElem?_eq_getElem hlt]

/-- Without points in time, all rows of a table can be read. -/
lemma readRows_tableOf (h : columns ≠ []) (hnames : (columns.map Prod.fst).Nodup)
    (hcells : ∀ c ∈ columns, ∀ a ∈ elements, ∀ m, c.2 a ≠ .instant m) :
    (tableOf columns elements).readRows = .ok (elements.map (rowOf columns)) := by
  have hrange : (tableOf columns elements).yearOutOfRange? = none := by
    rw [yearOutOfRange?, rows_tableOf h, List.flatMap_map, List.findSome?_eq_none_iff]
    intro e he
    obtain ⟨a, ha, he⟩ := List.mem_flatMap.1 he
    rw [entries_rowOf hnames] at he
    obtain ⟨c, hc, rfl⟩ := List.mem_map.1 he
    have hne := hcells c hc a ha
    split
    · next m hm => exact absurd hm (hne m)
    · rfl
  rw [readRows, hrange, rows_tableOf h]

/-! ### How the table is made -/

/-- Of columns with distinct names that are equally high, a table is made as they are. -/
lemma ofColumns_tableOf (hcolumns : columns ≠ []) (hnames : (columns.map Prod.fst).Nodup) :
    ofColumns (tableOf columns elements).columns = tableOf columns elements := by
  have hentries :
      (OrderedMap.ofList ((tableOf columns elements).columns.map fun c => (c.name, c))).entries =
        (tableOf columns elements).columns.map fun c => (c.name, c) := by
    refine OrderedMap.entries_ofList_of_pairwise ?_
    rw [tableOf, List.map_map, List.pairwise_map]
    refine (List.pairwise_map.1 hnames).imp fun hne => ?_
    exact (Value.text_beq ..).trans (beq_eq_false_iff_ne.2 hne)
  have hheight : (tableOf columns elements).columns.foldl (fun n c => max n c.cells.length) 0 =
      elements.length := height_tableOf hcolumns
  have hkept (allTexts : Bool) : ∀ c ∈ (tableOf columns elements).columns,
      { c.extendTo elements.length with name := columnName allTexts c.name } = c := by
    intro c hc
    obtain ⟨column, -, rfl⟩ := List.mem_map.1 hc
    simp [Column.extendTo, columnName, Value.isMissing]
  rw [ofColumns, hentries, List.foldl_map, hheight, List.map_map]
  exact congrArg Table.mk ((List.map_congr_left (hkept _)).trans (List.map_id _))

/-- Columns of objects, none of which holds a scalar of a fixed width, make up the table. -/
theorem exists_ofCells_eq (hcolumns : columns ≠ []) (hnames : (columns.map Prod.fst).Nodup)
    (hcells : ∀ c ∈ columns, ∀ a ∈ elements, ∀ type content, c.2 a ≠ .sized type content) :
    ∃ made, (columns.mapM fun c => Column.ofCells (.text c.1) (elements.map c.2) (some .object)) =
        .ok made ∧
      ofColumns made = tableOf columns elements := by
  refine ⟨_, mapM_eq_ok_iff_forall₂.2 ?_, ofColumns_tableOf hcolumns hnames⟩
  rw [tableOf, List.forall₂_map_right_iff, List.forall₂_same]
  intro c hc
  have hkept : (elements.map c.2).map Column.objectCell = elements.map c.2 := by
    rw [List.map_map]
    exact List.map_congr_left fun a ha => Column.objectCell_eq_self (hcells c hc a ha)
  exact congrArg (fun cells => Except.ok (Column.mk (.text c.1) .object cells)) hkept

end Table

end Rows

end PropertyGraph
