/-
# Missing identifiers, ends and types in tables

A missing cell of a property column is an absent property.  A missing identifier, end or type is not
looked at in this way: it becomes the text by which a missing value is written, such as `nan` or
`None`, and the row is read like any other.  So a table with such cells is read as the table in
which they are spelled out, and never refused on their account (`Table.toSnapshot?_missing`).  A
spelled-out cell may even name a row that has this text as its identifier.
-/
import PropertyGraph.Proofs.Table.Readable
import PropertyGraph.Proofs.Table.Recoding
import PropertyGraph.Proofs.Value.Key

namespace PropertyGraph

/-! ### Missing values -/

/-- What is held by a missing scalar of a fixed width is missing too. -/
lemma Value.isMissing_plain {v : Value} (h : v.isMissing = true) : v.plain.isMissing = true := by
  cases v with
  | sized type content =>
    have hcontent : content.isMissing = true := by
      cases content <;> first | exact h | simp [isMissing] at h
    rw [plain]
    unfold ScalarType.unwrap
    split
    · simp [isMissing] at hcontent
    · simp [isMissing, Number.isNaN] at hcontent
    · rfl
    · exact hcontent
  | _ => exact h

lemma Ident.ofForeign_of_isMissing {v : Value} (h : v.isMissing = true) :
    Ident.ofForeign v = .text v.plain.shown := by
  have hplain := Value.isMissing_plain h
  unfold ofForeign
  split
  · next i hi => simp [hi, Value.isMissing, Number.isNaN] at hplain
  · next s hs => simp [hs, Value.isMissing] at hplain
  · rfl

/-- No missing value is too long to be written. -/
lemma Value.isWritable_of_isMissing {v : Value} (h : v.isMissing = true) :
    v.isWritable = true := by
  cases v with
  | number n =>
    cases n with
    | int i => cases h
    | double x => rfl
  | null | noInstant | complex | sized => rfl
  | _ => cases h

lemma Ident.ofForeign?_of_isMissing {v : Value} (h : v.isMissing = true) :
    Ident.ofForeign? v = .ok (.text v.plain.shown) := by
  refine Ident.ofForeign?_eq_ok_iff.2 ⟨?_, (Ident.ofForeign_of_isMissing h).symm⟩
  unfold Value.canIdentify
  split
  · rfl
  · exact Value.isWritable_of_isMissing (Value.isMissing_plain h)

/-! ### Spelling out -/

/-- The columns of a table that identifiers and types are read from, by their names. -/
structure StructuralColumns where
  /-- The columns of identifiers. -/
  idents : List String
  /-- The columns of types. -/
  types : List String

namespace StructuralColumns

/-- The columns of a table of nodes. -/
def ofNodes : StructuralColumns := ⟨["id"], []⟩

/-- The columns of a table of relationships. -/
def ofRelationships : StructuralColumns := ⟨["id", "start", "end"], ["type"]⟩

/-- The names of all these columns. -/
def names (s : StructuralColumns) : List String := s.idents ++ s.types

/-- A cell spelled out: a missing identifier or type becomes the text that it is read as. -/
def spell (s : StructuralColumns) (name cell : Value) : Value :=
  if !cell.isMissing then cell
  else if s.idents.any (name == .text ·) then .text cell.plain.shown
  else if s.types.any (name == .text ·) then .text cell.shown
  else cell

variable {s : StructuralColumns} {name : String} {k cell : Value}

/-- Columns of the same name are spelled out alike. -/
lemma spell_congr {j k : Value} (h : (j == k) = true) : s.spell j = s.spell k := by
  funext cell
  simp only [spell, Value.beq_text_congr h]

/-- Cells of other columns stay as they are. -/
lemma spell_of_forall (h : ∀ n ∈ s.names, (k == .text n) = false) : s.spell k cell = cell := by
  have hidents : s.idents.any (k == .text ·) = false :=
    List.any_eq_false.2 fun n hn => by simp [h n (List.mem_append_left _ hn)]
  have htypes : s.types.any (k == .text ·) = false :=
    List.any_eq_false.2 fun n hn => by simp [h n (List.mem_append_right _ hn)]
  simp [spell, hidents, htypes]

lemma isMissing_spell (h : name ∈ s.names) : (s.spell (.text name) cell).isMissing = false := by
  unfold spell
  split
  · next hcell => simpa using hcell
  · split
    · rfl
    · next hidents =>
      rw [if_pos]
      · rfl
      · rcases List.mem_append.1 h with h | h
        · exact absurd (List.any_eq_true.2 ⟨name, h, by simp [Value.text_beq]⟩) hidents
        · exact List.any_eq_true.2 ⟨name, h, by simp [Value.text_beq]⟩

/-- Spelling out does not change what a cell is read as. -/
lemma ofForeign?_spell (h : name ∈ s.idents) :
    Ident.ofForeign? (s.spell (.text name) cell) = Ident.ofForeign? cell := by
  have hident : s.idents.any (Value.text name == .text ·) = true :=
    List.any_eq_true.2 ⟨name, h, by simp [Value.text_beq]⟩
  cases hcell : cell.isMissing with
  | false => simp [spell, hcell]
  | true =>
    have hspell : s.spell (.text name) cell = .text cell.plain.shown := by
      simp [spell, hcell, hident]
    rw [Ident.ofForeign?_of_isMissing hcell, hspell]
    rfl

lemma foreignText?_spell (h : name ∉ s.idents) :
    (s.spell (.text name) cell).foreignText? = cell.foreignText? := by
  have hident : s.idents.any (Value.text name == .text ·) = false := by
    refine List.any_eq_false.2 fun n hn heq => h ?_
    rw [Value.text_beq, beq_iff_eq] at heq
    exact heq ▸ hn
  simp only [spell, hident, Bool.false_eq_true, if_false]
  split
  · rfl
  · next hcell =>
    have hmissing : cell.isMissing = true := by simpa using hcell
    split
    · rw [Value.foreignText?_text,
        Value.foreignText?_eq_ok_iff.2 ⟨Value.isWritable_of_isMissing hmissing, rfl⟩]
    · rfl

/-- Neither a missing cell nor a text is a point in time. -/
lemma spell_eq_instant_iff (k cell : Value) (m : Moment) :
    s.spell k cell = .instant m ↔ cell = .instant m := by
  cases hcell : cell.isMissing with
  | false => simp [spell, hcell]
  | true =>
    have hne : cell ≠ .instant m := Value.ne_instant_of_isMissing hcell m
    refine iff_of_false (fun h => ?_) hne
    unfold spell at h
    split at h
    · exact hne h
    · split at h
      · cases h
      · split at h
        · cases h
        · exact hne h

/-- Spelling out as another way to write a table. -/
def recoding (s : StructuralColumns) : Recoding where
  recode := s.spell
  congr := fun _ _ => s.spell_congr
  instant := s.spell_eq_instant_iff

end StructuralColumns

/-! ### Rows -/

namespace Row

variable {s : StructuralColumns} {r : Row} {name : String}

/-- A row with its missing identifiers and types spelled out. -/
def spelled (s : StructuralColumns) (r : Row) : Row := OrderedMap.mapEntries r s.spell

lemma spelled_eq_recoded : r.spelled s = r.recoded s.recoding := rfl

lemma find?_spelled (k : Value) :
    OrderedMap.find? (r.spelled s) k = (OrderedMap.find? r k).map (s.spell k) :=
  find?_recoded (c := s.recoding) k

/-- What is read as an identifier is the same in both rows. -/
lemma ofForeign?_find?_spelled (h : name ∈ s.idents) (default : Value) :
    Ident.ofForeign? ((OrderedMap.find? (r.spelled s) (.text name)).getD default) =
      Ident.ofForeign? ((OrderedMap.find? r (.text name)).getD default) := by
  rw [find?_spelled]
  cases OrderedMap.find? r (.text name) with
  | none => rfl
  | some v => exact s.ofForeign?_spell h

lemma foreignText?_cell_spelled (h : name ∉ s.idents) :
    (Row.cell (r.spelled s) name).foreignText? = (Row.cell r name).foreignText? := by
  rw [cell, cell, find?_spelled]
  cases OrderedMap.find? r (.text name) with
  | none => rfl
  | some v => exact s.foreignText?_spell h

lemma cell_spelled_of_notMem (h : name ∉ s.names) : Row.cell (r.spelled s) name = r.cell name := by
  refine cell_recoded_of_forall (c := s.recoding) fun cell => s.spell_of_forall fun n hn => ?_
  rw [Value.text_beq, beq_eq_false_iff_ne]
  rintro rfl
  exact h hn

/-- No identifier or type is a property. -/
lemma presentCells_spelled {own : List String} (h : ∀ n ∈ s.names, n ∈ own) :
    (r.spelled s).presentCells own = r.presentCells own :=
  presentCells_recoded (c := s.recoding) fun _ _ hown =>
    s.spell_of_forall fun n hn => by simpa using List.any_eq_false.1 hown n (h n hn)

lemma readNode_spelled (r : Row) : (r.spelled .ofNodes).readNode = r.readNode := by
  have hlabels : (r.spelled .ofNodes).cell "labels" = r.cell "labels" :=
    cell_spelled_of_notMem (by decide)
  have hid : Ident.ofForeign? ((r.spelled .ofNodes).cell "id") =
      Ident.ofForeign? (r.cell "id") :=
    ofForeign?_find?_spelled (by decide) _
  rw [readNode, readNode, hlabels, hid, presentCells_spelled (by decide)]

lemma readRelationship_spelled (r : Row) (position : Nat) :
    (r.spelled .ofRelationships).readRelationship position = r.readRelationship position := by
  have hsource : Ident.ofForeign? ((r.spelled .ofRelationships).cell "start") =
      Ident.ofForeign? (r.cell "start") :=
    ofForeign?_find?_spelled (by decide) _
  have htarget : Ident.ofForeign? ((r.spelled .ofRelationships).cell "end") =
      Ident.ofForeign? (r.cell "end") :=
    ofForeign?_find?_spelled (by decide) _
  rw [readRelationship, readRelationship, ofForeign?_find?_spelled (by decide),
    foreignText?_cell_spelled (by decide), hsource, htarget, presentCells_spelled (by decide)]

end Row

/-! ### Tables -/

namespace Table

variable {s : StructuralColumns} {t : Table}

/-- A column, up to some height, with its missing identifiers or types spelled out. -/
def spelledColumn (s : StructuralColumns) (height : Nat) (c : Column) : Column where
  name := c.name
  type := c.type
  cells := (List.range height).map fun i => s.spell c.name (c.cells[i]?.getD Column.missingNumber)

/-- A table with its missing identifiers and types spelled out. -/
def spelled (s : StructuralColumns) (t : Table) : Table :=
  ⟨t.columns.map (spelledColumn s t.height)⟩

/-- Some row of a table has no identifier or type where the table has a column for it. -/
def LacksStructure (s : StructuralColumns) (t : Table) : Prop :=
  ∃ r ∈ t.rows, ∃ name ∈ s.names, ∃ cell, OrderedMap.find? r (.text name) = some cell ∧
    cell.isMissing = true

lemma spelled_eq_recoded : t.spelled s = t.recoded s.recoding := rfl

lemma not_lacksStructure_spelled : ¬(t.spelled s).LacksStructure s := by
  rintro ⟨r', hr', name, hname, cell, hcell, hmissing⟩
  rw [spelled_eq_recoded, rows_recoded] at hr'
  obtain ⟨r, -, rfl⟩ := List.mem_map.1 hr'
  rw [← Row.spelled_eq_recoded, Row.find?_spelled] at hcell
  obtain ⟨v, -, rfl⟩ := Option.map_eq_some_iff.1 hcell
  rw [s.isMissing_spell hname] at hmissing
  exact absurd hmissing (by decide)

/-- Tables are read as the tables in which missing identifiers and types are spelled out. -/
lemma toSnapshot?_spelled (nodes : Table) (relationships : Option Table) :
    toSnapshot? (nodes.spelled .ofNodes) (relationships.map (spelled .ofRelationships)) =
      toSnapshot? nodes relationships := by
  refine (toSnapshot?_recoded StructuralColumns.ofNodes.recoding Row.readNode_spelled _).trans ?_
  cases relationships with
  | none => rfl
  | some t =>
    refine toSnapshot?_congr ?_ nodes
    exact readRelationships_recoded StructuralColumns.ofRelationships.recoding
      Row.readRelationship_spelled

end Table

/-! ### Tables with missing identifiers, ends or types -/

namespace Table

/-- No identifier, end or type is missing in two tables. -/
def Complete (nodes : Table) (relationships : Option Table) : Prop :=
  ¬nodes.LacksStructure .ofNodes ∧ ∀ t ∈ relationships, ¬t.LacksStructure .ofRelationships

lemma complete_spelled (nodes : Table) (relationships : Option Table) :
    Complete (nodes.spelled .ofNodes) (relationships.map (spelled .ofRelationships)) := by
  refine ⟨not_lacksStructure_spelled, fun t ht => ?_⟩
  obtain ⟨t, -, rfl⟩ := Option.map_eq_some_iff.1 ht
  exact not_lacksStructure_spelled

/-- Two tables are read as the complete tables in which every missing identifier, end and type is
spelled out.  So a graph is read from complete tables only, exactly if they are complete or cannot
be read at all, for which no missing identifier, end or type is a reason.  In a graph that is read,
the identifiers, ends and types are the cells as they are read, and a missing identifier is read as
the text of the missing value. -/
theorem toSnapshot?_missing (nodes : Table) (relationships : Option Table) :
    toSnapshot? (nodes.spelled .ofNodes) (relationships.map (spelled .ofRelationships)) =
      toSnapshot? nodes relationships ∧
    Complete (nodes.spelled .ofNodes) (relationships.map (spelled .ofRelationships)) ∧
    ((∃ g, toSnapshot? nodes relationships = .ok g) ↔ Readable nodes relationships) ∧
    ((∀ g, toSnapshot? nodes relationships = .ok g → Complete nodes relationships) ↔
      Complete nodes relationships ∨ ¬Readable nodes relationships) ∧
    (∀ g, toSnapshot? nodes relationships = .ok g →
      List.Forall₂ Row.Names nodes.rows g.nodes ∧
        ∀ t ∈ relationships,
          List.Forall₂ (fun p => p.1.Describes p.2) t.rows.zipIdx g.relationships) ∧
    ∀ cell : Value, cell.isMissing = true → Ident.ofForeign cell = .text cell.plain.shown := by
  refine ⟨toSnapshot?_spelled nodes relationships, complete_spelled nodes relationships,
    exists_toSnapshot?_iff, ?_, fun g hg => ?_, fun cell => Ident.ofForeign_of_isMissing⟩
  · rw [← exists_toSnapshot?_iff]
    cases toSnapshot? nodes relationships <;> simp
  · obtain ⟨-, -, hnodes, hrels, -⟩ := toSnapshot?_eq_ok_iff.1 hg
    refine ⟨hnodes.imp fun _ _ => Row.names_of_readNode, fun t ht => ?_⟩
    exact (readRelationships_eq_ok_iff.1 (hrels t ht)).2.2.imp
      fun _ _ => Row.describes_of_readRelationship

/-- Two rows, the second of which has no identifier. -/
def unnamedRow : Table :=
  ⟨[⟨.text "id", .text, [.text "a", Column.missingNumber]⟩]⟩

/-- A row without an end and without a type. -/
def looseRow : Table :=
  ⟨[⟨.text "start", .text, [.text "a"]⟩, ⟨.text "end", .scalar .float64, [Column.missingNumber]⟩,
    ⟨.text "type", .object, [.null]⟩]⟩

/-- A row without an identifier and a row without an end and a type are read, and are even
connected: both missing cells are read as the same text. -/
theorem unnamedRow_read :
    (∃ g, toSnapshot? unnamedRow (some looseRow) = .ok g ∧
      g.nodeIds = [.text "a", .text "nan"] ∧
      g.relationships.map (fun r => (r.source, r.type, r.target)) =
        [(.text "a", "None", .text "nan")]) ∧
    ¬Complete unnamedRow (some looseRow) := by
  refine ⟨⟨_, rfl, rfl, rfl⟩, fun h => h.1 ?_⟩
  exact ⟨_, List.mem_cons_of_mem _ List.mem_cons_self, "id", by decide, _, rfl, rfl⟩

end Table

end PropertyGraph
