/-
# A draft as two tables

Outside the columns that mean something of their own, the cells of a row that are not missing are
the properties of its element (`presentCells_rowOf`).  So each row is read as the element to be read
but for the order of the properties, and two tables as a graph that is alike
(`Frames.exists_snapshot`).
-/
import PropertyGraph.Proofs.Draft.Alike
import PropertyGraph.Proofs.Draft.Elements
import PropertyGraph.Proofs.Property.Equality

namespace PropertyGraph

/-! ### Cells -/

lemma GivenProperty.ne_instant (g : GivenProperty) (m : Moment) : g.value ≠ .instant m := by
  intro h
  have hstored := g.stored
  rw [h] at hstored
  simp [Property.ofValue?, Property.ofPlainValue?, Scalar.ofValue?, Value.plain, Value.asScalar?,
    Value.asText?] at hstored

namespace PropertyDraft

variable (ps : PropertyDraft) {names : List String}

/-- The properties in the order of some names. -/
def arranged (names : List String) : List (String × GivenProperty) :=
  names.filterMap fun k => (ps.given.find? k).map fun g => (k, g)

lemma mem_arranged {e : String × GivenProperty} :
    e ∈ ps.arranged names ↔ e.1 ∈ names ∧ e ∈ ps.given.entries := by
  rw [arranged, List.mem_filterMap]
  constructor
  · rintro ⟨k, hk, hek⟩
    obtain ⟨g, hg, rfl⟩ := Option.map_eq_some_iff.1 hek
    exact ⟨hk, OrderedMap.find?_eq_some_iff.1 hg⟩
  · rintro ⟨hk, he⟩
    refine ⟨e.1, hk, ?_⟩
    rw [OrderedMap.find?_eq_some_iff.2 he]
    rfl

lemma keys_arranged : (ps.arranged names).map Prod.fst =
    names.filter fun k => (ps.given.find? k).isSome := by
  rw [arranged, List.map_filterMap, ← List.filterMap_eq_filter]
  refine List.filterMap_congr fun k _ => ?_
  cases hfind : ps.given.find? k <;> simp [Option.guard, hfind]

lemma nodup_keys_arranged (h : names.Nodup) : ((ps.arranged names).map Prod.fst).Nodup := by
  rw [ps.keys_arranged]
  exact h.filter _

/-- Arranging loses nothing if there is a name for every property. -/
lemma perm_arranged (h : names.Nodup) (hcovers : ∀ k ∈ ps.given.keys, k ∈ names) :
    (ps.arranged names).Perm ps.given.entries := by
  have harranged : (ps.arranged names).Nodup := .of_map _ (ps.nodup_keys_arranged h)
  have hgiven : ps.given.entries.Nodup := .of_map _ ps.given.nodup_keys
  refine (List.perm_ext_iff_of_nodup harranged hgiven).2 fun e => ?_
  rw [ps.mem_arranged]
  exact ⟨fun he => he.2, fun he => ⟨hcovers _ (List.mem_map_of_mem he), he⟩⟩

/-- The properties stored in the order of some names find what they are to find. -/
lemma find?_arranged (h : names.Nodup) (hcovers : ∀ k ∈ ps.given.keys, k ∈ names) :
    (OrderedMap.ofList ((ps.arranged names).map fun e => (e.1, e.2.property))).find? =
      ps.properties.find? := by
  have hkeys : (((ps.arranged names).map fun e => (e.1, e.2.property)).map Prod.fst).Nodup := by
    rw [List.map_map]
    exact ps.nodup_keys_arranged h
  refine funext fun k => OrderedMap.find?_eq_of_perm ?_ k
  rw [OrderedMap.entries_ofList hkeys]
  exact (ps.perm_arranged h hcovers).map _

end PropertyDraft

section PropertyCells

variable {α : Type} {elements : List α} {properties : α → PropertyDraft}
  {columns : List (CellsOf α)} {a : α}

lemma PropertyColumns.ne_instant_cell (c : PropertyColumns elements properties) (k : String)
    (a : α) (m : Moment) : c.cell k a ≠ .instant m := by
  rw [PropertyColumns.cell]
  split
  · next g _ => exact g.ne_instant m
  · exact Value.ne_instant_of_isMissing (c.missing k a) m

/-- Outside the columns of their own meaning, the cells of an element that are not missing are its
properties, in the order of the columns. -/
lemma presentCells_rowOf (c : PropertyColumns elements properties) {own : List String}
    (hown : ∀ k ∈ own, k ∈ structuralNames) (hnames : (columns.map Prod.fst).Nodup)
    (hcolumns : ∀ column ∈ columns,
      column.1 ∈ own ∨ ∃ k ∈ c.keys, column = (k, c.cell k)) (a : α) :
    Row.presentCells (rowOf columns a) own =
      ((properties a).arranged (columns.map Prod.fst)).map fun e => (.text e.1, e.2.value) := by
  rw [Row.presentCells, entries_rowOf hnames, PropertyDraft.arranged, List.filterMap_map]
  clear hnames
  induction columns with
  | nil => rfl
  | cons column columns ih =>
    obtain ⟨hcolumn, hcolumns⟩ := List.forall_mem_cons.1 hcolumns
    have hown_iff : (own.any fun n => Value.text column.1 == .text n) = true ↔
        column.1 ∈ own := by
      simp [Value.text_beq]
    rw [List.map_cons, List.filter_cons, List.filterMap_cons, ih hcolumns]
    simp only [Function.comp_apply]
    rcases hcolumn with hcolumn | ⟨k, hk, rfl⟩
    · -- a column of its own meaning is skipped, and no property has its name
      have hnone : (properties a).given.find? column.1 = none :=
        OrderedMap.find?_eq_none_iff.2 ((properties a).notMem_keys (hown _ hcolumn))
      simp [hown_iff.2 hcolumn, hnone]
    · have hnot : (own.any fun n => Value.text k == .text n) = false :=
        Bool.eq_false_iff.2 fun h => c.free k hk (hown k (hown_iff.1 h))
      cases hfind : (properties a).given.find? k with
      | none =>
        have hblank := c.missing k a
        simp [hnot, PropertyColumns.cell, hfind, hblank]
      | some g =>
        have hpresent := g.present
        simp [hnot, PropertyColumns.cell, hfind, hpresent]

end PropertyCells

/-! ### Columns -/

namespace PropertyColumns

variable {α : Type} {elements : List α} {properties : α → PropertyDraft}
  (c : PropertyColumns elements properties)

lemma names_columns : c.columns.map Prod.fst = c.keys := by
  rw [columns, List.map_map]
  exact List.map_id c.keys

lemma mem_columns {column : CellsOf α} (h : column ∈ c.columns) :
    ∃ k ∈ c.keys, column = (k, c.cell k) := by
  obtain ⟨k, hk, rfl⟩ := List.mem_map.1 h
  exact ⟨k, hk, rfl⟩

/-- Columns of their own meaning beside those of the properties. -/
lemma nodup_append {own : List String} (hnodup : own.Nodup)
    (hown : ∀ k ∈ own, k ∈ structuralNames) : (own ++ c.keys).Nodup := by
  refine List.nodup_append.2 ⟨hnodup, c.nodup, ?_⟩
  rintro a ha b hb rfl
  exact c.free a hb (hown a ha)

/-- The properties of an element, stored in the order of the columns of its table, find what they
are to find. -/
lemma find?_arranged {names own : List String} (hperm : names.Perm (own ++ c.keys))
    (hnodup : names.Nodup) {a : α} (ha : a ∈ elements) :
    (OrderedMap.ofList (((properties a).arranged names).map fun e => (e.1, e.2.property))).find? =
      (properties a).properties.find? := by
  refine (properties a).find?_arranged hnodup fun k hk => ?_
  exact hperm.mem_iff.2 (List.mem_append_right _ (c.covers a ha k hk))

end PropertyColumns

/-- The node to be read, its properties in the order of some names. -/
def NodeDraft.arranged (n : NodeDraft) (names : List String) : Node :=
  ⟨n.id, .ofList n.names, .ofList ((n.properties.arranged names).map fun e => (e.1, e.2.property))⟩

/-- The relationship to be read under some identifier, its properties in the order of some names. -/
def RelationshipDraft.arranged (r : RelationshipDraft) (names : List String) (id : Ident) :
    Relationship :=
  .ofType id r.type r.source r.target
    (.ofList ((r.properties.arranged names).map fun e => (e.1, e.2.property)))

namespace Draft.Frames

variable {d : Draft} (f : d.Frames)

/-! ### The table of the nodes -/

lemma names_nodeColumns_perm : (f.nodeColumns.map Prod.fst).Perm
    (["id", "labels"] ++ f.nodeProperties.keys) := by
  have hperm := f.nodeColumns_perm.map Prod.fst
  rwa [List.map_cons, List.map_cons, f.nodeProperties.names_columns] at hperm

lemma nodup_nodeColumns : (f.nodeColumns.map Prod.fst).Nodup :=
  f.names_nodeColumns_perm.nodup_iff.2 (f.nodeProperties.nodup_append (by decide) (by decide))

lemma id_mem_nodeColumns : ("id", fun n : NodeDraft => n.id.toValue) ∈ f.nodeColumns :=
  f.nodeColumns_perm.mem_iff.2 List.mem_cons_self

lemma mem_nodeColumns {column : CellsOf NodeDraft} (h : column ∈ f.nodeColumns) :
    column = ("id", fun n => n.id.toValue) ∨ column = ("labels", NodeDraft.labelCell f.joined) ∨
      ∃ k ∈ f.nodeProperties.keys, column = (k, f.nodeProperties.cell k) := by
  have hmem := f.nodeColumns_perm.mem_iff.1 h
  rw [List.mem_cons, List.mem_cons] at hmem
  exact hmem.imp_right fun hmem => hmem.imp_right f.nodeProperties.mem_columns

/-- A row of the table of the nodes is read as its node, the properties in the order of the
columns. -/
lemma readNode_rowOf (n : NodeDraft) : Row.readNode (rowOf f.nodeColumns n) =
    .ok (n.arranged (f.nodeColumns.map Prod.fst)) := by
  have hlabels : ("labels", NodeDraft.labelCell f.joined) ∈ f.nodeColumns :=
    f.nodeColumns_perm.mem_iff.2 (List.mem_cons_of_mem _ List.mem_cons_self)
  have hpresent : Row.presentCells (rowOf f.nodeColumns n) ["id", "labels"] =
      (n.properties.arranged (f.nodeColumns.map Prod.fst)).map fun e => (.text e.1, e.2.value) := by
    refine presentCells_rowOf f.nodeProperties (by decide) f.nodup_nodeColumns ?_ n
    intro column hcolumn
    rcases f.mem_nodeColumns hcolumn with rfl | rfl | hkey
    · exact .inl (by simp)
    · exact .inl (by simp)
    · exact .inr hkey
  rw [Row.readNode, cell_rowOf f.nodup_nodeColumns f.id_mem_nodeColumns,
    cell_rowOf f.nodup_nodeColumns hlabels, n.parseLabels_labelCell, hpresent,
    Ident.ofForeign?_toValue]
  exact n.ofParts?_eq

lemma readRows_nodeTable :
    f.nodeTable.readRows = .ok (d.nodes.map (rowOf f.nodeColumns)) := by
  have hne : f.nodeColumns ≠ [] := List.ne_nil_of_mem f.id_mem_nodeColumns
  refine Table.readRows_tableOf hne f.nodup_nodeColumns fun column hcolumn n _ m => ?_
  rcases f.mem_nodeColumns hcolumn with rfl | rfl | ⟨k, -, rfl⟩
  · cases hid : n.id <;> simp [Ident.toValue, hid, Value.int]
  · simp only [NodeDraft.labelCell, NodeDraft.labelList]
    split <;> simp
  · exact f.nodeProperties.ne_instant_cell k n m

lemma description_arranged_node {n : NodeDraft} (hn : n ∈ d.nodes) :
    (n.arranged (f.nodeColumns.map Prod.fst)).description = n.node.description := by
  rw [Node.description, NodeDraft.arranged,
    f.nodeProperties.find?_arranged f.names_nodeColumns_perm f.nodup_nodeColumns hn]
  rfl

/-! ### The table of the relationships -/

/-- The columns of the relationships that mean something of their own. -/
def ownNames : List String := ["start", "end", "type"] ++ if f.identified then ["id"] else []

lemma names_relationshipColumns_perm : (f.relationshipColumns.map Prod.fst).Perm
    (f.ownNames ++ f.relationshipProperties.keys) := by
  have hperm := f.relationshipColumns_perm.map Prod.fst
  rw [List.map_cons, List.map_cons, List.map_cons, List.map_append,
    f.relationshipProperties.names_columns] at hperm
  rw [ownNames]
  cases h : f.identified with
  | true => simpa [h] using hperm
  | false => simpa [h] using hperm

lemma nodup_relationshipColumns : (f.relationshipColumns.map Prod.fst).Nodup := by
  refine f.names_relationshipColumns_perm.nodup_iff.2 (f.relationshipProperties.nodup_append ?_ ?_)
  · rw [ownNames]
    cases f.identified <;> decide
  · rw [ownNames]
    cases f.identified <;> decide

lemma start_mem_relationshipColumns :
    ("start", fun r : RelationshipDraft => r.source.toValue) ∈ f.relationshipColumns :=
  f.relationshipColumns_perm.mem_iff.2 List.mem_cons_self

lemma mem_relationshipColumns {column : CellsOf RelationshipDraft}
    (h : column ∈ f.relationshipColumns) :
    (column.1 ∈ ["id", "type", "start", "end"] ∧ ∀ r m, column.2 r ≠ .instant m) ∨
      ∃ k ∈ f.relationshipProperties.keys, column = (k, f.relationshipProperties.cell k) := by
  have hident (i : Ident) (m : Moment) : i.toValue ≠ .instant m := by
    cases i <;> simp [Ident.toValue, Value.int]
  have hmem := f.relationshipColumns_perm.mem_iff.1 h
  simp only [List.mem_cons, List.mem_append] at hmem
  rcases hmem with rfl | rfl | rfl | hid | hkey
  · exact .inl ⟨by simp, fun r m => hident r.source m⟩
  · exact .inl ⟨by simp, fun r m => hident r.target m⟩
  · exact .inl ⟨by simp, fun r m => by simp⟩
  · split at hid
    · rw [List.mem_singleton.1 hid]
      exact .inl ⟨by simp, fun r m => hident r.id m⟩
    · exact absurd hid List.not_mem_nil
  · exact .inr (f.relationshipProperties.mem_columns hkey)

/-- The identifier that a relationship gets at some position. -/
def identAt (r : RelationshipDraft) (position : Nat) : Ident :=
  if f.identified then r.id else .int position

lemma ofForeign?_cell_id (r : RelationshipDraft) (position : Nat) :
    Ident.ofForeign? (((rowOf f.relationshipColumns r).find? (.text "id")).getD (.int position)) =
      .ok (f.identAt r position) := by
  rw [identAt]
  cases h : f.identified with
  | true =>
    have hid : ("id", fun r : RelationshipDraft => r.id.toValue) ∈ f.relationshipColumns := by
      refine f.relationshipColumns_perm.mem_iff.2 ?_
      simp [h]
    rw [find?_rowOf f.nodup_relationshipColumns hid, Option.getD_some, Ident.ofForeign?_toValue]
    rfl
  | false =>
    have hid : "id" ∉ f.relationshipColumns.map Prod.fst := by
      intro hmem
      have hmem := f.names_relationshipColumns_perm.mem_iff.1 hmem
      rcases List.mem_append.1 hmem with hown | hkey
      · simp [ownNames, h] at hown
      · exact f.relationshipProperties.free _ hkey (by decide)
    rw [find?_rowOf_of_notMem f.nodup_relationshipColumns hid]
    rfl

/-- A row of the table of the relationships is read as its relationship, the properties in the order
of the columns. -/
lemma readRelationship_rowOf (r : RelationshipDraft) (position : Nat) :
    Row.readRelationship (rowOf f.relationshipColumns r) position =
      .ok (r.arranged (f.relationshipColumns.map Prod.fst) (f.identAt r position)) := by
  have htarget : ("end", fun r : RelationshipDraft => r.target.toValue) ∈
      f.relationshipColumns := f.relationshipColumns_perm.mem_iff.2 (by simp)
  have htype : ("type", fun r : RelationshipDraft => Value.text r.type) ∈
      f.relationshipColumns := f.relationshipColumns_perm.mem_iff.2 (by simp)
  have hpresent : Row.presentCells (rowOf f.relationshipColumns r) ["id", "type", "start", "end"] =
      (r.properties.arranged (f.relationshipColumns.map Prod.fst)).map fun e =>
        (.text e.1, e.2.value) := by
    refine presentCells_rowOf f.relationshipProperties (by decide) f.nodup_relationshipColumns
      (fun column hcolumn => ?_) r
    exact (f.mem_relationshipColumns hcolumn).imp_left And.left
  have hnodup := f.nodup_relationshipColumns
  rw [Row.readRelationship, f.ofForeign?_cell_id,
    cell_rowOf hnodup f.start_mem_relationshipColumns, cell_rowOf hnodup htarget,
    cell_rowOf hnodup htype, hpresent, Value.foreignText?_text, Ident.ofForeign?_toValue,
    Ident.ofForeign?_toValue]
  exact r.ofParts?_eq _ _

lemma readRows_relationshipTable :
    f.relationshipTable.readRows = .ok (d.relationships.map (rowOf f.relationshipColumns)) := by
  have hne : f.relationshipColumns ≠ [] := List.ne_nil_of_mem f.start_mem_relationshipColumns
  refine Table.readRows_tableOf hne f.nodup_relationshipColumns fun column hcolumn r _ m => ?_
  rcases f.mem_relationshipColumns hcolumn with ⟨-, hcell⟩ | ⟨k, -, rfl⟩
  · exact hcell r m
  · exact f.relationshipProperties.ne_instant_cell k r m

lemma description_arranged_relationship {r : RelationshipDraft} (hr : r ∈ d.relationships)
    (id : Ident) : (r.arranged (f.relationshipColumns.map Prod.fst) id).description =
      r.relationship.description := by
  rw [Relationship.description, RelationshipDraft.arranged, Relationship.ofType,
    f.relationshipProperties.find?_arranged f.names_relationshipColumns_perm
      f.nodup_relationshipColumns hr]
  rfl

/-- The relationships that the table gives. -/
def readRelationships : List Relationship :=
  d.relationships.zipIdx.map fun p =>
    p.1.arranged (f.relationshipColumns.map Prod.fst) (f.identAt p.1 p.2)

lemma readRelationships_relationshipTable :
    f.relationshipTable.readRelationships = .ok f.readRelationships := by
  have hcolumn {name : String} (h : name ∈ ["start", "end", "type"]) :
      f.relationshipTable.hasColumn name = true := by
    refine Table.hasColumn_tableOf (f.names_relationshipColumns_perm.mem_iff.2 ?_)
    exact List.mem_append_left _ (List.mem_append_left _ h)
  have hmissing : (["end", "start", "type"].filter fun name =>
      !f.relationshipTable.hasColumn name) = [] := by
    simp [hcolumn]
  have hrows : List.Forall₂ (fun row r => ∀ i : Nat, Row.readRelationship row i =
      .ok (r.arranged (f.relationshipColumns.map Prod.fst) (f.identAt r i)))
      (d.relationships.map (rowOf f.relationshipColumns)) d.relationships := by
    rw [List.forall₂_map_left_iff, List.forall₂_same]
    exact fun r _ i => f.readRelationship_rowOf r i
  rw [Table.readRelationships, hmissing, f.readRows_relationshipTable]
  exact mapM_zipIdx_eq_ok 0 hrows

lemma map_description_readRelationships : f.readRelationships.map Relationship.description =
    d.graph.relationships.map Relationship.description := by
  rw [readRelationships, graph, List.map_map, List.map_map]
  exact map_zipIdx_eq_map fun r hr i => f.description_arranged_relationship hr (f.identAt r i)

lemma nodup_ids_readRelationships : (f.readRelationships.map Relationship.id).Nodup := by
  have hids : f.readRelationships.map Relationship.id =
      d.relationships.zipIdx.map fun p => f.identAt p.1 p.2 := by
    rw [readRelationships, List.map_map]
    rfl
  rw [hids]
  cases h : f.identified with
  | true =>
    have hown : (d.relationships.zipIdx.map fun p => f.identAt p.1 p.2) =
        d.graph.relationships.map Relationship.id := by
      rw [graph, List.map_map]
      exact map_zipIdx_eq_map fun _ _ _ => if_pos h
    rw [hown]
    exact d.graph.consistent.relationshipIds
  | false =>
    have hpositions : (d.relationships.zipIdx.map fun p => f.identAt p.1 p.2) =
        (List.range d.relationships.length).map fun (i : Nat) => .int i := by
      rw [List.range_eq_range', ← List.zipIdx_map_snd 0 d.relationships, List.map_map]
      exact List.map_congr_left fun p _ => if_neg (by simp [h])
    rw [hpositions]
    exact List.nodup_range.map fun i j hij => by simpa using hij

/-! ### Both tables -/

/-- Two tables of a draft are read as a graph that is alike. -/
theorem exists_snapshot : ∃ s, Table.toSnapshot? f.nodeTable (some f.relationshipTable) = .ok s ∧
    s.Alike d.graph := by
  have hid : f.nodeTable.hasColumn "id" = true :=
    Table.hasColumn_tableOf (f.names_nodeColumns_perm.mem_iff.2 (by simp))
  have hnodes : (d.nodes.map (rowOf f.nodeColumns)).mapM Row.readNode =
      .ok (d.nodes.map fun n => n.arranged (f.nodeColumns.map Prod.fst)) :=
    mapM_map_eq_ok fun n _ => f.readNode_rowOf n
  have hdescription : (d.nodes.map fun n => n.arranged (f.nodeColumns.map Prod.fst)).map
      Node.description = d.graph.nodes.map Node.description := by
    rw [graph, List.map_map, List.map_map]
    exact List.map_congr_left fun n hn => f.description_arranged_node hn
  obtain ⟨s, hs, halike⟩ := Snapshot.exists_alike hdescription
    (.of_eq f.map_description_readRelationships) f.nodup_ids_readRelationships
  refine ⟨s, ?_, halike⟩
  have hparts : Snapshot.ofParts? (d.nodes.map fun n =>
      n.arranged (f.nodeColumns.map Prod.fst)) f.readRelationships = .ok s := by
    rw [Snapshot.ofParts?, hs]
    rfl
  rw [Table.toSnapshot?, hid, if_pos rfl]
  exact Network.bind_eq_ok_iff.2 ⟨_, f.readRows_nodeTable, Network.bind_eq_ok_iff.2 ⟨_, hnodes,
    Network.bind_eq_ok_iff.2 ⟨_, f.readRelationships_relationshipTable, hparts⟩⟩⟩

end Draft.Frames

end PropertyGraph
