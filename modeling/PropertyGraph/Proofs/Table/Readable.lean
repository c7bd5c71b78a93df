/-
# Which tables are read

Two tables are read as a graph exactly if they have the columns that are needed, every row is in
order on its own, and the rows fit together (`Table.exists_toSnapshot?_iff`).  Of a row this takes
that labels can be made of its cell for labels, that its type is not the empty text, and that every
other cell that is not missing can be stored under the name of its column.  On identifiers and ends
there is no condition but that they can be written: whatever stands in their cells is read as a
number or as a text.
-/
import PropertyGraph.Proofs.Foreign
import PropertyGraph.Proofs.Network.Steps
import PropertyGraph.Proofs.Payload.Acceptance
import PropertyGraph.Proofs.Snapshot.Parts
import PropertyGraph.Proofs.Table.Rows

namespace PropertyGraph

open Network (bind_eq_ok_iff)

/-! ### Rows -/

namespace Row

/-- Apart from some columns, every cell that is not missing can be stored under the name of its
column. -/
def HasProperties (r : Row) (own : List String) : Prop :=
  ∀ e ∈ r.entries, (∀ n ∈ own, (e.1 == .text n) = false) → e.2.isMissing = false →
    e.1.IsText ∧ ∃ p, Property.ofValue? e.2 = .ok p

/-- A row of which a node can be made. -/
structure IsNode (r : Row) : Prop where
  id : (r.cell "id").canIdentify = true
  labels : (r.cell "labels").IsLabelCell
  properties : r.HasProperties ["id", "labels"]

/-- A row of which a relationship can be made. -/
structure IsRelationship (r : Row) : Prop where
  id : ∀ cell, OrderedMap.find? r (.text "id") = some cell → cell.canIdentify = true
  type : (r.cell "type").isWritable = true ∧ (r.cell "type").shown ≠ ""
  source : (r.cell "start").canIdentify = true
  target : (r.cell "end").canIdentify = true
  properties : r.HasProperties ["id", "type", "start", "end"]

/-- The identifier of a node. -/
def ident (r : Row) : Ident := .ofForeign (r.cell "id")

/-- The identifier of a relationship, which is its position if there is no column for it. -/
def identAt (r : Row) (position : Nat) : Ident :=
  .ofForeign ((OrderedMap.find? r (.text "id")).getD (.int position))

/-- The node that a relationship starts at. -/
def source (r : Row) : Ident := .ofForeign (r.cell "start")

/-- The node that a relationship ends at. -/
def target (r : Row) : Ident := .ofForeign (r.cell "end")

/-- A row has become a node. -/
def Names (r : Row) (n : Node) : Prop := n.id = .ofForeign (r.cell "id")

/-- The row at a position has become a relationship. -/
structure Describes (r : Row) (position : Nat) (rel : Relationship) : Prop where
  id : rel.id = .ofForeign ((OrderedMap.find? r (.text "id")).getD (.int position))
  type : rel.type = (r.cell "type").shown
  source : rel.source = .ofForeign (r.cell "start")
  target : rel.target = .ofForeign (r.cell "end")

variable {r : Row} {own : List String}

lemma exists_readProperties_iff : (∃ ps, readProperties (.map (r.presentCells own)) = .ok ps) ↔
    r.HasProperties own := by
  refine (passes_readProperties_iff _).trans ?_
  simp [Value.IsProperties, presentCells, HasProperties]

lemma readNode_eq_ok_iff {n : Node} : r.readNode = .ok n ↔
    (r.cell "id").canIdentify = true ∧ ∃ labels, parseLabels (r.cell "labels") = .ok labels ∧
      Node.ofParts? r.ident labels (r.presentCells ["id", "labels"]) = .ok n := by
  rw [readNode]
  simp only [bind_eq_ok_iff, Ident.ofForeign?_eq_ok_iff]
  constructor
  · rintro ⟨_, ⟨hid, rfl⟩, h⟩
    exact ⟨hid, h⟩
  · rintro ⟨hid, h⟩
    exact ⟨_, ⟨hid, rfl⟩, h⟩

lemma exists_readNode_iff : (∃ n, r.readNode = .ok n) ↔ r.IsNode := by
  constructor
  · rintro ⟨n, h⟩
    obtain ⟨hid, labels, hlabels, h⟩ := readNode_eq_ok_iff.1 h
    obtain ⟨ps, hps, -⟩ := Node.ofParts?_eq_ok_iff.1 h
    exact ⟨hid, exists_parseLabels_iff.1 ⟨labels, hlabels⟩, exists_readProperties_iff.1 ⟨ps, hps⟩⟩
  · intro h
    obtain ⟨labels, hlabels⟩ := exists_parseLabels_iff.2 h.labels
    obtain ⟨ps, hps⟩ := exists_readProperties_iff.2 h.properties
    exact ⟨_, readNode_eq_ok_iff.2
      ⟨h.id, labels, hlabels, Node.ofParts?_eq_ok_iff.2 ⟨ps, hps, rfl⟩⟩⟩

lemma names_of_readNode {n : Node} (h : r.readNode = .ok n) : r.Names n := by
  obtain ⟨-, labels, -, h⟩ := readNode_eq_ok_iff.1 h
  obtain ⟨ps, -, rfl⟩ := Node.ofParts?_eq_ok_iff.1 h
  rfl

/-- A position can always stand for an identifier. -/
lemma canIdentify_id_iff {position : Nat} :
    ((OrderedMap.find? r (.text "id")).getD (.int position)).canIdentify = true ↔
      ∀ cell, OrderedMap.find? r (.text "id") = some cell → cell.canIdentify = true := by
  cases OrderedMap.find? r (.text "id") with
  | none => exact iff_of_true rfl fun _ h => nomatch h
  | some cell => simp

lemma readRelationship_eq_ok_iff {position : Nat} {rel : Relationship} :
    r.readRelationship position = .ok rel ↔
      (∀ cell, OrderedMap.find? r (.text "id") = some cell → cell.canIdentify = true) ∧
      (r.cell "type").isWritable = true ∧ (r.cell "start").canIdentify = true ∧
      (r.cell "end").canIdentify = true ∧
      Relationship.ofParts? (r.identAt position) (r.cell "type").shown r.source r.target
        (r.presentCells ["id", "type", "start", "end"]) = .ok rel := by
  rw [readRelationship, ← canIdentify_id_iff]
  simp only [bind_eq_ok_iff, Ident.ofForeign?_eq_ok_iff, Value.foreignText?_eq_ok_iff]
  constructor
  · rintro ⟨_, ⟨hid, rfl⟩, _, ⟨htype, rfl⟩, _, ⟨hsource, rfl⟩, _, ⟨htarget, rfl⟩, h⟩
    exact ⟨hid, htype, hsource, htarget, h⟩
  · rintro ⟨hid, htype, hsource, htarget, h⟩
    exact ⟨_, ⟨hid, rfl⟩, _, ⟨htype, rfl⟩, _, ⟨hsource, rfl⟩, _, ⟨htarget, rfl⟩, h⟩

lemma exists_readRelationship_iff {position : Nat} :
    (∃ rel, r.readRelationship position = .ok rel) ↔ r.IsRelationship := by
  simp only [readRelationship_eq_ok_iff, Relationship.ofParts?_eq_ok_iff]
  constructor
  · rintro ⟨_, hid, hwritable, hsource, htarget, type, ps, htype, hps, -⟩
    refine ⟨hid, ⟨hwritable, fun hempty => ?_⟩, hsource, htarget,
      exists_readProperties_iff.1 ⟨ps, hps⟩⟩
    rw [hempty] at htype
    cases htype
  · intro h
    obtain ⟨ps, hps⟩ := exists_readProperties_iff.2 h.properties
    exact ⟨_, h.id, h.type.1, h.source, h.target, _, ps, readType_text h.type.2, hps, rfl⟩

lemma describes_of_readRelationship {position : Nat} {rel : Relationship}
    (h : r.readRelationship position = .ok rel) : r.Describes position rel := by
  have htype_ne := (exists_readRelationship_iff.1 ⟨_, h⟩).type.2
  obtain ⟨-, -, -, -, h⟩ := readRelationship_eq_ok_iff.1 h
  obtain ⟨type, ps, htype, -, rfl⟩ := Relationship.ofParts?_eq_ok_iff.1 h
  have hshown : type.1 = (r.cell "type").shown := by
    rw [readType_text htype_ne] at htype
    rw [← Except.ok.inj htype]
  exact ⟨rfl, hshown, rfl, rfl⟩

end Row

/-! ### Tables -/

namespace Table

/-- All points in time fall into the years that can be told. -/
def InRange (t : Table) : Prop :=
  ∀ r ∈ t.rows, ∀ e ∈ OrderedMap.entries r, ∀ m, e.2 = .instant m → 1 ≤ m.year ∧ m.year ≤ 9999

/-- A table of which nodes can be made. -/
structure HoldsNodes (t : Table) : Prop where
  column : t.hasColumn "id" = true
  inRange : t.InRange
  rows : ∀ r ∈ t.rows, r.IsNode

/-- A table of which relationships can be made. -/
structure HoldsRelationships (t : Table) : Prop where
  columns : ∀ name ∈ ["end", "start", "type"], t.hasColumn name = true
  inRange : t.InRange
  rows : ∀ r ∈ t.rows, r.IsRelationship

/-- Two tables, the second of which may be absent, that hold elements which fit together. -/
structure Readable (nodes : Table) (relationships : Option Table) : Prop where
  holdsNodes : nodes.HoldsNodes
  holdsRelationships : ∀ t ∈ relationships, t.HoldsRelationships
  nodeIds : (nodes.rows.map Row.ident).Nodup
  relationshipIds : ∀ t ∈ relationships, (t.rows.zipIdx.map fun p => p.1.identAt p.2).Nodup
  endpoints : ∀ t ∈ relationships, ∀ r ∈ t.rows,
    r.source ∈ nodes.rows.map Row.ident ∧ r.target ∈ nodes.rows.map Row.ident

variable {t : Table}

lemma yearOutOfRange?_eq_none_iff : t.yearOutOfRange? = none ↔ t.InRange := by
  rw [yearOutOfRange?, List.findSome?_eq_none_iff, InRange, List.forall_mem_flatMap]
  refine forall₂_congr fun r _ => forall₂_congr fun e _ => ?_
  split
  · next m hm => simp [hm, not_or]
  · next hno => exact iff_of_true rfl fun m hm => absurd hm (hno m)

lemma readRows_eq_ok_iff {rows : List Row} : t.readRows = .ok rows ↔ t.InRange ∧ t.rows = rows := by
  rw [readRows, ← yearOutOfRange?_eq_none_iff]
  cases t.yearOutOfRange? <;> simp

lemma readRelationships_eq_ok_iff {rs : List Relationship} : t.readRelationships = .ok rs ↔
    (∀ name ∈ ["end", "start", "type"], t.hasColumn name = true) ∧ t.InRange ∧
      List.Forall₂ (fun p r => p.1.readRelationship p.2 = .ok r) t.rows.zipIdx rs := by
  have hcolumns : (["end", "start", "type"].filter fun name => !t.hasColumn name).isEmpty = true ↔
      ∀ name ∈ ["end", "start", "type"], t.hasColumn name = true := by
    simp
  rw [← hcolumns, ← mapM_eq_ok_iff_forall₂]
  simp only [readRelationships]
  split
  · next h =>
    rw [bind_eq_ok_iff]
    simp [h, readRows_eq_ok_iff]
  · next h =>
    simp [h, throw, throwThe, MonadExceptOf.throw, bind, Except.bind]

lemma exists_readNodes_iff :
    (∃ ns, List.Forall₂ (fun r n => r.readNode = .ok n) t.rows ns) ↔ ∀ r ∈ t.rows, r.IsNode := by
  rw [exists_forall₂_iff]
  exact forall₂_congr fun _ _ => Row.exists_readNode_iff

lemma exists_readRelationships_iff :
    (∃ rs, t.readRelationships = .ok rs) ↔ t.HoldsRelationships := by
  have hrows : (∃ rs, List.Forall₂ (fun p r => p.1.readRelationship p.2 = .ok r)
      t.rows.zipIdx rs) ↔ ∀ r ∈ t.rows, r.IsRelationship := by
    conv_rhs => rw [← List.zipIdx_map_fst 0 t.rows, List.forall_mem_map]
    rw [exists_forall₂_iff]
    exact forall₂_congr fun _ _ => Row.exists_readRelationship_iff
  simp only [readRelationships_eq_ok_iff, exists_and_left, hrows]
  exact ⟨fun ⟨hcolumns, hrange, hrels⟩ => ⟨hcolumns, hrange, hrels⟩,
    fun ⟨hcolumns, hrange, hrels⟩ => ⟨hcolumns, hrange, hrels⟩⟩

lemma toSnapshot?_eq_ok_iff {nodes : Table} {relationships : Option Table} {g : Snapshot} :
    toSnapshot? nodes relationships = .ok g ↔
      nodes.hasColumn "id" = true ∧ nodes.InRange ∧
      List.Forall₂ (fun r n => r.readNode = .ok n) nodes.rows g.nodes ∧
      (∀ t ∈ relationships, t.readRelationships = .ok g.relationships) ∧
      (relationships = none → g.relationships = []) := by
  rw [← mapM_eq_ok_iff_forall₂]
  simp only [toSnapshot?]
  split
  · next h =>
    simp only [bind_eq_ok_iff, readRows_eq_ok_iff, h]
    cases relationships with
    | none =>
      have hnone : ∀ ns, (Except.ok [] >>= fun rs => Snapshot.ofParts? ns rs) = .ok g ↔
          g.nodes = ns ∧ g.relationships = [] := fun ns => Snapshot.ofParts?_eq_ok_iff
      simp [pure, Except.pure, hnone]
    | some t => simp [bind_eq_ok_iff, Snapshot.ofParts?_eq_ok_iff]
  · next h => simp [h, throw, throwThe, MonadExceptOf.throw, bind, Except.bind]

/-! ### Rows that fit together -/

section Rows

variable {nodes : Table} {ns : List Node} {rs : List Relationship}

lemma map_ident_eq (h : List.Forall₂ (fun r n => r.readNode = .ok n) nodes.rows ns) :
    nodes.rows.map Row.ident = ns.map Node.id :=
  map_eq_map_iff_forall₂.2 (h.imp fun _ _ hn => (Row.names_of_readNode hn).symm)

/-- The elements that the rows are read as fit together exactly if the rows do. -/
lemma consistent_iff (hnodes : List.Forall₂ (fun r n => r.readNode = .ok n) nodes.rows ns)
    (hrels : List.Forall₂ (fun p r => p.1.readRelationship p.2 = .ok r) t.rows.zipIdx rs) :
    Consistent ns rs ↔ (nodes.rows.map Row.ident).Nodup ∧
      (t.rows.zipIdx.map fun p => p.1.identAt p.2).Nodup ∧
      ∀ r ∈ t.rows, r.source ∈ nodes.rows.map Row.ident ∧
        r.target ∈ nodes.rows.map Row.ident := by
  have hdescribes : List.Forall₂ (fun p r => p.1.Describes p.2 r) t.rows.zipIdx rs :=
    hrels.imp fun _ _ => Row.describes_of_readRelationship
  have hids : (t.rows.zipIdx.map fun p => p.1.identAt p.2) = rs.map Relationship.id :=
    map_eq_map_iff_forall₂.2 (hdescribes.imp fun _ _ h => h.id.symm)
  have hends : (∀ r ∈ t.rows, r.source ∈ ns.map Node.id ∧ r.target ∈ ns.map Node.id) ↔
      ∀ r ∈ rs, r.source ∈ ns.map Node.id ∧ r.target ∈ ns.map Node.id := by
    rw [← List.zipIdx_map_fst 0 t.rows, List.forall_mem_map]
    refine forall_mem_iff_of_forall₂ hdescribes fun p r h => ?_
    rw [h.source, h.target]
    rfl
  rw [map_ident_eq hnodes, hids, hends]
  exact ⟨fun h => ⟨h.nodeIds, h.relationshipIds, h.endpoints⟩,
    fun ⟨hnodes, hrels, hends⟩ => ⟨hnodes, hrels, hends⟩⟩

end Rows

/-- Two tables are read as a graph exactly if they are readable. -/
theorem exists_toSnapshot?_iff {nodes : Table} {relationships : Option Table} :
    (∃ g, toSnapshot? nodes relationships = .ok g) ↔ Readable nodes relationships := by
  constructor
  · rintro ⟨g, h⟩
    obtain ⟨hcolumn, hrange, hnodes, hrels, -⟩ := toSnapshot?_eq_ok_iff.1 h
    have hfit : ∀ t ∈ relationships, _ := fun t ht =>
      (consistent_iff hnodes (readRelationships_eq_ok_iff.1 (hrels t ht)).2.2).1 g.consistent
    refine ⟨⟨hcolumn, hrange, exists_readNodes_iff.1 ⟨_, hnodes⟩⟩,
      fun t ht => exists_readRelationships_iff.1 ⟨_, hrels t ht⟩, ?_,
      fun t ht => (hfit t ht).2.1, fun t ht => (hfit t ht).2.2⟩
    rw [map_ident_eq hnodes]
    exact g.consistent.nodeIds
  · intro h
    obtain ⟨ns, hnodes⟩ := exists_readNodes_iff.2 h.holdsNodes.rows
    cases relationships with
    | none =>
      have hfit : Consistent ns [] := by
        refine ⟨?_, List.nodup_nil, by simp⟩
        rw [← map_ident_eq hnodes]
        exact h.nodeIds
      exact ⟨⟨ns, [], hfit⟩, toSnapshot?_eq_ok_iff.2
        ⟨h.holdsNodes.column, h.holdsNodes.inRange, hnodes, by simp, fun _ => rfl⟩⟩
    | some t =>
      obtain ⟨rs, hrels⟩ := exists_readRelationships_iff.2 (h.holdsRelationships t rfl)
      have hfit : Consistent ns rs :=
        (consistent_iff hnodes (readRelationships_eq_ok_iff.1 hrels).2.2).2
          ⟨h.nodeIds, h.relationshipIds t rfl, h.endpoints t rfl⟩
      exact ⟨⟨ns, rs, hfit⟩, toSnapshot?_eq_ok_iff.2
        ⟨h.holdsNodes.column, h.holdsNodes.inRange, hnodes, by simpa using hrels, by simp⟩⟩

end Table

end PropertyGraph
