/-
# Labels in tables

The labels of a row are a list or stand between the colons of a text.  A text tells the same labels
as the list of its parts, and the row is read as the same node with either of them; nothing that is
put between colons is lost, and nothing is added by colons that stand there besides
(`colonNotation_decodes`).
-/
import PropertyGraph.Proofs.Draft.Basic
import PropertyGraph.Proofs.Label.Colons
import PropertyGraph.Proofs.Network.RoundTrip
import PropertyGraph.Proofs.Table.Readable
import PropertyGraph.Proofs.Table.Recoding
import PropertyGraph.Proofs.Value.Key

namespace PropertyGraph

/-! ### Cells -/

/-- A value that holds labels, with the labels of a text in a list. -/
def Value.labelsApart (v : Value) : Value :=
  match v.asText? with
  | some s => .list ((colonParts s).map .text)
  | none => v

lemma parseLabels_text (s : String) : parseLabels (.text s) = .ok (colonParts s) := rfl

lemma parseLabels_labelsApart (v : Value) : parseLabels v.labelsApart = parseLabels v := by
  cases h : v.asText? with
  | none => simp only [Value.labelsApart, h]
  | some s =>
    simp only [Value.labelsApart, h, parseLabels_list]
    simp only [parseLabels, h]

lemma Value.labelsApart_eq_instant_iff (v : Value) (m : Moment) :
    v.labelsApart = .instant m ↔ v = .instant m := by
  cases h : v.asText? with
  | none => simp only [labelsApart, h]
  | some s =>
    refine iff_of_false (by simp [labelsApart, h]) ?_
    rintro rfl
    cases h

/-- Labels in lists as another way to write a table. -/
def Recoding.listLabels : Recoding where
  recode k cell := if k == .text "labels" then cell.labelsApart else cell
  congr j k h := by
    funext cell
    rw [Value.beq_text_congr h]
  instant k cell m := by
    split
    · exact cell.labelsApart_eq_instant_iff m
    · exact Iff.rfl

/-! ### Rows -/

namespace Row

/-- The labels of a row are those of a node. -/
def Labels (r : Row) (n : Node) : Prop :=
  (parseLabels (r.cell "labels")).map NameSet.ofList = .ok n.labels

lemma labels_of_readNode {r : Row} {n : Node} (h : r.readNode = .ok n) : r.Labels n := by
  obtain ⟨-, labels, hlabels, h⟩ := readNode_eq_ok_iff.1 h
  obtain ⟨ps, -, rfl⟩ := Node.ofParts?_eq_ok_iff.1 h
  rw [Labels, hlabels]
  rfl

lemma cell_listLabels_of_ne {r : Row} {name : String} (h : name ≠ "labels") :
    (r.recoded .listLabels).cell name = r.cell name := by
  refine cell_recoded_of_forall fun cell => if_neg ?_
  rw [Value.text_beq, beq_iff_eq]
  exact h

lemma parseLabels_cell_listLabels (r : Row) :
    parseLabels ((r.recoded .listLabels).cell "labels") = parseLabels (r.cell "labels") := by
  rw [cell, cell, find?_recoded]
  cases OrderedMap.find? r (.text "labels") with
  | none => rfl
  | some v => exact parseLabels_labelsApart v

/-- A row is read as the same node with its labels in a list. -/
lemma readNode_listLabels (r : Row) : (r.recoded .listLabels).readNode = r.readNode := by
  have hcells : (r.recoded .listLabels).presentCells ["id", "labels"] =
      r.presentCells ["id", "labels"] := by
    refine presentCells_recoded fun k cell hk => if_neg ?_
    simpa using List.any_eq_false.1 hk "labels" (by simp)
  rw [readNode, readNode, parseLabels_cell_listLabels, cell_listLabels_of_ne (by decide), hcells]

end Row

/-! ### Colons -/

/-- Labels are read back from between colons in their order, however many colons there are besides.
Of any text, the labels that are read are neither empty nor contain a colon, and they are read again
when they are joined by colons.  In a table each row tells the labels of its node; rows have the
same set of labels if one tells them by a text and the other one in a list, and a table is read as
the table in which all labels are in lists. -/
theorem colonNotation_decodes :
    (∀ (padded : List (Nat × PlainLabel)) (trailing : Nat),
      parseLabels (.text (paddedJoin (padded.map fun p => (p.1, p.2.val)) trailing)) =
        .ok (padded.map fun p => p.2.val)) ∧
    (∀ s : String, ∃ names, parseLabels (.text s) = .ok names ∧
      (∀ name ∈ names, name ≠ "" ∧ ':' ∉ name.toList) ∧
      parseLabels (.text (":".intercalate names)) = .ok names) ∧
    (∀ (r r' : Row) (n n' : Node) (s : String) (names : List String),
      r.cell "labels" = .text s → parseLabels (.text s) = .ok names →
      r'.cell "labels" = .list (names.map .text) →
      r.Labels n → r'.Labels n' → n.labels = n'.labels) ∧
    (∀ (nodes : Table) (relationships : Option Table) (g : Snapshot),
      Table.toSnapshot? nodes relationships = .ok g →
        List.Forall₂ Row.Labels nodes.rows g.nodes) ∧
    ∀ (nodes : Table) (relationships : Option Table),
      Table.toSnapshot? (nodes.recoded .listLabels) relationships =
        Table.toSnapshot? nodes relationships := by
  refine ⟨fun padded trailing => ?_, fun s => ⟨colonParts s, rfl, fun _ => mem_colonParts, ?_⟩,
    fun r r' n n' s names hr hs hr' hn hn' => ?_, fun nodes relationships g hg => ?_,
    fun nodes relationships => Table.toSnapshot?_recoded _ Row.readNode_listLabels relationships⟩
  · rw [parseLabels_text, colonParts_paddedJoin (List.forall_mem_map.2 fun p _ => p.2.2),
      List.map_map]
    rfl
  · rw [parseLabels_text, colonParts_intercalate fun _ => mem_colonParts]
  · rw [Row.Labels, hr, hs] at hn
    rw [Row.Labels, hr', parseLabels_list] at hn'
    exact Except.ok.inj (hn.symm.trans hn')
  · obtain ⟨-, -, hnodes, -⟩ := Table.toSnapshot?_eq_ok_iff.1 hg
    exact hnodes.imp fun _ _ => Row.labels_of_readNode

/-- A row of a node that has labels. -/
def labelledRow (labels : Value) : Row :=
  .ofList [(.text "id", .int 1), (.text "labels", labels)]

/-- Colons at the front and next to each other add nothing. -/
theorem colonNotation_decodes_row :
    ∃ n n', (labelledRow (.text ":Person::Admin")).readNode = .ok n ∧
      (labelledRow (.list [.text "Person", .text "Admin"])).readNode = .ok n' ∧
      n.labels = n'.labels := by
  refine ⟨_, _, rfl, rfl, ?_⟩
  exact colonNotation_decodes.2.2.1 (labelledRow (.text ":Person::Admin")) (labelledRow _) _ _ _
    ["Person", "Admin"] rfl rfl rfl rfl rfl

end PropertyGraph
