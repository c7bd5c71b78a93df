/-
# What can be written

A text can tell whole numbers of at most `Number.digitLimit` digits.  So a value can be written
exactly if no longer one stands in it where it is written (`Value.isWritable_iff`).  In particular a
node can be written exactly if neither its identifier nor any of its properties holds one
(`Node.isWritable_iff`), and all that can go wrong when it is written is that one does
(`Node.written?_eq_error_iff`).
-/
import Mathlib.Algebra.Group.Nat.Defs
import PropertyGraph.Fault

namespace PropertyGraph

/-! ### Whole numbers -/

namespace Number

/-- A whole number that is not too long to be written. -/
def IsShort (i : Int) : Prop := i.natAbs < 10 ^ digitLimit

lemma isWritable_int_iff {i : Int} : (Number.int i).isWritable = true ↔ IsShort i := by
  rw [isWritable, decide_eq_true_iff]
  exact Nat.length_toDigits_le_iff (by decide) (by decide)

end Number

/-- The whole numbers in an identifier. -/
def Ident.integers : Ident → List Int
  | .int i => [i]
  | .text _ => []

/-- The whole numbers in a scalar. -/
def Scalar.integers : Scalar → List Int
  | .number (.int i) => [i]
  | _ => []

/-- The whole numbers in a property. -/
def Property.integers : Property → List Int
  | .scalar s => s.integers
  | .array items _ => items.flatMap Scalar.integers

/-- The whole numbers in a node. -/
def Node.integers (n : Node) : List Int :=
  n.id.integers ++ n.properties.entries.flatMap fun e => e.2.integers

/-- No whole number in an identifier is too long. -/
def Ident.IsWritable (i : Ident) : Prop := ∀ k ∈ i.integers, Number.IsShort k

/-- No whole number in a node is too long. -/
def Node.IsWritable (n : Node) : Prop := ∀ k ∈ n.integers, Number.IsShort k

/-- No whole number in a node of the graph is too long. -/
def Snapshot.IsWritable (g : Snapshot) : Prop := ∀ n ∈ g.nodes, n.IsWritable

/-! ### Grids -/

lemma partsOf_map {α β : Type} (f : α → β) (count size : Nat) (items : List α) :
    partsOf count size (items.map f) = (partsOf count size items).map (List.map f) := by
  simp only [partsOf, List.map_map, Function.comp_def, List.map_take, List.map_drop]

lemma visibleItems_map {α β : Type} (f : α → β) (whole : Bool) (shape : List Nat)
    (items : List α) :
    visibleItems whole shape (items.map f) = (visibleItems whole shape items).map f := by
  induction shape generalizing items with
  | nil => rfl
  | cons n shape ih =>
    simp only [visibleItems, partsOf_map]
    split
    · simp only [← List.map_take, ← List.map_drop, ← List.map_append, List.flatMap_map, ih,
        List.map_flatMap]
    · simp only [List.flatMap_map, ih, List.map_flatMap]

lemma mem_of_mem_partsOf {α : Type} {count size : Nat} {items p : List α} {v : α}
    (hp : p ∈ partsOf count size items) (hv : v ∈ p) : v ∈ items := by
  obtain ⟨i, -, rfl⟩ := List.mem_map.1 hp
  exact List.mem_of_mem_drop (List.mem_of_mem_take hv)

lemma mem_of_mem_visibleItems {α : Type} {whole : Bool} {shape : List Nat} {items : List α} {v : α}
    (h : v ∈ visibleItems whole shape items) : v ∈ items := by
  induction shape generalizing items with
  | nil => exact h
  | cons n shape ih =>
    rw [visibleItems] at h
    obtain ⟨p, hp, hv⟩ := List.mem_flatMap.1 h
    refine mem_of_mem_partsOf (?_ : p ∈ partsOf n (Axis.sizeOf shape) items) (ih hv)
    split at hp
    · rcases List.mem_append.1 hp with hp | hp
      · exact List.mem_of_mem_take hp
      · exact List.mem_of_mem_drop hp
    · exact hp

/-! ### Values -/

namespace Value

lemma writables_eq_map (vs : List Value) : writables vs = vs.map isWritable := by
  induction vs with
  | nil => rfl
  | cons v vs ih => rw [writables, ih, List.map_cons]

lemma areWritable_eq_all (es : List (Value × Value)) :
    areWritable es = es.all fun e => e.1.isWritable && e.2.isWritable := by
  induction es with
  | nil => rfl
  | cons e es ih => rw [areWritable, ih, List.all_cons]

/-- The values that stand in a value where it is written.  Of an array only those of objects count,
and of a large one only those that are shown. -/
def parts : Value → List Value
  | .list items | .tuple items | .set items => items
  | .map entries => entries.flatMap fun e => [e.1, e.2]
  | .array .object _ shape items => shownItems shape items
  | _ => []

/-- A whole number stands somewhere in a value where it is written. -/
inductive Shows : Value → Int → Prop
  | number (i : Int) : Shows (.int i) i
  | part {v w : Value} {i : Int} (mem : w ∈ v.parts) (inside : Shows w i) : Shows v i

lemma sizeOf_lt_of_mem_parts {v w : Value} (h : w ∈ v.parts) : sizeOf w < sizeOf v := by
  cases v with
  | list items | tuple items | set items =>
    have hlt : sizeOf w < sizeOf items := List.sizeOf_lt_of_mem h
    simp
    omega
  | map entries =>
    obtain ⟨⟨k, u⟩, he, hw⟩ := List.mem_flatMap.1 h
    have hlt : sizeOf (k, u) < sizeOf entries := List.sizeOf_lt_of_mem he
    simp at hw hlt ⊢
    rcases hw with rfl | rfl <;> omega
  | array type room shape items =>
    cases type with
    | object =>
      have hlt : sizeOf w < sizeOf items := List.sizeOf_lt_of_mem (mem_of_mem_visibleItems h)
      simp
      omega
    | _ => cases h
  | _ => cases h

lemma isWritable_iff_parts {v : Value} : v.isWritable = true ↔
    (∀ i, v = .int i → Number.IsShort i) ∧ ∀ w ∈ v.parts, w.isWritable = true := by
  cases v with
  | number n =>
    cases n with
    | int i => simp [parts, int, isWritable, Number.isWritable_int_iff]
    | double x => simp [parts, int, isWritable, Number.isWritable]
  | list items | tuple items | set items =>
    simp [parts, int, isWritable, writables_eq_map]
  | map entries =>
    simp [parts, int, isWritable, areWritable_eq_all, List.forall_mem_flatMap, -List.mem_flatMap]
  | array type room shape items =>
    cases type with
    | object =>
      simp [parts, int, isWritable, writables_eq_map, shownItems, visibleItems_map]
    | _ => simp [parts, int, isWritable]
  | _ => simp [parts, int, isWritable]

/-- A value can be written exactly if no whole number in it that would be seen is too long. -/
theorem isWritable_iff (v : Value) : v.isWritable = true ↔ ∀ i, v.Shows i → Number.IsShort i := by
  rw [isWritable_iff_parts]
  constructor
  · rintro ⟨hnumber, hparts⟩ i hi
    cases hi with
    | number => exact hnumber i rfl
    | part mem inside => exact (isWritable_iff _).1 (hparts _ mem) i inside
  · intro h
    refine ⟨fun i hi => h i (hi ▸ .number i), fun w hw => ?_⟩
    exact (isWritable_iff w).2 fun i hi => h i (.part hw hi)
termination_by v
decreasing_by all_goals exact sizeOf_lt_of_mem_parts ‹_›

@[simp] lemma isWritable_text (s : String) : (Value.text s).isWritable = true := rfl

@[simp] lemma isWritable_int {i : Int} : (Value.int i).isWritable = true ↔ Number.IsShort i :=
  Number.isWritable_int_iff

end Value

lemma Ident.isWritable_iff {i : Ident} : i.isWritable = true ↔ i.IsWritable := by
  rw [isWritable, IsWritable]
  cases i with
  | int k => simp [toValue, integers]
  | text s => simp [toValue, integers]

lemma Scalar.isWritable_toValue_iff {s : Scalar} :
    s.toValue.isWritable = true ↔ ∀ k ∈ s.integers, Number.IsShort k := by
  rcases s with b | (k | x) | t
  · simp [toValue, integers, Value.isWritable]
  · rw [integers, List.forall_mem_singleton]
    exact Value.isWritable_int
  · simp [toValue, integers, Value.isWritable, Number.isWritable]
  · simp [toValue, integers]

lemma Property.isWritable_toValue_iff {p : Property} :
    p.toValue.isWritable = true ↔ ∀ k ∈ p.integers, Number.IsShort k := by
  cases p with
  | scalar s => exact Scalar.isWritable_toValue_iff
  | array items uniform =>
    simp only [toValue, Value.isWritable, Value.writables_eq_map, List.map_map, List.all_map,
      List.all_eq_true, Function.comp_apply, id_eq, Scalar.isWritable_toValue_iff, integers,
      List.forall_mem_flatMap]

/-! ### Nodes -/

/-- A node can be written exactly if no whole number in it is too long. -/
theorem Node.isWritable_iff {n : Node} : n.isWritable = true ↔ n.IsWritable := by
  simp only [isWritable, Bool.and_eq_true, Ident.isWritable_iff, Properties.toValue,
    Value.isWritable, Value.areWritable_eq_all, List.all_map, List.all_eq_true,
    Function.comp_apply, Bool.true_and, Property.isWritable_toValue_iff,
    IsWritable, Ident.IsWritable, integers, List.forall_mem_append, List.forall_mem_flatMap]

instance (n : Node) : Decidable n.IsWritable := decidable_of_iff _ Node.isWritable_iff

lemma Node.written?_of_isWritable {n : Node} (h : n.IsWritable) : n.written? = .ok n.written := by
  rw [written?, if_pos (isWritable_iff.2 h)]

/-- What goes wrong when a node is written is that a whole number in it is too long. -/
theorem Node.written?_eq_error_iff {n : Node} {fault : WritingFault} :
    n.written? = .error fault ↔ ¬n.IsWritable ∧ fault = .tooManyDigits := by
  rw [written?, ← isWritable_iff]
  cases n.isWritable <;> simp [eq_comm]

/-! ### Faults -/

/-- The identifiers that a fault names. -/
def IntegrityFault.idents : IntegrityFault → List Ident
  | .duplicateNode id | .duplicateRelationship id => [id]
  | .unknownNode relationship node => [relationship, node]

/-- The identifiers that a fault names can be written. -/
def IntegrityFault.IsWritable (fault : IntegrityFault) : Prop := ∀ i ∈ fault.idents, i.IsWritable

lemma IntegrityFault.isWritable_iff {fault : IntegrityFault} :
    fault.isWritable = true ↔ fault.IsWritable := by
  cases fault <;> simp [isWritable, IsWritable, idents, Ident.isWritable_iff]

lemma FaultCause.ofIntegrity_of_isWritable {fault : IntegrityFault} (h : fault.IsWritable) :
    ofIntegrity fault = .integrity fault := by
  rw [ofIntegrity, if_pos (IntegrityFault.isWritable_iff.2 h)]

lemma FaultCause.ofIntegrity_of_not_isWritable {fault : IntegrityFault} (h : ¬fault.IsWritable) :
    ofIntegrity fault = .unwritable .tooManyDigits := by
  rw [ofIntegrity, if_neg (mt IntegrityFault.isWritable_iff.1 h)]

lemma FaultCause.eq_ofIntegrity_iff {fault : IntegrityFault} {cause : FaultCause} :
    cause = ofIntegrity fault ↔ fault.IsWritable ∧ cause = .integrity fault ∨
      ¬fault.IsWritable ∧ cause = .unwritable .tooManyDigits := by
  by_cases h : fault.IsWritable
  · simp [ofIntegrity_of_isWritable h, h]
  · simp [ofIntegrity_of_not_isWritable h, h]

end PropertyGraph
