/-
# Which fields are accepted

The reader of a field succeeds exactly on the values that are in order (`passes_identRead_iff`,
`passes_readType_iff`, `passes_readLabels_iff`, `passes_readProperties_iff`), and on all others
reports what is wrong with them (`faults_identRead` and so on).
-/
import PropertyGraph.Proofs.Payload.WellFormed
import PropertyGraph.Proofs.Property.Reading

namespace PropertyGraph

open Checked

/-! ### Fields -/

namespace Fields

variable {α : Type} {fields : Fields} {name : String} {read : Value → Checked α}

lemma passes_required_iff {P : Value → Prop} (h : ∀ v, (read v).Passes ↔ P v) :
    (fields.required name read).Passes ↔ fields.Has name P := by
  rw [required, passes_under_iff, Has]
  cases fields.get? name with
  | none => simp
  | some v => simp [h v]

lemma faults_required {fs : Value → List FieldFault} (h : ∀ v, (read v).faults = fs v) :
    (fields.required name read).faults = fields.requiredFaults name fs := by
  rw [required, faults_under, requiredFaults]
  cases fields.get? name with
  | none => rfl
  | some v => simp only [h v]

lemma passes_optional_iff {default : α} {P : Value → Prop} (h : ∀ v, (read v).Passes ↔ P v) :
    (fields.optional name default read).Passes ↔ fields.MayHave name P := by
  rw [optional, MayHave]
  cases fields.get? name with
  | none => simp
  | some v => simp [h v]

lemma faults_optional {default : α} {fs : Value → List FieldFault}
    (h : ∀ v, (read v).faults = fs v) :
    (fields.optional name default read).faults = fields.optionalFaults name fs := by
  rw [optional, optionalFaults]
  cases fields.get? name with
  | none => rfl
  | some v => simp only [faults_under, h v]

end Fields

/-! ### Identifiers, texts and labels -/

lemma passes_identRead_iff (v : Value) : (Ident.read v).Passes ↔ v.IsIdentifier := by
  rw [Value.IsIdentifier]
  unfold Ident.read
  split
  · next i => simp [Value.int]
  · next hint =>
    have hno : ¬∃ i, v = .int i := not_exists.2 hint
    cases hs : v.asText? with
    | none => simp [hno]
    | some s => simp

lemma Ident.read_toValue (i : Ident) : Ident.read i.toValue = .ok i := by
  cases i <;> rfl

lemma faults_identRead (v : Value) : (Ident.read v).faults = identifierFaults v := by
  unfold Ident.read identifierFaults
  split
  · rfl
  · next hint =>
    cases hs : v.asText? with
    | none => simp
    | some s => simp

lemma passes_readText_iff (v : Value) : (readText v).Passes ↔ v.IsText := by
  rw [Value.IsText]
  unfold readText
  split <;> simp_all

lemma members_readText (names : List String) :
    Checked.members readText (names.map .text) = .ok names := by
  rw [members_eq_ok_iff, List.forall₂_map_left_iff, List.forall₂_same]
  exact fun _ _ => rfl

lemma faults_readText (v : Value) : (readText v).faults = textFaults v := by
  unfold readText textFaults
  split <;> simp_all

lemma passes_readType_iff (v : Value) : (readType v).Passes ↔ v.IsType := by
  rw [Value.IsType, readType]
  cases hs : readText v with
  | error fs =>
    have hno : ∀ s, v.decodeText? ≠ some s := by
      intro s hs'
      rw [readText_eq_ok_iff.2 hs'] at hs
      simp at hs
    simp [bind, Except.bind, hno]
  | ok s =>
    rw [readText_eq_ok_iff] at hs
    by_cases hempty : s = "" <;> simp [bind, Except.bind, pure, Except.pure, hs, hempty]

lemma faults_readType (v : Value) : (readType v).faults = typeFaults v := by
  rw [typeFaults, ← faults_readText, readType]
  cases hs : readText v with
  | error fs =>
    have hno : v.decodeText? ≠ some "" := by
      intro hs'
      rw [readText_eq_ok_iff.2 hs'] at hs
      simp at hs
    simp [bind, Except.bind, hno]
  | ok s =>
    rw [readText_eq_ok_iff] at hs
    by_cases hempty : s = "" <;> simp [bind, Except.bind, pure, Except.pure, hs, hempty]

lemma passes_readLabels_iff (v : Value) : (readLabels v).Passes ↔ v.IsLabels Value.members? := by
  rw [Value.IsLabels]
  unfold readLabels
  cases hs : v.asText? with
  | some s => simp
  | none =>
    cases hm : v.members? with
    | none => cases v <;> simp
    | some items =>
      have hnull : v ≠ .null := by
        rintro rfl
        simp [Value.members?] at hm
      have hread : (Checked.members readText items).Passes ↔ ∀ x ∈ items, x.IsText := by
        rw [passes_members_iff]
        simp only [passes_readText_iff]
      simp [hnull, hread]

lemma faults_readLabels (v : Value) : (readLabels v).faults = labelsFaults v := by
  unfold readLabels labelsFaults
  cases hs : v.asText? with
  | some s => cases v <;> rfl
  | none =>
    cases hm : v.members? with
    | none => cases v <;> simp
    | some items =>
      cases v <;> simp [faults_members, memberFaults, faults_readText]

/-! ### Properties -/

lemma propertyFault?_eq_none_iff {v : Value} :
    propertyFault? v = none ↔ ∃ p, Property.ofValue? v = .ok p := by
  unfold propertyFault?
  cases Property.ofValue? v <;> simp

lemma propertyFault?_eq_some_iff {v : Value} {fault : PropertyFault} :
    propertyFault? v = some fault ↔ Property.ofValue? v = .error fault := by
  unfold propertyFault?
  cases Property.ofValue? v <;> simp

/-- A list is read up to the first element with a fault. -/
lemma mapM_eq_error_iff_findSome? {α β ε : Type} {f : α → Except ε β} {fault? : α → Option ε}
    (h : ∀ x e, fault? x = some e ↔ f x = .error e) {xs : List α} {e : ε} :
    xs.mapM f = .error e ↔ xs.findSome? fault? = some e := by
  induction xs with
  | nil => simp [pure, Except.pure]
  | cons x xs ih =>
    rw [List.mapM_cons, List.findSome?_cons]
    cases hx : f x with
    | error d =>
      have hd : fault? x = some d := (h x d).2 hx
      simp [hd, bind, Except.bind]
    | ok y =>
      have hnone : fault? x = none := by
        refine Option.eq_none_iff_forall_ne_some.2 fun d hd => ?_
        rw [(h x d).1 hd] at hx
        simp at hx
      simp only [hnone, ← ih]
      cases hxs : xs.mapM f <;> simp [bind, Except.bind, pure, Except.pure]

section Entries

variable {entries : List (Value × Value)}

private abbrev storeEntry (e : Value × Value) : Except PropertyFault (Value × Property) :=
  (Property.ofValue? e.2).map fun p => (e.1, p)

lemma mapM_storeEntry_eq_error_iff {fault : PropertyFault} :
    entries.mapM storeEntry = .error fault ↔
      entries.findSome? (fun e => propertyFault? e.2) = some fault := by
  refine mapM_eq_error_iff_findSome? fun e fault => ?_
  rw [propertyFault?_eq_some_iff]
  cases h : Property.ofValue? e.2 <;> simp [storeEntry, h, Except.map]

lemma findSome?_eq_none_of_mapM_storeEntry {stored : List (Value × Property)}
    (h : entries.mapM storeEntry = .ok stored) :
    entries.findSome? (fun e => propertyFault? e.2) = none := by
  refine Option.eq_none_iff_forall_ne_some.2 fun fault hfault => ?_
  rw [mapM_storeEntry_eq_error_iff.2 hfault] at h
  simp at h

lemma keys_of_mapM_storeEntry {stored : List (Value × Property)}
    (h : entries.mapM storeEntry = .ok stored) : stored.map Prod.fst = entries.map Prod.fst := by
  refine map_eq_of_mapM_eq_ok (fun e d hd => ?_) h
  cases he : Property.ofValue? e.2 with
  | error fault => simp [storeEntry, he, Except.map] at hd
  | ok p =>
    simp only [storeEntry, he, Except.map, Except.ok.injEq] at hd
    rw [← hd]

lemma readProperties_of_error {fault : PropertyFault}
    (h : entries.mapM storeEntry = .error fault) :
    readProperties (.map entries) = Checked.fault (.property fault) := by
  unfold storeEntry at h
  simp only [readProperties, h]

lemma readProperties_of_ok {stored : List (Value × Property)}
    (h : entries.mapM storeEntry = .ok stored) : readProperties (.map entries) =
      (Checked.all (stored.map readEntry)).map OrderedMap.ofList := by
  unfold storeEntry at h
  simp only [readProperties, h]

end Entries

lemma passes_readEntry_iff (e : Value × Property) : (readEntry e).Passes ↔ e.1.IsText := by
  rw [readEntry, passes_under_iff, passes_under_iff, passes_map_iff, passes_readText_iff]

lemma faults_readEntry (e : Value × Property) :
    (readEntry e).faults = (textFaults e.1).map fun f =>
      (f.under (.name "[key]")).under (PathStep.toKey e.1) := by
  rw [readEntry, faults_under, faults_under, faults_map, faults_readText, List.map_map]
  rfl

lemma passes_readProperties_map_iff (entries : List (Value × Value)) :
    (readProperties (.map entries)).Passes ↔
      ∀ e ∈ entries, e.1.IsText ∧ ∃ p, Property.ofValue? e.2 = .ok p := by
  cases hstored : entries.mapM storeEntry with
  | error fault =>
    rw [readProperties_of_error hstored]
    obtain ⟨e, he, hfault⟩ :=
      List.exists_of_findSome?_eq_some (mapM_storeEntry_eq_error_iff.1 hstored)
    rw [propertyFault?_eq_some_iff] at hfault
    simp only [not_passes_fault, false_iff]
    intro h
    obtain ⟨p, hp⟩ := (h e he).2
    rw [hp] at hfault
    simp at hfault
  | ok stored =>
    rw [readProperties_of_ok hstored]
    have hvalues : ∀ e ∈ entries, ∃ p, Property.ofValue? e.2 = .ok p := by
      intro e he
      have hnone := findSome?_eq_none_of_mapM_storeEntry hstored
      exact propertyFault?_eq_none_iff.1 (List.findSome?_eq_none_iff.1 hnone e he)
    have hkeys : (∀ e ∈ stored, e.1.IsText) ↔ ∀ e ∈ entries, e.1.IsText := by
      have hmap := keys_of_mapM_storeEntry hstored
      have hforall := congrArg (fun ks => ∀ k ∈ ks, Value.IsText k) hmap
      simpa only [List.forall_mem_map] using hforall.to_iff
    simp only [passes_map_iff, passes_all_iff, List.forall_mem_map, passes_readEntry_iff, hkeys]
    exact ⟨fun h e he => ⟨h e he, hvalues e he⟩, fun h e he => (h e he).1⟩

lemma passes_readProperties_iff (v : Value) : (readProperties v).Passes ↔ v.IsProperties := by
  rw [Value.IsProperties]
  cases v with
  | null => simp [readProperties]
  | map entries => simp [passes_readProperties_map_iff]
  | _ => simp [readProperties]

lemma faults_readProperties (v : Value) : (readProperties v).faults = propertiesFaults v := by
  cases v with
  | map entries =>
    rw [propertiesFaults]
    cases hstored : entries.mapM storeEntry with
    | error fault =>
      rw [readProperties_of_error hstored, mapM_storeEntry_eq_error_iff.1 hstored, faults_fault]
    | ok stored =>
      have hnone := findSome?_eq_none_of_mapM_storeEntry hstored
      rw [readProperties_of_ok hstored]
      simp only [hnone, faults_map, faults_all, List.flatMap_map, faults_readEntry]
      have hkeys := congrArg (List.flatMap fun k => (textFaults k).map fun f =>
        (f.under (.name "[key]")).under (PathStep.toKey k)) (keys_of_mapM_storeEntry hstored)
      rwa [List.flatMap_map, List.flatMap_map] at hkeys
  | _ => rfl

end PropertyGraph
