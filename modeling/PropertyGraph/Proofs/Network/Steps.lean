/-
# What a change does to a network

Each change that succeeds comes down to a few plain steps: a vertex put at the end
(`Network.withVertex`), attributes written to a vertex (`Network.writeVertex`), an edge written
between two vertices (`Network.connect`), a vertex taken out (`Network.without`), other edges put in
the place of those between two vertices (`Network.replaceEdges`).  The lemmas here say which steps a
change takes, and what the network must be like for it; what holds after every change is then seen
step by step.
-/
import Mathlib.Tactic.Lemma
import PropertyGraph.Network.Change

namespace PropertyGraph

/-- More attributes for a vertex, if it is the one of some number. -/
def Vertex.write (slot : Nat) (attributes : List (Value × Value)) (v : Vertex) : Vertex :=
  if v.slot == slot then { v with attributes := v.attributes.insertMany attributes } else v

section Write

variable {slot : Nat} {attributes : List (Value × Value)} {v : Vertex}

@[simp] lemma Vertex.slot_write : (v.write slot attributes).slot = v.slot := by
  unfold write
  split <;> rfl

@[simp] lemma Vertex.name_write : (v.write slot attributes).name = v.name := by
  unfold write
  split <;> rfl

lemma Vertex.write_of_ne (h : v.slot ≠ slot) : v.write slot attributes = v :=
  if_neg (by simpa using h)

end Write

namespace Network

/-! ### The steps -/

/-- A vertex of a new name put at the end. -/
def withVertex (g : Network) (name : Value) : Network :=
  { g with
    vertices := g.vertices ++ [⟨g.nextSlot, name, .empty⟩]
    nextSlot := g.nextSlot + 1 }

/-- More attributes for the vertex of some number. -/
def writeVertex (g : Network) (slot : Nat) (attributes : List (Value × Value)) : Network :=
  { g with vertices := g.vertices.map (Vertex.write slot attributes) }

/-- An edge written to the link between two vertices, or to a new one. -/
def connect (g : Network) (source target : Endpoint) (attributes : List (Value × Value))
    (key : Option Value) : Network :=
  match g.link? source.slot target.slot with
  | none =>
    { g with links := g.links ++
        [⟨source, target, writeEdge .empty (g.edgeKey .empty key) attributes⟩] }
  | some _ =>
    { g with links := g.links.map fun l =>
        if l.joins g.directed source.slot target.slot then
          { l with edges := writeEdge l.edges (g.edgeKey l.edges key) attributes }
        else l }

/-- The vertex of some number taken out, with its links. -/
def without (g : Network) (slot : Nat) : Network :=
  { g with
    vertices := g.vertices.filter fun v => v.slot != slot
    links := g.links.filter fun l => !l.touches slot }

/-- Other edges in the link between two vertices, which goes if there are none. -/
def replaceEdges (g : Network) (u v : Nat) (edges : OrderedMap Value Attributes) : Network :=
  { g with links := g.links.filterMap fun l =>
      if !l.joins g.directed u v then some l
      else if edges.size = 0 then none
      else some { l with edges } }

variable {g g' : Network} {name source target : Value} {attributes : List (Value × Value)}
  {key : Option Value}

/-! ### Which steps a change takes -/

lemma bind_eq_ok_iff {ε α β : Type} {x : Except ε α} {f : α → Except ε β} {b : β} :
    (x >>= f) = .ok b ↔ ∃ a, x = .ok a ∧ f a = .ok b := by
  cases x <;> simp [bind, Except.bind]

/-- A value that names a vertex leaves the network as it is. -/
lemma ensure_of_slot? {slot : Nat} (hkey : name.isKey = true) (h : g.slot? name = some slot) :
    g.ensure name = .ok (g, slot) := by
  simp [ensure, hkey, h]

/-- Any other value but null names a new vertex. -/
lemma ensure_of_new (hkey : name.isKey = true) (h : g.slot? name = none) (hnull : name ≠ .null) :
    g.ensure name = .ok (g.withVertex name, g.nextSlot) := by
  unfold ensure
  rw [hkey, h]
  cases name with
  | null => exact absurd rfl hnull
  | _ => rfl

lemma isKey_of_ensure_eq_ok {slot : Nat} (h : g.ensure name = .ok (g', slot)) :
    name.isKey = true := by
  cases hkey : name.isKey with
  | true => rfl
  | false => simp [ensure, hkey] at h

lemma ensure_eq_ok {slot : Nat} (h : g.ensure name = .ok (g', slot)) :
    g.slot? name = some slot ∧ g' = g ∨
      g.slot? name = none ∧ slot = g.nextSlot ∧ g' = g.withVertex name := by
  have hkey : name.isKey = true := isKey_of_ensure_eq_ok h
  cases hslot : g.slot? name with
  | some s =>
    rw [ensure_of_slot? hkey hslot, Except.ok.injEq, Prod.mk.injEq] at h
    exact .inl ⟨congrArg some h.2, h.1.symm⟩
  | none =>
    have hnull : name ≠ .null := by
      rintro rfl
      simp [ensure, hslot, Value.isKey] at h
    rw [ensure_of_new hkey hslot hnull, Except.ok.injEq, Prod.mk.injEq] at h
    exact .inr ⟨rfl, h.2.symm, h.1.symm⟩

lemma addVertex_eq_ok_iff : g.addVertex name attributes = .ok g' ↔
    ∃ g₁ slot, g.ensure name = .ok (g₁, slot) ∧ g₁.writeVertex slot attributes = g' := by
  simp only [addVertex, bind_eq_ok_iff, Prod.exists, pure, Except.pure, Except.ok.injEq]
  rfl

lemma addEdge_eq_ok_iff : g.addEdge source target attributes key = .ok g' ↔
    ∃ g₁ u, g.ensure source = .ok (g₁, u) ∧ ∃ g₂ v, g₁.ensure target = .ok (g₂, v) ∧
      (∀ k, key = some k → g₂.parallel = true → k.isKey = true) ∧
      g₂.connect ⟨u, source⟩ ⟨v, target⟩ attributes key = g' := by
  simp only [addEdge, bind_eq_ok_iff, Prod.exists]
  refine exists_congr fun g₁ => exists_congr fun u => and_congr_right fun _ =>
    exists_congr fun g₂ => exists_congr fun v => and_congr_right fun _ => ?_
  -- a key is looked at only where edges are told apart by keys
  cases key with
  | none =>
    unfold connect
    cases g₂.link? u v <;> simp [pure, Except.pure]
  | some k =>
    unfold connect
    cases g₂.link? u v <;> cases g₂.parallel <;> cases hkey : k.isKey <;>
      simp [hkey, pure, Except.pure, throw, throwThe, MonadExceptOf.throw, bind, Except.bind]

lemma removeVertex_eq_ok (h : g.removeVertex name = .ok g') : ∃ slot, g.without slot = g' := by
  unfold removeVertex at h
  split at h
  · simp at h
  · split at h
    · simp at h
    · next slot _ => exact ⟨slot, Except.ok.inj h⟩

lemma removeEdge_eq_ok (h : g.removeEdge source target key = .ok g') :
    ∃ u v edges, g.replaceEdges u v edges = g' := by
  -- each check in turn has to be passed
  unfold removeEdge at h
  cases hsource : source.isKey with
  | false => simp [hsource, throw, throwThe, MonadExceptOf.throw, bind, Except.bind] at h
  | true =>
    cases hu : g.slot? source with
    | none => simp [hsource, hu, throw, throwThe, MonadExceptOf.throw] at h
    | some u =>
      cases htarget : target.isKey with
      | false =>
        simp [hsource, hu, htarget, throw, throwThe, MonadExceptOf.throw, bind, Except.bind] at h
      | true =>
        cases hv : g.slot? target with
        | none => simp [hsource, hu, htarget, hv, throw, throwThe, MonadExceptOf.throw] at h
        | some v =>
          cases hlink : g.link? u v with
          | none =>
            simp [hsource, hu, htarget, hv, hlink, throw, throwThe, MonadExceptOf.throw] at h
          | some link =>
            simp only [hsource, hu, htarget, hv, hlink] at h
            obtain ⟨edges, -, hedges⟩ := bind_eq_ok_iff.1 h
            exact ⟨u, v, edges, Except.ok.inj hedges⟩

end Network

end PropertyGraph
