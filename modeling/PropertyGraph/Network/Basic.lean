/-
# Networks

A network is a graph under construction: vertices may be added, given attributes and removed, and
so may the edges between them.  It is directed or not, and it has at most one edge between two
vertices or any number of them, told apart by keys.

Vertices are named by values, and values that are the same key name the same vertex; a vertex
keeps the first value it was named by, while each end of a link keeps the value it was created
with.  All edges between the same two vertices form one link.  The links are listed in the order
of their creation, and this is the order in which a vertex sees its neighbours.
-/
import PropertyGraph.OrderedMap
import PropertyGraph.Value.Key
import PropertyGraph.Value.Written

namespace PropertyGraph

/-- The attributes of a vertex or an edge. -/
abbrev Attributes := OrderedMap Value Value

/-- A vertex. -/
structure Vertex where
  /-- The number of the vertex, never given to another one. -/
  slot : Nat
  /-- The value by which the vertex was first named. -/
  name : Value
  /-- The attributes of the vertex. -/
  attributes : Attributes

/-- An end of a link. -/
structure Endpoint where
  /-- The number of the vertex. -/
  slot : Nat
  /-- The value by which the vertex was named when the link was created. -/
  name : Value

/-- The edges from one vertex to another. -/
structure Link where
  /-- The vertex that was named first when the link was created. -/
  source : Endpoint
  /-- The vertex that was named second. -/
  target : Endpoint
  /-- The attributes of every edge, under its key. -/
  edges : OrderedMap Value Attributes

/-- A graph under construction. -/
structure Network where
  /-- Whether edges have a direction. -/
  directed : Bool
  /-- Whether there may be several edges between two vertices. -/
  parallel : Bool
  /-- The vertices, the oldest first. -/
  vertices : List Vertex
  /-- The links, the oldest first. -/
  links : List Link
  /-- The number of the next vertex. -/
  nextSlot : Nat

/-- Why a network cannot be changed as wanted. -/
inductive NetworkFault
  /-- Null names no vertex. -/
  | nullName
  /-- The value cannot be a key. -/
  | notKey (v : Value)
  /-- The vertex is not there. -/
  | noVertex (directed : Bool) (name : Value)
  /-- There is no edge between the vertices. -/
  | noEdge (directed parallel : Bool) (source target : Value)
  /-- No edge between the vertices has this key. -/
  | noEdgeKey (source target key : Value)

/-- The wording of a fault. -/
def NetworkFault.message : NetworkFault → String
  | .nullName => "None cannot be a node"
  | .notKey v => "unhashable type: '" ++ v.typeName ++ "'"
  | .noVertex directed name =>
    "The node " ++ name.told ++
      (if directed then " is not in the digraph." else " is not in the graph.")
  | .noEdge directed parallel u v =>
    "The edge " ++ u.told ++ "-" ++ v.told ++
      match directed, parallel with
      | _, true => " is not in the graph."
      | true, false => " not in graph."
      | false, false => " is not in the graph"
  | .noEdgeKey u v k =>
    "The edge " ++ u.told ++ "-" ++ v.told ++ " with key " ++ k.told ++ " is not in the graph."

namespace Link

/-- Whether a link runs between two vertices, in this direction if edges have one. -/
def joins (directed : Bool) (u v : Nat) (l : Link) : Bool :=
  (l.source.slot == u && l.target.slot == v) ||
    (!directed && l.source.slot == v && l.target.slot == u)

/-- Whether a vertex is an end of a link. -/
def touches (u : Nat) (l : Link) : Bool := l.source.slot == u || l.target.slot == u

end Link

namespace Network

/-- The network without vertices. -/
def empty (directed parallel : Bool) : Network := ⟨directed, parallel, [], [], 0⟩

/-- The number of the vertex that a value names. -/
def slot? (g : Network) (name : Value) : Option Nat :=
  (g.vertices.find? fun v => v.name == name).map Vertex.slot

/-- The network with a vertex of some name, added at the end if it is new, and its number. -/
def ensure (g : Network) (name : Value) : Except NetworkFault (Network × Nat) :=
  if !name.isKey then .error (.notKey name)
  else match g.slot? name, name with
    | some slot, _ => .ok (g, slot)
    | none, .null => .error .nullName
    | none, name =>
      .ok ({ g with
        vertices := g.vertices ++ [⟨g.nextSlot, name, .empty⟩]
        nextSlot := g.nextSlot + 1 }, g.nextSlot)

/-- A vertex added, or given more attributes if it is there. -/
def addVertex (g : Network) (name : Value) (attributes : List (Value × Value)) :
    Except NetworkFault Network := do
  let (g, slot) ← g.ensure name
  let write (v : Vertex) : Vertex :=
    if v.slot == slot then { v with attributes := v.attributes.insertMany attributes } else v
  return { g with vertices := g.vertices.map write }

/-- The link between two vertices. -/
def link? (g : Network) (u v : Nat) : Option Link := g.links.find? (Link.joins g.directed u v)

/-- The key of the next edge between two vertices that have these: their number, or the first
number after it that is no key yet. -/
def freshKey (edges : OrderedMap Value Attributes) : Value :=
  let numbers := (List.range (edges.size + 1)).map fun (i : Nat) => Value.int (edges.size + i)
  (numbers.find? fun k => !edges.contains k).getD (.int edges.size)

/-- Attributes written to the edge of some key. -/
def writeEdge (edges : OrderedMap Value Attributes) (key : Value)
    (attributes : List (Value × Value)) : OrderedMap Value Attributes :=
  edges.insert key (((edges.find? key).getD .empty).insertMany attributes)

/-- The key under which an edge is written: the only one where there is but one edge, else the
given one, else a fresh one. -/
def edgeKey (g : Network) (edges : OrderedMap Value Attributes) (key : Option Value) : Value :=
  if g.parallel then key.getD (freshKey edges) else .int 0

/-- An edge added, with its vertices if they are new, or given more attributes if it is there. -/
def addEdge (g : Network) (source target : Value) (attributes : List (Value × Value))
    (key : Option Value) : Except NetworkFault Network := do
  let (g, u) ← g.ensure source
  let (g, v) ← g.ensure target
  match key with
  | some k => if g.parallel && !k.isKey then throw (.notKey k)
  | none => pure ()
  match g.link? u v with
  | none =>
    let edges := writeEdge .empty (g.edgeKey .empty key) attributes
    return { g with links := g.links ++ [⟨⟨u, source⟩, ⟨v, target⟩, edges⟩] }
  | some _ =>
    let write (l : Link) : Link :=
      if l.joins g.directed u v then
        { l with edges := writeEdge l.edges (g.edgeKey l.edges key) attributes }
      else l
    return { g with links := g.links.map write }

/-- A vertex removed, with all edges at it. -/
def removeVertex (g : Network) (name : Value) : Except NetworkFault Network :=
  if !name.isKey then .error (.notKey name)
  else match g.slot? name with
    | none => .error (.noVertex g.directed name)
    | some slot => .ok { g with
        vertices := g.vertices.filter fun v => v.slot != slot
        links := g.links.filter fun l => !l.touches slot }

/-- The edges of a link without one of them: the only one, the one of some key, or the latest. -/
def dropEdge (g : Network) (source target : Value) (edges : OrderedMap Value Attributes)
    (key : Option Value) : Except NetworkFault (OrderedMap Value Attributes) :=
  if !g.parallel then .ok .empty
  else match key with
    | none => .ok edges.popLast.2
    | some k =>
      if !k.isKey then .error (.notKey k)
      else if edges.contains k then .ok (edges.erase k)
      else .error (.noEdgeKey source target k)

/-- An edge removed; its vertices stay. -/
def removeEdge (g : Network) (source target : Value) (key : Option Value) :
    Except NetworkFault Network := do
  if !source.isKey then throw (.notKey source)
  let absent := NetworkFault.noEdge g.directed g.parallel source target
  let some u := g.slot? source | throw absent
  if !target.isKey then throw (.notKey target)
  let some v := g.slot? target | throw absent
  let some link := g.link? u v | throw absent
  let edges ← g.dropEdge source target link.edges key
  let replace (l : Link) : Option Link :=
    if !l.joins g.directed u v then some l
    else if edges.size = 0 then none
    else some { l with edges }
  return { g with links := g.links.filterMap replace }

/-! ### Going through the edges -/

/-- An edge as it is met when going through a network. -/
structure Edge where
  /-- The vertex from which the edge is met, by the name of the vertex. -/
  source : Value
  /-- The vertex at the other end, by the name it has in the link. -/
  target : Value
  /-- The key of the edge. -/
  key : Value
  /-- The attributes of the edge. -/
  attributes : Attributes

/-- The end of a link at which a vertex sees its neighbour.  An edge without a direction is seen
from both ends, but not from the end reached second. -/
def neighbour? (directed : Bool) (passed : List Nat) (slot : Nat) (l : Link) : Option Endpoint :=
  if directed then if l.source.slot == slot then some l.target else none
  else
    let other :=
      if l.source.slot == slot then some l.target
      else if l.target.slot == slot then some l.source
      else none
    other.filter fun e => e.slot ∉ passed

/-- The edges met at a vertex: neighbour by neighbour, edges to one neighbour by age. -/
def edgesAt (g : Network) (passed : List Nat) (v : Vertex) : List Edge :=
  g.links.flatMap fun l =>
    match neighbour? g.directed passed v.slot l with
    | some other => l.edges.entries.map fun e => ⟨v.name, other.name, e.1, e.2⟩
    | none => []

/-- The edges met going through vertices in order, after others have been passed. -/
def edgesFrom (g : Network) (passed : List Nat) : List Vertex → List Edge
  | [] => []
  | v :: vs => g.edgesAt passed v ++ g.edgesFrom (v.slot :: passed) vs

/-- The edges of a network, each once. -/
def edges (g : Network) : List Edge := g.edgesFrom [] g.vertices

end Network

end PropertyGraph
