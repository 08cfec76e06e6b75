import Kinematics.Frame.Graph

/-!
# Frame graphs with drawn identifiers

The vertices of a `FrameGraph` are known by their positions.  Here they are known by
identifiers that are drawn when they are made, and a graph keeps them in a table under
these identifiers; the same goes for edges.  A mutation that fails half way leaves the
graph as it is at that point.
-/

namespace Kinematics

/-- The identifiers that are drawn for vertices and for edges, one after the other. -/
structure Draws (ι κ : Type) where
  vertex : Nat → ι
  edge : Nat → κ

/-- Every identifier differs from all earlier ones. -/
structure Draws.Distinct {ι κ : Type} (draws : Draws ι κ) : Prop where
  vertex : Function.Injective draws.vertex
  edge : Function.Injective draws.edge

namespace Table

variable {κ β : Type} [DecidableEq κ]

/-- The keys of a table, in the order of insertion. -/
def keys (table : List (κ × β)) : List κ :=
  table.map Prod.fst

/-- A table with a value under a key, in place of the one that is there. -/
def put (table : List (κ × β)) (key : κ) (value : β) : List (κ × β) :=
  if key ∈ keys table then
    table.map fun entry => if entry.1 = key then (key, value) else entry
  else
    table ++ [(key, value)]

/-- A table with a value under a key, unless there is one already. -/
def putIfAbsent (table : List (κ × β)) (key : κ) (value : β) : List (κ × β) :=
  if key ∈ keys table then table else table ++ [(key, value)]

/-- A table with the value under a key changed. -/
def modify (table : List (κ × β)) (key : κ) (change : β → β) : List (κ × β) :=
  table.map fun entry => if entry.1 = key then (key, change entry.2) else entry

end Table

/-- A named frame with its identifier. -/
structure KeyedVertex (ι α : Type) where
  id : ι
  name : String
  payload : Transform α

def KeyedVertex.toVertex {ι α : Type} (vertex : KeyedVertex ι α) : Vertex α :=
  ⟨vertex.name, vertex.payload⟩

/-- A directed edge with its identifier. -/
structure KeyedEdge (ι κ : Type) where
  id : κ
  source : ι
  target : ι
  direction : Direction
  deriving DecidableEq

/-- Frames and the edges between them, in tables by identifier. -/
structure KeyedGraph (ι κ α : Type) where
  vertices : List (ι × KeyedVertex ι α)
  edges : List (κ × KeyedEdge ι κ)
  root : Option ι

/-- A graph together with how many identifiers have been drawn for it. -/
structure Drawing (ι κ α : Type) where
  graph : KeyedGraph ι κ α
  vertexDraws : Nat
  edgeDraws : Nat

/-- The error that a vertex is not in the graph. -/
structure VertexMissing (ι : Type) where
  vertex : ι
  deriving DecidableEq

/-- Something that is done to a graph and can fail on the way. -/
abbrev Mutation (ι κ α : Type) :=
  ExceptT (VertexMissing ι) (StateM (Drawing ι κ α))

namespace Mutation

variable {ι κ α β : Type}

/-- The outcome of a mutation, and the graph that it leaves behind. -/
def apply (mutation : Mutation ι κ α β) (state : Drawing ι κ α) :
    Except (VertexMissing ι) β × Drawing ι κ α :=
  mutation.run.run state

def drawVertex (draws : Draws ι κ) : Mutation ι κ α ι := do
  let state ← get
  set { state with vertexDraws := state.vertexDraws + 1 }
  return draws.vertex state.vertexDraws

def drawEdge (draws : Draws ι κ) : Mutation ι κ α κ := do
  let state ← get
  set { state with edgeDraws := state.edgeDraws + 1 }
  return draws.edge state.edgeDraws

def change (graph : KeyedGraph ι κ α → KeyedGraph ι κ α) : Mutation ι κ α Unit :=
  modify fun state => { state with graph := graph state.graph }

variable [DecidableEq ι]

/-- A check that a vertex is in the graph. -/
def ensure (vertex : ι) : Mutation ι κ α Unit := do
  let state ← get
  if vertex ∈ Table.keys state.graph.vertices then return () else throw ⟨vertex⟩

def addVertex (draws : Draws ι κ) (name : String) (payload : Transform α) :
    Mutation ι κ α ι := do
  let id ← drawVertex draws
  change fun graph =>
    { graph with vertices := Table.putIfAbsent graph.vertices id ⟨id, name, payload⟩ }
  return id

def modifyVertex (vertex : ι) (update : KeyedVertex ι α → KeyedVertex ι α) :
    Mutation ι κ α Unit := do
  ensure vertex
  change fun graph => { graph with vertices := Table.modify graph.vertices vertex update }

variable [DecidableEq κ]

def addEdge (draws : Draws ι κ) (source target : ι) (direction : Direction) :
    Mutation ι κ α κ := do
  ensure source
  ensure target
  let id ← drawEdge draws
  change fun graph =>
    { graph with edges := Table.put graph.edges id ⟨id, source, target, direction⟩ }
  return id

/-- The two complementary edges between a reference and its child. -/
def addEdgePair (draws : Draws ι κ) (reference child : ι) : Mutation ι κ α (κ × κ) := do
  ensure reference
  ensure child
  let down ← addEdge draws reference child .backward
  let up ← addEdge draws child reference .forward
  return (down, up)

end Mutation

/-- One mutation of a graph that somebody asks for. -/
inductive Request (ι α : Type) where
  | addVertex (name : String) (payload : Transform α)
  | addEdge (source target : ι) (direction : Direction)
  | addEdgePair (reference child : ι)
  | rename (vertex : ι) (name : String)
  | setPayload (vertex : ι) (payload : Transform α)

/-- A request for other identifiers. -/
def Request.map {ι ι' α : Type} (convert : ι → ι') : Request ι α → Request ι' α
  | .addVertex name payload => .addVertex name payload
  | .addEdge source target direction => .addEdge (convert source) (convert target) direction
  | .addEdgePair reference child => .addEdgePair (convert reference) (convert child)
  | .rename vertex name => .rename (convert vertex) name
  | .setPayload vertex payload => .setPayload (convert vertex) payload

namespace Drawing

variable {ι κ α : Type} [DecidableEq ι] [DecidableEq κ] (draws : Draws ι κ)

def serve : Request ι α → Mutation ι κ α Unit
  | .addVertex name payload => discard (Mutation.addVertex draws name payload)
  | .addEdge source target direction => discard (Mutation.addEdge draws source target direction)
  | .addEdgePair reference child => discard (Mutation.addEdgePair draws reference child)
  | .rename vertex name => Mutation.modifyVertex vertex fun before => { before with name }
  | .setPayload vertex payload =>
    Mutation.modifyVertex vertex fun before => { before with payload }

/-- A graph after some requests, whatever their outcomes. -/
def run (state : Drawing ι κ α) (requests : List (Request ι α)) : Drawing ι κ α :=
  requests.foldl (fun state request => ((serve draws request).apply state).2) state

def empty : Drawing ι κ α := ⟨⟨[], [], none⟩, 0, 0⟩

/-- A graph that holds only a root frame, or nothing where none is named. -/
def start [Scalar α] : Option String → Drawing ι κ α
  | none => empty
  | some name =>
    let rooted : Mutation ι κ α Unit := do
      let root ← Mutation.addVertex draws name Transform.identity
      Mutation.change fun graph => { graph with root := some root }
    (rooted.apply empty).2

end Drawing

namespace KeyedGraph

variable {ι κ α : Type} [DecidableEq ι]

def position (graph : KeyedGraph ι κ α) (vertex : ι) : VertexId :=
  ⟨(Table.keys graph.vertices).idxOf vertex⟩

/-- An edge between the positions of its ends. -/
def edgeOf (graph : KeyedGraph ι κ α) (edge : KeyedEdge ι κ) : Edge :=
  ⟨graph.position edge.source, graph.position edge.target, edge.direction⟩

def toFrameGraph (graph : KeyedGraph ι κ α) : FrameGraph α :=
  { vertices := graph.vertices.map fun entry => entry.2.toVertex
    edges := graph.edges.map fun entry => graph.edgeOf entry.2
    root := graph.root.map graph.position }

end KeyedGraph

namespace FrameGraph

variable {α : Type}

/-- The graph that a request asks for. -/
def perform (graph : FrameGraph α) : Request VertexId α → Except GraphError (FrameGraph α)
  | .addVertex name payload => .ok (graph.addVertex name payload).1
  | .addEdge source target direction => (graph.addEdge source target direction).map Prod.fst
  | .addEdgePair reference child => (graph.addEdgePair reference child).map Prod.fst
  | .rename vertex name => graph.rename vertex name
  | .setPayload vertex payload => graph.setPayload vertex payload

/-- The outcome of a change to a graph, and the graph that it leaves behind. -/
def settle (graph : FrameGraph α) :
    Except GraphError (FrameGraph α) → Except GraphError Unit × FrameGraph α
  | .ok changed => (.ok (), changed)
  | .error problem => (.error problem, graph)

/-- The outcome of a request to a graph, and the graph that it leaves behind. -/
def serve (graph : FrameGraph α) (request : Request VertexId α) :
    Except GraphError Unit × FrameGraph α :=
  graph.settle (graph.perform request)

end FrameGraph

end Kinematics
