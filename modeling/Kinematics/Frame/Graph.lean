import Kinematics.Geometry.Transform
import Kinematics.Frame.Edge

/-!
# Frame graphs

A frame graph holds named frames as vertices, each with a transform as its payload,
and directed edges between them.  Vertices and edges are kept in the order of their
insertion and are never removed; names may change and need not be distinct.

Every operation that can fail gives back an error and no graph, so that a failed
operation leaves the graph it was applied to.
-/

namespace Kinematics

/-- A named frame with its placement relative to its reference. -/
structure Vertex (α : Type) where
  name : String
  payload : Transform α
  deriving BEq

def Vertex.pose {α : Type} [Scalar α] (vertex : Vertex α) : Pose α :=
  vertex.payload.toPose

/-- Which vertex a shared name stands for: the one that was inserted first, or none. -/
inductive TieBreak where
  | firstInserted
  | unique
  deriving DecidableEq

/-- Why a graph could not answer. -/
inductive GraphError where
  | vertexNotFound (vertex : VertexId)
  | edgeNotFound (edge : EdgeId)
  | nameNotFound (name : String)
  | ambiguousName (name : String) (count : Nat)
  deriving DecidableEq

namespace GraphError

def message : GraphError → String
  | vertexNotFound vertex => s!"Vertex not found: {vertex.index}"
  | edgeNotFound edge => s!"Edge not found: {edge.index}"
  | nameNotFound name => s!"No frame named '{name}'"
  | ambiguousName name count => s!"Frame name '{name}' is ambiguous ({count} vertices)"

end GraphError

/-- Frames and the edges between them, each in the order of insertion. -/
structure FrameGraph (α : Type) where
  vertices : List (Vertex α)
  edges : List Edge
  root : Option VertexId

namespace FrameGraph

variable {α : Type}

def empty : FrameGraph α := ⟨[], [], none⟩

instance : Inhabited (FrameGraph α) := ⟨empty⟩

def addVertex (graph : FrameGraph α) (name : String) (payload : Transform α) :
    FrameGraph α × VertexId :=
  ({ graph with vertices := graph.vertices ++ [⟨name, payload⟩] }, ⟨graph.vertices.length⟩)

def withRoot [Scalar α] (name : String) : FrameGraph α :=
  let (graph, root) := addVertex empty name Transform.identity
  { graph with root := some root }

def vertex? (graph : FrameGraph α) (id : VertexId) : Option (Vertex α) :=
  graph.vertices[id.index]?

def edge? (graph : FrameGraph α) (id : EdgeId) : Option Edge :=
  graph.edges[id.index]?

def contains (graph : FrameGraph α) (id : VertexId) : Bool :=
  (graph.vertex? id).isSome

/-- The vertex with an identifier, or the error that it is missing. -/
def vertex (graph : FrameGraph α) (id : VertexId) : Except GraphError (Vertex α) :=
  match graph.vertex? id with
  | some vertex => .ok vertex
  | none => .error (.vertexNotFound id)

def rootName? (graph : FrameGraph α) : Option String :=
  graph.root.bind fun root => (graph.vertex? root).map Vertex.name

def pushEdge (graph : FrameGraph α) (edge : Edge) : FrameGraph α × EdgeId :=
  ({ graph with edges := graph.edges ++ [edge] }, ⟨graph.edges.length⟩)

/-- A new edge between two vertices, which have to be in the graph. -/
def addEdge (graph : FrameGraph α) (source target : VertexId) (direction : Direction) :
    Except GraphError (FrameGraph α × EdgeId) :=
  if graph.contains source then
    if graph.contains target then .ok (graph.pushEdge ⟨source, target, direction⟩)
    else .error (.vertexNotFound target)
  else
    .error (.vertexNotFound source)

/-- The two complementary edges between a reference and its child: down to the child,
then back up. -/
def connect (graph : FrameGraph α) (reference child : VertexId) :
    FrameGraph α × EdgeId × EdgeId :=
  let (graph, down) := graph.pushEdge ⟨reference, child, .backward⟩
  let (graph, up) := graph.pushEdge ⟨child, reference, .forward⟩
  (graph, down, up)

/-- The complementary edges between two vertices, which have to be in the graph. -/
def addEdgePair (graph : FrameGraph α) (reference child : VertexId) :
    Except GraphError (FrameGraph α × EdgeId × EdgeId) :=
  if graph.contains reference then
    if graph.contains child then .ok (graph.connect reference child)
    else .error (.vertexNotFound child)
  else
    .error (.vertexNotFound reference)

def named (graph : FrameGraph α) (name : String) : List VertexId :=
  (graph.vertices.zipIdx.filter fun (vertex, _) => vertex.name == name).map
    fun (_, index) => ⟨index⟩

/-- The one vertex that a name stands for. -/
def resolveName (graph : FrameGraph α) (name : String) (tieBreak : TieBreak) :
    Except GraphError VertexId :=
  match graph.named name, tieBreak with
  | [], _ => .error (.nameNotFound name)
  | [vertex], _ => .ok vertex
  | vertex :: _, .firstInserted => .ok vertex
  | several, .unique => .error (.ambiguousName name several.length)

/-- A vertex changed in place. -/
def modifyVertex (graph : FrameGraph α) (id : VertexId) (change : Vertex α → Vertex α) :
    Except GraphError (FrameGraph α) :=
  if graph.contains id then
    .ok { graph with vertices := graph.vertices.modify id.index change }
  else
    .error (.vertexNotFound id)

def rename (graph : FrameGraph α) (id : VertexId) (name : String) :
    Except GraphError (FrameGraph α) :=
  graph.modifyVertex id fun vertex => { vertex with name }

def setPayload (graph : FrameGraph α) (id : VertexId) (payload : Transform α) :
    Except GraphError (FrameGraph α) :=
  graph.modifyVertex id fun vertex => { vertex with payload }

/-- The edges with their identifiers, in order. -/
def indexedEdges (graph : FrameGraph α) : List (EdgeId × Edge) :=
  graph.edges.zipIdx.map fun (edge, index) => (⟨index⟩, edge)

def edgeBetween? (graph : FrameGraph α) (source target : VertexId) : Option EdgeId :=
  (graph.indexedEdges.find? fun (_, edge) => edge.source == source && edge.target == target).map
    Prod.fst

def edgesFrom (graph : FrameGraph α) (vertex : VertexId) : List (EdgeId × Edge) :=
  graph.indexedEdges.filter fun (_, edge) => edge.source == vertex

def edgesTo (graph : FrameGraph α) (vertex : VertexId) : List (EdgeId × Edge) :=
  graph.indexedEdges.filter fun (_, edge) => edge.target == vertex

/-- The edges that touch a vertex at either end, each once. -/
def edgesAt (graph : FrameGraph α) (vertex : VertexId) : List (EdgeId × Edge) :=
  graph.indexedEdges.filter fun (_, edge) => edge.touches vertex

end FrameGraph

end Kinematics
