import Kinematics.Entity.Diagnostic
import Kinematics.Frame.Store

/-!
# Frame bindings

Every loaded entity owns one frame.  A binding names the graph and the vertex of that
frame.  It is attached if the graph is the one of a document; a detached frame is alone
in a graph of its own, so it has a name and a pose but no place among other frames.
-/

namespace Kinematics

/-- Why an entity could not say where it is. -/
inductive PoseError where
  | noFrameGraph (name : String)
  | resolve (error : ResolveError)
  deriving DecidableEq

namespace PoseError

def message : PoseError → String
  | noFrameGraph name => s!"'{name}' was loaded without a frame graph and cannot resolve poses"
  | resolve error => error.message

end PoseError

/-- Why an attached frame has no edges. -/
inductive Unconnected where
  | unresolved (error : GraphError)
  | refused (error : GraphError)

/-- What becomes of a graph when a frame is attached to it. -/
structure Attachment (α : Type) where
  graph : FrameGraph α
  vertex : VertexId
  problem : Option Unconnected

/-- A new vertex, connected to the one that a name stands for.  The name is looked up
before the vertex is inserted, so a frame never refers to itself. -/
def FrameGraph.attach {α : Type} (graph : FrameGraph α) (name : String) (payload : Transform α)
    (reference : String) (tieBreak : TieBreak) : Attachment α :=
  let (extended, vertex) := graph.addVertex name payload
  match graph.resolveName reference tieBreak with
  | .error error => ⟨extended, vertex, some (.unresolved error)⟩
  | .ok referenced =>
    match extended.addEdgePair referenced vertex with
    | .error error => ⟨extended, vertex, some (.refused error)⟩
    | .ok (connected, _) => ⟨connected, vertex, none⟩

/-- The place of an entity's frame, attached if the graph is the one of a document. -/
structure Binding where
  graph : GraphId
  vertex : VertexId
  attached : Bool
  deriving DecidableEq

namespace Binding

variable {α : Type} [Scalar α]

/-- A frame in a graph of its own. -/
def detached (store : GraphStore α) (name : String) (pose : Pose α) : GraphStore α × Binding :=
  let (graph, vertex) := FrameGraph.empty.addVertex name (Transform.ofPose pose)
  let (store, id) := store.create graph
  (store, ⟨id, vertex, false⟩)

/-- What there is to report when a frame could not be connected. -/
def reportOf (owner name reference : String) : Option Unconnected → List (Diagnostic α)
  | none => []
  | some (.unresolved (.ambiguousName _ count)) => [.referenceShared owner name reference count]
  | some (.unresolved _) => [.referenceUnknown owner name reference]
  | some (.refused error) => [.referenceRefused owner name reference error]

/-- A frame in the graph of a document, connected to the frame that a name stands for. -/
def attach (store : GraphStore α) (graph : GraphId) (name : String) (pose : Pose α)
    (reference : String) (tieBreak : TieBreak) (owner : String) :
    GraphStore α × Binding × List (Diagnostic α) :=
  let attachment :=
    (store.graph graph).attach name (Transform.ofPose pose) reference tieBreak
  (store.set graph attachment.graph, ⟨graph, attachment.vertex, true⟩,
    reportOf owner name reference attachment.problem)

/-- A frame attached to a graph if there is one, and detached otherwise. -/
def place (store : GraphStore α) (graph : Option GraphId) (name : String) (pose : Pose α)
    (reference : String) (tieBreak : TieBreak) (owner : String) :
    GraphStore α × Binding × List (Diagnostic α) :=
  match graph with
  | some graph => attach store graph name pose reference tieBreak owner
  | none =>
    let (store, binding) := detached store name pose
    (store, binding, [])

def name (binding : Binding) (store : GraphStore α) : String :=
  (((store.graph binding.graph).vertex? binding.vertex).map Vertex.name).getD ""

def setName (binding : Binding) (store : GraphStore α) (name : String) : GraphStore α :=
  match (store.graph binding.graph).rename binding.vertex name with
  | .ok graph => store.set binding.graph graph
  | .error _ => store

def setPose (binding : Binding) (store : GraphStore α) (pose : Pose α) : GraphStore α :=
  match (store.graph binding.graph).setPayload binding.vertex (Transform.ofPose pose) with
  | .ok graph => store.set binding.graph graph
  | .error _ => store

/-- The pose of the frame in a named one.  A frame is at rest in every frame of its own
name. -/
def poseInFrame (binding : Binding) (store : GraphStore α) (frame : String) :
    Except PoseError (Pose α) :=
  if binding.attached then
    let graph := store.graph binding.graph
    match graph.vertex? binding.vertex with
    | none => .error (.resolve (.graph (.vertexNotFound binding.vertex)))
    | some vertex =>
      if vertex.name = frame then .ok Pose.identity
      else
        match graph.resolveName frame .firstInserted with
        | .error _ => .error (.resolve (.notFound frame))
        | .ok target => (graph.poseBetween binding.vertex target).mapError .resolve
  else
    .error (.noFrameGraph (binding.name store))

end Binding

/-- An entity after it has been loaded. -/
structure Loaded (α ε : Type) where
  store : GraphStore α
  entity : ε
  diagnostics : List (Diagnostic α)

end Kinematics
