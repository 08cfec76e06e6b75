import Kinematics.Frame.Path

/-!
# Poses between frames

The pose of one frame in another is read off a path between them: a step onto the
child of an edge applies the child's payload, a step away from it the inverse.
-/

namespace Kinematics

/-- Why a pose could not be resolved. -/
inductive ResolveError where
  | notFound (frame : String)
  | noPath (source target : String)
  | graph (error : GraphError)
  deriving DecidableEq

namespace ResolveError

def message : ResolveError → String
  | notFound frame => s!"Frame not found: '{frame}'"
  | noPath source target => s!"No path from frame '{source}' to frame '{target}'"
  | graph error => error.message

end ResolveError

namespace FrameGraph

variable {α : Type} [Scalar α]

/-- A product of payloads extended by one step. -/
def composeStep (graph : FrameGraph α) (product : Transform α) (step : Step) :
    Except ResolveError (Transform α) :=
  match graph.edge? step.edge with
  | none => .error (.graph (.edgeNotFound step.edge))
  | some edge =>
    match graph.vertex? edge.child with
    | none => .error (.graph (.vertexNotFound edge.child))
    | some child =>
      if step.target = edge.child then .ok (product * child.payload)
      else .ok (product * child.payload.rigidInverse)

/-- The product of the payloads along a path: its last vertex in its first one. -/
def composePath (graph : FrameGraph α) (path : List Step) : Except ResolveError (Transform α) :=
  path.foldlM graph.composeStep Transform.identity

/-- The pose of one vertex in another. -/
def poseBetween (graph : FrameGraph α) (source target : VertexId) :
    Except ResolveError (Pose α) :=
  match graph.vertex? source, graph.vertex? target with
  | none, _ => .error (.graph (.vertexNotFound source))
  | some _, none => .error (.graph (.vertexNotFound target))
  | some sourceVertex, some targetVertex =>
    if source = target then .ok Pose.identity
    else
      match graph.findPath source target with
      | none => .error (.noPath sourceVertex.name targetVertex.name)
      | some path => (graph.composePath path).map fun product => product.rigidInverse.toPose

def resolveFirst (graph : FrameGraph α) (name : String) : Except ResolveError VertexId :=
  match graph.named name with
  | [] => .error (.notFound name)
  | vertex :: _ => .ok vertex

/-- The pose of one named frame in another.  Both names have to exist, also when they
are the same. -/
def poseInFrame (graph : FrameGraph α) (source target : String) :
    Except ResolveError (Pose α) := do
  let sourceId ← graph.resolveFirst source
  let targetId ← graph.resolveFirst target
  if source = target then .ok Pose.identity else graph.poseBetween sourceId targetId

end FrameGraph

end Kinematics
