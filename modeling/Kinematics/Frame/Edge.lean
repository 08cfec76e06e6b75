/-!
# Edges of a frame graph

An edge joins two frames of which one, the child, is placed relative to the other.
Its direction says which one.
-/

namespace Kinematics

/-- A vertex, by its position in the order of insertion. -/
structure VertexId where
  index : Nat
  deriving DecidableEq

/-- An edge, by its position in the order of insertion. -/
structure EdgeId where
  index : Nat
  deriving DecidableEq

/-- The sign of an edge. -/
inductive Direction where
  /-- From the child to its reference. -/
  | forward
  /-- From the reference to its child. -/
  | backward
  deriving DecidableEq

namespace Direction

/-- Plus one toward the reference, minus one toward the child. -/
def sign : Direction → Int
  | forward => 1
  | backward => -1

/-- The direction of a number with a sign; zero has none. -/
def ofSign? (number : Int) : Option Direction :=
  if 0 < number then some forward
  else if number < 0 then some backward
  else none

def reversed : Direction → Direction
  | forward => backward
  | backward => forward

end Direction

/-- A directed edge between two vertices. -/
structure Edge where
  source : VertexId
  target : VertexId
  direction : Direction
  deriving DecidableEq

namespace Edge

def touches (edge : Edge) (vertex : VertexId) : Bool :=
  edge.source == vertex || edge.target == vertex

/-- The end across from a vertex, if the edge touches it. -/
def opposite? (edge : Edge) (vertex : VertexId) : Option VertexId :=
  if edge.source = vertex then some edge.target
  else if edge.target = vertex then some edge.source
  else none

/-- The end that is placed relative to the other one. -/
def child (edge : Edge) : VertexId :=
  match edge.direction with
  | .forward => edge.source
  | .backward => edge.target

end Edge

end Kinematics
