import Kinematics.Scalar

/-!
# Vectors

Triples of coordinates: positions, directions and axes.
-/

namespace Kinematics

/-- A vector of three coordinates. -/
structure Vec3 (α : Type) where
  x : α
  y : α
  z : α
  deriving BEq

namespace Vec3

variable {α : Type}

def toList (vector : Vec3 α) : List α :=
  [vector.x, vector.y, vector.z]

def map {β : Type} (convert : α → β) (vector : Vec3 α) : Vec3 β :=
  ⟨convert vector.x, convert vector.y, convert vector.z⟩

variable [Scalar α]

def zero : Vec3 α := ⟨0.0, 0.0, 0.0⟩

instance : Add (Vec3 α) where
  add left right := ⟨left.x + right.x, left.y + right.y, left.z + right.z⟩

instance : Neg (Vec3 α) where
  neg vector := ⟨-vector.x, -vector.y, -vector.z⟩

def length (vector : Vec3 α) : α :=
  Scalar.sqrt (vector.x * vector.x + vector.y * vector.y + vector.z * vector.z)

def divide (vector : Vec3 α) (divisor : α) : Vec3 α :=
  ⟨vector.x / divisor, vector.y / divisor, vector.z / divisor⟩

/-- Whether each coordinate of two vectors differs by less than a tolerance. -/
def isNear (left right : Vec3 α) (tolerance : α) : Bool :=
  decide (Scalar.abs (left.x - right.x) < tolerance) &&
    decide (Scalar.abs (left.y - right.y) < tolerance) &&
    decide (Scalar.abs (left.z - right.z) < tolerance)

end Vec3

end Kinematics
