import Kinematics.Geometry.Pose

/-!
# Homogeneous transforms

The four by four matrix of a rigid motion, by rows: a rotation block, a displacement
column and a constant last row.  Matrices of any other shape can be multiplied and
read as well.
-/

namespace Kinematics

/-- Four numbers in a row of a matrix, the last one a displacement. -/
structure Row (α : Type) where
  x : α
  y : α
  z : α
  t : α
  deriving BEq

/-- A four by four matrix. -/
structure Transform (α : Type) where
  r₀ : Row α
  r₁ : Row α
  r₂ : Row α
  r₃ : Row α
  deriving BEq

namespace Row

variable {α : Type}

def toList (row : Row α) : List α :=
  [row.x, row.y, row.z, row.t]

def block (row : Row α) : Vec3 α := ⟨row.x, row.y, row.z⟩

def mulTransform [Scalar α] (row : Row α) (m : Transform α) : Row α :=
  { x := Scalar.sumFour (row.x * m.r₀.x) (row.y * m.r₁.x) (row.z * m.r₂.x) (row.t * m.r₃.x)
    y := Scalar.sumFour (row.x * m.r₀.y) (row.y * m.r₁.y) (row.z * m.r₂.y) (row.t * m.r₃.y)
    z := Scalar.sumFour (row.x * m.r₀.z) (row.y * m.r₁.z) (row.z * m.r₂.z) (row.t * m.r₃.z)
    t := Scalar.sumFour (row.x * m.r₀.t) (row.y * m.r₁.t) (row.z * m.r₂.t) (row.t * m.r₃.t) }

end Row

namespace Transform

variable {α : Type}

def toList (m : Transform α) : List (Row α) :=
  [m.r₀, m.r₁, m.r₂, m.r₃]

def displacement (m : Transform α) : Vec3 α :=
  ⟨m.r₀.t, m.r₁.t, m.r₂.t⟩

variable [Scalar α]

def identity : Transform α :=
  ⟨⟨1.0, 0.0, 0.0, 0.0⟩, ⟨0.0, 1.0, 0.0, 0.0⟩, ⟨0.0, 0.0, 1.0, 0.0⟩, ⟨0.0, 0.0, 0.0, 1.0⟩⟩

protected def mul (left right : Transform α) : Transform α :=
  { r₀ := left.r₀.mulTransform right
    r₁ := left.r₁.mulTransform right
    r₂ := left.r₂.mulTransform right
    r₃ := left.r₃.mulTransform right }

instance : Mul (Transform α) where
  mul := Transform.mul

/-- The inverse of a rigid motion: the transposed rotation block, and the displacement
turned back by it.  Nothing is divided, so every matrix has one. -/
def rigidInverse (m : Transform α) : Transform α :=
  let t := m.displacement
  { r₀ := ⟨m.r₀.x, m.r₁.x, m.r₂.x, -(m.r₀.x * t.x + m.r₁.x * t.y + m.r₂.x * t.z)⟩
    r₁ := ⟨m.r₀.y, m.r₁.y, m.r₂.y, -(m.r₀.y * t.x + m.r₁.y * t.y + m.r₂.y * t.z)⟩
    r₂ := ⟨m.r₀.z, m.r₁.z, m.r₂.z, -(m.r₀.z * t.x + m.r₁.z * t.y + m.r₂.z * t.z)⟩
    r₃ := ⟨0.0, 0.0, 0.0, 1.0⟩ }

def ofPose (pose : Pose α) : Transform α :=
  let x := pose.rotation.x
  let y := pose.rotation.y
  let z := pose.rotation.z
  let w := pose.rotation.w
  { r₀ := ⟨1.0 - 2.0 * (y * y + z * z), 2.0 * (x * y - w * z), 2.0 * (x * z + w * y),
      pose.position.x⟩
    r₁ := ⟨2.0 * (x * y + w * z), 1.0 - 2.0 * (x * x + z * z), 2.0 * (y * z - w * x),
      pose.position.y⟩
    r₂ := ⟨2.0 * (x * z - w * y), 2.0 * (y * z + w * x), 1.0 - 2.0 * (x * x + y * y),
      pose.position.z⟩
    r₃ := ⟨0.0, 0.0, 0.0, 1.0⟩ }

/-- The pose with the same displacement and the rotation of the upper left block. -/
def toPose (m : Transform α) : Pose α :=
  Pose.ofQuaternion m.displacement (Quaternion.ofRows m.r₀.block m.r₁.block m.r₂.block)

instance : Inhabited (Transform α) := ⟨identity⟩

end Transform

end Kinematics
