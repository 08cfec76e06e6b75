import Kinematics.Geometry.Vec3

/-!
# Rotations as quaternions

A rotation is a unit quaternion in the Hamilton convention, its scalar part last.
Angles of a rotation are taken about fixed axes: roll about `x`, then pitch about
`y`, then yaw about `z`.
-/

namespace Kinematics

/-- A quaternion with vector part `x y z` and scalar part `w`. -/
structure Quaternion (α : Type) where
  x : α
  y : α
  z : α
  w : α
  deriving BEq

/-- Angles in radians about the fixed axes `x`, `y` and `z`, applied in this order. -/
structure RollPitchYaw (α : Type) where
  roll : α
  pitch : α
  yaw : α
  deriving BEq

namespace RollPitchYaw

def toList {α : Type} (angles : RollPitchYaw α) : List α :=
  [angles.roll, angles.pitch, angles.yaw]

def map {α β : Type} (convert : α → β) (angles : RollPitchYaw α) : RollPitchYaw β :=
  ⟨convert angles.roll, convert angles.pitch, convert angles.yaw⟩

end RollPitchYaw

namespace Quaternion

variable {α : Type}

/-- The coefficients, scalar part last. -/
def toList (q : Quaternion α) : List α :=
  [q.x, q.y, q.z, q.w]

variable [Scalar α]

def identity : Quaternion α := ⟨0.0, 0.0, 0.0, 1.0⟩

def norm (q : Quaternion α) : α :=
  Scalar.sqrt (q.x * q.x + q.y * q.y + q.z * q.z + q.w * q.w)

/-- A norm up to this one is too small to divide by. -/
def degenerateNorm : α := 1e-10

/-- The unit quaternion in the same direction.  A quaternion too short to have a
direction, or without a finite norm, gives the identity. -/
def normalize (q : Quaternion α) : Quaternion α :=
  let size := q.norm
  if Scalar.isFinite size ∧ degenerateNorm < size then
    ⟨q.x / size, q.y / size, q.z / size, q.w / size⟩
  else
    identity

/-- Hamilton product. -/
protected def mul (p q : Quaternion α) : Quaternion α :=
  ⟨p.w * q.x + p.x * q.w + p.y * q.z - p.z * q.y,
   p.w * q.y - p.x * q.z + p.y * q.w + p.z * q.x,
   p.w * q.z + p.x * q.y - p.y * q.x + p.z * q.w,
   p.w * q.w - p.x * q.x - p.y * q.y - p.z * q.z⟩

instance : Mul (Quaternion α) where
  mul := Quaternion.mul

/-- The reverse rotation of a unit quaternion. -/
def conjugate (q : Quaternion α) : Quaternion α :=
  ⟨-q.x, -q.y, -q.z, q.w⟩

def dot (p q : Quaternion α) : α :=
  Scalar.sumFour (p.x * q.x) (p.y * q.y) (p.z * q.z) (p.w * q.w)

def rotate (q : Quaternion α) (v : Vec3 α) : Vec3 α :=
  let tx := 2.0 * (q.y * v.z - q.z * v.y)
  let ty := 2.0 * (q.z * v.x - q.x * v.z)
  let tz := 2.0 * (q.x * v.y - q.y * v.x)
  ⟨v.x + q.w * tx + q.y * tz - q.z * ty,
   v.y + q.w * ty + q.z * tx - q.x * tz,
   v.z + q.w * tz + q.x * ty - q.y * tx⟩

def ofRollPitchYaw (angles : RollPitchYaw α) : Quaternion α :=
  let sr := Scalar.sin (angles.roll / 2.0)
  let cr := Scalar.cos (angles.roll / 2.0)
  let sp := Scalar.sin (angles.pitch / 2.0)
  let cp := Scalar.cos (angles.pitch / 2.0)
  let sy := Scalar.sin (angles.yaw / 2.0)
  let cy := Scalar.cos (angles.yaw / 2.0)
  ⟨sr * cp * cy - cr * sp * sy,
   cr * sp * cy + sr * cp * sy,
   cr * cp * sy - sr * sp * cy,
   cr * cp * cy + sr * sp * sy⟩

/-- The angles of a rotation.  Where the sine of the pitch leaves the open unit
interval, the pitch is a quarter turn with the sign of that sine. -/
def rollPitchYaw (q : Quaternion α) : RollPitchYaw α :=
  let sinPitch := 2.0 * (q.w * q.y - q.z * q.x)
  { roll := Scalar.atan2 (2.0 * (q.w * q.x + q.y * q.z)) (1.0 - 2.0 * (q.x * q.x + q.y * q.y))
    pitch :=
      if (1.0 : α) ≤ Scalar.abs sinPitch then
        if sinPitch < (0.0 : α) then -Scalar.quarterTurn else Scalar.quarterTurn
      else
        Scalar.asin sinPitch
    yaw := Scalar.atan2 (2.0 * (q.w * q.z + q.x * q.y)) (1.0 - 2.0 * (q.y * q.y + q.z * q.z)) }

/-- A quaternion, not yet normalised, for the rotation whose matrix has the given
rows.  The largest of the four coefficients is found first, and the others are
divided by it. -/
def ofRows (r₀ r₁ r₂ : Vec3 α) : Quaternion α :=
  let trace := r₀.x + r₁.y + r₂.z
  if (0.0 : α) < trace then
    let s := 0.5 / Scalar.sqrt (trace + 1.0)
    ⟨(r₂.y - r₁.z) * s, (r₀.z - r₂.x) * s, (r₁.x - r₀.y) * s, 0.25 / s⟩
  else if r₁.y < r₀.x ∧ r₂.z < r₀.x then
    let s := 2.0 * Scalar.sqrt (Scalar.positivePart (1.0 + r₀.x - r₁.y - r₂.z))
    ⟨0.25 * s, (r₀.y + r₁.x) / s, (r₀.z + r₂.x) / s, (r₂.y - r₁.z) / s⟩
  else if r₂.z < r₁.y then
    let s := 2.0 * Scalar.sqrt (Scalar.positivePart (1.0 + r₁.y - r₀.x - r₂.z))
    ⟨(r₀.y + r₁.x) / s, 0.25 * s, (r₁.z + r₂.y) / s, (r₀.z - r₂.x) / s⟩
  else
    let s := 2.0 * Scalar.sqrt (Scalar.positivePart (1.0 + r₂.z - r₀.x - r₁.y))
    ⟨(r₀.z + r₂.x) / s, (r₁.z + r₂.y) / s, 0.25 * s, (r₁.x - r₀.y) / s⟩

end Quaternion

end Kinematics
