import Kinematics.Geometry.Quaternion

/-!
# Poses

A pose places one frame in another: a position and a rotation.  Poses compose like
the motions they describe, and act on points.
-/

namespace Kinematics

/-- A position together with a rotation. -/
structure Pose (α : Type) where
  position : Vec3 α
  rotation : Quaternion α
  deriving BEq

namespace Pose

variable {α : Type} [Scalar α]

def identity : Pose α := ⟨Vec3.zero, Quaternion.identity⟩

/-- A pose from a position and a quaternion, which is normalised. -/
def ofQuaternion (position : Vec3 α) (rotation : Quaternion α) : Pose α :=
  ⟨position, rotation.normalize⟩

def ofPosition (position : Vec3 α) : Pose α :=
  ⟨position, Quaternion.identity⟩

/-- A pose from a position and angles about the fixed axes. -/
def ofRollPitchYaw (position : Vec3 α) (angles : RollPitchYaw α) : Pose α :=
  ⟨position, Quaternion.ofRollPitchYaw angles⟩

def rollPitchYaw (pose : Pose α) : RollPitchYaw α :=
  pose.rotation.rollPitchYaw

/-- The pose of a frame in the outermost one, when `inner` places it in a frame that
`outer` places in turn. -/
def compose (outer inner : Pose α) : Pose α :=
  { position := outer.position + outer.rotation.rotate inner.position
    rotation := (outer.rotation * inner.rotation).normalize }

/-- The pose of the outer frame in the placed one. -/
def inverse (pose : Pose α) : Pose α :=
  let reverse := pose.rotation.conjugate
  ⟨reverse.rotate (-pose.position), reverse⟩

/-- The outer coordinates of a point given in the placed frame. -/
def transformPoint (pose : Pose α) (point : Vec3 α) : Vec3 α :=
  pose.rotation.rotate point + pose.position

/-- Whether two poses agree up to a tolerance.  Opposite quaternions describe the same
rotation and count as equal. -/
def isNear (left right : Pose α) (tolerance : α) : Bool :=
  left.position.isNear right.position tolerance &&
    decide ((1.0 : α) - Scalar.abs (left.rotation.dot right.rotation) < tolerance)

def isNearIdentity (pose : Pose α) (tolerance : α) : Bool :=
  pose.isNear identity tolerance

instance : Inhabited (Pose α) := ⟨identity⟩

end Pose

end Kinematics
