import Kinematics.Model

/-!
# Pose tables

The poses of all entities of a model in one frame, each with the kind and the name of
the entity, or the reason why it has no pose there.
-/

namespace Kinematics

/-- The pose of one entity. -/
structure PoseRecord (α : Type) where
  kind : EntityKind
  name : String
  frame : String
  outcome : Except PoseError (Pose α)

namespace PoseRecord

def isResolved {α : Type} (record : PoseRecord α) : Bool :=
  match record.outcome with
  | .ok _ => true
  | .error _ => false

end PoseRecord

/-- The poses of the links, joints and lights of a model in a frame. -/
def Model.poseRecords {α : Type} [Scalar α] (model : Model α) (store : GraphStore α)
    (frame : String) : List (PoseRecord α) :=
  (model.links.map fun link => ⟨.link, link.name store, frame, link.poseInFrame store frame⟩) ++
    (model.joints.map fun joint =>
      ⟨.joint, joint.name store, frame, joint.poseInFrame store frame⟩) ++
    (model.lights.map fun light =>
      ⟨.light, light.name store, frame, light.poseInFrame store frame⟩)

def tablePlaces : Nat := 6

def tableNumber (value : Float) : String :=
  (Binary.ofFloat value).renderFixed tablePlaces

/-- A pose in a table: the position, a bar, and roll, pitch and yaw. -/
def Pose.tableText (pose : Pose Float) : String :=
  let column (numbers : List Float) : String := " ".intercalate (numbers.map tableNumber)
  column pose.position.toList ++ " | " ++ column pose.rollPitchYaw.toList

/-- Text filled up with spaces to a width, counted in characters. -/
def padded (width : Nat) (text : String) : String :=
  text ++ String.ofList (List.replicate (width - text.length) ' ')

def PoseRecord.tableLine (record : PoseRecord Float) : String :=
  let head := padded 6 record.kind.label ++ " " ++ padded 24 record.name
  match record.outcome with
  | .ok pose => s!"{head} {pose.tableText}"
  | .error error => s!"{head} error: {error.message}"

end Kinematics
