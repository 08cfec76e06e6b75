import Kinematics.Entity.Setting
import Kinematics.Scene.Basic

/-!
# Operations on the members of a scene

What can be done to a member wherever it stands, under a name of the scene or inside a
model.
-/

namespace Kinematics

/-- What a member can be told besides its name and its pose. -/
inductive Detail (α : Type) where
  | poseFrame (frame : String)
  | jointType (type : JointType)
  | parent (name : String)
  | child (name : String)
  | light (setting : LightSetting α)

/-- A member that has been told a detail.  It does not listen to details of other kinds. -/
def Member.tell {α : Type} [Scalar α] (member : Member α) (detail : Detail α) : Member α :=
  match detail, member with
  | .poseFrame frame, before => (before.setPoseFrame frame).1
  | .jointType type, .joint before => .joint (before.setType type)
  | .parent name, .joint before => .joint (before.setParent name)
  | .child name, .joint before => .joint (before.setChild name)
  | .light setting, .light before => .light (before.set setting)
  | _, before => before

/-- One thing to do to the members of a scene. -/
inductive Operation (α : Type) where
  | create (name : String) (kind : MemberKind)
  | copy (source : Place) (target : String)
  | load (place : Place) (source : MemberSource α)
  | rename (place : Place) (frame : String)
  | move (place : Place) (pose : Pose α)
  | tell (place : Place) (detail : Detail α)
  | set (place : Place) (setting : AxisSetting α)
  | turn (place : Place) (xyz : Vec3 α)

namespace Member

variable {α : Type}

/-- A member with something set, if it is an axis. -/
def set (member : Member α) (setting : AxisSetting α) : Member α :=
  match member with
  | axis before => axis (before.set setting)
  | other => other

/-- A member with another direction, if it is an axis. -/
def turn [Scalar α] (member : Member α) (xyz : Vec3 α) : Member α :=
  match member with
  | axis before => axis (before.setDirection xyz).1
  | other => other

end Member

def Place.name : Place → String
  | named name => name
  | linkOf model _ => model
  | jointOf model _ => model

/-- The name under which an operation puts a member. -/
def Operation.target {α : Type} : Operation α → String
  | create name _ => name
  | copy _ target => target
  | load place _ | rename place _ | move place _ | tell place _ | set place _ | turn place _ =>
    place.name

namespace Scene

variable {α : Type}

/-- A scene with the member at a place changed, if there is one. -/
def alter (scene : Scene α) (place : Place) (change : Member α → Member α) : Scene α :=
  match scene.memberAt? place with
  | some member => scene.putMemberAt place (change member)
  | none => scene

variable [Scalar α]

/-- A scene after an operation, and the faults that were found. -/
def operate (scene : Scene α) : Operation α → Scene α × List (Diagnostic α)
  | .create name kind => (scene.create name kind, [])
  | .copy source target => (scene.copyAt source target, [])
  | .load place source => scene.loadAt place source
  | .rename place frame => (scene.setName place frame, [])
  | .move place pose => (scene.setPose place pose, [])
  | .tell place detail => (scene.alter place fun member => member.tell detail, [])
  | .set place setting => (scene.alter place fun member => member.set setting, [])
  | .turn place xyz => (scene.alter place fun member => member.turn xyz, [])

def run (scene : Scene α) (operations : List (Operation α)) : Scene α :=
  operations.foldl (fun scene operation => (scene.operate operation).1) scene

end Scene

end Kinematics
