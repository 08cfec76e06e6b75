import Kinematics.Scene.Operation

/-!
# Actions on a scene

What can be done to the members of a scene by their names.  An action is carried out by
operations, one in most cases.
-/

namespace Kinematics

/-- One thing to do to a member of a scene. -/
inductive Action (α : Type) where
  | create (name : String) (kind : MemberKind)
  | load (name : String) (kind : MemberKind) (source : MemberSource α)
  | copy (source target : String)
  | rename (name frame : String)
  | move (name : String) (pose : Pose α)
  | tell (name : String) (detail : Detail α)

/-- The operations that carry an action out.  A member that is loaded is made first, if it is not
there. -/
def Action.operations {α : Type} (scene : Scene α) : Action α → List (Operation α)
  | .create name kind => [.create name kind]
  | .load name kind source =>
    if (scene.member? name).isSome then [.load (.named name) source]
    else [.create name kind, .load (.named name) source]
  | .copy source target => [.copy (.named source) target]
  | .rename name frame => [.rename (.named name) frame]
  | .move name pose => [.move (.named name) pose]
  | .tell name detail => [.tell (.named name) detail]

def Scene.act {α : Type} [Scalar α] (scene : Scene α) (action : Action α) : Scene α :=
  scene.run (action.operations scene)

end Kinematics
