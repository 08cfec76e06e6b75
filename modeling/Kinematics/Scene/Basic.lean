import Kinematics.Scene.Member

/-!
# Scenes

A scene holds frame graphs and named members that live in them.  One of the graphs is
there from the start, for members to share.  Members of one graph see what is done to
it through any of them, and a copy of a member has the frame of the member it was made
from.
-/

namespace Kinematics

/-- Graphs, and members under names. -/
structure Scene (α : Type) where
  store : GraphStore α
  shared : GraphId
  members : List (String × Member α)

/-- Where a member stands: under a name of the scene, or inside a model. -/
inductive Place where
  | named (name : String)
  | linkOf (model : String) (index : Nat)
  | jointOf (model : String) (index : Nat)
  deriving DecidableEq

namespace Scene

variable {α : Type}

/-- A scene without members around a graph. -/
def ofGraph (graph : FrameGraph α) : Scene α :=
  let (store, shared) := GraphStore.empty.create graph
  ⟨store, shared, []⟩

def member? (scene : Scene α) (name : String) : Option (Member α) :=
  scene.members.lookup name

def model? (scene : Scene α) (name : String) : Option (Model α) :=
  match scene.member? name with
  | some (.model model) => some model
  | _ => none

/-- A scene with a member put under a name, in place of one that is there. -/
def putMember (scene : Scene α) (name : String) (member : Member α) : Scene α :=
  if (scene.member? name).isSome then
    { scene with
      members := scene.members.map fun (other, present) =>
        (other, if other = name then member else present) }
  else
    { scene with members := scene.members ++ [(name, member)] }

def memberAt? (scene : Scene α) : Place → Option (Member α)
  | .named name => scene.member? name
  | .linkOf model index => do return .link (← (← scene.model? model).links[index]?)
  | .jointOf model index => do return .joint (← (← scene.model? model).joints[index]?)

/-- A scene with a member put at a place.  Links and joints of a model can be replaced
only by members of their kind. -/
def putMemberAt (scene : Scene α) (place : Place) (member : Member α) : Scene α :=
  match place, member with
  | .named name, member => scene.putMember name member
  | .linkOf name index, .link link =>
    match scene.model? name with
    | some model => scene.putMember name (.model (model.setLink index link))
    | none => scene
  | .jointOf name index, .joint joint =>
    match scene.model? name with
    | some model => scene.putMember name (.model (model.setJoint index joint))
    | none => scene
  | _, _ => scene

/-- A scene with a copy of the member at a place, under another name. -/
def copyAt (scene : Scene α) (source : Place) (target : String) : Scene α :=
  match scene.memberAt? source with
  | some member => scene.putMember target member
  | none => scene

def copyMember (scene : Scene α) (source target : String) : Scene α :=
  scene.copyAt (.named source) target

variable [Scalar α]

def create (scene : Scene α) (name : String) (kind : MemberKind) : Scene α :=
  let (store, member) := Member.new scene.store kind
  { scene with store }.putMember name member

/-- A scene after the member at a place has been loaded, and the faults that were found. -/
def loadAt (scene : Scene α) (place : Place) (source : MemberSource α) :
    Scene α × List (Diagnostic α) :=
  match scene.memberAt? place with
  | some member =>
    let loaded := member.load source scene.store
    ({ scene with store := loaded.store }.putMemberAt place loaded.entity, loaded.diagnostics)
  | none => (scene, [])

/-- A scene after the member with a name has been loaded, and the faults that were found.
If there is no member of that name, one of the given kind is made first. -/
def load (scene : Scene α) (name : String) (kind : MemberKind) (source : MemberSource α) :
    Scene α × List (Diagnostic α) :=
  (if (scene.member? name).isSome then scene else scene.create name kind).loadAt (.named name)
    source

def setName (scene : Scene α) (place : Place) (name : String) : Scene α :=
  match scene.memberAt? place with
  | some member => { scene with store := member.setName scene.store name }
  | none => scene

def setPose (scene : Scene α) (place : Place) (pose : Pose α) : Scene α :=
  match scene.memberAt? place with
  | some member =>
    let (store, member) := member.setPose scene.store pose
    { scene with store }.putMemberAt place member
  | none => scene

end Scene

end Kinematics
