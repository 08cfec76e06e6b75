import Kinematics.Model

/-!
# Members of a scene

A member is an entity of any kind.  It keeps its kind when it is loaded again: a link
that is given the element of a light stays a link, and reports the wrong kind.
-/

namespace Kinematics

/-- The kinds of members. -/
inductive MemberKind where
  | link
  | joint
  | light
  | axis
  | binding
  | model
  deriving DecidableEq

/-- An entity of any kind. -/
inductive Member (α : Type) where
  | link (link : Link α)
  | joint (joint : Joint α)
  | light (light : Light α)
  | axis (axis : Axis α)
  | binding (binding : Binding)
  | model (model : Model α)

/-- A frame to attach without an element. -/
structure FrameSource (α : Type) where
  name : String
  pose : Pose α
  reference : String
  owner : String

/-- What members are loaded from.  Each kind takes what concerns it: a frame without an
entity is placed as `frame` says, a model makes its own graph, and an axis needs none. -/
structure MemberSource (α : Type) where
  element : Element α
  graph : Option GraphId
  tieBreak : TieBreak
  settings : Settings
  frame : FrameSource α

def Loaded.map {α ε δ : Type} (loaded : Loaded α ε) (change : ε → δ) : Loaded α δ :=
  ⟨loaded.store, change loaded.entity, loaded.diagnostics⟩

namespace Member

variable {α : Type} [Scalar α]

def new (store : GraphStore α) : MemberKind → GraphStore α × Member α
  | .link => (Link.new store).map id link
  | .joint => (Joint.new store).map id joint
  | .light => (Light.new store).map id light
  | .axis => (store, axis Axis.default)
  | .binding => (Binding.detached store "" (Pose.identity : Pose α)).map id binding
  | .model => (Model.new store).map id model

/-- A member after it has been loaded again.  Nothing but its kind is kept, except that
an axis keeps what the element leaves open. -/
def load (member : Member α) (source : MemberSource α) (store : GraphStore α) :
    Loaded α (Member α) :=
  match member with
  | link _ => (Link.load source.element source.graph source.tieBreak store).map link
  | joint _ => (Joint.load source.element source.graph source.tieBreak store).map joint
  | light _ => (Light.load source.element source.graph source.tieBreak store).map light
  | axis before =>
    let (after, diagnostics) := before.load source.element
    ⟨store, axis after, diagnostics⟩
  | binding _ =>
    let frame := source.frame
    let (store, placed, diagnostics) :=
      Binding.place store source.graph frame.name frame.pose frame.reference source.tieBreak
        frame.owner
    ⟨store, binding placed, diagnostics⟩
  | model _ => (Model.load source.element source.settings store).map model

def frame? {α : Type} : Member α → Option Binding
  | link entity => some entity.frame
  | joint entity => some entity.frame
  | light entity => some entity.frame
  | binding entity => some entity
  | axis _ | model _ => none

/-- The graph that a member shares with others: the one its frame is attached to, or the
one of a model. -/
def graph? {α : Type} (member : Member α) : Option GraphId :=
  match member with
  | model entity => some entity.graph
  | other => other.frame?.bind fun frame => if frame.attached then some frame.graph else none

def setName (member : Member α) (store : GraphStore α) (name : String) : GraphStore α :=
  match member.frame? with
  | some frame => frame.setName store name
  | none => store

def setPose (member : Member α) (store : GraphStore α) (pose : Pose α) :
    GraphStore α × Member α :=
  match member with
  | link before => (before.setPose store pose).map id link
  | joint before => (before.setPose store pose).map id joint
  | light before => (before.setPose store pose).map id light
  | binding frame => (frame.setPose store pose, member)
  | axis _ | model _ => (store, member)

def pose? {α : Type} : Member α → Option (Pose α)
  | link entity => some entity.pose
  | joint entity => some entity.pose
  | light entity => some entity.pose
  | axis _ | binding _ | model _ => none

def poseFrame? {α : Type} : Member α → Option String
  | link entity => some entity.poseFrame
  | joint entity => some entity.poseFrame
  | light entity => some entity.poseFrame
  | axis _ | binding _ | model _ => none

/-- Another pose frame, if the member has one and the new one has a name. -/
def setPoseFrame (member : Member α) (frame : String) : Member α × Bool :=
  match member with
  | link before => (before.setPoseFrame frame).map link id
  | joint before => (before.setPoseFrame frame).map joint id
  | light before => (before.setPoseFrame frame).map light id
  | axis _ | binding _ | model _ => (member, false)

/-- The pose of a member in a named frame.  Where a member has a pose frame, the empty
name stands for that. -/
def poseInFrame? (member : Member α) (store : GraphStore α) (frame : String) :
    Option (Except PoseError (Pose α)) :=
  match member with
  | link entity => some (entity.poseInFrame store frame)
  | joint entity => some (entity.poseInFrame store frame)
  | light entity => some (entity.poseInFrame store frame)
  | binding entity => some (entity.poseInFrame store frame)
  | axis _ | model _ => none

end Member

end Kinematics
