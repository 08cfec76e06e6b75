import Kinematics.Entity.Axis
import Kinematics.Entity.Link

/-!
# Joints

A joint connects a parent link to a child link and has up to two axes.  Its frame is
connected to the frame of the parent.
-/

namespace Kinematics

/-- How a joint moves. -/
inductive JointType where
  | invalid
  | ball
  | continuous
  | fixed
  | gearbox
  | prismatic
  | revolute
  | revolute2
  | screw
  | universal
  deriving DecidableEq

namespace JointType

/-- The types that a document can name. -/
def valid : List JointType :=
  [ball, continuous, fixed, gearbox, prismatic, revolute, revolute2, screw, universal]

def text : JointType → String
  | invalid => "invalid"
  | ball => "ball"
  | continuous => "continuous"
  | fixed => "fixed"
  | gearbox => "gearbox"
  | prismatic => "prismatic"
  | revolute => "revolute"
  | revolute2 => "revolute2"
  | screw => "screw"
  | universal => "universal"

/-- The type of a name, in upper or lower case. -/
def ofText? (name : String) : Option JointType :=
  valid.find? fun type => type.text == name.map Char.toLower

def unknownMessage (name : String) : String := s!"Unknown joint type '{name}'"

end JointType

variable {α : Type} [Scalar α]

/-- A connection of two links. -/
structure Joint (α : Type) where
  parent : String
  child : String
  type : JointType
  pose : Pose α
  poseFrame : String
  axis : Option (Axis α)
  axis2 : Option (Axis α)
  frame : Binding
  element : Option (Element α)

namespace Joint

/-- A joint that has not been loaded, alone in a graph of its own. -/
def new (store : GraphStore α) : GraphStore α × Joint α :=
  let (store, frame) := Binding.detached store "" (Pose.identity : Pose α)
  (store,
    { parent := "", child := "", type := .invalid, pose := Pose.identity, poseFrame := ""
      axis := none, axis2 := none, frame, element := none })

/-- The first of some names that is not empty, or else the usual name of a root. -/
def firstNamed (names : List String) : String :=
  (names.find? fun name => !name.isEmpty).getD Settings.defaultRootFrame

/-- The axis that the first child of a kind describes, and the faults in it. -/
def loadAxis (element : Element α) (kind : String) : Option (Axis α) × List (Diagnostic α) :=
  match element.first? kind with
  | none => (none, [])
  | some child =>
    let (axis, diagnostics) := Axis.default.load child
    (some axis, diagnostics)

/-- The type that an element states, and what is wrong with it. -/
def loadType (element : Element α) : JointType × List (Diagnostic α) :=
  match element.read? Value.toString? "type" with
  | none => (.invalid, [.jointTypeMissing])
  | some text =>
    match JointType.ofText? text with
    | some type => (type, [])
    | none => (.invalid, [.jointTypeInvalid text (JointType.valid.map JointType.text)])

/-- A report for a value that is missing. -/
def reportMissing {β : Type} (value : Option β) (report : Diagnostic α) : List (Diagnostic α) :=
  if value.isNone then [report] else []

def load (element : Element α) (graph : Option GraphId) (tieBreak : TieBreak)
    (store : GraphStore α) : Loaded α (Joint α) :=
  if element.kind = "joint" then
    let name := element.name?.getD ""
    let parent? := element.read? Value.toString? "parent"
    let child? := element.read? Value.toString? "child"
    let parent := parent?.getD ""
    let child := child?.getD ""
    let located := locatedPoseOf element
    let poseFrame :=
      if located.frame.isEmpty then firstNamed [child, parent, name] else located.frame
    let (axis, axisReport) := loadAxis element "axis"
    let (axis2, axis2Report) := loadAxis element "axis2"
    let (type, typeReport) := loadType element
    let (store, frame, problems) :=
      Binding.place store graph name located.pose parent tieBreak EntityKind.joint.label
    { store
      entity :=
        { parent, child, type, pose := located.pose, poseFrame, axis, axis2, frame
          element := some element }
      diagnostics :=
        reportMissing element.name? (.nameMissing .joint) ++
          reportMissing parent? .parentMissing ++ reportMissing child? .childMissing ++
          axisReport ++ axis2Report ++ typeReport ++ problems ++
          if graph.isNone then [.graphMissing] else [] }
  else
    let (store, joint) := new store
    ⟨store, { joint with element := some element }, [.wrongKind .joint]⟩

/-- The axis with an index.  Every index after the first is the one of the second axis. -/
def axisAt? (joint : Joint α) (index : Nat) : Option (Axis α) :=
  if index = 0 then joint.axis else joint.axis2

def name (joint : Joint α) (store : GraphStore α) : String :=
  joint.frame.name store

def setName (joint : Joint α) (store : GraphStore α) (name : String) : GraphStore α :=
  joint.frame.setName store name

def setPose (joint : Joint α) (store : GraphStore α) (pose : Pose α) :
    GraphStore α × Joint α :=
  (joint.frame.setPose store pose, { joint with pose })

/-- Another pose frame, if it has a name.  Edges of the graph stay as they are. -/
def setPoseFrame (joint : Joint α) (frame : String) : Joint α × Bool :=
  if frame.isEmpty then (joint, false) else ({ joint with poseFrame := frame }, true)

def setType (joint : Joint α) (type : JointType) : Joint α :=
  { joint with type }

/-- Another parent name.  The frame stays connected to the old parent. -/
def setParent (joint : Joint α) (parent : String) : Joint α :=
  { joint with parent }

def setChild (joint : Joint α) (child : String) : Joint α :=
  { joint with child }

/-- The pose of the joint in a named frame, the empty name standing for the pose frame. -/
def poseInFrame (joint : Joint α) (store : GraphStore α) (frame : String) :
    Except PoseError (Pose α) :=
  joint.frame.poseInFrame store (if frame.isEmpty then joint.poseFrame else frame)

end Joint

end Kinematics
