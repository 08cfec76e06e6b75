import Kinematics.Document.Element
import Kinematics.Entity.Binding
import Kinematics.Settings

/-!
# Links

Links are the rigid bodies that joints connect.  The frame of a link is connected to
its pose frame, which is the root of the graph unless the document names another.
-/

namespace Kinematics

variable {α : Type} [Scalar α]

/-- The frame of an entity that is placed relative to the root: the named one, or else
the root of the graph, or else the usual name of a root. -/
def placementFrame (store : GraphStore α) (graph : Option GraphId) (named : String) : String :=
  if named.isEmpty then
    (graph.bind fun graph => (store.graph graph).rootName?).getD Settings.defaultRootFrame
  else
    named

/-- What there is to report about the name of an element whose entity may not have a
reserved one. -/
def nameReport (kind : EntityKind) (name : Option String) : List (Diagnostic α) :=
  match name with
  | none => [.nameMissing kind]
  | some name => if isReservedName name then [.nameReserved kind name] else []

/-- The pose of an element and the frame it is given in, with their defaults. -/
def locatedPoseOf (element : Element α) : Element.LocatedPose α :=
  element.locatedPose?.getD ⟨Pose.identity, ""⟩

/-- A rigid body. -/
structure Link (α : Type) where
  pose : Pose α
  poseFrame : String
  frame : Binding
  element : Option (Element α)

namespace Link

/-- A link that has not been loaded, alone in a graph of its own. -/
def new (store : GraphStore α) : GraphStore α × Link α :=
  let (store, frame) := Binding.detached store "" (Pose.identity : Pose α)
  (store, ⟨Pose.identity, "", frame, none⟩)

def load (element : Element α) (graph : Option GraphId) (tieBreak : TieBreak)
    (store : GraphStore α) : Loaded α (Link α) :=
  if element.kind = "link" then
    let name := element.name?.getD ""
    let located := locatedPoseOf element
    let poseFrame := placementFrame store graph located.frame
    let (store, frame, problems) :=
      Binding.place store graph name located.pose poseFrame tieBreak EntityKind.link.label
    { store
      entity := ⟨located.pose, poseFrame, frame, some element⟩
      diagnostics :=
        nameReport .link element.name? ++ problems ++
          if graph.isNone then [.graphMissing] else [] }
  else
    let (store, link) := new store
    ⟨store, { link with element := some element }, [.wrongKind .link]⟩

def name (link : Link α) (store : GraphStore α) : String :=
  link.frame.name store

def setName (link : Link α) (store : GraphStore α) (name : String) : GraphStore α :=
  link.frame.setName store name

def setPose (link : Link α) (store : GraphStore α) (pose : Pose α) : GraphStore α × Link α :=
  (link.frame.setPose store pose, { link with pose })

/-- Another pose frame, if it has a name.  Edges of the graph stay as they are. -/
def setPoseFrame (link : Link α) (frame : String) : Link α × Bool :=
  if frame.isEmpty then (link, false) else ({ link with poseFrame := frame }, true)

/-- The pose of the link in a named frame, the empty name standing for the pose frame. -/
def poseInFrame (link : Link α) (store : GraphStore α) (frame : String) :
    Except PoseError (Pose α) :=
  link.frame.poseInFrame store (if frame.isEmpty then link.poseFrame else frame)

end Link

end Kinematics
