import Kinematics.Entity.Link

/-!
# Lights

Lights are placed like links.  A light may be loaded without a frame graph; it then
shines, but cannot say where it is.  Distances, angles and the falloff of a light are
not negative, and its attenuation factors are kept within the unit interval.
-/

namespace Kinematics

/-- How a light shines. -/
inductive LightType where
  | invalid
  | point
  | spot
  | directional
  deriving DecidableEq

namespace LightType

def text : LightType → String
  | invalid => "invalid"
  | point => "point"
  | spot => "spot"
  | directional => "directional"

def valid : List LightType := [point, spot, directional]

/-- The type of a name, exactly as it is written. -/
def ofText? (name : String) : Option LightType :=
  valid.find? fun type => type.text == name

def unknownMessage (name : String) : String := s!"Unknown light type '{name}'"

/-- Whether lights of the type point somewhere. -/
def needsDirection (type : LightType) : Bool :=
  type == spot || type == directional

end LightType

/-- How a light fades. -/
structure Attenuation (α : Type) where
  range : α
  linear : α
  constant : α
  quadratic : α
  deriving BEq

/-- The cone of a spot light. -/
structure SpotCone (α : Type) where
  innerAngle : α
  outerAngle : α
  falloff : α
  deriving BEq

variable {α : Type} [Scalar α]

namespace Attenuation

def default : Attenuation α := ⟨10.0, 1.0, 1.0, 0.0⟩

def setRange (attenuation : Attenuation α) (range : α) : Attenuation α :=
  { attenuation with range := Scalar.positivePart range }

def setLinear (attenuation : Attenuation α) (linear : α) : Attenuation α :=
  { attenuation with linear := Scalar.clampUnit linear }

def setConstant (attenuation : Attenuation α) (constant : α) : Attenuation α :=
  { attenuation with constant := Scalar.clampUnit constant }

def setQuadratic (attenuation : Attenuation α) (quadratic : α) : Attenuation α :=
  { attenuation with quadratic := Scalar.positivePart quadratic }

/-- The attenuation that an element states, each part with its default. -/
def ofElement (element : Element α) : Attenuation α :=
  let read (name : String) (initial : α) : α := element.readD Value.toDouble? name initial
  let initial : Attenuation α := default
  (((initial.setRange (read "range" initial.range)).setLinear
    (read "linear" initial.linear)).setConstant
    (read "constant" initial.constant)).setQuadratic
    (read "quadratic" initial.quadratic)

def toList {α : Type} (attenuation : Attenuation α) : List α :=
  [attenuation.range, attenuation.linear, attenuation.constant, attenuation.quadratic]

end Attenuation

namespace SpotCone

def default : SpotCone α := ⟨0.0, 0.0, 0.0⟩

def setInnerAngle (cone : SpotCone α) (angle : α) : SpotCone α :=
  { cone with innerAngle := Scalar.positivePart angle }

def setOuterAngle (cone : SpotCone α) (angle : α) : SpotCone α :=
  { cone with outerAngle := Scalar.positivePart angle }

def setFalloff (cone : SpotCone α) (falloff : α) : SpotCone α :=
  { cone with falloff := Scalar.positivePart falloff }

/-- The parts of a cone that an element has to state, and what they are called. -/
def required : List (String × String) :=
  [("inner_angle", "an <inner_angle>"), ("outer_angle", "an <outer_angle>"),
    ("falloff", "a <falloff>")]

/-- What an element fails to state of a cone. -/
def reportOf (element : Element α) : List (Diagnostic α) :=
  required.filterMap fun (name, label) =>
    if (element.read? Value.toDouble? name).isNone then some (.spotIncomplete label) else none

/-- The cone that an element states, each part with its default. -/
def ofElement (element : Element α) : SpotCone α :=
  let read (name : String) (initial : α) : α := element.readD Value.toDouble? name initial
  let initial : SpotCone α := default
  ((initial.setInnerAngle (read "inner_angle" initial.innerAngle)).setOuterAngle
    (read "outer_angle" initial.outerAngle)).setFalloff (read "falloff" initial.falloff)

def toList {α : Type} (cone : SpotCone α) : List α :=
  [cone.innerAngle, cone.outerAngle, cone.falloff]

end SpotCone

/-- A light source. -/
structure Light (α : Type) where
  type : LightType
  pose : Pose α
  poseFrame : String
  castShadows : Bool
  diffuse : Color
  specular : Color
  attenuation : Attenuation α
  direction : Vec3 α
  spot : SpotCone α
  frame : Binding
  element : Option (Element α)

namespace Light

/-- A point light with the defaults of everything that an element may state. -/
def default (frame : Binding) : Light α :=
  { type := .point, pose := Pose.identity, poseFrame := "", castShadows := false
    diffuse := .black, specular := .black, attenuation := .default
    direction := ⟨0.0, 0.0, -(1.0 : α)⟩, spot := .default, frame, element := none }

/-- A light that has not been loaded, alone in a graph of its own. -/
def new (store : GraphStore α) : GraphStore α × Light α :=
  let (store, frame) := Binding.detached store "" (Pose.identity : Pose α)
  (store, default frame)

def typeText (element : Element α) : String :=
  element.readD Value.toString? "type" LightType.point.text

def typeOf (element : Element α) : LightType :=
  (LightType.ofText? (typeText element)).getD .invalid

def typeReport (element : Element α) : List (Diagnostic α) :=
  if (LightType.ofText? (typeText element)).isNone then [.lightTypeInvalid (typeText element)]
  else []

def attenuationReport (element : Element α) : List (Diagnostic α) :=
  match element.first? "attenuation" with
  | none => []
  | some attenuation =>
    if (attenuation.read? Value.toDouble? "range").isNone then [.rangeMissing] else []

def directionReport (element : Element α) : List (Diagnostic α) :=
  if (typeOf element).needsDirection && (element.read? Value.toVec3? "direction").isNone then
    [.directionMissing (typeText element)]
  else
    []

/-- The child that states the cone of a spot light. -/
def spotElement? (element : Element α) : Option (Element α) :=
  if typeOf element = .spot then element.first? "spot" else none

/-- The light that an element states, with a given place. -/
def ofElement (element : Element α) (pose : Pose α) (poseFrame : String) (frame : Binding) :
    Light α :=
  let initial : Light α := default frame
  { initial with
    type := typeOf element
    pose
    poseFrame
    castShadows := element.readD Value.toBool? "cast_shadows" initial.castShadows
    diffuse := element.readD Value.toColor? "diffuse" initial.diffuse
    specular := element.readD Value.toColor? "specular" initial.specular
    attenuation :=
      ((element.first? "attenuation").map Attenuation.ofElement).getD initial.attenuation
    direction :=
      if (typeOf element).needsDirection then
        element.readD Value.toVec3? "direction" initial.direction
      else
        initial.direction
    spot := ((spotElement? element).map SpotCone.ofElement).getD initial.spot
    element := some element }

def load (element : Element α) (graph : Option GraphId) (tieBreak : TieBreak)
    (store : GraphStore α) : Loaded α (Light α) :=
  if element.kind = "light" then
    let name := element.name?.getD ""
    let located := locatedPoseOf element
    let poseFrame := placementFrame store graph located.frame
    let (store, frame, problems) :=
      Binding.place store graph name located.pose poseFrame tieBreak EntityKind.light.label
    { store
      entity := ofElement element located.pose poseFrame frame
      diagnostics :=
        typeReport element ++ nameReport .light element.name? ++ attenuationReport element ++
          directionReport element ++
          ((spotElement? element).map SpotCone.reportOf).getD [] ++ problems }
  else
    let (store, light) := new store
    ⟨store, { light with element := some element }, [.wrongKind .light]⟩

def name (light : Light α) (store : GraphStore α) : String :=
  light.frame.name store

def setName (light : Light α) (store : GraphStore α) (name : String) : GraphStore α :=
  light.frame.setName store name

def setPose (light : Light α) (store : GraphStore α) (pose : Pose α) :
    GraphStore α × Light α :=
  (light.frame.setPose store pose, { light with pose })

/-- Another pose frame, if it has a name.  Edges of the graph stay as they are. -/
def setPoseFrame (light : Light α) (frame : String) : Light α × Bool :=
  if frame.isEmpty then (light, false) else ({ light with poseFrame := frame }, true)

def setType (light : Light α) (type : LightType) : Light α :=
  { light with type }

/-- The pose of the light in a named frame, the empty name standing for the pose frame. -/
def poseInFrame (light : Light α) (store : GraphStore α) (frame : String) :
    Except PoseError (Pose α) :=
  light.frame.poseInFrame store (if frame.isEmpty then light.poseFrame else frame)

end Light

end Kinematics
