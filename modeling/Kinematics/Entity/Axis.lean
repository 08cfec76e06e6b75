import Kinematics.Document.Element
import Kinematics.Entity.Diagnostic

/-!
# Joint axes

An axis has a direction of unit length, limits, and the dynamics of motion along it.
It is loaded in place: what an element does not mention stays as it was.
-/

namespace Kinematics

/-- How far and how hard a joint moves along an axis.  A negative effort or velocity stands
for none. -/
structure AxisLimit (α : Type) where
  lower : α
  upper : α
  effort : α
  velocity : α
  deriving BEq

/-- What resists motion along an axis. -/
structure AxisDynamics (α : Type) where
  damping : α
  friction : α
  springReference : α
  springStiffness : α
  deriving BEq

/-- An axis of a joint. -/
structure Axis (α : Type) where
  xyz : Vec3 α
  useParentModelFrame : Bool
  limit : AxisLimit α
  dynamics : AxisDynamics α
  element : Option (Element α)

variable {α : Type} [Scalar α]

namespace AxisLimit

/-- No limits: positions bounded only by numbers too large to matter. -/
def unlimited : AxisLimit α := ⟨-(1e16 : α), 1e16, -(1.0 : α), -(1.0 : α)⟩

/-- The limits that an element states, each with its default. -/
def ofElement (element : Element α) : AxisLimit α :=
  { lower := element.readD Value.toDouble? "lower" unlimited.lower
    upper := element.readD Value.toDouble? "upper" unlimited.upper
    effort := element.readD Value.toDouble? "effort" unlimited.effort
    velocity := element.readD Value.toDouble? "velocity" unlimited.velocity }

def toList {α : Type} (limit : AxisLimit α) : List α :=
  [limit.lower, limit.upper, limit.effort, limit.velocity]

end AxisLimit

namespace AxisDynamics

def free : AxisDynamics α := ⟨0.0, 0.0, 0.0, 0.0⟩

/-- The dynamics that an element states, each with its default. -/
def ofElement (element : Element α) : AxisDynamics α :=
  { damping := element.readD Value.toDouble? "damping" free.damping
    friction := element.readD Value.toDouble? "friction" free.friction
    springReference := element.readD Value.toDouble? "spring_reference" free.springReference
    springStiffness := element.readD Value.toDouble? "spring_stiffness" free.springStiffness }

def toList {α : Type} (dynamics : AxisDynamics α) : List α :=
  [dynamics.damping, dynamics.friction, dynamics.springReference, dynamics.springStiffness]

end AxisDynamics

namespace Axis

/-- The axis `z` without limits. -/
def default : Axis α :=
  { xyz := ⟨0.0, 0.0, 1.0⟩
    useParentModelFrame := false
    limit := .unlimited
    dynamics := .free
    element := none }

/-- A direction shorter than this has no length. -/
def leastLength : α := 1e-12

/-- The axis along a vector, which is scaled to unit length; none if the vector has no
length or none that is finite. -/
def withDirection? (axis : Axis α) (xyz : Vec3 α) : Option (Axis α) :=
  let length := xyz.length
  if Scalar.isFinite length ∧ ¬length < leastLength then
    some { axis with xyz := xyz.divide length }
  else
    none

/-- An axis with another direction, or as it was if the vector has no length. -/
def setDirection (axis : Axis α) (xyz : Vec3 α) : Axis α × Bool :=
  match axis.withDirection? xyz with
  | some turned => (turned, true)
  | none => (axis, false)

def elementKinds : List String := ["axis", "axis2"]

/-- The axis turned to the direction that an element states, and what is wrong with it. -/
def loadDirection (axis : Axis α) (element : Element α) : Axis α × List (Diagnostic α) :=
  match element.read? Value.toVec3? "xyz" with
  | none => (axis, [.axisMissing])
  | some xyz =>
    match axis.withDirection? xyz with
    | some turned => (turned, [])
    | none => (axis, [.axisInvalid xyz])

/-- An axis after an element has been loaded into it. -/
def load (axis : Axis α) (element : Element α) : Axis α × List (Diagnostic α) :=
  let axis := { axis with element := some element }
  if element.kind ∈ elementKinds then
    let (axis, diagnostics) := axis.loadDirection element
    let axis :=
      { axis with
        useParentModelFrame := element.readD Value.toBool? "use_parent_model_frame" false
        limit := ((element.first? "limit").map AxisLimit.ofElement).getD axis.limit
        dynamics := ((element.first? "dynamics").map AxisDynamics.ofElement).getD axis.dynamics }
    (axis, diagnostics)
  else
    (axis, [.wrongKind .axis])

end Axis

end Kinematics
