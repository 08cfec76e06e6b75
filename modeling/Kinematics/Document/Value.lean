import Kinematics.Decimal.Word
import Kinematics.Geometry.Pose

/-!
# Document values

A document stores typed values.  Each loader reads a value as the type it needs; a
value of another type does not count, except that whole numbers serve as numbers.  The
numbers of a value are words as long as it is read and written, and of a type of their own
when it is calculated with; the channels of a color are only passed on and stay words.
-/

namespace Kinematics

/-- A color with four channels. -/
structure Color where
  red : Single
  green : Single
  blue : Single
  alpha : Single
  deriving BEq

namespace Color

def toList (color : Color) : List Single :=
  [color.red, color.green, color.blue, color.alpha]

def black : Color :=
  ⟨.nearest ⟨0, 0⟩, .nearest ⟨0, 0⟩, .nearest ⟨0, 0⟩, .nearest ⟨1, 0⟩⟩

end Color

/-- A pose as it is written: a position and angles. -/
structure Placement (α : Type) where
  position : Vec3 α
  angles : RollPitchYaw α
  deriving BEq

namespace Placement

variable {α : Type}

def toList (placement : Placement α) : List α :=
  placement.position.toList ++ placement.angles.toList

def map {β : Type} (convert : α → β) (placement : Placement α) : Placement β :=
  ⟨placement.position.map convert, placement.angles.map convert⟩

def toPose [Scalar α] (placement : Placement α) : Pose α :=
  Pose.ofRollPitchYaw placement.position placement.angles

end Placement

/-- A typed value of a document. -/
inductive Value (α : Type) where
  | bool (value : Bool)
  | int (value : Int64)
  | double (value : α)
  | string (value : String)
  | vector3 (value : Vec3 α)
  | color (value : Color)
  | pose (value : Placement α)
  deriving BEq

namespace Value

variable {α : Type}

def map {β : Type} (convert : α → β) : Value α → Value β
  | bool value => .bool value
  | int value => .int value
  | double value => .double (convert value)
  | string value => .string value
  | vector3 value => .vector3 (value.map convert)
  | color value => .color value
  | pose value => .pose (value.map convert)

def toBool? : Value α → Option Bool
  | bool value => some value
  | _ => none

def toInt? : Value α → Option Int64
  | int value => some value
  | _ => none

/-- The value as a number, which a whole number is as well. -/
def toDouble? [Scalar α] : Value α → Option α
  | double value => some value
  | int value => some (Scalar.ofInt value.toInt)
  | _ => none

def toString? : Value α → Option String
  | string value => some value
  | _ => none

def toVec3? : Value α → Option (Vec3 α)
  | vector3 value => some value
  | _ => none

def toColor? : Value α → Option Color
  | color value => some value
  | _ => none

def toPose? [Scalar α] : Value α → Option (Pose α)
  | pose value => some value.toPose
  | _ => none

end Value

end Kinematics
