/-!
# Scalars

Frame geometry is written once, over any type of numbers that offers the
operations of `Scalar`.  Programs run it on binary floating point; the algebra of
rigid motions is studied on an instance where the operations are exact.

Expressions keep the order in which their terms are written, so that an instance
whose operations round always rounds in the same places.
-/

namespace Kinematics

/-- The arithmetic that frame geometry needs of its numbers.  Angles are in radians, and
`atan2 y x` is the angle of the point `(x, y)`. -/
class Scalar (α : Type) extends
    Add α, Sub α, Mul α, Div α, Neg α, LT α, LE α, OfScientific α where
  decideLt : DecidableRel (fun left right : α => left < right)
  decideLe : DecidableRel (fun left right : α => left ≤ right)
  ofInt : Int → α
  isFinite : α → Bool
  abs : α → α
  sqrt : α → α
  sin : α → α
  cos : α → α
  asin : α → α
  atan2 : α → α → α
  quarterTurn : α

namespace Scalar

variable {α : Type} [Scalar α]

instance (left right : α) : Decidable (left < right) := decideLt left right

instance (left right : α) : Decidable (left ≤ right) := decideLe left right

/-- The number itself when it is positive, and otherwise (also when it is undefined) zero. -/
def positivePart (value : α) : α :=
  if (0.0 : α) < value then value else 0.0

/-- The closest number in the unit interval.  An undefined number stays undefined. -/
def clampUnit (value : α) : α :=
  if value < (0.0 : α) then 0.0 else if (1.0 : α) < value then 1.0 else value

/-- Four terms added from left to right, starting at negative zero, which is neutral
for every term. -/
def sumFour (first second third fourth : α) : α :=
  -(0.0 : α) + first + second + third + fourth

end Scalar

/-- Binary floating point with 53 significant bits. -/
instance : Scalar Float where
  decideLt := fun left right => Float.decLt left right
  decideLe := fun left right => Float.decLe left right
  ofInt := Float.ofInt
  isFinite := Float.isFinite
  abs := Float.abs
  sqrt := Float.sqrt
  sin := Float.sin
  cos := Float.cos
  asin := Float.asin
  atan2 := Float.atan2
  quarterTurn := 1.57079632679489661923132169163975144

end Kinematics
