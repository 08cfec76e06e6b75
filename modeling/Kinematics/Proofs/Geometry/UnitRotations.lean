import Kinematics.Proofs.Geometry.Division
import Kinematics.Proofs.Geometry.Group

/-!
# Rotations of norm one

Every pose that the operations make has a quaternion of norm one, whatever they are given: the
quaternion is normalised, made of sines and cosines, or turned around.  This holds over the real
numbers, where a quotient by zero is zero, and over checked numbers, where it is undefined.  No
expression over given numbers divides by zero, so both arithmetics agree on its value.
-/

namespace Kinematics

/-- The poses that come of normalising have quaternions of norm one, whatever they are made of,
and turning a pose around keeps the norm. -/
structure MakesUnits (α : Type) [Scalar α] : Prop where
  ofQuaternion : ∀ (position : Vec3 α) (rotation : Quaternion α),
    (Pose.ofQuaternion position rotation).rotation.norm = 1.0
  compose : ∀ outer inner : Pose α, (outer.compose inner).rotation.norm = 1.0
  toPose : ∀ m : Transform α, m.toPose.rotation.norm = 1.0
  inverse : ∀ pose : Pose α, pose.inverse.rotation.norm = pose.rotation.norm

theorem MakesUnits.of_normalize {α : Type} [Scalar α]
    (unit : ∀ q : Quaternion α, q.normalize.norm = 1.0)
    (reverse : ∀ q : Quaternion α, q.conjugate.norm = q.norm) : MakesUnits α where
  ofQuaternion _ rotation := unit rotation
  compose _ _ := unit _
  toPose _ := unit _
  inverse pose := reverse pose.rotation

section Terms

variable {α β : Type}

mutual

/-- An expression for a pose. -/
inductive PoseTerm (β : Type) where
  | identity
  | ofQuaternion (position : Vec3 β) (rotation : Quaternion β)
  | ofPosition (position : Vec3 β)
  | ofRollPitchYaw (position : Vec3 β) (angles : RollPitchYaw β)
  | compose (outer inner : PoseTerm β)
  | inverse (pose : PoseTerm β)
  | toPose (transform : TransformTerm β)

/-- An expression for a transform, which may hold any matrix. -/
inductive TransformTerm (β : Type) where
  | identity
  | entries (m : Transform β)
  | ofPose (pose : PoseTerm β)
  | mul (left right : TransformTerm β)
  | rigidInverse (transform : TransformTerm β)

end

def Pose.map (convert : β → α) (pose : Pose β) : Pose α :=
  ⟨pose.position.map convert, pose.rotation.map convert⟩

def Row.map (convert : β → α) (row : Row β) : Row α :=
  ⟨convert row.x, convert row.y, convert row.z, convert row.t⟩

def Transform.map (convert : β → α) (m : Transform β) : Transform α :=
  ⟨m.r₀.map convert, m.r₁.map convert, m.r₂.map convert, m.r₃.map convert⟩

variable [Scalar α] (embed : β → α)

mutual

/-- The pose that an expression stands for in an arithmetic, which takes its numbers in. -/
def PoseTerm.value : PoseTerm β → Pose α
  | .identity => .identity
  | .ofQuaternion position rotation => .ofQuaternion (position.map embed) (rotation.map embed)
  | .ofPosition position => .ofPosition (position.map embed)
  | .ofRollPitchYaw position angles => .ofRollPitchYaw (position.map embed) (angles.map embed)
  | .compose outer inner => outer.value.compose inner.value
  | .inverse pose => pose.value.inverse
  | .toPose transform => transform.value.toPose

/-- The transform that an expression stands for in an arithmetic. -/
def TransformTerm.value : TransformTerm β → Transform α
  | .identity => .identity
  | .entries m => m.map embed
  | .ofPose pose => .ofPose pose.value
  | .mul left right => left.value * right.value
  | .rigidInverse transform => transform.value.rigidInverse

end

end Terms

namespace Quaternion

theorem squares_nonneg (q : Quaternion ℝ) :
    0 ≤ q.x * q.x + q.y * q.y + q.z * q.z + q.w * q.w := by
  have square (value : ℝ) : 0 ≤ value * value := mul_self_nonneg value
  linarith [square q.x, square q.y, square q.z, square q.w]

theorem norm_mul_norm (q : Quaternion ℝ) :
    q.norm * q.norm = q.x * q.x + q.y * q.y + q.z * q.z + q.w * q.w :=
  Real.mul_self_sqrt q.squares_nonneg

theorem degenerateNorm_pos : (0 : ℝ) < degenerateNorm := by
  unfold degenerateNorm
  norm_num

theorem isUnit_normalize (q : Quaternion ℝ) : q.normalize.IsUnit := by
  unfold normalize
  dsimp only
  split
  · rename_i regular
    have nonzero : q.norm ≠ 0 := (degenerateNorm_pos.trans regular.2).ne'
    have square := q.norm_mul_norm
    rw [isUnit_iff]
    field_simp
    linear_combination -square
  · exact isUnit_identity

theorem norm_conjugate (q : Quaternion ℝ) : q.conjugate.norm = q.norm := by
  unfold norm
  simp only [conjugate, neg_mul_neg]

open Checked (number undefined)

theorem norm_number (q : Quaternion ℝ) : (q.map number).norm = number q.norm :=
  Checked.sqrt_number q.squares_nonneg

theorem norm_number_of_isUnit {q : Quaternion ℝ} (unit : q.IsUnit) :
    (q.map number).norm = 1.0 := by
  have one : q.norm = 1.0 := unit.trans one_literal.symm
  rw [q.norm_number, one]
  rfl

theorem normalize_number (q : Quaternion ℝ) :
    (q.map number).normalize = q.normalize.map number := by
  unfold normalize
  simp only [norm_number]
  by_cases regular : degenerateNorm < q.norm
  · have nonzero : q.norm ≠ 0 := (degenerateNorm_pos.trans regular).ne'
    have checked : Scalar.isFinite (number q.norm) = true ∧ degenerateNorm < number q.norm :=
      ⟨rfl, regular⟩
    have real : Scalar.isFinite q.norm = true ∧ degenerateNorm < q.norm := ⟨rfl, regular⟩
    rw [if_pos checked, if_pos real]
    simp only [map, Checked.number_div nonzero]
  · have checked : ¬(Scalar.isFinite (number q.norm) = true ∧ degenerateNorm < number q.norm) :=
      fun both => regular both.2
    have real : ¬(Scalar.isFinite q.norm = true ∧ degenerateNorm < q.norm) :=
      fun both => regular both.2
    rw [if_neg checked, if_neg real]
    rfl

/-- A quaternion with an undefined coefficient has no norm. -/
theorem eq_map_number_or_norm_undefined (q : Quaternion Checked) :
    (∃ p : Quaternion ℝ, q = p.map number) ∨
      q.norm = undefined ∧ q.conjugate.norm = undefined :=
  match q with
  | ⟨.number x, .number y, .number z, .number w⟩ => .inl ⟨⟨x, y, z, w⟩, rfl⟩
  | ⟨.undefined, _, _, _⟩ => .inr ⟨rfl, rfl⟩
  | ⟨.number _, .undefined, _, _⟩ => .inr ⟨rfl, rfl⟩
  | ⟨.number _, .number _, .undefined, _⟩ => .inr ⟨rfl, rfl⟩
  | ⟨.number _, .number _, .number _, .undefined⟩ => .inr ⟨rfl, rfl⟩

theorem normalize_of_norm_undefined {q : Quaternion Checked} (noNorm : q.norm = undefined) :
    q.normalize = (identity : Quaternion ℝ).map number := by
  unfold normalize
  simp only [noNorm]
  apply if_neg
  rintro ⟨finite, -⟩
  cases finite

end Quaternion

theorem makesUnits_real : MakesUnits ℝ := by
  apply MakesUnits.of_normalize
  · intro q
    rw [Quaternion.one_literal]
    exact q.isUnit_normalize
  · exact Quaternion.norm_conjugate

theorem makesUnits_checked : MakesUnits Checked := by
  apply MakesUnits.of_normalize
  · intro q
    rcases q.eq_map_number_or_norm_undefined with ⟨p, rfl⟩ | ⟨noNorm, -⟩
    · rw [p.normalize_number]
      exact Quaternion.norm_number_of_isUnit p.isUnit_normalize
    · rw [Quaternion.normalize_of_norm_undefined noNorm]
      exact Quaternion.norm_number_of_isUnit Quaternion.isUnit_identity
  · intro q
    rcases q.eq_map_number_or_norm_undefined with ⟨p, rfl⟩ | ⟨noNorm, noReverse⟩
    · have reversed : (p.map Checked.number).conjugate = p.conjugate.map Checked.number := rfl
      rw [reversed, p.conjugate.norm_number, p.norm_number, p.norm_conjugate]
    · rw [noNorm, noReverse]

open Checked (number)

theorem Pose.ofQuaternion_number (position : Vec3 ℝ) (rotation : Quaternion ℝ) :
    Pose.ofQuaternion (position.map number) (rotation.map number) =
      (Pose.ofQuaternion position rotation).map number :=
  congrArg (Pose.mk _) rotation.normalize_number

theorem Quaternion.ofRollPitchYaw_number (angles : RollPitchYaw ℝ) :
    Quaternion.ofRollPitchYaw (angles.map number) =
      (Quaternion.ofRollPitchYaw angles).map number := by
  have half (angle : ℝ) : number angle / 2.0 = number (angle / 2.0) :=
    Checked.number_div (by norm_num)
  unfold ofRollPitchYaw
  simp only [RollPitchYaw.map, half]
  rfl

theorem Pose.compose_number (outer inner : Pose ℝ) :
    (outer.map number).compose (inner.map number) = (outer.compose inner).map number :=
  congrArg (Pose.mk _) (outer.rotation * inner.rotation).normalize_number

theorem Transform.toPose_number (m : Transform ℝ) :
    (m.map number).toPose = m.toPose.map number := by
  have rows := Quaternion.ofRows_number m.r₀.block m.r₁.block m.r₂.block
  calc
    (m.map number).toPose = Pose.ofQuaternion (m.displacement.map number)
        (Quaternion.ofRows (m.r₀.block.map number) (m.r₁.block.map number)
          (m.r₂.block.map number)) := rfl
    _ = m.toPose.map number := by
      rw [rows, Pose.ofQuaternion_number]
      rfl

mutual

/-- No expression for a pose divides by zero. -/
theorem PoseTerm.value_number :
    (term : PoseTerm ℝ) → term.value number = (term.value id).map number
  | .identity => rfl
  | .ofQuaternion position rotation => Pose.ofQuaternion_number position rotation
  | .ofPosition _ => rfl
  | .ofRollPitchYaw _ angles => congrArg (Pose.mk _) (Quaternion.ofRollPitchYaw_number angles)
  | .compose outer inner => by
      simp only [PoseTerm.value]
      rw [outer.value_number, inner.value_number, Pose.compose_number]
  | .inverse pose => by
      simp only [PoseTerm.value]
      rw [pose.value_number]
      rfl
  | .toPose transform => by
      simp only [PoseTerm.value]
      rw [transform.value_number, Transform.toPose_number]

theorem TransformTerm.value_number :
    (term : TransformTerm ℝ) → term.value number = (term.value id).map number
  | .identity => rfl
  | .entries _ => rfl
  | .ofPose pose => by
      simp only [TransformTerm.value]
      rw [pose.value_number]
      rfl
  | .mul left right => by
      simp only [TransformTerm.value]
      rw [left.value_number, right.value_number]
      rfl
  | .rigidInverse transform => by
      simp only [TransformTerm.value]
      rw [transform.value_number]
      rfl

end

theorem PoseTerm.isUnit_value : (term : PoseTerm ℝ) → (term.value id).rotation.IsUnit
  | .identity => Quaternion.isUnit_identity
  | .ofQuaternion _ rotation => rotation.isUnit_normalize
  | .ofPosition _ => Quaternion.isUnit_identity
  | .ofRollPitchYaw _ angles => Quaternion.isUnit_ofRollPitchYaw angles
  | .compose outer inner =>
      ((outer.value id).rotation * (inner.value id).rotation).isUnit_normalize
  | .inverse pose => pose.isUnit_value.conjugate
  | .toPose _ => Quaternion.isUnit_normalize _

/-- Normalising makes quaternions of norm one of everything, and turning a pose around keeps the
norm, over the real numbers with zero for every quotient by zero, and over checked numbers, be
they defined or not.  Every expression over given real numbers has such a quaternion in both,
and the same value, so that no quotient by zero and no root of a negative number is taken. -/
theorem rotations_unit :
    MakesUnits ℝ ∧ MakesUnits Checked ∧
      ∀ term : PoseTerm ℝ, (term.value id).rotation.norm = 1.0 ∧
        (term.value number).rotation.norm = 1.0 ∧
        term.value number = (term.value id).map number := by
  refine ⟨makesUnits_real, makesUnits_checked, ?_⟩
  intro term
  have unit := term.isUnit_value
  have same := term.value_number
  refine ⟨?_, ?_, same⟩
  · rw [Quaternion.one_literal]
    exact unit
  · rw [same]
    exact Quaternion.norm_number_of_isUnit unit

end Kinematics
