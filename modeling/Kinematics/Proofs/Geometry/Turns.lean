import Kinematics.Document.Value
import Kinematics.Proofs.Geometry.Angles

/-!
# Turns about the axes

The angles of a written pose are turns about axes that stay where they are: first about the
first axis, then about the second, then about the third.  The position is where the origin goes
after that.
-/

namespace Kinematics

section Matrices

variable (angle : ℝ)

/-- The right-handed turn about the first axis: the second one goes towards the third. -/
noncomputable def turnX : Matrix (Fin 4) (Fin 4) ℝ :=
  !![1, 0, 0, 0;
     0, Real.cos angle, -Real.sin angle, 0;
     0, Real.sin angle, Real.cos angle, 0;
     0, 0, 0, 1]

/-- The right-handed turn about the second axis: the third one goes towards the first. -/
noncomputable def turnY : Matrix (Fin 4) (Fin 4) ℝ :=
  !![Real.cos angle, 0, Real.sin angle, 0;
     0, 1, 0, 0;
     -Real.sin angle, 0, Real.cos angle, 0;
     0, 0, 0, 1]

/-- The right-handed turn about the third axis: the first one goes towards the second. -/
noncomputable def turnZ : Matrix (Fin 4) (Fin 4) ℝ :=
  !![Real.cos angle, -Real.sin angle, 0, 0;
     Real.sin angle, Real.cos angle, 0, 0;
     0, 0, 1, 0;
     0, 0, 0, 1]

/-- The translation by a vector. -/
def shift (vector : Vec3 ℝ) : Matrix (Fin 4) (Fin 4) ℝ :=
  !![1, 0, 0, vector.x;
     0, 1, 0, vector.y;
     0, 0, 1, vector.z;
     0, 0, 0, 1]

end Matrices

/-- Turns one after the other, and then a translation. -/
theorem shift_mul_turns (position : Vec3 ℝ) (roll pitch yaw : ℝ) :
    shift position * turnZ yaw * turnY pitch * turnX roll =
      !![Real.cos yaw * Real.cos pitch,
          Real.cos yaw * Real.sin pitch * Real.sin roll - Real.sin yaw * Real.cos roll,
          Real.cos yaw * Real.sin pitch * Real.cos roll + Real.sin yaw * Real.sin roll,
          position.x;
        Real.sin yaw * Real.cos pitch,
          Real.sin yaw * Real.sin pitch * Real.sin roll + Real.cos yaw * Real.cos roll,
          Real.sin yaw * Real.sin pitch * Real.cos roll - Real.cos yaw * Real.sin roll,
          position.y;
        -Real.sin pitch, Real.cos pitch * Real.sin roll, Real.cos pitch * Real.cos roll,
          position.z;
        0, 0, 0, 1] := by
  ext row column
  fin_cases row <;> fin_cases column <;>
    simp [shift, turnX, turnY, turnZ, Matrix.mul_apply, Fin.sum_univ_four] <;> ring

/-- A pose in a document is read as a unit quaternion and a position.  Its transform turns by
the roll about the first axis, by the pitch about the second and by the yaw about the third, and
then moves the origin to the position. -/
theorem Value.toPose?_turns (placement : Placement ℝ) :
    ∃ pose, (Value.pose placement).toPose? = some pose ∧ pose.rotation.IsUnit ∧
      (Transform.ofPose pose).toMatrix =
        shift placement.position * turnZ placement.angles.yaw * turnY placement.angles.pitch *
          turnX placement.angles.roll := by
  refine ⟨placement.toPose, rfl, Quaternion.isUnit_ofRollPitchYaw placement.angles, ?_⟩
  rw [shift_mul_turns]
  exact congrArg Transform.toMatrix
    (Transform.ofPose_ofRollPitchYaw placement.position placement.angles)

end Kinematics
