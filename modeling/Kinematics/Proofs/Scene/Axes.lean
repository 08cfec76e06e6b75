import Kinematics.Proofs.Geometry.Exact
import Kinematics.Proofs.Scene.Properties

/-!
# Directions of axes

In exact arithmetic every axis has a direction of unit length, whatever has been done to it.
A vector becomes the direction exactly if it is not shorter than the least length, and is then
scaled.  An element that states no such vector is reported, and leaves the direction alone.
-/

namespace Kinematics

namespace Vec3

def scale (xyz : Vec3 ℝ) (factor : ℝ) : Vec3 ℝ :=
  xyz.map (factor * ·)

theorem divide_eq_scale (xyz : Vec3 ℝ) (divisor : ℝ) :
    xyz.divide divisor = xyz.scale divisor⁻¹ := by
  simp only [divide, scale, map, div_eq_inv_mul]

theorem length_scale (xyz : Vec3 ℝ) {factor : ℝ} (nonneg : 0 ≤ factor) :
    (xyz.scale factor).length = factor * xyz.length := by
  have square : factor * xyz.x * (factor * xyz.x) + factor * xyz.y * (factor * xyz.y) +
      factor * xyz.z * (factor * xyz.z) =
        factor ^ 2 * (xyz.x * xyz.x + xyz.y * xyz.y + xyz.z * xyz.z) := by
    ring
  change Real.sqrt _ = factor * Real.sqrt _
  simp only [scale, map]
  rw [square, Real.sqrt_mul (sq_nonneg factor), Real.sqrt_sq nonneg]

end Vec3

namespace Axis

theorem withDirection?_eq_ite (axis : Axis ℝ) (xyz : Vec3 ℝ) :
    axis.withDirection? xyz =
      if 1e-12 ≤ xyz.length then some { axis with xyz := xyz.scale xyz.length⁻¹ } else none := by
  have long : Scalar.isFinite xyz.length ∧ ¬xyz.length < leastLength ↔ 1e-12 ≤ xyz.length := by
    rw [not_lt]
    exact and_iff_right rfl
  simp only [withDirection?, long, Vec3.divide_eq_scale]

/-- The axis after everything but the direction has been read from an element. -/
def readRest {α : Type} [Scalar α] (axis : Axis α) (element : Element α) : Axis α :=
  { axis with
    useParentModelFrame := element.readD Value.toBool? "use_parent_model_frame" false
    limit := ((element.first? "limit").map AxisLimit.ofElement).getD axis.limit
    dynamics := ((element.first? "dynamics").map AxisDynamics.ofElement).getD axis.dynamics
    element := some element }

theorem limit_readRest {α : Type} [Scalar α] (axis : Axis α) (element : Element α) :
    (axis.readRest element).limit =
      match element.first? "limit" with
      | some part => .ofElement part
      | none => axis.limit := by
  unfold readRest
  cases element.first? "limit" <;> rfl

theorem dynamics_readRest {α : Type} [Scalar α] (axis : Axis α) (element : Element α) :
    (axis.readRest element).dynamics =
      match element.first? "dynamics" with
      | some part => .ofElement part
      | none => axis.dynamics := by
  unfold readRest
  cases element.first? "dynamics" <;> rfl

variable (axis : Axis ℝ) (element : Element ℝ)

/-- What can become of an axis that is loaded, and what is reported. -/
inductive Outcome : Axis ℝ × List (Diagnostic ℝ) → Prop where
  | wrongKind (other : element.kind ∉ ["axis", "axis2"]) :
      Outcome ({ axis with element := some element }, [.wrongKind .axis])
  | missing (isAxis : element.kind ∈ ["axis", "axis2"])
      (absent : element.read? Value.toVec3? "xyz" = none) :
      Outcome (axis.readRest element, [.axisMissing])
  | rejected {xyz : Vec3 ℝ} (isAxis : element.kind ∈ ["axis", "axis2"])
      (stated : element.read? Value.toVec3? "xyz" = some xyz) (short : xyz.length < 1e-12) :
      Outcome (axis.readRest element, [.axisInvalid xyz])
  | turned {xyz : Vec3 ℝ} (isAxis : element.kind ∈ ["axis", "axis2"])
      (stated : element.read? Value.toVec3? "xyz" = some xyz) (long : 1e-12 ≤ xyz.length) :
      Outcome ({ axis.readRest element with xyz := xyz.scale xyz.length⁻¹ }, [])

theorem outcome_load : Outcome axis element (axis.load element) := by
  by_cases isAxis : element.kind ∈ elementKinds
  · cases stated : element.read? Value.toVec3? "xyz" with
    | none =>
        have loaded : axis.load element = (axis.readRest element, [.axisMissing]) := by
          simp only [load, if_pos isAxis, loadDirection, stated]
          rfl
        rw [loaded]
        exact .missing isAxis stated
    | some xyz =>
        rcases lt_or_ge xyz.length 1e-12 with short | long
        · have loaded : axis.load element = (axis.readRest element, [.axisInvalid xyz]) := by
            simp only [load, if_pos isAxis, loadDirection, stated, withDirection?_eq_ite,
              if_neg short.not_ge]
            rfl
          rw [loaded]
          exact .rejected isAxis stated short
        · have loaded : axis.load element =
              ({ axis.readRest element with xyz := xyz.scale xyz.length⁻¹ }, []) := by
            simp only [load, if_pos isAxis, loadDirection, stated, withDirection?_eq_ite,
              if_pos long]
            rfl
          rw [loaded]
          exact .turned isAxis stated long
  · have loaded : axis.load element =
        ({ axis with element := some element }, [.wrongKind .axis]) := by
      simp only [load, if_neg isAxis]
    rw [loaded]
    exact .wrongKind isAxis

end Axis

namespace Diagnostic

variable {α : Type} {code : DiagnosticCode}

/-- Whether a fault of a category is among some. -/
def Reported (code : DiagnosticCode) (faults : List (Diagnostic α)) : Prop :=
  ∃ fault ∈ faults, fault.code = code

@[simp]
theorem not_reported_nil : ¬Reported code ([] : List (Diagnostic α)) := by
  simp [Reported]

@[simp]
theorem reported_singleton {fault : Diagnostic α} : Reported code [fault] ↔ fault.code = code := by
  simp [Reported]

@[simp]
theorem code_wrongKind {expected : EntityKind} :
    (wrongKind expected : Diagnostic α).code = .elementIncorrectType :=
  rfl

@[simp]
theorem code_axisMissing : (axisMissing : Diagnostic α).code = .elementMissing :=
  rfl

@[simp]
theorem code_axisInvalid {xyz : Vec3 α} : (axisInvalid xyz).code = .attributeInvalid :=
  rfl

end Diagnostic

namespace Axis

open Diagnostic (Reported)

variable (axis : Axis ℝ)

/-- A vector becomes the direction of an axis exactly if it is long enough, and is then scaled. -/
structure Turning (xyz : Vec3 ℝ) (turned : Axis ℝ × Bool) : Prop where
  accepted_iff : turned.2 = true ↔ 1e-12 ≤ xyz.length
  accepted : turned.2 = true → ∃ factor > 0, turned.1 = { axis with xyz := xyz.scale factor }
  rejected : turned.2 = false → turned.1 = axis

theorem inv_length_pos {xyz : Vec3 ℝ} (long : 1e-12 ≤ xyz.length) : 0 < xyz.length⁻¹ := by
  have positive : (0 : ℝ) < 1e-12 := by norm_num
  exact inv_pos.mpr (positive.trans_le long)

theorem turning_setDirection (xyz : Vec3 ℝ) : Turning axis xyz (axis.setDirection xyz) := by
  unfold setDirection
  rw [withDirection?_eq_ite]
  by_cases long : 1e-12 ≤ xyz.length
  · rw [if_pos long]
    exact ⟨iff_of_true rfl long, fun _ => ⟨_, inv_length_pos long, rfl⟩, nofun⟩
  · rw [if_neg long]
    exact ⟨iff_of_false nofun long, nofun, fun _ => rfl⟩

theorem not_accepted_of_short {xyz : Vec3 ℝ} (short : xyz.length < 1e-12) :
    (axis.setDirection xyz).2 = false := by
  rw [Bool.eq_false_iff, ne_eq, (axis.turning_setDirection xyz).accepted_iff]
  exact short.not_ge

/-- The numbers of an axis besides its direction. -/
inductive Quantity where
  | lower
  | upper
  | effort
  | velocity
  | damping
  | friction
  | springReference
  | springStiffness

namespace Quantity

def part : Quantity → String
  | lower | upper | effort | velocity => "limit"
  | damping | friction | springReference | springStiffness => "dynamics"

def name : Quantity → String
  | lower => "lower"
  | upper => "upper"
  | effort => "effort"
  | velocity => "velocity"
  | damping => "damping"
  | friction => "friction"
  | springReference => "spring_reference"
  | springStiffness => "spring_stiffness"

/-- The number of a child that does not state it. -/
def initial {α : Type} [Scalar α] : Quantity → α
  | lower => -1e16
  | upper => 1e16
  | effort | velocity => -1.0
  | damping | friction | springReference | springStiffness => 0.0

def value {α : Type} (axis : Axis α) : Quantity → α
  | lower => axis.limit.lower
  | upper => axis.limit.upper
  | effort => axis.limit.effort
  | velocity => axis.limit.velocity
  | damping => axis.dynamics.damping
  | friction => axis.dynamics.friction
  | springReference => axis.dynamics.springReference
  | springStiffness => axis.dynamics.springStiffness

end Quantity

/-- An axis has taken from an element all that is not its direction.  A child for limits or for
dynamics states all numbers of its kind, and without it they stay as they were. -/
structure TakesRest {α : Type} [Scalar α] (axis : Axis α) (element : Element α)
    (loaded : Axis α) : Prop where
  source : loaded.element = some element
  useParentModelFrame : loaded.useParentModelFrame =
    (element.read? Value.toBool? "use_parent_model_frame").getD false
  stated : ∀ (quantity : Quantity) part, element.first? quantity.part = some part →
    quantity.value loaded = (part.read? Value.toDouble? quantity.name).getD quantity.initial
  unstated : ∀ quantity : Quantity, element.first? quantity.part = none →
    quantity.value loaded = quantity.value axis

namespace TakesRest

variable {α : Type} [Scalar α] {axis : Axis α} {element : Element α}

theorem readRest : TakesRest axis element (axis.readRest element) where
  source := rfl
  useParentModelFrame := rfl
  stated quantity part found := by
    cases quantity with
    | lower | upper | effort | velocity =>
        change element.first? "limit" = some part at found
        simp only [Quantity.value, limit_readRest, found]
        rfl
    | damping | friction | springReference | springStiffness =>
        change element.first? "dynamics" = some part at found
        simp only [Quantity.value, dynamics_readRest, found]
        rfl
  unstated quantity missing := by
    cases quantity with
    | lower | upper | effort | velocity =>
        change element.first? "limit" = none at missing
        simp only [Quantity.value, limit_readRest, missing]
    | damping | friction | springReference | springStiffness =>
        change element.first? "dynamics" = none at missing
        simp only [Quantity.value, dynamics_readRest, missing]

/-- The direction is no part of the rest. -/
theorem turned {loaded : Axis α} (takes : TakesRest axis element loaded) (xyz : Vec3 α) :
    TakesRest axis element { loaded with xyz } where
  source := takes.source
  useParentModelFrame := takes.useParentModelFrame
  stated quantity part found := by
    cases quantity <;> exact takes.stated _ part found
  unstated quantity missing := by
    cases quantity <;> exact takes.unstated _ missing

end TakesRest

/-- What is reported of an element that is loaded as an axis, and what the axis takes from it. -/
structure Reading (element : Element ℝ) (loaded : Axis ℝ × List (Diagnostic ℝ)) : Prop where
  invalid_iff : Reported .attributeInvalid loaded.2 ↔
    element.kind ∈ ["axis", "axis2"] ∧
      ∃ xyz, element.read? Value.toVec3? "xyz" = some xyz ∧ (axis.setDirection xyz).2 = false
  missing_iff : Reported .elementMissing loaded.2 ↔
    element.kind ∈ ["axis", "axis2"] ∧ element.read? Value.toVec3? "xyz" = none
  kept : Reported .attributeInvalid loaded.2 ∨ Reported .elementMissing loaded.2 →
    loaded.1.xyz = axis.xyz
  turned : loaded.2 = [] →
    ∃ xyz factor, element.read? Value.toVec3? "xyz" = some xyz ∧ 0 < factor ∧
      loaded.1.xyz = xyz.scale factor
  rest : element.kind ∈ ["axis", "axis2"] → TakesRest axis element loaded.1
  ignored : element.kind ∉ ["axis", "axis2"] →
    loaded = ({ axis with element := some element }, [.wrongKind .axis])

variable {axis}

theorem Outcome.reading {element : Element ℝ} {loaded : Axis ℝ × List (Diagnostic ℝ)}
    (outcome : Outcome axis element loaded) : Reading axis element loaded := by
  have rest : TakesRest axis element (axis.readRest element) := .readRest
  cases outcome with
  | wrongKind other =>
      exact
        { invalid_iff := by simp [other]
          missing_iff := by simp [other]
          kept := by simp
          turned := nofun
          rest := fun isAxis => absurd isAxis other
          ignored := fun _ => rfl }
  | missing isAxis absent =>
      exact
        { invalid_iff := by simp [absent]
          missing_iff := by simp [isAxis, absent]
          kept := fun _ => rfl
          turned := nofun
          rest := fun _ => rest
          ignored := fun other => absurd isAxis other }
  | rejected isAxis stated short =>
      have refused := axis.not_accepted_of_short short
      exact
        { invalid_iff := by simp [isAxis, stated, refused]
          missing_iff := by simp [stated]
          kept := fun _ => rfl
          turned := nofun
          rest := fun _ => rest
          ignored := fun other => absurd isAxis other }
  | @turned xyz isAxis stated long =>
      have taken := (axis.turning_setDirection xyz).accepted_iff.mpr long
      exact
        { invalid_iff := by simp [stated, taken]
          missing_iff := by simp [stated]
          kept := by simp
          turned := fun _ => ⟨xyz, _, stated, inv_length_pos long, rfl⟩
          rest := fun _ => rest.turned _
          ignored := fun other => absurd isAxis other }

/-- An axis whose direction has unit length. -/
def IsUnit (axis : Axis ℝ) : Prop :=
  axis.xyz.length = 1

theorem isUnit_default : IsUnit default := by
  change Real.sqrt (0.0 * 0.0 + 0.0 * 0.0 + 1.0 * 1.0) = 1
  norm_num

theorem isUnit_scale (axis : Axis ℝ) {xyz : Vec3 ℝ} (long : 1e-12 ≤ xyz.length) :
    IsUnit { axis with xyz := xyz.scale xyz.length⁻¹ } := by
  have positive := inv_length_pos long
  exact (xyz.length_scale positive.le).trans (inv_mul_cancel₀ (inv_pos.mp positive).ne')

theorem IsUnit.setDirection (unit : axis.IsUnit) (xyz : Vec3 ℝ) :
    (axis.setDirection xyz).1.IsUnit := by
  unfold Axis.setDirection
  rw [withDirection?_eq_ite]
  by_cases long : 1e-12 ≤ xyz.length
  · rw [if_pos long]
    exact axis.isUnit_scale long
  · rw [if_neg long]
    exact unit

theorem IsUnit.load (unit : axis.IsUnit) (element : Element ℝ) : (axis.load element).1.IsUnit := by
  have outcome := axis.outcome_load element
  generalize axis.load element = loaded at outcome
  cases outcome with
  | wrongKind | missing | rejected => exact unit
  | turned isAxis stated long => exact (axis.readRest element).isUnit_scale long

theorem IsUnit.set (unit : axis.IsUnit) (setting : AxisSetting ℝ) : (axis.set setting).IsUnit := by
  cases setting <;> exact unit

end Axis

namespace Joint

variable {α : Type} [Scalar α] (element : Element α)

/-- The first child of a kind is loaded as an axis of its own. -/
theorem loadAxis_eq (kind : String) :
    let loaded := (element.first? kind).map Axis.default.load
    loadAxis element kind = (loaded.map Prod.fst, loaded.toList.flatMap Prod.snd) := by
  unfold loadAxis
  cases element.first? kind with
  | none => rfl
  | some child => simp

theorem axes_load (graph : Option GraphId) (tieBreak : TieBreak) (store : GraphStore α)
    (isJoint : element.kind = "joint") :
    (load element graph tieBreak store).entity.axis = (loadAxis element "axis").1 ∧
      (load element graph tieBreak store).entity.axis2 = (loadAxis element "axis2").1 := by
  unfold load
  rw [if_pos isJoint]
  exact ⟨rfl, rfl⟩

end Joint

/-- Whether a fault is about the direction of an axis. -/
def Diagnostic.isOfAxis {α : Type} : Diagnostic α → Bool
  | axisMissing | axisInvalid _ => true
  | _ => false

section Faults

variable {α : Type} [Scalar α] {element : Element α}

theorem Axis.filter_load (axis : Axis α) (isAxis : element.kind ∈ elementKinds) :
    (axis.load element).2.filter Diagnostic.isOfAxis = (axis.load element).2 := by
  unfold load loadDirection
  simp only [if_pos isAxis]
  split
  · rfl
  · split <;> rfl

omit [Scalar α] in
theorem Binding.filter_reportOf (owner name reference : String) (problem : Option Unconnected) :
    (reportOf owner name reference problem : List (Diagnostic α)).filter Diagnostic.isOfAxis =
      [] := by
  unfold reportOf
  split <;> rfl

theorem Binding.filter_place (store : GraphStore α) (graph : Option GraphId) (name : String)
    (pose : Pose α) (reference : String) (tieBreak : TieBreak) (owner : String) :
    (place store graph name pose reference tieBreak owner).2.2.filter Diagnostic.isOfAxis = [] := by
  cases graph with
  | none => rfl
  | some graph => exact filter_reportOf owner name reference _

namespace Joint

omit [Scalar α] in
theorem filter_reportMissing {β : Type} (value : Option β) (fault : Diagnostic α)
    (other : fault.isOfAxis = false) :
    (reportMissing value fault).filter Diagnostic.isOfAxis = [] := by
  cases value with
  | none => simp [reportMissing, other]
  | some value => rfl

omit [Scalar α] in
theorem filter_loadType : (loadType element).2.filter Diagnostic.isOfAxis = [] := by
  unfold loadType
  split
  · rfl
  · split <;> rfl

theorem filter_loadAxis {kind : String} (isAxis : kind ∈ Axis.elementKinds) :
    (loadAxis element kind).2.filter Diagnostic.isOfAxis = (loadAxis element kind).2 := by
  unfold loadAxis
  cases found : element.first? kind with
  | none => rfl
  | some child =>
      have sameKind : child.kind = kind := by simpa using List.find?_some found
      exact Axis.filter_load _ (sameKind ▸ isAxis)

theorem filter_load (graph : Option GraphId) (tieBreak : TieBreak) (store : GraphStore α)
    (isJoint : element.kind = "joint") :
    (load element graph tieBreak store).diagnostics.filter Diagnostic.isOfAxis =
      (loadAxis element "axis").2 ++ (loadAxis element "axis2").2 := by
  have first : (loadAxis element "axis").2.filter Diagnostic.isOfAxis = _ :=
    filter_loadAxis (by decide)
  have second : (loadAxis element "axis2").2.filter Diagnostic.isOfAxis = _ :=
    filter_loadAxis (by decide)
  have graphless : (if graph.isNone then [.graphMissing] else []).filter
      (Diagnostic.isOfAxis : Diagnostic α → Bool) = [] := by
    split <;> rfl
  unfold load
  simp only [if_pos isJoint, List.filter_append, first, second, graphless, filter_loadType,
    Binding.filter_place, filter_reportMissing _ (.nameMissing .joint) rfl,
    filter_reportMissing _ .parentMissing rfl, filter_reportMissing _ .childMissing rfl,
    List.nil_append, List.append_nil]

end Joint

end Faults

namespace Member

/-- The axes of an entity: itself, if it is an axis, or both of a joint. -/
def ownAxes {α : Type} : Member α → List (Axis α)
  | axis entity => [entity]
  | joint entity => entity.axis.toList ++ entity.axis2.toList
  | _ => []

/-- The axes of a member, those of the joints inside a model included. -/
def axes {α : Type} (member : Member α) : List (Axis α) :=
  member.entities.flatMap ownAxes

/-- All axes of an entity have directions of unit length. -/
def HasUnitAxes (member : Member ℝ) : Prop :=
  ∀ axis ∈ member.ownAxes, axis.IsUnit

theorem ownAxes_tell {α : Type} [Scalar α] (member : Member α) (detail : Detail α) :
    (member.tell detail).ownAxes = member.ownAxes := by
  cases detail with
  | poseFrame frame =>
      cases member with
      | joint entity =>
          simp only [tell, setPoseFrame, Joint.setPoseFrame]
          split <;> rfl
      | link | light | axis | binding | model => rfl
  | jointType | parent | child | light => cases member <;> rfl

theorem hasUnitAxes_axis {entity : Axis ℝ} : (axis entity).HasUnitAxes ↔ entity.IsUnit := by
  simp [HasUnitAxes, ownAxes]

theorem hasUnitAxes_loadJoint (element : Element ℝ) (graph : Option GraphId) (tieBreak : TieBreak)
    (store : GraphStore ℝ) :
    (joint (Joint.load element graph tieBreak store).entity).HasUnitAxes := by
  intro axis isAxis
  by_cases isJoint : element.kind = "joint"
  · have unit {kind : String} (isLoaded : axis ∈ (Joint.loadAxis element kind).1) :
        axis.IsUnit := by
      simp only [Joint.loadAxis_eq, Option.map_map] at isLoaded
      obtain ⟨child, -, rfl⟩ := Option.map_eq_some_iff.mp isLoaded
      exact Axis.isUnit_default.load child
    obtain ⟨first, second⟩ := Joint.axes_load element graph tieBreak store isJoint
    rcases List.mem_append.mp isAxis with own | own
    · exact unit (first ▸ Option.mem_toList.mp own)
    · exact unit (second ▸ Option.mem_toList.mp own)
  · unfold Joint.load at isAxis
    rw [if_neg isJoint] at isAxis
    cases isAxis

theorem lasting_hasUnitAxes : Lasting HasUnitAxes where
  new store kind := by
    cases kind with
    | axis => exact hasUnitAxes_axis.mpr Axis.isUnit_default
    | link | joint | light | binding | model => exact nofun
  load {member} source store unit := by
    cases member with
    | axis entity => exact hasUnitAxes_axis.mpr ((hasUnitAxes_axis.mp unit).load source.element)
    | joint => exact hasUnitAxes_loadJoint source.element source.graph source.tieBreak store
    | link | light | binding | model => exact nofun
  move {member} store pose unit := by
    cases member <;> exact unit
  tell {member} detail unit := by
    unfold HasUnitAxes
    rwa [ownAxes_tell]
  set {member} setting unit := by
    cases member with
    | axis entity => exact hasUnitAxes_axis.mpr ((hasUnitAxes_axis.mp unit).set setting)
    | link | joint | light | binding | model => exact unit
  turn {member} xyz unit := by
    cases member with
    | axis entity => exact hasUnitAxes_axis.mpr ((hasUnitAxes_axis.mp unit).setDirection xyz)
    | link | joint | light | binding | model => exact unit

end Member

namespace Scene

/-- Every axis that can be reached has a direction of unit length.  A vector is taken for the
direction, up to a positive factor, exactly if it is long enough, and nothing changes otherwise.
An element of an axis is reported exactly if it does not state such a vector, and the direction
then stays; limits and dynamics are read all the same.  A joint reports of its axes, and takes
from them, what they do alone. -/
theorem axes_unit :
    (∀ (graph : FrameGraph ℝ) operations place member,
      ((ofGraph graph).run operations).memberAt? place = some member →
        ∀ axis ∈ member.axes, axis.xyz.length = 1) ∧
    (∀ (axis : Axis ℝ) xyz, axis.Turning xyz (axis.setDirection xyz)) ∧
    (∀ (axis : Axis ℝ) element, axis.Reading element (axis.load element)) ∧
    ∀ (element : Element ℝ) graph tieBreak store, element.kind = "joint" →
      let loaded := Joint.load element graph tieBreak store
      let axesOf (kind : String) := (element.first? kind).map Axis.default.load
      loaded.entity.axis = (axesOf "axis").map Prod.fst ∧
        loaded.entity.axis2 = (axesOf "axis2").map Prod.fst ∧
        loaded.diagnostics.filter Diagnostic.isOfAxis =
          ((axesOf "axis").toList ++ (axesOf "axis2").toList).flatMap Prod.snd := by
  refine ⟨fun graph operations place member isMember axis isAxis => ?_,
    Axis.turning_setDirection, fun axis element => (axis.outcome_load element).reading,
    fun element graph tieBreak store isJoint => ?_⟩
  · obtain ⟨entity, inside, own⟩ := List.mem_flatMap.mp isAxis
    have unit := throughout_run Member.lasting_hasUnitAxes graph operations
    exact unit.memberAt? isMember entity inside axis own
  · obtain ⟨first, second⟩ := Joint.axes_load element graph tieBreak store isJoint
    have faults := Joint.filter_load graph tieBreak store isJoint
    simp only [Joint.loadAxis_eq] at first second faults
    intro loaded axesOf
    exact ⟨first, second, faults.trans List.flatMap_append.symm⟩

/-- A hinge is made and loaded from an element with a slanted axis, whose direction is scaled.
A damped axis is loaded from an element whose direction has no length: that is reported, and the
limits are read, some of them by default, while direction and damping stay. -/
theorem axes_unit_hinge :
    let slant : Element ℝ := ⟨"axis", .ofList [("xyz", .vector3 ⟨0, 3, 4⟩)], none, []⟩
    let hinge : Element ℝ := ⟨"joint", .ofList [("name", .string "hinge")], none, [slant]⟩
    let source : MemberSource ℝ := ⟨hinge, none, .unique, .default, .unloaded⟩
    let scene :=
      (ofGraph .empty).run [.create "hinge" .joint, .load (.named "hinge") source]
    let axis := (Axis.default.load slant).1
    let limit : Element ℝ := ⟨"limit", .ofList [("lower", .double (-2))], none, []⟩
    let flat : Element ℝ := ⟨"axis2", .ofList [("xyz", .vector3 ⟨0, 0, 0⟩)], none, [limit]⟩
    let damped : Axis ℝ := Axis.default.set (.damping 3)
    let reloaded := damped.load flat
    (∃ joint, scene.memberAt? (.named "hinge") = some (.joint joint) ∧ joint.axis = some axis ∧
      axis.xyz.length = 1) ∧
    Diagnostic.Reported .attributeInvalid reloaded.2 ∧ reloaded.1.xyz = damped.xyz ∧
    reloaded.1.limit.lower = -2 ∧ reloaded.1.limit.upper = 1e16 ∧
    reloaded.1.dynamics.damping = 3 := by
  intro slant hinge source scene axis limit flat damped reloaded
  obtain ⟨reachable, -, readings, joints⟩ := axes_unit
  constructor
  · let joint :=
      (Joint.load hinge none .unique ((ofGraph .empty).create "hinge" .joint).store).entity
    have isMember : scene.memberAt? (.named "hinge") = some (.joint joint) := rfl
    have own : joint.axis = some axis := (joints hinge none .unique _ rfl).1
    have inside : axis ∈ (Member.joint joint).axes := by
      simp [Member.axes, Member.entities, Member.ownAxes, own]
    exact ⟨joint, isMember, own, reachable .empty _ _ _ isMember axis inside⟩
  · have reading := readings damped flat
    have isAxis : flat.kind ∈ Axis.elementKinds := List.mem_cons_of_mem _ List.mem_cons_self
    have short : (⟨0, 0, 0⟩ : Vec3 ℝ).length < 1e-12 := by
      change Real.sqrt (0 * 0 + 0 * 0 + 0 * 0) < 1e-12
      norm_num
    have invalid : Diagnostic.Reported .attributeInvalid reloaded.2 :=
      reading.invalid_iff.mpr ⟨isAxis, ⟨0, 0, 0⟩, rfl, damped.not_accepted_of_short short⟩
    have rest := reading.rest isAxis
    exact ⟨invalid, reading.kept (.inl invalid), rest.stated .lower limit rfl,
      rest.stated .upper limit rfl, rest.unstated .damping rfl⟩

end Scene

end Kinematics
