import Kinematics.Proofs.Entity.Loading
import Kinematics.Scene.Operation

/-!
# Pose frames

The pose of a link, a joint or a light is given in a frame that the entity knows by name.
No change after the load takes the name away, and a joint finds one for itself in any case.
A link or a light that states none takes over the name of the root, whatever that is: where
the root has the empty name, so has the pose frame.
-/

namespace Kinematics

variable {α : Type} [Scalar α]

namespace Member

/-- An element is of the kind that a member with a pose frame is loaded from. -/
def Takes (element : Element α) : Member α → Prop
  | link _ => element.kind = "link"
  | joint _ => element.kind = "joint"
  | light _ => element.kind = "light"
  | axis _ | binding _ | model _ => False

/-- One thing that is done to a member after it has been loaded. -/
inductive Edit (α : Type) where
  | rename (name : String)
  | move (pose : Pose α)
  | tell (detail : Detail α)

/-- The graphs and the member after an edit. -/
def edit (state : GraphStore α × Member α) : Edit α → GraphStore α × Member α
  | .rename name => (state.2.setName state.1 name, state.2)
  | .move pose => state.2.setPose state.1 pose
  | .tell detail => (state.1, state.2.tell detail)

/-- The pose frame after an edit, where there was one before. -/
def Edit.poseFrameAfter (frame : String) : Edit α → String
  | .tell (.poseFrame name) => if name.isEmpty then frame else name
  | _ => frame

/-- The pose frame that a member has right after it has been loaded from an element of its
kind. -/
def poseFrameOf (source : MemberSource α) (store : GraphStore α) : String :=
  let stated := (locatedPoseOf source.element).frame
  if source.element.kind = "joint" then
    if stated.isEmpty then
      Joint.firstNamed
        [(source.element.read? Value.toString? "child").getD "",
          (source.element.read? Value.toString? "parent").getD "",
          source.element.name?.getD ""]
    else stated
  else if stated.isEmpty then rootOf store source.graph else stated

theorem poseFrame?_load {member : Member α} {source : MemberSource α}
    (takes : member.Takes source.element) (store : GraphStore α) :
    (member.load source store).entity.poseFrame? = some (poseFrameOf source store) := by
  unfold poseFrameOf
  cases member with
  | link before =>
      have isLink : source.element.kind = "link" := takes
      change ((Link.load _ _ _ _).map link).entity.poseFrame? = _
      unfold Link.load
      simp only [isLink, if_true, String.reduceEq, if_false]
      rfl
  | joint before =>
      have isJoint : source.element.kind = "joint" := takes
      change ((Joint.load _ _ _ _).map joint).entity.poseFrame? = _
      unfold Joint.load
      simp only [isJoint, if_true]
      rfl
  | light before =>
      have isLight : source.element.kind = "light" := takes
      change ((Light.load _ _ _ _).map light).entity.poseFrame? = _
      unfold Light.load
      simp only [isLight, if_true, String.reduceEq, if_false]
      rfl
  | axis => exact takes.elim
  | binding => exact takes.elim
  | model => exact takes.elim

omit [Scalar α] in
theorem poseFrame?_setPoseFrame {member : Member α} {frame : String}
    (before : member.poseFrame? = some frame) (name : String) :
    (member.setPoseFrame name).1.poseFrame? = some (if name.isEmpty then frame else name) := by
  cases member with
  | link entity =>
      change ((entity.setPoseFrame name).map link id).1.poseFrame? = _
      unfold Link.setPoseFrame
      split
      · exact before
      · rfl
  | joint entity =>
      change ((entity.setPoseFrame name).map joint id).1.poseFrame? = _
      unfold Joint.setPoseFrame
      split
      · exact before
      · rfl
  | light entity =>
      change ((entity.setPoseFrame name).map light id).1.poseFrame? = _
      unfold Light.setPoseFrame
      split
      · exact before
      · rfl
  | axis => cases before
  | binding => cases before
  | model => cases before

/-- An edit changes the pose frame of a member only if it tells another one with a name. -/
theorem poseFrame?_edit {state : GraphStore α × Member α} {frame : String}
    (before : state.2.poseFrame? = some frame) (change : Edit α) :
    (edit state change).2.poseFrame? = some (change.poseFrameAfter frame) := by
  obtain ⟨store, member⟩ := state
  cases change with
  | rename name => exact before
  | move pose => cases member <;> exact before
  | tell detail =>
      cases detail with
      | poseFrame name => exact poseFrame?_setPoseFrame before name
      | jointType type => cases member <;> exact before
      | parent name => cases member <;> exact before
      | child name => cases member <;> exact before
      | light setting =>
          cases member with
          | light entity => cases setting <;> exact before
          | link => exact before
          | joint => exact before
          | axis => cases before
          | binding => cases before
          | model => cases before

theorem poseFrame?_foldl_edit {state : GraphStore α × Member α} {frame : String}
    (before : state.2.poseFrame? = some frame) (edits : List (Edit α)) :
    (edits.foldl edit state).2.poseFrame? =
      some (edits.foldl Edit.poseFrameAfter frame) := by
  induction edits generalizing state frame with
  | nil => exact before
  | cons change rest induction => exact induction (poseFrame?_edit before change)

omit [Scalar α] in
theorem Edit.poseFrameAfter_eq_empty {frame : String} {change : Edit α} :
    change.poseFrameAfter frame = "" ↔
      frame = "" ∧ ∀ name, change = .tell (.poseFrame name) → name = "" := by
  cases change with
  | rename => simp [poseFrameAfter]
  | move => simp [poseFrameAfter]
  | tell detail =>
      cases detail with
      | poseFrame name =>
          by_cases empty : name = ""
          · simp [poseFrameAfter, empty]
          · simp [poseFrameAfter, empty, String.isEmpty_iff]
      | jointType => simp [poseFrameAfter]
      | parent => simp [poseFrameAfter]
      | child => simp [poseFrameAfter]
      | light => simp [poseFrameAfter]

omit [Scalar α] in
/-- A name that a pose frame once has is never given up for the empty one. -/
theorem Edit.foldl_poseFrameAfter_eq_empty {frame : String} {edits : List (Edit α)} :
    edits.foldl poseFrameAfter frame = "" ↔
      frame = "" ∧ ∀ name, .tell (.poseFrame name) ∈ edits → name = "" := by
  induction edits generalizing frame with
  | nil => simp
  | cons change rest induction =>
      rw [List.foldl_cons, induction, poseFrameAfter_eq_empty]
      simp only [List.mem_cons, or_imp, forall_and, and_assoc, eq_comm (a := change)]

end Member

theorem Joint.firstNamed_ne_empty (names : List String) : firstNamed names ≠ "" := by
  unfold firstNamed
  cases found : names.find? fun name => !name.isEmpty with
  | none => decide
  | some name =>
      have named : name.isEmpty = false := by simpa using List.find?_some found
      rintro rfl
      cases named

omit [Scalar α] in
theorem rootOf_eq_empty {store : GraphStore α} {graph : Option GraphId} :
    rootOf store graph = "" ↔
      ∃ id, graph = some id ∧ (store.graph id).rootName? = some "" := by
  unfold rootOf
  cases graph with
  | none =>
      rw [Option.bind_none]
      exact iff_of_false (by decide) nofun
  | some id =>
      rw [Option.bind_some]
      constructor
      · intro empty
        refine ⟨id, rfl, ?_⟩
        cases found : (store.graph id).rootName? with
        | none =>
            rw [found] at empty
            exact absurd empty (by decide)
        | some root =>
            rw [found] at empty
            exact congrArg some empty
      · rintro ⟨other, isGraph, isRoot⟩
        obtain rfl := Option.some.inj isGraph
        rw [isRoot]
        rfl

namespace Member

theorem poseFrameOf_eq_empty {source : MemberSource α} {store : GraphStore α} :
    poseFrameOf source store = "" ↔
      source.element.kind ≠ "joint" ∧ (locatedPoseOf source.element).frame = "" ∧
        ∃ id, source.graph = some id ∧ (store.graph id).rootName? = some "" := by
  have stated : (locatedPoseOf source.element).frame.isEmpty = true ↔
      (locatedPoseOf source.element).frame = "" := String.isEmpty_iff
  unfold poseFrameOf
  by_cases isJoint : source.element.kind = "joint"
  · refine iff_of_false ?_ fun other => other.1 isJoint
    dsimp only
    rw [if_pos isJoint]
    split
    · exact Joint.firstNamed_ne_empty _
    · rename_i named
      exact fun empty => named (stated.mpr empty)
  · dsimp only
    rw [if_neg isJoint]
    by_cases empty : (locatedPoseOf source.element).frame = ""
    · rw [if_pos (stated.mpr empty), rootOf_eq_empty]
      simp only [isJoint, empty, ne_eq, not_false_eq_true, true_and]
    · rw [if_neg fun isEmpty => empty (stated.mp isEmpty)]
      simp only [empty, false_and, and_false]

/-- After a load from an element of its kind, and after any names, poses, pose frames and
other details that it is given, a member has a pose frame.  That is the empty name in one
case only: the member is a link or a light that states no pose frame, was loaded into a graph
whose root had the empty name, and has not been told another pose frame since. -/
theorem poseFrame_eq_empty_iff {member : Member α} {source : MemberSource α}
    (takes : member.Takes source.element) (store : GraphStore α) (edits : List (Edit α)) :
    let loaded := member.load source store
    let state := edits.foldl edit (loaded.store, loaded.entity)
    ∃ frame, state.2.poseFrame? = some frame ∧
      (frame = "" ↔
        source.element.kind ≠ "joint" ∧ (locatedPoseOf source.element).frame = "" ∧
          (∃ id, source.graph = some id ∧ (store.graph id).rootName? = some "") ∧
          ∀ name, .tell (.poseFrame name) ∈ edits → name = "") := by
  intro loaded state
  refine ⟨_, poseFrame?_foldl_edit (poseFrame?_load takes store) edits, ?_⟩
  rw [Edit.foldl_poseFrameAfter_eq_empty, poseFrameOf_eq_empty, and_assoc, and_assoc]

/-- A link with nothing but its name, to be loaded into the first graph. -/
def wheelSource : MemberSource Float :=
  { element := ⟨"link", .ofList [("name", .string "wheel")], none, []⟩
    graph := some ⟨0⟩
    tieBreak := .firstInserted
    settings := .default
    frame := .unloaded }

/-- A link that is loaded again from it. -/
def wheel : Member Float := link ⟨Pose.identity, "", ⟨⟨0⟩, ⟨0⟩, false⟩, none⟩

/-- A graph whose root has the empty name. -/
def namelessStore : GraphStore Float := ⟨[.withRoot ""]⟩

/-- The wheel is told a pose frame, then the empty one, and gets the empty name. -/
def wheelEdits : List (Edit Float) :=
  [.tell (.poseFrame "axle"), .tell (.poseFrame ""), .rename ""]

theorem poseFrame_eq_empty_iff_wheel :
    let loaded := wheel.load wheelSource namelessStore
    let state := wheelEdits.foldl edit (loaded.store, loaded.entity)
    wheel.Takes wheelSource.element ∧
      ∃ frame, state.2.poseFrame? = some frame ∧ frame ≠ "" := by
  intro loaded state
  have takes : wheel.Takes wheelSource.element := rfl
  obtain ⟨frame, found, empty⟩ := poseFrame_eq_empty_iff takes namelessStore wheelEdits
  refine ⟨takes, frame, found, ?_⟩
  intro isEmpty
  obtain ⟨-, -, -, untold⟩ := empty.mp isEmpty
  exact absurd (untold "axle" List.mem_cons_self) (by decide)

/-- Right after the load the wheel has the empty name of the root for its pose frame. -/
theorem poseFrame_wheel_empty :
    wheel.Takes wheelSource.element ∧
      (wheel.load wheelSource namelessStore).entity.poseFrame? = some "" :=
  ⟨rfl, rfl⟩

end Member

end Kinematics
