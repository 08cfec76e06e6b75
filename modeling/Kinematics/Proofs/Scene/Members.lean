import Kinematics.Proofs.Scene.Frames
import Kinematics.Scene.Action

/-!
# What actions do to members

A member that is made or loaded gets a new frame, and all older frames stay as they are.
Every other action leaves the frames of the members where they were.
-/

namespace Kinematics

variable {α : Type} [Scalar α]

namespace Member

theorem frame?_setPose (member : Member α) (store : GraphStore α) (pose : Pose α) :
    (member.setPose store pose).2.frame? = member.frame? := by
  cases member <;> rfl

theorem pose?_setPose {member : Member α} {store : GraphStore α} {pose other : Pose α}
    (found : (member.setPose store pose).2.pose? = some other) : other = pose := by
  cases member with
  | link => exact (Option.some.inj found).symm
  | joint => exact (Option.some.inj found).symm
  | light => exact (Option.some.inj found).symm
  | axis => cases found
  | binding => cases found
  | model => cases found

theorem pose?_setPose_of_some {member : Member α} {before : Pose α}
    (isPose : member.pose? = some before) (store : GraphStore α) (pose : Pose α) :
    (member.setPose store pose).2.pose? = some pose := by
  cases member with
  | link | joint | light => rfl
  | axis | binding | model => cases isPose

theorem store_setPose (member : Member α) (store : GraphStore α) (pose : Pose α) :
    (member.setPose store pose).1 =
      (member.frame?.map fun frame => frame.setPose store pose).getD store := by
  cases member <;> rfl

omit [Scalar α] in
theorem store_setName (member : Member α) (store : GraphStore α) (name : String) :
    member.setName store name =
      (member.frame?.map fun frame => frame.setName store name).getD store := by
  cases member <;> rfl

omit [Scalar α] in
/-- Two members have the same frame and the same pose. -/
def Coincides (left right : Member α) : Prop :=
  left.frame? = right.frame? ∧ left.pose? = right.pose?

omit [Scalar α] in
theorem coincides_setPoseFrame (member : Member α) (frame : String) :
    Coincides (member.setPoseFrame frame).1 member := by
  cases member with
  | link before =>
      change Coincides ((before.setPoseFrame frame).map link id).1 _
      unfold Link.setPoseFrame
      split <;> exact ⟨rfl, rfl⟩
  | joint before =>
      change Coincides ((before.setPoseFrame frame).map joint id).1 _
      unfold Joint.setPoseFrame
      split <;> exact ⟨rfl, rfl⟩
  | light before =>
      change Coincides ((before.setPoseFrame frame).map light id).1 _
      unfold Light.setPoseFrame
      split <;> exact ⟨rfl, rfl⟩
  | axis => exact ⟨rfl, rfl⟩
  | binding => exact ⟨rfl, rfl⟩
  | model => exact ⟨rfl, rfl⟩

theorem coincides_tell (member : Member α) (detail : Detail α) :
    (member.tell detail).Coincides member := by
  cases detail with
  | poseFrame frame => exact member.coincides_setPoseFrame frame
  | jointType type => cases member <;> exact ⟨rfl, rfl⟩
  | parent name => cases member <;> exact ⟨rfl, rfl⟩
  | child name => cases member <;> exact ⟨rfl, rfl⟩
  | light setting =>
      cases member with
      | light before => cases setting <;> exact ⟨rfl, rfl⟩
      | link => exact ⟨rfl, rfl⟩
      | joint => exact ⟨rfl, rfl⟩
      | axis => exact ⟨rfl, rfl⟩
      | binding => exact ⟨rfl, rfl⟩
      | model => exact ⟨rfl, rfl⟩

end Member

namespace Scene

theorem lookup_replace {β : Type} (entries : List (String × β)) (name : String) (value : β)
    (other : String) :
    (entries.map fun (key, present) => (key, if key = name then value else present)).lookup other =
      (entries.lookup other).map fun present => if other = name then value else present := by
  induction entries with
  | nil => rfl
  | cons entry rest induction =>
      obtain ⟨key, present⟩ := entry
      rw [List.map_cons, List.lookup_cons, List.lookup_cons, induction]
      cases same : other == key with
      | false => rfl
      | true =>
          rw [eq_of_beq same]
          rfl

omit [Scalar α] in
theorem member?_putMember (scene : Scene α) (name : String) (member : Member α)
    (other : String) :
    (scene.putMember name member).member? other =
      if other = name then some member else scene.member? other := by
  unfold putMember member?
  split
  · rename_i present
    rw [lookup_replace]
    split
    · rename_i here
      obtain ⟨old, isOld⟩ := Option.isSome_iff_exists.mp present
      rw [here, isOld]
      rfl
    · exact Option.map_id'
  · rename_i absent
    rw [List.lookup_append, List.lookup_cons]
    by_cases here : other = name
    · subst here
      rw [if_pos rfl, Option.not_isSome_iff_eq_none.mp absent, beq_self_eq_true]
      rfl
    · rw [if_neg here, beq_false_of_ne here]
      exact Option.or_none

omit [Scalar α] in
theorem store_putMember (scene : Scene α) (name : String) (member : Member α) :
    (scene.putMember name member).store = scene.store := by
  unfold putMember
  split <;> rfl

def frameOf? (scene : Scene α) (name : String) : Option Binding :=
  (scene.member? name).bind Member.frame?

theorem store_create (scene : Scene α) (name : String) (kind : MemberKind) :
    (scene.create name kind).store = (Member.new scene.store kind).1 := by
  unfold create
  rw [store_putMember]

theorem member?_create (scene : Scene α) (name : String) (kind : MemberKind) :
    (scene.create name kind).member? name = some (Member.new scene.store kind).2 := by
  unfold create
  rw [member?_putMember, if_pos rfl]

theorem load_of_some {scene : Scene α} {name : String} {member : Member α}
    (isMember : scene.member? name = some member) (kind : MemberKind) (source : MemberSource α) :
    (scene.load name kind source).1 =
      { scene with store := (member.load source scene.store).store }.putMember name
        (member.load source scene.store).entity := by
  simp only [load, loadAt, memberAt?, isMember, Option.isSome_some, if_true]
  rfl

theorem load_of_none {scene : Scene α} {name : String} (absent : scene.member? name = none)
    (kind : MemberKind) (source : MemberSource α) :
    (scene.load name kind source).1 =
      ((scene.create name kind).load name kind source).1 := by
  rw [load_of_some (scene.member?_create name kind)]
  simp only [load, loadAt, memberAt?, absent, Option.isSome_none, Bool.false_eq_true, if_false,
    member?_create]
  rfl

theorem act_load (scene : Scene α) (name : String) (kind : MemberKind) (source : MemberSource α) :
    scene.act (.load name kind source) = (scene.load name kind source).1 := by
  unfold act load
  dsimp only [Action.operations]
  split <;> rfl

/-- A member with a new frame has been put under a name, and all older frames are as before. -/
def Renewed (scene : Scene α) (name : String) (result : Scene α) : Prop :=
  ∃ member after, scene.store.Keeps after ∧ member.IsFresh scene.store after ∧
    result = { scene with store := after }.putMember name member

theorem renewed_create (scene : Scene α) (name : String) (kind : MemberKind) :
    scene.Renewed name (scene.create name kind) := by
  refine ⟨_, _, ?_, Member.isFresh_new scene.store kind, rfl⟩
  exact (GraphStore.kept_keeps scene.store).new (fun _ _ found => found) kind

theorem renewed_load {scene : Scene α} {name : String} {member : Member α}
    (isMember : scene.member? name = some member) {kind : MemberKind} {source : MemberSource α}
    (known : Binding.Known source.graph scene.store) :
    scene.Renewed name (scene.load name kind source).1 := by
  refine ⟨_, _, ?_, member.isFresh_load known, load_of_some isMember kind source⟩
  exact (GraphStore.kept_keeps scene.store).load (fun _ _ found => found) member source

/-- A load renews the member, after it has been made if it was not there. -/
theorem load_cases (scene : Scene α) (name : String) (kind : MemberKind)
    {source : MemberSource α} (known : Binding.Known source.graph scene.store) :
    ∃ between, (between = scene ∨ scene.Renewed name between) ∧
      between.Renewed name (scene.load name kind source).1 := by
  cases isMember : scene.member? name with
  | some member => exact ⟨scene, .inl rfl, renewed_load isMember known⟩
  | none =>
      rw [load_of_none isMember]
      refine ⟨_, .inr (scene.renewed_create name kind), ?_⟩
      apply renewed_load (scene.member?_create name kind)
      rw [store_create]
      exact (GraphStore.kept_known source.graph).new known kind

omit [Scalar α] in
theorem frameOf?_putMember (scene : Scene α) (name : String) (member : Member α)
    (other : String) :
    (scene.putMember name member).frameOf? other =
      if other = name then member.frame? else scene.frameOf? other := by
  unfold frameOf?
  rw [member?_putMember]
  split <;> rfl

theorem frameOf?_move (scene : Scene α) (name : String) (pose : Pose α) (other : String) :
    (scene.setPose (.named name) pose).frameOf? other = scene.frameOf? other := by
  unfold setPose
  cases isMember : scene.memberAt? (.named name) with
  | none => rfl
  | some member =>
      dsimp only [putMemberAt]
      rw [frameOf?_putMember, Member.frame?_setPose]
      split
      · rename_i here
        rw [here]
        exact (congrArg (Option.bind · Member.frame?) isMember).symm
      · rfl

theorem frameOf?_tell (scene : Scene α) (name : String) (detail : Detail α) (other : String) :
    (scene.act (.tell name detail)).frameOf? other = scene.frameOf? other := by
  change (scene.alter (.named name) fun member => member.tell detail).frameOf? other = _
  unfold alter
  cases isMember : scene.memberAt? (.named name) with
  | none => rfl
  | some member =>
      dsimp only [putMemberAt]
      rw [frameOf?_putMember, (member.coincides_tell detail).1]
      split
      · rename_i here
        rw [here]
        exact (congrArg (Option.bind · Member.frame?) isMember).symm
      · rfl

end Scene

end Kinematics
