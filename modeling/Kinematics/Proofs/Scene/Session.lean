import Kinematics.Proofs.Scene.Members

/-!
# Poses in step with frames

An entity keeps its pose, and the graph keeps the payload of its frame.  Loading and
moving an entity write both.  Entities that were copied from one another have one frame,
though, and moving one of them leaves the others with the pose they had: those are
outdated until they are loaded or moved themselves.
-/

namespace Kinematics

variable {α : Type} [Scalar α]

namespace Scene

def share (scene : Scene α) (left right : String) : Bool :=
  match scene.frameOf? left, scene.frameOf? right with
  | some leftFrame, some rightFrame => decide (leftFrame.Meets rightFrame)
  | _, _ => false

/-- The other members with the frame of a member. -/
def companions (scene : Scene α) (name : String) : List String :=
  (scene.members.map Prod.fst).filter fun other => other != name && scene.share other name

omit [Scalar α] in
theorem mem_companions {scene : Scene α} {name other : String} (different : other ≠ name)
    {member present : Member α} {own frame : Binding}
    (found : scene.member? other = some present) (isFrame : present.frame? = some frame)
    (isMember : scene.member? name = some member) (isOwn : member.frame? = some own)
    (meets : frame.Meets own) : other ∈ scene.companions name := by
  have known : other ∈ scene.members.map Prod.fst := by
    obtain ⟨before, after, split, -⟩ := List.lookup_eq_some_iff.mp found
    rw [split]
    simp
  have shares : scene.share other name = true := by
    simp only [share, frameOf?, found, isMember, Option.bind_some, isFrame, isOwn]
    exact decide_eq_true meets
  refine List.mem_filter.mpr ⟨known, ?_⟩
  rw [shares, bne_iff_ne.mpr different]
  rfl

/-- The members that are outdated after an action, when some were before. -/
def outdatedAfter (scene : Scene α) (outdated : List String) : Action α → List String
  | .create name _ | .load name _ _ => outdated.filter (· != name)
  | .copy source target =>
    match scene.member? source with
    | none => outdated
    | some _ =>
      if source ∈ outdated then target :: outdated else outdated.filter (· != target)
  | .move name _ => outdated.filter (· != name) ++ scene.companions name
  | .rename _ _ | .tell _ _ => outdated

/-- The graphs that an action names are there. -/
def Knows (scene : Scene α) : Action α → Prop
  | .load _ _ source => Binding.Known source.graph scene.store
  | _ => True

/-- Scenes that actions lead to from one without members, the actions so far, and the members
that are outdated. -/
inductive Session : List (Action α) → Scene α → List String → Prop where
  | start (store : GraphStore α) (shared : GraphId) : Session [] ⟨store, shared, []⟩ []
  | act {actions : List (Action α)} {scene : Scene α} {outdated : List String}
      {action : Action α} : Session actions scene outdated → scene.Knows action →
      Session (actions ++ [action]) (scene.act action) (scene.outdatedAfter outdated action)

/-- Every member has a frame that is there, with the member's pose if it is not outdated. -/
def InStep (scene : Scene α) (outdated : List String) : Prop :=
  ∀ name member frame, scene.member? name = some member → member.frame? = some frame →
    ∃ payload, (scene.store.vertexAt? frame).map Vertex.payload = some payload ∧
      (name ∉ outdated → ∀ pose, member.pose? = some pose → payload = Transform.ofPose pose)

/-- A frame of a member is there, and has the member's pose if this is current. -/
def Fits (store : GraphStore α) (frame : Binding) (member : Member α) (current : Prop) : Prop :=
  ∃ payload, (store.vertexAt? frame).map Vertex.payload = some payload ∧
    (current → ∀ pose, member.pose? = some pose → payload = Transform.ofPose pose)

theorem Fits.imp {store : GraphStore α} {frame : Binding} {member : Member α}
    {before after : Prop} (fits : Fits store frame member before) (weaker : after → before) :
    Fits store frame member after := by
  obtain ⟨payload, isPayload, poses⟩ := fits
  exact ⟨payload, isPayload, fun current => poses (weaker current)⟩

/-- Who puts a member under a name has to see to its frame and to those of the others. -/
theorem inStep_putMember {scene : Scene α} {name : String} {member : Member α}
    {outdated : List String}
    (own : ∀ frame, member.frame? = some frame →
      Fits scene.store frame member (name ∉ outdated))
    (others : ∀ other present frame, other ≠ name → scene.member? other = some present →
      present.frame? = some frame → Fits scene.store frame present (other ∉ outdated)) :
    (scene.putMember name member).InStep outdated := by
  intro other present frame found isFrame
  rw [store_putMember]
  rw [member?_putMember] at found
  by_cases here : other = name
  · rw [if_pos here] at found
    obtain rfl := Option.some.inj found
    exact here ▸ own frame isFrame
  · rw [if_neg here] at found
    exact others other present frame here found isFrame

namespace InStep

variable {scene : Scene α} {outdated : List String} (inStep : scene.InStep outdated)

include inStep

theorem fits {name : String} {member : Member α} {frame : Binding}
    (found : scene.member? name = some member) (isFrame : member.frame? = some frame) :
    Fits scene.store frame member (name ∉ outdated) :=
  inStep name member frame found isFrame

/-- More members may be called outdated, and fewer if the others are not there. -/
theorem mono {more : List String}
    (stays : ∀ name member, scene.member? name = some member → name ∈ outdated → name ∈ more) :
    scene.InStep more := by
  intro name member frame found isFrame
  exact (inStep.fits found isFrame).imp fun current stale =>
    current (stays name member found stale)

omit inStep [Scalar α] in
theorem not_mem_of_filter {name other : String} (different : other ≠ name)
    (current : other ∉ outdated.filter (· != name)) : other ∉ outdated := by
  intro stale
  exact current (List.mem_filter.mpr ⟨stale, bne_iff_ne.mpr different⟩)

theorem renew {name : String} {result : Scene α} (renewed : scene.Renewed name result) :
    result.InStep (outdated.filter (· != name)) := by
  obtain ⟨member, after, keeps, fresh, rfl⟩ := renewed
  apply inStep_putMember
  · intro frame isFrame
    obtain ⟨-, vertex, isVertex, poses⟩ := fresh frame isFrame
    exact ⟨vertex.payload, congrArg (Option.map _) isVertex, fun _ => poses⟩
  · intro other present frame different found isFrame
    obtain ⟨payload, isPayload, poses⟩ := inStep other present frame found isFrame
    obtain ⟨vertex, isVertex, rfl⟩ := Option.map_eq_some_iff.mp isPayload
    exact ⟨vertex.payload, congrArg (Option.map _) (keeps frame vertex isVertex),
      fun current => poses (not_mem_of_filter different current)⟩

theorem load {name : String} {kind : MemberKind} {source : MemberSource α}
    (known : Binding.Known source.graph scene.store) :
    (scene.load name kind source).1.InStep (outdated.filter (· != name)) := by
  obtain ⟨between, rfl | created, loaded⟩ := scene.load_cases name kind known
  · exact inStep.renew loaded
  · have renewed := (inStep.renew created).renew loaded
    rw [List.filter_filter] at renewed
    simpa only [Bool.and_self] using renewed

theorem copy (source target : String) :
    (scene.copyMember source target).InStep
      (scene.outdatedAfter outdated (.copy source target)) := by
  simp only [copyMember, copyAt, memberAt?, outdatedAfter]
  cases isSource : scene.member? source with
  | none => exact inStep
  | some member =>
      apply inStep_putMember
      · intro frame isFrame
        apply (inStep.fits isSource isFrame).imp
        intro current stale
        simp only [stale, if_true, List.mem_cons_self, not_true_eq_false] at current
      · intro other present frame different found isFrame
        apply (inStep.fits found isFrame).imp
        intro current
        dsimp only at current
        split at current
        · exact fun stale => current (List.mem_cons_of_mem target stale)
        · exact not_mem_of_filter different current

theorem rename (name frame : String) :
    (scene.setName (.named name) frame).InStep outdated := by
  unfold setName
  cases isMember : scene.memberAt? (.named name) with
  | none => exact inStep
  | some member =>
      intro other present place found isFrame
      obtain ⟨payload, isPayload, poses⟩ := inStep other present place found isFrame
      refine ⟨payload, ?_, poses⟩
      dsimp only
      rw [Member.store_setName]
      cases member.frame? with
      | none => exact isPayload
      | some own => exact (GraphStore.payload_setName own frame place).trans isPayload

/-- The member that is moved and its frame get the same pose. -/
theorem fits_move {name : String} {member : Member α} (isMember : scene.member? name = some member)
    (pose : Pose α) {frame : Binding} (isFrame : member.frame? = some frame) (current : Prop) :
    Fits (member.setPose scene.store pose).1 frame (member.setPose scene.store pose).2 current := by
  obtain ⟨_, old, -⟩ := inStep name member frame isMember isFrame
  obtain ⟨vertex, isVertex, -⟩ := Option.map_eq_some_iff.mp old
  refine ⟨Transform.ofPose pose, ?_, ?_⟩
  · rw [Member.store_setPose, isFrame]
    exact (GraphStore.payload_setPose isVertex pose frame).trans (if_pos ⟨rfl, rfl⟩)
  · intro _ given isPose
    rw [Member.pose?_setPose isPose]

/-- Another member is outdated by the move if it has the same frame, and is as before if not. -/
theorem fits_move_other {name other : String} {member present : Member α}
    (isMember : scene.member? name = some member) (pose : Pose α) (different : other ≠ name)
    (found : scene.member? other = some present) {frame : Binding}
    (isFrame : present.frame? = some frame) :
    Fits (member.setPose scene.store pose).1 frame present
      (other ∉ scene.outdatedAfter outdated (.move name pose)) := by
  obtain ⟨payload, isPayload, poses⟩ := inStep other present frame found isFrame
  have wasCurrent (current : other ∉ scene.outdatedAfter outdated (.move name pose)) :
      other ∉ outdated :=
    not_mem_of_filter different fun stale => current (List.mem_append_left _ stale)
  rw [Member.store_setPose]
  cases isOwn : member.frame? with
  | none => exact ⟨payload, isPayload, fun current => poses (wasCurrent current)⟩
  | some own =>
      obtain ⟨_, old, -⟩ := inStep name member own isMember isOwn
      obtain ⟨vertex, isVertex, -⟩ := Option.map_eq_some_iff.mp old
      have changed := GraphStore.payload_setPose isVertex pose frame
      by_cases meets : frame.Meets own
      · refine ⟨Transform.ofPose pose, changed.trans (if_pos meets), ?_⟩
        intro current
        refine absurd (List.mem_append_right _ ?_) current
        exact mem_companions different found isFrame isMember isOwn meets
      · rw [if_neg meets] at changed
        exact ⟨payload, changed.trans isPayload, fun current => poses (wasCurrent current)⟩

theorem move (name : String) (pose : Pose α) :
    (scene.setPose (.named name) pose).InStep
      (scene.outdatedAfter outdated (.move name pose)) := by
  unfold setPose
  cases isMember : scene.memberAt? (.named name) with
  | none =>
      apply inStep.mono
      intro other present found stale
      apply List.mem_append_left
      refine List.mem_filter.mpr ⟨stale, bne_iff_ne.mpr ?_⟩
      rintro rfl
      exact absurd (isMember.symm.trans found) nofun
  | some member =>
      apply inStep_putMember
      · intro frame isFrame
        have isOwn : (member.setPose scene.store pose).2.frame? = some frame := isFrame
        rw [Member.frame?_setPose] at isOwn
        exact inStep.fits_move isMember pose isOwn _
      · intro other present frame different found isFrame
        exact inStep.fits_move_other isMember pose different found isFrame

theorem tell (name : String) (detail : Detail α) :
    (scene.alter (.named name) fun member => member.tell detail).InStep outdated := by
  unfold alter
  cases isMember : scene.memberAt? (.named name) with
  | none => exact inStep
  | some member =>
      obtain ⟨sameFrame, samePose⟩ := member.coincides_tell detail
      apply inStep_putMember
      · intro frame isFrame
        rw [sameFrame] at isFrame
        unfold Fits
        rw [samePose]
        exact inStep.fits isMember isFrame
      · intro other present frame _ found isFrame
        exact inStep.fits found isFrame

end InStep

theorem Session.inStep {actions : List (Action α)} {scene : Scene α} {outdated : List String}
    (session : Session actions scene outdated) : scene.InStep outdated := by
  induction session with
  | start store shared =>
      intro name member frame found
      cases found
  | @act _ scene _ action _ knows inStep =>
      cases action with
      | create name kind => exact inStep.renew (scene.renewed_create name kind)
      | load name kind source =>
          rw [act_load]
          exact inStep.load knows
      | copy source target => exact inStep.copy source target
      | rename name frame => exact inStep.rename name frame
      | move name pose => exact inStep.move name pose
      | tell name detail => exact inStep.tell name detail

/-- No two members have the same frame. -/
def Apart (scene : Scene α) : Prop :=
  ∀ left right leftFrame rightFrame, scene.frameOf? left = some leftFrame →
    scene.frameOf? right = some rightFrame → leftFrame.Meets rightFrame → left = right

namespace Apart

variable {scene : Scene α} (apart : scene.Apart)

include apart

theorem renew {outdated : List String} (inStep : scene.InStep outdated) {name : String}
    {result : Scene α} (renewed : scene.Renewed name result) : result.Apart := by
  obtain ⟨member, after, -, fresh, rfl⟩ := renewed
  have notMet : ∀ own other frame, member.frame? = some own →
      scene.frameOf? other = some frame → ¬ own.Meets frame := by
    intro own other frame isOwn isFrame meets
    obtain ⟨present, found, isFrame⟩ := Option.bind_eq_some_iff.mp isFrame
    obtain ⟨payload, isPayload, -⟩ := inStep other present frame found isFrame
    rw [← GraphStore.vertexAt?_of_meets _ meets, (fresh own isOwn).1] at isPayload
    cases isPayload
  intro left right leftFrame rightFrame isLeft isRight meets
  rw [frameOf?_putMember] at isLeft isRight
  by_cases leftHere : left = name
  · by_cases rightHere : right = name
    · rw [leftHere, rightHere]
    · rw [if_pos leftHere] at isLeft
      rw [if_neg rightHere] at isRight
      exact absurd meets (notMet leftFrame right rightFrame isLeft isRight)
  · rw [if_neg leftHere] at isLeft
    by_cases rightHere : right = name
    · rw [if_pos rightHere] at isRight
      exact absurd ⟨meets.1.symm, meets.2.symm⟩ (notMet rightFrame left leftFrame isRight isLeft)
    · rw [if_neg rightHere] at isRight
      exact apart left right leftFrame rightFrame isLeft isRight meets

omit [Scalar α] in
theorem of_frames {result : Scene α} (same : ∀ name, result.frameOf? name = scene.frameOf? name) :
    result.Apart := by
  intro left right leftFrame rightFrame isLeft isRight
  rw [same] at isLeft isRight
  exact apart left right leftFrame rightFrame isLeft isRight

omit [Scalar α] in
theorem companions (name : String) : scene.companions name = [] := by
  apply List.filter_eq_nil_iff.mpr
  intro other _ both
  obtain ⟨different, shares⟩ := Bool.and_eq_true_iff.mp both
  unfold share at shares
  split at shares
  · rename_i leftFrame rightFrame isLeft isRight
    exact bne_iff_ne.mp different
      (apart other name leftFrame rightFrame isLeft isRight (of_decide_eq_true shares))
  · cases shares

end Apart

/-- Without copies, members have frames of their own and are never outdated. -/
theorem Session.apart {actions : List (Action α)} {scene : Scene α} {outdated : List String}
    (session : Session actions scene outdated)
    (noCopy : ∀ source target, Action.copy source target ∉ actions) :
    scene.Apart ∧ outdated = [] := by
  induction session with
  | start store shared =>
      refine ⟨?_, rfl⟩
      intro left right leftFrame rightFrame isLeft
      cases isLeft
  | @act actions scene outdated action session knows induction =>
      obtain ⟨apart, rfl⟩ := induction fun source target member =>
        noCopy source target (List.mem_append_left _ member)
      have inStep := session.inStep
      cases action with
      | create name kind => exact ⟨apart.renew inStep (scene.renewed_create name kind), rfl⟩
      | load name kind source =>
          rw [act_load]
          obtain ⟨between, rfl | created, loaded⟩ := scene.load_cases name kind knows
          · exact ⟨apart.renew inStep loaded, rfl⟩
          · exact ⟨(apart.renew inStep created).renew (inStep.renew created) loaded, rfl⟩
      | copy source target =>
          exact absurd (List.mem_append_right _ List.mem_cons_self) (noCopy source target)
      | rename name frame =>
          refine ⟨apart.of_frames fun other => ?_, rfl⟩
          change (scene.setName (.named name) frame).frameOf? other = _
          unfold setName
          split <;> rfl
      | move name pose =>
          exact ⟨apart.of_frames (scene.frameOf?_move name pose), apart.companions name⟩
      | tell name detail => exact ⟨apart.of_frames (scene.frameOf?_tell name detail), rfl⟩

/-- After any actions, the pose of every member that is not outdated is the one that the
payload of its frame stands for, and only copies can make members outdated. -/
theorem Session.payload_eq_ofPose {actions : List (Action α)} {scene : Scene α}
    {outdated : List String} (session : Session actions scene outdated) :
    (∀ name member frame pose, scene.member? name = some member →
      member.frame? = some frame → member.pose? = some pose → name ∉ outdated →
      ∃ vertex, (scene.store.graph frame.graph).vertex? frame.vertex = some vertex ∧
        vertex.payload = Transform.ofPose pose) ∧
    ((∀ source target, Action.copy source target ∉ actions) → outdated = []) := by
  constructor
  · intro name member frame pose found isFrame isPose current
    obtain ⟨payload, isPayload, poses⟩ := session.inStep name member frame found isFrame
    obtain ⟨vertex, isVertex, rfl⟩ := Option.map_eq_some_iff.mp isPayload
    exact ⟨vertex, isVertex, poses current pose isPose⟩
  · exact fun noCopy => (session.apart noCopy).2

def aside : Pose Float := ⟨⟨1.0, 0.0, 0.0⟩, Quaternion.identity⟩

/-- A wheel is put there, a spare is copied from it, and the spare is moved aside. -/
def spareWheel : List (Action Float) :=
  [.create "wheel" .link, .copy "wheel" "spare", .move "spare" aside]

/-- A workshop without members, after some actions. -/
def workshop (actions : List (Action Float)) : Scene Float :=
  actions.foldl act ⟨.empty, ⟨0⟩, []⟩

theorem session_spareWheel : Session spareWheel (workshop spareWheel) ["wheel"] := by
  have created : Session (spareWheel.take 1) (workshop (spareWheel.take 1)) [] :=
    .act (.start .empty ⟨0⟩) trivial
  have copied : Session (spareWheel.take 2) (workshop (spareWheel.take 2)) [] :=
    created.act trivial
  exact copied.act trivial

theorem Session.payload_eq_ofPose_spareWheel :
    Session spareWheel (workshop spareWheel) ["wheel"] ∧ "spare" ∉ ["wheel"] ∧
      ∃ member frame pose, (workshop spareWheel).member? "spare" = some member ∧
        member.frame? = some frame ∧ member.pose? = some pose ∧
        ∃ vertex, ((workshop spareWheel).store.graph frame.graph).vertex? frame.vertex =
            some vertex ∧
          vertex.payload = Transform.ofPose pose := by
  have current : "spare" ∉ ["wheel"] := by decide
  exact ⟨session_spareWheel, current, _, _, _, rfl, rfl, rfl,
    session_spareWheel.payload_eq_ofPose.1 "spare" _ _ _ rfl rfl rfl current⟩

/-- Moving the spare leaves the wheel at a pose that is not the one of its frame. -/
theorem Session.payload_ne_ofPose_wheel :
    Session spareWheel (workshop spareWheel) ["wheel"] ∧
      ∃ member frame pose, (workshop spareWheel).member? "wheel" = some member ∧
        member.frame? = some frame ∧ member.pose? = some pose ∧
        ¬ ∃ vertex, ((workshop spareWheel).store.graph frame.graph).vertex? frame.vertex =
            some vertex ∧
          vertex.payload = Transform.ofPose pose := by
  refine ⟨session_spareWheel, _, _, _, rfl, rfl, rfl, ?_⟩
  rintro ⟨vertex, isVertex, same⟩
  have moved : vertex.payload = Transform.ofPose aside :=
    congrArg Vertex.payload (Option.some.inj isVertex).symm
  have displaced : (1.0 : Float) = 0.0 := congrArg (·.r₀.t) (moved.symm.trans same)
  exact absurd (congrArg Float.toBits displaced) (by decide)

end Scene

end Kinematics
