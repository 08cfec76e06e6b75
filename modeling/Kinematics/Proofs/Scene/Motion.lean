import Kinematics.Proofs.Frame.Descendants
import Kinematics.Proofs.Frame.Products
import Kinematics.Proofs.Scene.Forest
import Kinematics.Proofs.Scene.Isolation

/-!
# Moving a frame

Moving a frame changes one payload, which a path meets only where it crosses the edges of the
frame.  In a forest that happens exactly if the frame separates the ends of the path, so the
frames that descend from the moved one keep their places among themselves, and so do all others.
-/

namespace Kinematics

/-- What a step across the edges of a frame multiplies by: the payload of the frame on the way
to it, and its inverse on the way back. -/
def Step.factor {α : Type} [Scalar α] (step : Step) (frame : VertexId) (payload : Transform α) :
    Transform α :=
  if step.target = frame then payload else payload.rigidInverse

namespace FrameGraph

/-- At most the payload of one frame differs. -/
structure DifferAt {α : Type} (before after : FrameGraph α) (frame : VertexId) : Prop where
  edges : after.edges = before.edges
  name? : ∀ id, (after.vertex? id).map Vertex.name = (before.vertex? id).map Vertex.name
  others : ∀ id, id ≠ frame → after.vertex? id = before.vertex? id

namespace DifferAt

section Search

variable {α : Type} {before after : FrameGraph α} {frame : VertexId}
  (differ : before.DifferAt after frame)

include differ

theorem names_eq : after.names = before.names := by
  apply List.ext_getElem?
  intro position
  simpa [names, vertex?] using differ.name? ⟨position⟩

theorem contains_eq (id : VertexId) : after.contains id = before.contains id := by
  simpa [contains] using congrArg Option.isSome (differ.name? id)

theorem length_vertices : after.vertices.length = before.vertices.length := by
  simpa [names] using congrArg List.length differ.names_eq

theorem findPath_eq (source goal : VertexId) :
    after.findPath source goal = before.findPath source goal :=
  findPath_congr differ.edges differ.length_vertices source goal

theorem edge?_eq (id : EdgeId) : after.edge? id = before.edge? id :=
  congrArg (fun edges => edges[id.index]?) differ.edges

variable [Scalar α]

theorem composeStep_eq {step : Step} (elsewhere : ¬before.Crosses frame step)
    (product : Transform α) : after.composeStep product step = before.composeStep product step := by
  unfold composeStep
  rw [differ.edge?_eq]
  cases found : before.edge? step.edge with
  | none => rfl
  | some edge =>
      have other : edge.child ≠ frame := fun same => elsewhere ⟨edge, found, same⟩
      simp only [differ.others edge.child other]

/-- A path that does not cross the edges of the frame multiplies to the same product. -/
theorem composePath_eq {path : List Step} (elsewhere : ∀ step ∈ path, ¬before.Crosses frame step) :
    after.composePath path = before.composePath path := by
  unfold composePath
  generalize (Transform.identity : Transform α) = product
  induction path generalizing product with
  | nil => rfl
  | cons step rest induction =>
      simp only [List.forall_mem_cons] at elsewhere
      rw [List.foldlM_cons, List.foldlM_cons, differ.composeStep_eq elsewhere.1]
      exact bind_congr (induction elsewhere.2)

theorem poseBetween_eq_of_path {source goal : VertexId}
    (elsewhere : ∀ path, before.findPath source goal = some path →
      ∀ step ∈ path, ¬before.Crosses frame step) :
    after.poseBetween source goal = before.poseBetween source goal := by
  have sourceName := differ.name? source
  have goalName := differ.name? goal
  unfold poseBetween
  rw [differ.findPath_eq]
  cases isFirst : before.vertex? source with
  | none =>
      rw [isFirst] at sourceName
      rw [Option.map_eq_none_iff.mp sourceName]
  | some first =>
      rw [isFirst] at sourceName
      obtain ⟨newFirst, foundFirst, sameFirst⟩ := Option.map_eq_some_iff.mp sourceName
      cases isLast : before.vertex? goal with
      | none =>
          rw [isLast] at goalName
          rw [foundFirst, Option.map_eq_none_iff.mp goalName]
      | some last =>
          rw [isLast] at goalName
          obtain ⟨newLast, foundLast, sameLast⟩ := Option.map_eq_some_iff.mp goalName
          rw [foundFirst, foundLast]
          cases found : before.findPath source goal with
          | none => simp only [sameFirst, sameLast]
          | some path => simp only [differ.composePath_eq (elsewhere path found)]

/-- Two frames that the moved one does not separate keep their pose. -/
theorem poseBetween_eq {parent : VertexId → Option VertexId} (hangs : before.Hangs parent)
    (within : before.EdgesWithin) {source goal : VertexId}
    (together : before.Descends source frame ↔ before.Descends goal frame) :
    after.poseBetween source goal = before.poseBetween source goal := by
  apply differ.poseBetween_eq_of_path
  intro path found
  rcases hangs.crosses_iff_separates frame (simplePath_of_findPath within found) with
    ⟨-, never⟩ | ⟨apart, -⟩
  · exact never
  · exact absurd together apart

end Search

end DifferAt

/-- The path between two vertices crosses the edges of a frame in one step, before and after
which its payloads multiply to two products. -/
structure CrossesAt (graph : FrameGraph ℝ) (frame source goal : VertexId) (first : List Step)
    (step : Step) (last : List Step) (left right : Transform ℝ) : Prop where
  found : graph.findPath source goal = some (first ++ step :: last)
  crosses : graph.Crosses frame step
  others : ∀ other ∈ first ++ last, ¬graph.Crosses frame other
  toFrame : graph.composePath first = .ok left
  onward : graph.composePath last = .ok right

section Products

variable {graph before after : FrameGraph ℝ} {frame source goal : VertexId}
  {first last : List Step} {step : Step} {left right : Transform ℝ}

theorem DifferAt.crossesAt (differ : before.DifferAt after frame)
    (crossing : before.CrossesAt frame source goal first step last left right) :
    after.CrossesAt frame source goal first step last left right := by
  obtain ⟨found, ⟨edge, isEdge, isChild⟩, others, toFrame, onward⟩ := crossing
  have elsewhere (other : Step) (onPath : other ∈ first ++ last) : ¬after.Crosses frame other := by
    unfold Crosses
    rw [differ.edge?_eq]
    exact others other onPath
  refine ⟨?_, ⟨edge, ?_, isChild⟩, elsewhere, ?_, ?_⟩
  · rwa [differ.findPath_eq]
  · rwa [differ.edge?_eq]
  · rwa [differ.composePath_eq fun other onPath => others other (List.mem_append_left _ onPath)]
  · rwa [differ.composePath_eq fun other onPath => others other (List.mem_append_right _ onPath)]

/-- In a forest the path between joined vertices crosses the edges of a frame that separates
them, downward if it leads to the side of the frame. -/
theorem Hangs.exists_crossesAt {parent : VertexId → Option VertexId} (hangs : graph.Hangs parent)
    (within : graph.EdgesWithin) (joined : graph.Joined source goal)
    (separated : ¬(graph.Descends source frame ↔ graph.Descends goal frame)) :
    ∃ first step last left right, graph.CrossesAt frame source goal first step last left right ∧
      (step.target = frame ↔ graph.Descends goal frame) := by
  obtain ⟨path, found, earliest⟩ := findPath_eq_some within joined
  rcases hangs.crosses_iff_separates frame ⟨earliest.walk, earliest.simple⟩ with
    ⟨together, -⟩ | ⟨-, first, step, last, rfl, crosses, others, side⟩
  · exact absurd together separated
  · obtain ⟨middle, toFrame, rest⟩ := Walk.append_iff.mp earliest.walk
    obtain ⟨-, -, onward⟩ := Walk.cons_iff.mp rest
    obtain ⟨left, isLeft⟩ := toFrame.exists_composePath within
    obtain ⟨right, isRight⟩ := onward.exists_composePath within
    exact ⟨first, step, last, left, right, ⟨found, crosses, others, isLeft, isRight⟩, side⟩

theorem composePath_of_crosses {vertex : Vertex ℝ} (crosses : graph.Crosses frame step)
    (isFrame : graph.vertex? frame = some vertex) :
    graph.composePath [step] = .ok (step.factor frame vertex.payload) := by
  obtain ⟨edge, isEdge, rfl⟩ := crosses
  rw [composePath_singleton]
  unfold composeStep Step.factor
  simp only [isEdge, isFrame]
  split
  · simp
  · simp

/-- The pose that is read off a path across the edges of a frame. -/
theorem CrossesAt.poseBetween
    (crossing : graph.CrossesAt frame source goal first step last left right)
    (apart : source ≠ goal) (starts : graph.contains source) (ends : graph.contains goal)
    {vertex : Vertex ℝ} (isFrame : graph.vertex? frame = some vertex)
    (rigid : vertex.payload.IsRigid) (leftRigid : left.IsRigid) (rightRigid : right.IsRigid) :
    ∃ pose, graph.poseBetween source goal = .ok pose ∧
      Transform.ofPose pose =
        (left * step.factor frame vertex.payload * right).rigidInverse := by
  have across := composePath_of_crosses crossing.crosses isFrame
  have whole : graph.composePath (first ++ step :: last) =
      .ok (left * (step.factor frame vertex.payload * right)) :=
    composePath_append_eq_ok crossing.toFrame (composePath_append_eq_ok across crossing.onward)
  have factorRigid : (step.factor frame vertex.payload).IsRigid := by
    unfold Step.factor
    split
    · exact rigid
    · exact rigid.rigidInverse
  have productRigid := (leftRigid.mul factorRigid).mul rightRigid
  refine ⟨_, poseBetween_eq_ok_iff.mpr
    ⟨starts, ends, .inr ⟨apart, _, _, crossing.found, whole, rfl⟩⟩, ?_⟩
  rw [← mul_assoc]
  exact Transform.ofPose_toPose productRigid.rigidInverse

end Products

end FrameGraph

namespace GraphStore

open FrameGraph

section Moved

variable {α : Type} [Scalar α]

theorem changesOnly_setPose (store : GraphStore α) (frame : Binding) (pose : Pose α) :
    store.ChangesOnly (frame.setPose store pose) (some frame)
      fun vertex => { vertex with payload := .ofPose pose } :=
  store.changesOnly_of_modifyVertex frame _

theorem vertex?_setPose {store : GraphStore α} {frame : Binding} {vertex : Vertex α}
    (found : (store.graph frame.graph).vertex? frame.vertex = some vertex) (pose : Pose α) :
    ((frame.setPose store pose).graph frame.graph).vertex? frame.vertex =
      some { vertex with payload := .ofPose pose } := by
  have own : ((frame.setPose store pose).graph frame.graph).vertex? frame.vertex =
      ((store.graph frame.graph).vertex? frame.vertex).map _ :=
    (store.changesOnly_setPose frame pose).own frame rfl
  rw [own, found]
  rfl

theorem differAt_setPose (store : GraphStore α) (frame : Binding) (pose : Pose α) :
    (store.graph frame.graph).DifferAt ((frame.setPose store pose).graph frame.graph)
      frame.vertex := by
  have changes := store.changesOnly_setPose frame pose
  have others (id : VertexId) (other : id ≠ frame.vertex) :
      ((frame.setPose store pose).graph frame.graph).vertex? id =
        (store.graph frame.graph).vertex? id := by
    apply changes.others ⟨frame.graph, id, frame.attached⟩
    rintro binding ⟨⟩ meets
    exact other meets.2
  refine ⟨changes.edges frame.graph, ?_, others⟩
  intro id
  by_cases same : id = frame.vertex
  · have own : ((frame.setPose store pose).graph frame.graph).vertex? frame.vertex =
        ((store.graph frame.graph).vertex? frame.vertex).map _ := changes.own frame rfl
    rw [same, own, Option.map_map]
    rfl
  · rw [others id same]

end Moved

/-- Two arms on a stand, the second on the first, and a lamp beside them. -/
def bench (α : Type) [Scalar α] : GraphStore α :=
  let started : GraphStore α := (GraphStore.empty.create (.withRoot "stand")).1
  let arm (name : String) (reference : String) (store : GraphStore α) : GraphStore α :=
    (Member.load (.binding ⟨⟨0⟩, ⟨0⟩, false⟩) ⟨⟨"link", .ofList [], none, []⟩, some ⟨0⟩,
      .firstInserted, .default, ⟨name, Pose.identity, reference, "bench"⟩⟩ store).store
  arm "lamp" "stand" (arm "lower" "upper" (arm "upper" "stand" started))

theorem bench_built {α : Type} [Scalar α] : (bench α).Built := by
  have started : Built (GraphStore.empty.create (.withRoot "stand") : GraphStore α × _).1 :=
    Built.empty.createRoot "stand"
  exact ((started.load _ _).load _ _).load _ _

/-- Moving a frame of a graph that loads built changes no path and no answer between two frames
that both descend from it or both do not, whatever the numbers are.  Over exact numbers and rigid
payloads, the path between two frames that it separates goes through its payload at one place,
inverted if the path leads away from its descendants, and there the answer after the move has
the new payload where the answer before has the old one. -/
theorem Built.setPose_carries_descendants :
    (∀ {α : Type} [Scalar α] {store : GraphStore α}, store.Built →
      ∀ (frame : Binding) (pose : Pose α) (u v : VertexId),
        let before := store.graph frame.graph
        let after := (frame.setPose store pose).graph frame.graph
        (before.Descends u frame.vertex ↔ before.Descends v frame.vertex) →
          after.findPath u v = before.findPath u v ∧
            after.poseBetween u v = before.poseBetween u v) ∧
    ∀ {store : GraphStore ℝ}, store.Built →
      ∀ (frame : Binding) (pose : Pose ℝ) (u v : VertexId),
        let before := store.graph frame.graph
        let after := (frame.setPose store pose).graph frame.graph
        before.RigidPayloads → pose.rotation.IsUnit → before.Joined u v →
          Xor (before.Descends u frame.vertex) (before.Descends v frame.vertex) →
          ∃ first step last left right vertex old new,
            before.CrossesAt frame.vertex u v first step last left right ∧
            after.CrossesAt frame.vertex u v first step last left right ∧
            (step.target = frame.vertex ↔ before.Descends v frame.vertex) ∧
            before.vertex? frame.vertex = some vertex ∧
            before.poseBetween u v = .ok old ∧ after.poseBetween u v = .ok new ∧
            Transform.ofPose old =
              (left * step.factor frame.vertex vertex.payload * right).rigidInverse ∧
            Transform.ofPose new =
              (left * step.factor frame.vertex (.ofPose pose) * right).rigidInverse := by
  constructor
  · intro α _ store built frame pose u v before after together
    have differ := store.differAt_setPose frame pose
    obtain ⟨wires, wired⟩ := built.all_isForest.graph isForest_empty frame.graph
    exact ⟨differ.findPath_eq u v, differ.poseBetween_eq wired.hangs wired.edgesWithin together⟩
  · intro store built frame pose u v before after payloads isUnit joined separated
    -- The path crosses the edges of the frame once, and no other payload on it has changed.
    have differ : before.DifferAt after frame.vertex := store.differAt_setPose frame pose
    obtain ⟨wires, wired⟩ := built.all_isForest.graph isForest_empty frame.graph
    have within : before.EdgesWithin := wired.edgesWithin
    rw [xor_iff_not_iff] at separated
    have apart : u ≠ v := by
      rintro rfl
      exact separated Iff.rfl
    have starts : before.contains u := joined.contains_of_ne within apart
    have ends : before.contains v := joined.contains within starts
    obtain ⟨first, step, last, left, right, crossing, side⟩ :=
      wired.hangs.exists_crossesAt within joined separated
    obtain ⟨edge, isEdge, isChild⟩ := crossing.crosses
    have inside : before.contains frame.vertex :=
      isChild ▸ within.contains_child (List.mem_of_getElem? isEdge)
    obtain ⟨vertex, isFrame⟩ := Option.isSome_iff_exists.mp inside
    have rigid : vertex.payload.IsRigid := payloads vertex (List.mem_of_getElem? isFrame)
    have leftRigid := payloads.composePath crossing.toFrame
    have rightRigid := payloads.composePath crossing.onward
    obtain ⟨old, isOld, oldEq⟩ :=
      crossing.poseBetween apart starts ends isFrame rigid leftRigid rightRigid
    have stillCrossing := differ.crossesAt crossing
    rw [← differ.contains_eq] at starts ends
    obtain ⟨new, isNew, newEq⟩ := stillCrossing.poseBetween apart starts ends
      (vertex?_setPose isFrame pose) (Transform.isRigid_ofPose isUnit) leftRigid rightRigid
    exact ⟨first, step, last, left, right, vertex, old, new, crossing, stillCrossing, side, isFrame,
      isOld, isNew, oldEq, newEq⟩

theorem vertices_bench {α : Type} [Scalar α] :
    ((bench α).graph ⟨0⟩).vertices =
      [⟨"stand", Transform.identity⟩, ⟨"upper", .ofPose Pose.identity⟩,
        ⟨"lower", .ofPose Pose.identity⟩, ⟨"lamp", .ofPose Pose.identity⟩] := by
  cbv

theorem edges_bench {α : Type} [Scalar α] :
    ((bench α).graph ⟨0⟩).edges =
      [⟨⟨0⟩, ⟨1⟩, .backward⟩, ⟨⟨1⟩, ⟨0⟩, .forward⟩, ⟨⟨1⟩, ⟨2⟩, .backward⟩,
        ⟨⟨2⟩, ⟨1⟩, .forward⟩, ⟨⟨0⟩, ⟨3⟩, .backward⟩, ⟨⟨3⟩, ⟨0⟩, .forward⟩] := by
  cbv

theorem Built.setPose_carries_descendants_bench :
    (((⟨⟨0⟩, ⟨1⟩, true⟩ : Binding).setPose (bench Float) ⟨⟨1, 0, 0⟩, Quaternion.identity⟩).graph
        ⟨0⟩).poseBetween ⟨2⟩ ⟨1⟩ = ((bench Float).graph ⟨0⟩).poseBetween ⟨2⟩ ⟨1⟩ ∧
      ∃ first step last left right old new,
        ((bench ℝ).graph ⟨0⟩).CrossesAt ⟨1⟩ ⟨2⟩ ⟨3⟩ first step last left right ∧
        step.target ≠ ⟨1⟩ ∧
        ((bench ℝ).graph ⟨0⟩).poseBetween ⟨2⟩ ⟨3⟩ = .ok old ∧
        (((⟨⟨0⟩, ⟨1⟩, true⟩ : Binding).setPose (bench ℝ) tilt).graph ⟨0⟩).poseBetween ⟨2⟩ ⟨3⟩ =
          .ok new ∧
        Transform.ofPose new =
          (left * step.factor ⟨1⟩ (.ofPose tilt) * right).rigidInverse := by
  obtain ⟨together, separated⟩ := Built.setPose_carries_descendants
  have onArm {α : Type} [Scalar α] : ((bench α).graph ⟨0⟩).Descends ⟨2⟩ ⟨1⟩ :=
    .single ⟨⟨⟨1⟩, ⟨2⟩, .backward⟩, by simp [edges_bench], rfl, rfl⟩
  have beside : ¬((bench ℝ).graph ⟨0⟩).Descends ⟨3⟩ ⟨1⟩ := by
    have built : (bench ℝ).Built := bench_built
    obtain ⟨wires, wired⟩ := built.all_isForest.graph isForest_empty ⟨0⟩
    have onStand : ((bench ℝ).graph ⟨0⟩).RefersTo ⟨3⟩ ⟨0⟩ :=
      ⟨⟨⟨0⟩, ⟨3⟩, .backward⟩, by simp [edges_bench], rfl, rfl⟩
    rw [wired.hangs.descends_iff_of_ne (wired.hangs.refersTo_iff.mp onStand) (by decide)]
    intro descends
    exact absurd (wired.hangs.index_le_of_descends descends) (by decide)
  have payloads : ((bench ℝ).graph ⟨0⟩).RigidPayloads := by
    intro vertex member
    simp only [vertices_bench, Transform.ofPose_identity, List.mem_cons, List.not_mem_nil,
      or_false] at member
    rcases member with rfl | rfl | rfl | rfl <;> exact Transform.IsRigid.one
  have joined : ((bench ℝ).graph ⟨0⟩).Joined ⟨2⟩ ⟨3⟩ := by
    have down : ((bench ℝ).graph ⟨0⟩).Adjacent ⟨2⟩ ⟨1⟩ :=
      ⟨⟨⟨2⟩, ⟨1⟩, .forward⟩, by simp [edges_bench], .inl ⟨rfl, rfl⟩⟩
    have further : ((bench ℝ).graph ⟨0⟩).Adjacent ⟨1⟩ ⟨0⟩ :=
      ⟨⟨⟨1⟩, ⟨0⟩, .forward⟩, by simp [edges_bench], .inl ⟨rfl, rfl⟩⟩
    have aside : ((bench ℝ).graph ⟨0⟩).Adjacent ⟨0⟩ ⟨3⟩ :=
      ⟨⟨⟨0⟩, ⟨3⟩, .backward⟩, by simp [edges_bench], .inl ⟨rfl, rfl⟩⟩
    exact .tail (.tail (.single down) further) aside
  obtain ⟨first, step, last, left, right, vertex, old, new, crossing, -, side, -, isOld, isNew, -,
    newEq⟩ := separated bench_built ⟨⟨0⟩, ⟨1⟩, true⟩ tilt ⟨2⟩ ⟨3⟩ payloads isUnit_tilt joined
      (.inl ⟨onArm, beside⟩)
  refine ⟨?_, first, step, last, left, right, old, new, crossing, ?_, isOld, isNew, newEq⟩
  · exact (together bench_built ⟨⟨0⟩, ⟨1⟩, true⟩ _ ⟨2⟩ ⟨1⟩ (iff_of_true onArm .refl)).2
  · exact fun downward => beside (side.mp downward)

end GraphStore

end Kinematics
