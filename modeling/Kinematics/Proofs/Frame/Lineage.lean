import Kinematics.Proofs.Frame.Composition
import Kinematics.Proofs.Frame.Forest
import Kinematics.Proofs.Frame.Naming

/-!
# Placements in a forest

Every frame of a forest has a lineage, the chain of frames from the top of its tree down
to the frame.  The product of the payloads along the lineage places the frame relative
to the top, and the pose between two frames of one tree is the motion between their
placements.
-/

namespace Kinematics

/-- The frames from the top of a tree down to a vertex. -/
def lineage (parent : VertexId → Option VertexId) (vertex : VertexId) : List VertexId :=
  match parent vertex with
  | none => [vertex]
  | some above =>
    -- Parents are inserted earlier, so the chain ends at a frame without a parent.
    if above.index < vertex.index then lineage parent above ++ [vertex] else [vertex]
termination_by vertex.index

/-- The frame at the top of the tree of a vertex. -/
def top (parent : VertexId → Option VertexId) (vertex : VertexId) : VertexId :=
  (lineage parent vertex).headD vertex

namespace FrameGraph

noncomputable def payloadAt (graph : FrameGraph ℝ) (id : VertexId) : Transform ℝ :=
  ((graph.vertex? id).map Vertex.payload).getD 1

/-- The product of the current payloads along the lineage of a vertex.  The top of the
tree counts as the identity. -/
noncomputable def placement (graph : FrameGraph ℝ) (parent : VertexId → Option VertexId)
    (vertex : VertexId) : Transform ℝ :=
  ((lineage parent vertex).tail.map graph.payloadAt).prod

section Lineage

variable {α : Type} {graph : FrameGraph α} {parent : VertexId → Option VertexId}

theorem lineage_of_none {vertex : VertexId} (isTop : parent vertex = none) :
    lineage parent vertex = [vertex] := by
  unfold lineage
  rw [isTop]

theorem Hangs.lineage_of_some (hangs : graph.Hangs parent) {vertex above : VertexId}
    (hung : parent vertex = some above) :
    lineage parent vertex = lineage parent above ++ [vertex] := by
  rw [lineage]
  simp only [hung]
  exact if_pos (hangs.earlier hung)

theorem lineage_ne_nil (parent : VertexId → Option VertexId) (vertex : VertexId) :
    lineage parent vertex ≠ [] := by
  unfold lineage
  split
  · exact List.cons_ne_nil _ _
  · split
    · exact List.append_ne_nil_of_right_ne_nil _ (List.cons_ne_nil _ _)
    · exact List.cons_ne_nil _ _

theorem top_of_none {vertex : VertexId} (isTop : parent vertex = none) :
    top parent vertex = vertex := by
  unfold top
  rw [lineage_of_none isTop]
  rfl

theorem Hangs.top_of_some (hangs : graph.Hangs parent) {vertex above : VertexId}
    (hung : parent vertex = some above) : top parent vertex = top parent above := by
  unfold top
  rw [hangs.lineage_of_some hung]
  obtain ⟨first, rest, chain⟩ := List.exists_cons_of_ne_nil (lineage_ne_nil parent above)
  rw [chain]
  rfl

theorem Hangs.joined_top (hangs : graph.Hangs parent) (vertex : VertexId) :
    graph.Joined vertex (top parent vertex) := by
  induction size : vertex.index using Nat.strongRecOn generalizing vertex with
  | ind index induction =>
      cases hung : parent vertex with
      | none =>
          rw [top_of_none hung]
          exact .refl
      | some above =>
          have earlier := hangs.earlier hung
          rw [hangs.top_of_some hung]
          exact .head (hangs.adjacent hung) (induction _ (by omega) above rfl)

/-- Edges join two frames exactly if their trees have the same top. -/
theorem Hangs.joined_iff (hangs : graph.Hangs parent) {source target : VertexId} :
    graph.Joined source target ↔ top parent source = top parent target := by
  constructor
  · intro joined
    induction joined with
    | refl => rfl
    | tail _ adjacent induction =>
        rw [induction]
        rcases hangs.adjacent_iff.mp adjacent with up | down
        · exact hangs.top_of_some up
        · exact (hangs.top_of_some down).symm
  · intro same
    have toTop := hangs.joined_top source
    rw [same] at toTop
    exact toTop.trans (hangs.joined_top target).symm

end Lineage

section Placement

variable {graph : FrameGraph ℝ} {parent : VertexId → Option VertexId}

theorem Hangs.placement_of_some (hangs : graph.Hangs parent) {vertex above : VertexId}
    (hung : parent vertex = some above) :
    graph.placement parent vertex = graph.placement parent above * graph.payloadAt vertex := by
  unfold placement
  rw [hangs.lineage_of_some hung, List.tail_append_of_ne_nil (lineage_ne_nil parent above),
    List.map_append, List.prod_append, List.map_singleton, List.prod_singleton]

/-- The placements along lineages are consistent with the edges. -/
theorem Hangs.consistent (hangs : graph.Hangs parent) :
    graph.Consistent (graph.placement parent) := by
  intro edge member _ vertex found
  rw [hangs.placement_of_some (hangs.edge edge member)]
  unfold payloadAt
  rw [found]
  rfl

theorem RigidPayloads.payloadAt (payloads : graph.RigidPayloads) (id : VertexId) :
    (graph.payloadAt id).IsRigid := by
  unfold FrameGraph.payloadAt
  cases found : graph.vertex? id with
  | none => exact Transform.IsRigid.one
  | some vertex => exact payloads vertex (List.mem_of_getElem? found)

theorem RigidPayloads.placement (payloads : graph.RigidPayloads)
    (parent : VertexId → Option VertexId) (vertex : VertexId) :
    (graph.placement parent vertex).IsRigid := by
  unfold FrameGraph.placement
  induction (lineage parent vertex).tail with
  | nil => exact Transform.IsRigid.one
  | cons first rest induction =>
      rw [List.map_cons, List.prod_cons]
      exact (payloads.payloadAt first).mul induction

end Placement

section Query

theorem poseBetween_of_apart {α : Type} [Scalar α] {graph : FrameGraph α}
    (within : graph.EdgesWithin) {source target : VertexId} {sourceVertex targetVertex : Vertex α}
    (foundSource : graph.vertex? source = some sourceVertex)
    (foundTarget : graph.vertex? target = some targetVertex)
    (apart : ¬graph.Joined source target) :
    graph.poseBetween source target = .error (.noPath sourceVertex.name targetVertex.name) := by
  have different : source ≠ target := by
    rintro rfl
    exact apart .refl
  have none : graph.findPath source target = none := (findPath_eq_none_iff within).mpr apart
  unfold poseBetween
  simp only [foundSource, foundTarget, if_neg different, none]

/-- The first vertex with a name is in the graph under that name. -/
theorem exists_vertex_of_first {α : Type} {graph : FrameGraph α} {name : String} {position : Nat}
    (first : graph.vertices.findIdx? (·.name == name) = some position) :
    ∃ vertex, graph.vertex? ⟨position⟩ = some vertex ∧ vertex.name = name := by
  obtain ⟨inside, named, -⟩ := List.findIdx?_eq_some_iff_getElem.mp first
  exact ⟨graph.vertices[position], List.getElem?_eq_getElem inside, by simpa using named⟩

theorem poseInFrame_of_no_source {α : Type} [Scalar α] {graph : FrameGraph α}
    {source target : String}
    (missing : graph.vertices.findIdx? (·.name == source) = none) :
    graph.poseInFrame source target = .error (.notFound source) := by
  unfold poseInFrame
  rw [resolveFirst_eq, missing]
  rfl

theorem poseInFrame_of_no_target {α : Type} [Scalar α] {graph : FrameGraph α}
    {source target : String} {u : Nat}
    (first : graph.vertices.findIdx? (·.name == source) = some u)
    (missing : graph.vertices.findIdx? (·.name == target) = none) :
    graph.poseInFrame source target = .error (.notFound target) := by
  unfold poseInFrame
  rw [resolveFirst_eq, resolveFirst_eq, first, missing]
  rfl

/-- A query between names is one between the first vertices with the names. -/
theorem poseInFrame_eq_poseBetween {α : Type} [Scalar α] {graph : FrameGraph α}
    {source target : String} {u v : Nat}
    (firstSource : graph.vertices.findIdx? (·.name == source) = some u)
    (firstTarget : graph.vertices.findIdx? (·.name == target) = some v) :
    graph.poseInFrame source target = graph.poseBetween ⟨u⟩ ⟨v⟩ := by
  have steps : graph.poseInFrame source target =
      if source = target then .ok Pose.identity else graph.poseBetween ⟨u⟩ ⟨v⟩ := by
    unfold poseInFrame
    rw [resolveFirst_eq, resolveFirst_eq, firstSource, firstTarget]
    rfl
  rw [steps]
  split
  · rename_i same
    subst same
    obtain rfl : u = v := Option.some.inj (firstSource.symm.trans firstTarget)
    obtain ⟨vertex, found, -⟩ := exists_vertex_of_first firstSource
    unfold poseBetween
    simp only [found, if_true]
  · rfl

variable {graph : FrameGraph ℝ} {parent : VertexId → Option VertexId}

/-- A query between named frames of a forest, in terms of the first vertices with the names. -/
theorem Hangs.poseInFrame (hangs : graph.Hangs parent) (within : graph.EdgesWithin)
    (payloads : graph.RigidPayloads) {source target : String} {u v : Nat}
    (firstSource : graph.vertices.findIdx? (·.name == source) = some u)
    (firstTarget : graph.vertices.findIdx? (·.name == target) = some v) :
    (top parent ⟨u⟩ ≠ top parent ⟨v⟩ →
        graph.poseInFrame source target = .error (.noPath source target)) ∧
      (top parent ⟨u⟩ = top parent ⟨v⟩ →
        ∃ pose, graph.poseInFrame source target = .ok pose ∧
          (Transform.ofPose pose).toMatrix =
            (graph.placement parent ⟨v⟩).toMatrix⁻¹ * (graph.placement parent ⟨u⟩).toMatrix) := by
  rw [poseInFrame_eq_poseBetween firstSource firstTarget]
  obtain ⟨sourceVertex, foundSource, rfl⟩ := exists_vertex_of_first firstSource
  obtain ⟨targetVertex, foundTarget, rfl⟩ := exists_vertex_of_first firstTarget
  constructor
  · intro apart
    exact poseBetween_of_apart within foundSource foundTarget fun joined =>
      apart (hangs.joined_iff.mp joined)
  · intro same
    have present : graph.contains ⟨u⟩ := Option.isSome_of_eq_some foundSource
    exact poseBetween_of_joined within payloads (fun id _ => payloads.placement parent id)
      hangs.consistent present (hangs.joined_iff.mpr same)

end Query

end FrameGraph

end Kinematics
