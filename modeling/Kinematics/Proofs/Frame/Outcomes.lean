import Kinematics.Proofs.Frame.Components

/-!
# Outcomes of pose queries

A query between vertices fails for a missing vertex, the source before the target, or because
no edges join the two, and succeeds otherwise.  A missing edge is never the reason, since a
search follows edges of the graph only, and a query between names never meets a missing vertex.
-/

namespace Kinematics

namespace FrameGraph

variable {α : Type} [Scalar α] {graph : FrameGraph α}

/-- A query between vertices ends in one of four ways. -/
theorem poseBetween_cases (within : graph.EdgesWithin) (source target : VertexId) :
    graph.vertex? source = none ∧
        graph.poseBetween source target = .error (.graph (.vertexNotFound source)) ∨
      (∃ first, graph.vertex? source = some first ∧ graph.vertex? target = none ∧
        graph.poseBetween source target = .error (.graph (.vertexNotFound target))) ∨
      (∃ first last, graph.vertex? source = some first ∧ graph.vertex? target = some last ∧
        ¬graph.Joined source target ∧
        graph.poseBetween source target = .error (.noPath first.name last.name)) ∨
      ∃ first last pose, graph.vertex? source = some first ∧ graph.vertex? target = some last ∧
        graph.Joined source target ∧ graph.poseBetween source target = .ok pose := by
  cases foundSource : graph.vertex? source with
  | none =>
      left
      simp [poseBetween, foundSource]
  | some first =>
      cases foundTarget : graph.vertex? target with
      | none =>
          right
          left
          simp [poseBetween, foundSource, foundTarget]
      | some last =>
          right
          right
          by_cases joined : graph.Joined source target
          · right
            have present : graph.contains source := Option.isSome_of_eq_some foundSource
            obtain ⟨pose, resolved⟩ := joined.exists_poseBetween within present
            exact ⟨first, last, pose, rfl, rfl, joined, resolved⟩
          · left
            exact ⟨first, last, rfl, rfl, joined,
              poseBetween_of_apart within foundSource foundTarget joined⟩

/-- No edge that a search follows is missing. -/
theorem poseBetween_ne_edgeNotFound (within : graph.EdgesWithin) (source target : VertexId)
    (edge : EdgeId) : graph.poseBetween source target ≠ .error (.graph (.edgeNotFound edge)) := by
  rcases graph.poseBetween_cases within source target with
    ⟨_, answer⟩ | ⟨_, _, _, answer⟩ | ⟨_, _, _, _, _, answer⟩ | ⟨_, _, _, _, _, _, answer⟩
  all_goals simp [answer]

/-- Between vertices of the graph, a query fails in one way only. -/
theorem poseBetween_of_contains (within : graph.EdgesWithin) {source target : VertexId}
    (hasSource : graph.contains source) (hasTarget : graph.contains target) :
    (∃ first last, graph.poseBetween source target = .error (.noPath first last)) ∨
      ∃ pose, graph.poseBetween source target = .ok pose := by
  rcases graph.poseBetween_cases within source target with
    ⟨missing, _⟩ | ⟨_, _, missing, _⟩ | ⟨_, _, _, _, _, answer⟩ | ⟨_, _, pose, _, _, _, answer⟩
  · simp [contains, missing] at hasSource
  · simp [contains, missing] at hasTarget
  · exact .inl ⟨_, _, answer⟩
  · exact .inr ⟨pose, answer⟩

theorem poseBetween_self {vertex : VertexId} (present : graph.contains vertex) :
    graph.poseBetween vertex vertex = .ok Pose.identity := by
  obtain ⟨found, isFound⟩ := Option.isSome_iff_exists.mp present
  simp [poseBetween, isFound]

omit [Scalar α] in
theorem findIdx?_eq_none_iff {name : String} :
    graph.vertices.findIdx? (·.name == name) = none ↔ name ∉ graph.names := by
  simp [names]

/-- Between names that there are, a query is one between the first vertices of the names. -/
theorem poseInFrame_of_mem {source target : String} (hasSource : source ∈ graph.names)
    (hasTarget : target ∈ graph.names) :
    ∃ u v, graph.vertices.findIdx? (·.name == source) = some u ∧
      graph.vertices.findIdx? (·.name == target) = some v ∧
      graph.poseInFrame source target =
        if source = target then .ok Pose.identity else graph.poseBetween ⟨u⟩ ⟨v⟩ := by
  obtain ⟨u, firstSource, inside⟩ := exists_first_of_mem_names hasSource
  obtain ⟨v, firstTarget, -⟩ := exists_first_of_mem_names hasTarget
  refine ⟨u, v, firstSource, firstTarget, ?_⟩
  rw [poseInFrame_eq_poseBetween firstSource firstTarget]
  split
  · rename_i same
    subst same
    obtain rfl : u = v := Option.some.inj (firstSource.symm.trans firstTarget)
    exact poseBetween_self inside
  · rfl

theorem poseInFrame_outcomes (within : graph.EdgesWithin) {source target : String}
    (hasSource : source ∈ graph.names) (hasTarget : target ∈ graph.names) :
    (∃ first last, graph.poseInFrame source target = .error (.noPath first last)) ∨
      ∃ pose, graph.poseInFrame source target = .ok pose := by
  obtain ⟨u, firstSource, sourceInside⟩ := exists_first_of_mem_names hasSource
  obtain ⟨v, firstTarget, targetInside⟩ := exists_first_of_mem_names hasTarget
  rw [poseInFrame_eq_poseBetween firstSource firstTarget]
  exact poseBetween_of_contains within sourceInside targetInside

theorem poseInFrame_of_not_mem {source : String} (missing : source ∉ graph.names)
    (target : String) : graph.poseInFrame source target = .error (.notFound source) :=
  poseInFrame_of_no_source (findIdx?_eq_none_iff.mpr missing)

theorem poseInFrame_of_mem_of_not_mem {source target : String} (hasSource : source ∈ graph.names)
    (missing : target ∉ graph.names) :
    graph.poseInFrame source target = .error (.notFound target) := by
  obtain ⟨u, first, -⟩ := exists_first_of_mem_names hasSource
  exact poseInFrame_of_no_target first (findIdx?_eq_none_iff.mpr missing)

theorem poseInFrame_eq_notFound_source_iff (within : graph.EdgesWithin) {source target : String} :
    graph.poseInFrame source target = .error (.notFound source) ↔ source ∉ graph.names := by
  refine ⟨?_, fun missing => poseInFrame_of_not_mem missing target⟩
  intro answer hasSource
  by_cases hasTarget : target ∈ graph.names
  · rcases poseInFrame_outcomes within hasSource hasTarget with ⟨_, _, other⟩ | ⟨_, other⟩
    · simp [other] at answer
    · simp [other] at answer
  · rw [poseInFrame_of_mem_of_not_mem hasSource hasTarget] at answer
    have same : target = source := by simpa using answer
    exact hasTarget (same ▸ hasSource)

theorem poseInFrame_eq_notFound_target_iff (within : graph.EdgesWithin) {source target : String}
    (hasSource : source ∈ graph.names) :
    graph.poseInFrame source target = .error (.notFound target) ↔ target ∉ graph.names := by
  refine ⟨?_, poseInFrame_of_mem_of_not_mem hasSource⟩
  intro answer hasTarget
  rcases poseInFrame_outcomes within hasSource hasTarget with ⟨_, _, other⟩ | ⟨_, other⟩
  · simp [other] at answer
  · simp [other] at answer

/-- Names stand for vertices of the graph, so there is no problem with the graph. -/
theorem poseInFrame_ne_graph (within : graph.EdgesWithin) (source target : String)
    (problem : GraphError) : graph.poseInFrame source target ≠ .error (.graph problem) := by
  by_cases hasSource : source ∈ graph.names
  · by_cases hasTarget : target ∈ graph.names
    · rcases poseInFrame_outcomes within hasSource hasTarget with ⟨_, _, answer⟩ | ⟨_, answer⟩
      · simp [answer]
      · simp [answer]
    · simp [poseInFrame_of_mem_of_not_mem hasSource hasTarget]
  · simp [poseInFrame_of_not_mem hasSource]

/-- In every graph that can be built, a query between vertices fails for a missing source, then
for a missing target, then under the names of both where no edges join them, and succeeds
otherwise.  A query between names fails for a missing source name, then for a missing target
name, and is otherwise the identity for equal names and the query between the first vertices of
the names.  Neither fails for a missing edge, nor the latter for any problem with the graph. -/
theorem pose_queries_classified (reachable : graph.Reachable) :
    (∀ u v : VertexId,
      (graph.poseBetween u v = .error (.graph (.vertexNotFound u)) ↔ graph.vertex? u = none) ∧
      ∀ first, graph.vertex? u = some first →
        (graph.poseBetween u v = .error (.graph (.vertexNotFound v)) ↔ graph.vertex? v = none) ∧
        ∀ last, graph.vertex? v = some last →
          (graph.poseBetween u v = .error (.noPath first.name last.name) ↔ ¬graph.Joined u v) ∧
          ((∃ pose, graph.poseBetween u v = .ok pose) ↔ graph.Joined u v)) ∧
    (∀ s t : String,
      (graph.poseInFrame s t = .error (.notFound s) ↔ s ∉ graph.names) ∧
      (s ∈ graph.names →
        (graph.poseInFrame s t = .error (.notFound t) ↔ t ∉ graph.names) ∧
        (t ∈ graph.names → ∃ u v,
          graph.vertices.findIdx? (·.name == s) = some u ∧
          graph.vertices.findIdx? (·.name == t) = some v ∧
          graph.poseInFrame s t =
            if s = t then .ok Pose.identity else graph.poseBetween ⟨u⟩ ⟨v⟩))) ∧
    (∀ u v edge, graph.poseBetween u v ≠ .error (.graph (.edgeNotFound edge))) ∧
    ∀ s t problem, graph.poseInFrame s t ≠ .error (.graph problem) := by
  have within := reachable.edgesWithin
  refine ⟨?_, ?_, poseBetween_ne_edgeNotFound within, poseInFrame_ne_graph within⟩
  · intro u v
    rcases graph.poseBetween_cases within u v with
      ⟨missing, answer⟩ | ⟨first, isFirst, missing, answer⟩ |
      ⟨first, last, isFirst, isLast, apart, answer⟩ |
      ⟨first, last, pose, isFirst, isLast, joined, answer⟩
    · simp [answer, missing]
    · have different : v ≠ u := by
        rintro rfl
        simp [isFirst] at missing
      simp [answer, isFirst, missing, different]
    · simp [answer, isFirst, isLast, apart]
    · simp [answer, isFirst, isLast, joined]
  · intro s t
    exact ⟨poseInFrame_eq_notFound_source_iff within, fun hasSource =>
      ⟨poseInFrame_eq_notFound_target_iff within hasSource, poseInFrame_of_mem hasSource⟩⟩

/-- The frames with two ways around, and one more that no edge touches. -/
def strandedDiamond : FrameGraph Float :=
  (diamond.addVertex "stray" Transform.identity).1

theorem pose_queries_classified_stranded :
    strandedDiamond.Reachable ∧
      strandedDiamond.poseBetween ⟨7⟩ ⟨8⟩ = .error (.graph (.vertexNotFound ⟨7⟩)) ∧
      strandedDiamond.poseBetween ⟨3⟩ ⟨7⟩ = .error (.graph (.vertexNotFound ⟨7⟩)) ∧
      strandedDiamond.poseBetween ⟨3⟩ ⟨4⟩ = .error (.noPath "bottom" "stray") ∧
      (∃ pose, strandedDiamond.poseBetween ⟨3⟩ ⟨0⟩ = .ok pose) ∧
      strandedDiamond.poseInFrame "left" "under" = .error (.notFound "under") := by
  have reachable : strandedDiamond.Reachable := diamond_reachable.addVertex "stray" _
  have within := reachable.edgesWithin
  obtain ⟨between, named, -, -⟩ := pose_queries_classified reachable
  obtain ⟨-, fromBottom⟩ := between ⟨3⟩ ⟨7⟩
  obtain ⟨-, fromBottomToStray⟩ := between ⟨3⟩ ⟨4⟩
  obtain ⟨-, fromBottomToTop⟩ := between ⟨3⟩ ⟨0⟩
  have apart : ¬strandedDiamond.Joined ⟨3⟩ ⟨4⟩ := (findPath_eq_none_iff within).mp rfl
  have joined : strandedDiamond.Joined ⟨3⟩ ⟨0⟩ := by
    by_contra apart
    exact absurd ((findPath_eq_none_iff within).mpr apart) (by decide)
  refine ⟨reachable, (between ⟨7⟩ ⟨8⟩).1.mpr rfl, ?_, ?_, ?_, ?_⟩
  · exact (fromBottom _ rfl).1.mpr rfl
  · exact ((fromBottomToStray _ rfl).2 _ rfl).1.mpr apart
  · exact ((fromBottomToTop _ rfl).2 _ rfl).2.mpr joined
  · refine (((named "left" "under").2 ?_).1).mpr ?_
    · decide
    · decide

end FrameGraph

end Kinematics
