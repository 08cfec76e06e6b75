import Kinematics.Proofs.Frame.Embedding
import Kinematics.Proofs.Frame.Growth

/-!
# Climbing to a reference

A frame that is attached gets the edges to its reference as its first ones, and in a graph that
is extended they remain the oldest.  A search that starts at the frame follows the oldest edge
before any other, so nothing that is added later diverts it from the reference.
-/

namespace Kinematics

namespace FrameGraph

variable {α : Type} {graph larger : FrameGraph α}

/-- The oldest edge at the vertex says that it is placed relative to another one. -/
structure ClimbsTo (graph : FrameGraph α) (vertex above : VertexId) : Prop where
  apart : vertex ≠ above
  oldest : ∃ edge, graph.edge? edge = some ⟨above, vertex, .backward⟩ ∧
    ∀ other found, graph.edge? other = some found → found.touches vertex →
      edge.index ≤ other.index

/-- A frame that is attached climbs to the one that its reference stands for. -/
theorem climbsTo_attach (within : graph.EdgesWithin) {name : String} {payload : Transform α}
    {reference : String} {tieBreak : TieBreak} {position : Nat}
    (resolved : tieBreak.resolve graph.names reference = some position) :
    (graph.attach name payload reference tieBreak).graph.ClimbsTo graph.fresh ⟨position⟩ := by
  have attached := graph.graph_attach name payload reference tieBreak
  rw [resolved] at attached
  have inside : position < graph.vertices.length := by
    simpa [names] using TieBreak.resolve_lt resolved
  have edges : (graph.attach name payload reference tieBreak).graph.edges =
      graph.edges ++
        [⟨⟨position⟩, graph.fresh, .backward⟩, ⟨graph.fresh, ⟨position⟩, .forward⟩] := by
    rw [attached]
    simp [connect, pushEdge, addVertex, fresh]
  refine ⟨?_, ⟨graph.edges.length⟩, ?_, ?_⟩
  · intro same
    have index : graph.vertices.length = position := congrArg VertexId.index same
    omega
  · unfold edge?
    rw [edges]
    simp
  · intro other found isEdge touches
    by_contra older
    unfold edge? at isEdge
    rw [edges, List.getElem?_append_left (Nat.lt_of_not_le older)] at isEdge
    -- An older edge ends at older vertices.
    have ends := within found (List.mem_of_getElem? isEdge)
    simp only [Edge.touches, Bool.or_eq_true, beq_iff_eq] at touches
    rcases touches with leaves | enters
    · exact ne_fresh_of_contains ends.1 leaves
    · exact ne_fresh_of_contains ends.2 enters

namespace ClimbsTo

variable {vertex above : VertexId} (climbs : graph.ClimbsTo vertex above)

include climbs

theorem of_edges_eq (same : larger.edges = graph.edges) : larger.ClimbsTo vertex above := by
  obtain ⟨apart, edge, isEdge, oldest⟩ := climbs
  have edge? (id : EdgeId) : larger.edge? id = graph.edge? id :=
    congrArg (fun edges => edges[id.index]?) same
  refine ⟨apart, edge, (edge? edge).trans isEdge, ?_⟩
  intro other found isOther
  exact oldest other found ((edge? other).symm.trans isOther)

theorem extended (extension : graph.Extends larger) : larger.ClimbsTo vertex above := by
  obtain ⟨apart, edge, isEdge, oldest⟩ := climbs
  refine ⟨apart, edge, extension.edge?_eq isEdge, ?_⟩
  intro other found isOther touches
  obtain ⟨inside, -⟩ := List.getElem?_eq_some_iff.mp isEdge
  rcases extension.edge?_cases isOther with old | new
  · exact oldest other found old touches
  · omega

variable (within : graph.EdgesWithin)

include within

/-- The search from the vertex to what it climbs to follows the oldest edge. -/
theorem exists_findPath :
    ∃ edge, graph.edge? edge = some ⟨above, vertex, .backward⟩ ∧
      graph.findPath vertex above = some [⟨vertex, above, edge⟩] := by
  obtain ⟨apart, edge, isEdge, oldest⟩ := climbs
  refine ⟨edge, isEdge, ?_⟩
  have follows : graph.Follows ⟨vertex, above, edge⟩ := ⟨_, isEdge, .inr ⟨rfl, rfl⟩⟩
  have up : graph.Walk vertex [⟨vertex, above, edge⟩] above := .go follows (.stay above)
  obtain ⟨path, found, earliest⟩ := findPath_eq_some within up.joined
  rw [found]
  rcases path with - | ⟨step, rest⟩
  · exact absurd (Walk.nil_iff.mp earliest.walk) apart
  · obtain ⟨leaves, ⟨joining, isJoining, joins⟩, later⟩ := Walk.cons_iff.mp earliest.walk
    have least := earliest.least _ up
    rcases Step.rank_le_iff.mp least with shorter | ⟨alike, -⟩
    · simp at shorter
    · obtain rfl : rest = [] := by simpa using alike
      have arrives : step.target = above := Walk.nil_iff.mp later
      have notLater : step.edge.index ≤ edge.index := by
        by_contra younger
        have first : Step.rank [⟨vertex, above, edge⟩] < Step.rank [step] :=
          Step.rank_snoc_lt_of_edge (Nat.lt_of_not_le younger) []
        exact absurd least (not_le_of_gt first)
      have notOlder : edge.index ≤ step.edge.index := by
        apply oldest step.edge joining isJoining
        exact Edge.touches_of_joins (leaves ▸ joins)
      have same : step.edge = edge := congrArg EdgeId.mk (le_antisymm notLater notOlder)
      obtain ⟨source, target, followed⟩ := step
      subst leaves arrives same
      rfl

/-- The pose of the vertex in what it climbs to undoes the inverse of its payload. -/
theorem poseBetween_eq [Scalar α] {found : Vertex α}
    (isVertex : graph.vertex? vertex = some found) :
    graph.poseBetween vertex above =
      .ok (Transform.identity * found.payload.rigidInverse).rigidInverse.toPose := by
  obtain ⟨edge, isEdge, path⟩ := climbs.exists_findPath within
  have ends := within _ (List.mem_of_getElem? isEdge)
  have starts : graph.contains vertex := ends.2
  have composed : graph.composePath [⟨vertex, above, edge⟩] =
      .ok (Transform.identity * found.payload.rigidInverse) := by
    have upward : above ≠ vertex := climbs.apart.symm
    unfold composePath composeStep
    simp [isEdge, Edge.child, isVertex, upward]
  exact poseBetween_eq_ok_iff.mpr
    ⟨starts, ends.1, .inr ⟨climbs.apart, _, _, path, composed, rfl⟩⟩

end ClimbsTo

end FrameGraph

end Kinematics
