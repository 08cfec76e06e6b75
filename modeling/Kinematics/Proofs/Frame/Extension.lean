import Kinematics.Proofs.Frame.Naming

/-!
# Graphs that are extended

Vertices and edges are added at the end.  What was there first therefore stays first: every
walk remains one, and a name stands for the same vertex.
-/

namespace Kinematics

namespace FrameGraph

variable {α : Type} {graph larger : FrameGraph α}

/-- The larger graph has further vertices and edges after those of the other one, and its edges
still end at its vertices. -/
structure Extends (graph larger : FrameGraph α) : Prop where
  vertices : graph.vertices <+: larger.vertices
  edges : graph.edges <+: larger.edges
  within : graph.EdgesWithin → larger.EdgesWithin

namespace Extends

theorem refl (graph : FrameGraph α) : graph.Extends graph :=
  ⟨List.prefix_rfl, List.prefix_rfl, id⟩

theorem trans {first second third : FrameGraph α} (left : first.Extends second)
    (right : second.Extends third) : first.Extends third :=
  ⟨left.vertices.trans right.vertices, left.edges.trans right.edges,
    fun within => right.within (left.within within)⟩

theorem addVertex (graph : FrameGraph α) (name : String) (payload : Transform α) :
    graph.Extends (graph.addVertex name payload).1 := by
  refine ⟨List.prefix_append _ _, List.prefix_rfl, ?_⟩
  intro within
  have wider : (graph.addVertex name payload).1.EdgesWithin :=
    within.of_le rfl (by simp [FrameGraph.addVertex])
  exact wider

theorem addEdge {source target : VertexId} {direction : Direction} {id : EdgeId}
    (success : graph.addEdge source target direction = .ok (larger, id)) :
    graph.Extends larger := by
  obtain ⟨leaves, enters, rfl⟩ := addEdge_eq_ok success
  exact ⟨List.prefix_rfl, List.prefix_append _ _, fun within => within.pushEdge leaves enters⟩

theorem addEdgePair {reference child : VertexId} {ids : EdgeId × EdgeId}
    (success : graph.addEdgePair reference child = .ok (larger, ids)) :
    graph.Extends larger := by
  obtain ⟨above, below, rfl⟩ := addEdgePair_eq_ok success
  refine ⟨List.prefix_rfl, ?_, fun within => within.connect above below⟩
  simp [connect, pushEdge]

variable (extension : graph.Extends larger)

include extension

theorem vertex?_eq {id : VertexId} {vertex : Vertex α}
    (found : graph.vertex? id = some vertex) : larger.vertex? id = some vertex := by
  obtain ⟨added, vertices⟩ := extension.vertices
  obtain ⟨inside, -⟩ := List.getElem?_eq_some_iff.mp found
  unfold vertex?
  rw [← vertices, List.getElem?_append_left inside]
  exact found

theorem edge?_eq {id : EdgeId} {edge : Edge} (found : graph.edge? id = some edge) :
    larger.edge? id = some edge := by
  obtain ⟨added, edges⟩ := extension.edges
  obtain ⟨inside, -⟩ := List.getElem?_eq_some_iff.mp found
  unfold edge?
  rw [← edges, List.getElem?_append_left inside]
  exact found

/-- An edge of the larger graph is an old one or comes after all of these. -/
theorem edge?_cases {id : EdgeId} {edge : Edge} (found : larger.edge? id = some edge) :
    graph.edge? id = some edge ∨ graph.edges.length ≤ id.index := by
  obtain ⟨added, edges⟩ := extension.edges
  rcases Nat.lt_or_ge id.index graph.edges.length with inside | beyond
  · left
    unfold edge? at found
    rwa [← edges, List.getElem?_append_left inside] at found
  · exact .inr beyond

theorem follows {step : Step} (follows : graph.Follows step) : larger.Follows step := by
  obtain ⟨edge, found, joins⟩ := follows
  exact ⟨edge, extension.edge?_eq found, joins⟩

theorem walk {source goal : VertexId} {path : List Step} (walk : graph.Walk source path goal) :
    larger.Walk source path goal := by
  induction walk with
  | stay vertex => exact .stay vertex
  | go follows _ induction => exact .go (extension.follows follows) induction

theorem joined {source goal : VertexId} (joined : graph.Joined source goal) :
    larger.Joined source goal := by
  obtain ⟨path, walk⟩ := joined_iff_exists_walk.mp joined
  exact (extension.walk walk).joined

/-- The first vertex of a name remains the first. -/
theorem findIdx?_eq {name : String} {position : Nat}
    (first : graph.vertices.findIdx? (·.name == name) = some position) :
    larger.vertices.findIdx? (·.name == name) = some position := by
  obtain ⟨added, vertices⟩ := extension.vertices
  rw [← vertices, List.findIdx?_append, first]
  rfl

end Extends

end FrameGraph

end Kinematics
