import Kinematics.Proofs.Frame.Walk
import Mathlib.Data.List.Nodup
import Mathlib.Data.List.Perm.Subperm

/-!
# Graphs that can be built

The operations on a graph keep the ends of all edges among the vertices.  In such a
graph the incidence that a search collects in one pass is the plain scan of the edges.
-/

namespace Kinematics

namespace FrameGraph

variable {α : Type}

/-- The ends of every edge are vertices of the graph. -/
def EdgesWithin (graph : FrameGraph α) : Prop :=
  ∀ edge ∈ graph.edges, graph.contains edge.source ∧ graph.contains edge.target

theorem contains_iff {graph : FrameGraph α} {id : VertexId} :
    graph.contains id = true ↔ id.index < graph.vertices.length := by
  simp [contains, vertex?]

theorem length_le_of_contains {graph : FrameGraph α} {ids : List VertexId} (distinct : ids.Nodup)
    (inside : ∀ id ∈ ids, graph.contains id) : ids.length ≤ graph.vertices.length := by
  have indices : (ids.map VertexId.index).Nodup := by
    apply distinct.map
    intro left right same
    cases left
    cases right
    exact congrArg VertexId.mk same
  have below : ids.map VertexId.index ⊆ List.range graph.vertices.length := by
    intro index member
    obtain ⟨id, isId, rfl⟩ := List.mem_map.mp member
    exact List.mem_range.mpr (contains_iff.mp (inside id isId))
  simpa using (List.subperm_of_subset indices below).length_le

theorem edgesWithin_iff {graph : FrameGraph α} :
    graph.EdgesWithin ↔ ∀ edge ∈ graph.edges,
      edge.source.index < graph.vertices.length ∧
        edge.target.index < graph.vertices.length := by
  simp only [EdgesWithin, contains_iff]

/-- Edges stay within a graph that has at least as many vertices. -/
theorem EdgesWithin.of_le {graph larger : FrameGraph α} (within : graph.EdgesWithin)
    (edges : larger.edges = graph.edges)
    (size : graph.vertices.length ≤ larger.vertices.length) : larger.EdgesWithin := by
  rw [edgesWithin_iff] at within ⊢
  intro edge member
  have ends := within edge (edges ▸ member)
  omega

theorem EdgesWithin.pushEdge {graph : FrameGraph α} (within : graph.EdgesWithin)
    {edge : Edge} (leaves : graph.contains edge.source) (enters : graph.contains edge.target) :
    (graph.pushEdge edge).1.EdgesWithin := by
  intro other member
  rcases List.mem_append.mp member with old | new
  · exact within other old
  · rw [List.mem_singleton.mp new]
    exact ⟨leaves, enters⟩

theorem EdgesWithin.connect {graph : FrameGraph α} (within : graph.EdgesWithin)
    {reference child : VertexId} (above : graph.contains reference)
    (below : graph.contains child) : (graph.connect reference child).1.EdgesWithin := by
  let down : Edge := ⟨reference, child, .backward⟩
  let up : Edge := ⟨child, reference, .forward⟩
  have halfway : (graph.pushEdge down).1.EdgesWithin := within.pushEdge above below
  have both : ((graph.pushEdge down).1.pushEdge up).1.EdgesWithin :=
    halfway.pushEdge below above
  exact both

theorem EdgesWithin.contains_child {graph : FrameGraph α} (within : graph.EdgesWithin)
    {edge : Edge} (member : edge ∈ graph.edges) : graph.contains edge.child := by
  obtain ⟨leaves, enters⟩ := within edge member
  rcases edge.joins_reference_child with ⟨-, isChild⟩ | ⟨isChild, -⟩
  · exact isChild ▸ enters
  · exact isChild ▸ leaves

/-- A vertex changed in place leaves the edges and the number of vertices. -/
theorem modifyVertex_eq_ok {graph changed : FrameGraph α} {id : VertexId}
    {change : Vertex α → Vertex α} (success : graph.modifyVertex id change = .ok changed) :
    graph.contains id ∧
      changed = { graph with vertices := graph.vertices.modify id.index change } := by
  unfold modifyVertex at success
  split at success
  · rename_i present
    exact ⟨present, (Except.ok.inj success).symm⟩
  · cases success

theorem addEdge_eq_ok {graph changed : FrameGraph α} {source target : VertexId}
    {direction : Direction} {id : EdgeId}
    (success : graph.addEdge source target direction = .ok (changed, id)) :
    graph.contains source ∧ graph.contains target ∧
      changed = (graph.pushEdge ⟨source, target, direction⟩).1 := by
  unfold addEdge at success
  split at success
  · rename_i leaves
    split at success
    · rename_i enters
      exact ⟨leaves, enters, (congrArg Prod.fst (Except.ok.inj success)).symm⟩
    · cases success
  · cases success

theorem addEdgePair_eq_ok {graph changed : FrameGraph α} {reference child : VertexId}
    {ids : EdgeId × EdgeId}
    (success : graph.addEdgePair reference child = .ok (changed, ids)) :
    graph.contains reference ∧ graph.contains child ∧
      changed = (graph.connect reference child).1 := by
  unfold addEdgePair at success
  split at success
  · rename_i above
    split at success
    · rename_i below
      exact ⟨above, below, (congrArg Prod.fst (Except.ok.inj success)).symm⟩
    · cases success
  · cases success

/-- The graphs that the operations on graphs can build. -/
inductive Reachable [Scalar α] : FrameGraph α → Prop where
  | empty : Reachable .empty
  | withRoot (name : String) : Reachable (.withRoot name)
  | addVertex {graph : FrameGraph α} (name : String) (payload : Transform α) :
      Reachable graph → Reachable (graph.addVertex name payload).1
  | addEdge {graph changed : FrameGraph α} {source target : VertexId}
      {direction : Direction} {id : EdgeId} :
      Reachable graph → graph.addEdge source target direction = .ok (changed, id) →
      Reachable changed
  | addEdgePair {graph changed : FrameGraph α} {reference child : VertexId}
      {ids : EdgeId × EdgeId} :
      Reachable graph → graph.addEdgePair reference child = .ok (changed, ids) →
      Reachable changed
  | rename {graph changed : FrameGraph α} {id : VertexId} {name : String} :
      Reachable graph → graph.rename id name = .ok changed → Reachable changed
  | setPayload {graph changed : FrameGraph α} {id : VertexId} {payload : Transform α} :
      Reachable graph → graph.setPayload id payload = .ok changed → Reachable changed

theorem EdgesWithin.modifyVertex {graph changed : FrameGraph α} (within : graph.EdgesWithin)
    {id : VertexId} {change : Vertex α → Vertex α}
    (success : graph.modifyVertex id change = .ok changed) : changed.EdgesWithin := by
  obtain ⟨-, rfl⟩ := modifyVertex_eq_ok success
  exact within.of_le rfl (by simp)

theorem Reachable.edgesWithin [Scalar α] {graph : FrameGraph α}
    (reachable : graph.Reachable) : graph.EdgesWithin := by
  induction reachable with
  | empty => exact fun _ member => absurd member List.not_mem_nil
  | withRoot name => exact fun _ member => absurd member List.not_mem_nil
  | addVertex name payload _ within =>
      exact within.of_le rfl (by simp [FrameGraph.addVertex])
  | addEdge _ success within =>
      obtain ⟨leaves, enters, rfl⟩ := addEdge_eq_ok success
      exact within.pushEdge leaves enters
  | addEdgePair _ success within =>
      obtain ⟨above, below, rfl⟩ := addEdgePair_eq_ok success
      exact within.connect above below
  | rename _ success within => exact within.modifyVertex success
  | setPayload _ success within => exact within.modifyVertex success

theorem Follows.contains {graph : FrameGraph α} (within : graph.EdgesWithin) {step : Step}
    (follows : graph.Follows step) :
    graph.contains step.source ∧ graph.contains step.target := by
  obtain ⟨edge, found, joins⟩ := follows
  have ends := within edge (List.mem_of_getElem? found)
  rcases joins with ⟨leaves, enters⟩ | ⟨leaves, enters⟩
  · exact ⟨leaves ▸ ends.1, enters ▸ ends.2⟩
  · exact ⟨enters ▸ ends.2, leaves ▸ ends.1⟩

theorem Joined.contains {graph : FrameGraph α} (within : graph.EdgesWithin)
    {source target : VertexId} (joined : graph.Joined source target)
    (present : graph.contains source) : graph.contains target := by
  induction joined with
  | refl => exact present
  | tail _ adjacent _ =>
      obtain ⟨edge, follows⟩ := adjacent.exists_step
      exact (follows.contains within).2

end FrameGraph

namespace Incidence

theorem edgesAt_insert (incidence : Incidence) (vertex other : VertexId)
    (entry : EdgeId × Edge) :
    (incidence.insert vertex entry).edgesAt other =
      if vertex = other ∧ other.index < incidence.size then entry :: incidence.edgesAt other
      else incidence.edgesAt other := by
  simp only [insert, edgesAt, Array.getElem?_modify]
  have sameIndex : vertex.index = other.index ↔ vertex = other := by
    cases vertex
    cases other
    simp
  by_cases same : vertex = other
  · by_cases inside : other.index < incidence.size
    · simp [same, inside]
    · simp [same, inside]
  · simp [same, sameIndex]

@[simp] theorem size_addEdge (incidence : Incidence) (entry : EdgeId × Edge) :
    (incidence.addEdge entry).size = incidence.size := by
  unfold addEdge
  split <;> simp [insert]

/-- An edge comes before the others at the vertices it touches, and nowhere else. -/
theorem edgesAt_addEdge {incidence : Incidence} {vertex : VertexId} (entry : EdgeId × Edge)
    (inside : vertex.index < incidence.size) :
    (incidence.addEdge entry).edgesAt vertex =
      if entry.2.touches vertex then entry :: incidence.edgesAt vertex
      else incidence.edgesAt vertex := by
  unfold addEdge
  by_cases leaves : entry.2.source = vertex
  · by_cases loop : entry.2.target = entry.2.source
    · simp [Edge.touches, edgesAt_insert, leaves, loop, inside]
    · have away : entry.2.target ≠ vertex := leaves ▸ loop
      simp [Edge.touches, edgesAt_insert, leaves, away, inside]
  · by_cases enters : entry.2.target = vertex
    · have apart : entry.2.target ≠ entry.2.source := fun same => leaves (same ▸ enters)
      have size : vertex.index < (incidence.insert entry.2.source entry).size := by
        simpa [insert] using inside
      rw [if_neg apart, edgesAt_insert, if_pos ⟨enters, size⟩, edgesAt_insert,
        if_neg (fun both => leaves both.1), if_pos (by simp [Edge.touches, enters])]
    · by_cases loop : entry.2.target = entry.2.source
      · simp [Edge.touches, edgesAt_insert, leaves, loop]
      · simp [Edge.touches, edgesAt_insert, leaves, enters, loop]

theorem edgesAt_foldr {initial : Incidence} {vertex : VertexId}
    (inside : vertex.index < initial.size) (bare : initial.edgesAt vertex = [])
    (entries : List (EdgeId × Edge)) :
    (entries.foldr addEdge initial).size = initial.size ∧
      (entries.foldr addEdge initial).edgesAt vertex =
        entries.filter fun entry => entry.2.touches vertex := by
  induction entries with
  | nil => exact ⟨rfl, bare⟩
  | cons entry rest induction =>
      obtain ⟨size, scanned⟩ := induction
      refine ⟨by rw [List.foldr_cons, size_addEdge, size], ?_⟩
      rw [List.foldr_cons, edgesAt_addEdge entry (by rw [size]; exact inside), scanned,
        List.filter_cons]

/-- The incidence of a graph is the plain scan of its edges, at every vertex. -/
theorem edgesAt_ofGraph {α : Type} {graph : FrameGraph α} (within : graph.EdgesWithin)
    (vertex : VertexId) : (ofGraph graph).edgesAt vertex = graph.edgesAt vertex := by
  by_cases inside : vertex.index < graph.vertices.length
  · exact (edgesAt_foldr (by simpa using inside)
      (by simp [edgesAt, inside]) graph.indexedEdges).2
  · have size (entries : List (EdgeId × Edge)) (initial : Incidence) :
        (entries.foldr addEdge initial).size = initial.size := by
      induction entries with
      | nil => rfl
      | cons entry rest induction => rw [List.foldr_cons, size_addEdge, induction]
    have none : (ofGraph graph).edgesAt vertex = [] := by
      have outside : ¬vertex.index < (ofGraph graph).size := by
        rw [ofGraph, size]
        simpa using inside
      simp [edgesAt, outside]
    rw [none, eq_comm, FrameGraph.edgesAt, List.filter_eq_nil_iff]
    rintro ⟨id, edge⟩ member touches
    have found := FrameGraph.edge?_eq_some_iff.mpr member
    have ends := FrameGraph.edgesWithin_iff.mp within edge (List.mem_of_getElem? found)
    simp only [Edge.touches, Bool.or_eq_true, beq_iff_eq] at touches
    rcases touches with leaves | enters
    · rw [leaves] at ends
      omega
    · rw [enters] at ends
      omega

end Incidence

namespace FrameGraph

variable {α : Type} {graph : FrameGraph α}

/-- The edges at a vertex come in the order of their insertion. -/
theorem pairwise_edgesAt (graph : FrameGraph α) (vertex : VertexId) :
    (graph.edgesAt vertex).Pairwise fun first second => first.1.index < second.1.index := by
  apply List.Pairwise.filter
  rw [indexedEdges, List.pairwise_map, List.pairwise_iff_getElem]
  intro first second _ _ before
  simpa using before

theorem mem_edgesAt_of_follows {step : Step} (follows : graph.Follows step) :
    ∃ edge, (step.edge, edge) ∈ graph.edgesAt step.source ∧
      edge.opposite? step.source = some step.target := by
  obtain ⟨edge, found, joins⟩ := follows
  refine ⟨edge, ?_, Edge.opposite?_eq_some_iff.mpr joins⟩
  exact List.mem_filter.mpr ⟨edge?_eq_some_iff.mp found, Edge.touches_of_joins joins⟩

theorem exists_opposite_of_mem_edgesAt {vertex : VertexId} {entry : EdgeId × Edge}
    (member : entry ∈ graph.edgesAt vertex) :
    ∃ next, entry.2.opposite? vertex = some next := by
  have touches : entry.2.touches vertex = true := (List.mem_filter.mp member).2
  simp only [Edge.touches, Bool.or_eq_true, beq_iff_eq] at touches
  rcases touches with leaves | enters
  · exact ⟨entry.2.target, Edge.opposite?_eq_some_iff.mpr (.inl ⟨leaves, rfl⟩)⟩
  · exact ⟨entry.2.source, Edge.opposite?_eq_some_iff.mpr (.inr ⟨rfl, enters⟩)⟩

theorem follows_of_mem_edgesAt {vertex next : VertexId} {entry : EdgeId × Edge}
    (member : entry ∈ graph.edgesAt vertex) (across : entry.2.opposite? vertex = some next) :
    graph.Follows ⟨vertex, next, entry.1⟩ :=
  ⟨entry.2, edge?_eq_some_iff.mpr (List.mem_filter.mp member).1,
    Edge.opposite?_eq_some_iff.mp across⟩

/-- An edge of the graph leads from a vertex to one other vertex. -/
theorem Follows.target_eq {first second : Step} (firstFollows : graph.Follows first)
    (secondFollows : graph.Follows second) (source : first.source = second.source)
    (edge : first.edge = second.edge) : first.target = second.target := by
  obtain ⟨firstEdge, firstFound, firstJoins⟩ := firstFollows
  obtain ⟨secondEdge, secondFound, secondJoins⟩ := secondFollows
  have same : firstEdge = secondEdge := by
    rw [edge] at firstFound
    exact Option.some.inj (firstFound.symm.trans secondFound)
  have firstAcross := Edge.opposite?_eq_some_iff.mpr firstJoins
  have secondAcross := Edge.opposite?_eq_some_iff.mpr secondJoins
  rw [same, source, secondAcross] at firstAcross
  exact (Option.some.inj firstAcross).symm

end FrameGraph

end Kinematics
