import Kinematics.Proofs.Frame.EarliestPath
import Mathlib.Data.List.Sort

/-!
# The edges at a vertex

A search looks the edges of a vertex up in an incidence that was collected in one pass.  What it
finds there is what a scan of all edges finds: the edges that leave the vertex and those that
enter it, merged in the order of their insertion, and a loop once.
-/

namespace Kinematics

namespace FrameGraph

variable {α : Type} {graph : FrameGraph α} {vertex : VertexId}

theorem mem_edgesAt_iff {id : EdgeId} {edge : Edge} :
    (id, edge) ∈ graph.edgesAt vertex ↔
      graph.edge? id = some edge ∧ (edge.source = vertex ∨ edge.target = vertex) := by
  simp [edgesAt, edge?_eq_some_iff, Edge.touches]

theorem eq_of_mem_edgesAt {first second : EdgeId × Edge} (firstAt : first ∈ graph.edgesAt vertex)
    (secondAt : second ∈ graph.edgesAt vertex) (index : first.1.index = second.1.index) :
    first = second := by
  obtain ⟨⟨firstIndex⟩, firstEdge⟩ := first
  obtain ⟨⟨secondIndex⟩, secondEdge⟩ := second
  obtain rfl : firstIndex = secondIndex := index
  have found := (mem_edgesAt_iff.mp firstAt).1
  have same := found.symm.trans (mem_edgesAt_iff.mp secondAt).1
  rw [Option.some.inj same]

/-- The first entry was not inserted behind the second one. -/
def inOrder (first second : EdgeId × Edge) : Bool :=
  first.1.index ≤ second.1.index

theorem inOrder_iff {first second : EdgeId × Edge} :
    inOrder first second = true ↔ first.1.index ≤ second.1.index :=
  decide_eq_true_iff

/-- The edges at a vertex are those of any part of them merged with the others. -/
theorem merge_filter_edgesAt (graph : FrameGraph α) (vertex : VertexId)
    (part : EdgeId × Edge → Bool) :
    ((graph.edgesAt vertex).filter part).merge
        ((graph.edgesAt vertex).filter fun entry => !part entry) inOrder =
      graph.edgesAt vertex := by
  let inside := (graph.edgesAt vertex).filter part
  let outside := (graph.edgesAt vertex).filter fun entry => !part entry
  have ordered : (graph.edgesAt vertex).Pairwise fun first second =>
      inOrder first second = true := by
    apply (graph.pairwise_edgesAt vertex).imp
    intro first second before
    exact inOrder_iff.mpr before.le
  have together : (inside.merge outside inOrder).Perm (graph.edgesAt vertex) :=
    (List.merge_perm_append inOrder).trans (List.filter_append_perm part _)
  have merged : (inside.merge outside inOrder).Pairwise fun first second =>
      inOrder first second = true := by
    apply List.pairwise_merge
    · intro first second third
      simp only [inOrder_iff]
      exact le_trans
    · intro first second
      simp only [Bool.or_eq_true, inOrder_iff]
      exact le_total _ _
    · exact ordered.filter _
    · exact ordered.filter _
  apply List.Perm.eq_of_pairwise _ merged ordered together
  intro first second firstAt secondAt before after
  apply eq_of_mem_edgesAt (together.mem_iff.mp firstAt) secondAt
  exact le_antisymm (inOrder_iff.mp before) (inOrder_iff.mp after)

theorem edgesFrom_eq_filter (graph : FrameGraph α) (vertex : VertexId) :
    graph.edgesFrom vertex =
      (graph.edgesAt vertex).filter fun entry => entry.2.source == vertex := by
  unfold edgesFrom edgesAt
  rw [List.filter_filter]
  apply List.filter_congr
  rintro ⟨id, edge⟩ -
  simp only [Edge.touches]
  cases edge.source == vertex <;> rfl

theorem filter_edgesTo_eq_filter (graph : FrameGraph α) (vertex : VertexId) :
    ((graph.edgesTo vertex).filter fun entry => !(entry.2.source == vertex)) =
      (graph.edgesAt vertex).filter fun entry => !(entry.2.source == vertex) := by
  unfold edgesTo edgesAt
  rw [List.filter_filter, List.filter_filter]
  apply List.filter_congr
  rintro ⟨id, edge⟩ -
  simp only [Edge.touches]
  cases edge.source == vertex <;> rfl

theorem edgesTo_sublist (graph : FrameGraph α) (vertex : VertexId) :
    (graph.edgesTo vertex).Sublist (graph.edgesAt vertex) := by
  apply List.monotone_filter_right
  intro entry enters
  simp [Edge.touches, enters]

/-- In every graph that can be built, a search finds at a vertex exactly the edges that leave or
enter it, in the order of their insertion and each once.  The edges that leave it and those that
enter it are both among them in this order, and merging them by their positions, with loops
taken from one side only, gives the whole. -/
theorem edgesAt_ofGraph_merges [Scalar α] (reachable : graph.Reachable) (vertex : VertexId) :
    let found := (Incidence.ofGraph graph).edgesAt vertex
    found = graph.edgesAt vertex ∧
      (∀ id edge, (id, edge) ∈ found ↔
        graph.edge? id = some edge ∧ (edge.source = vertex ∨ edge.target = vertex)) ∧
      (found.Pairwise fun first second => first.1.index < second.1.index) ∧
      (graph.edgesFrom vertex).Sublist found ∧ (graph.edgesTo vertex).Sublist found ∧
      found = (graph.edgesFrom vertex).merge
        ((graph.edgesTo vertex).filter fun entry => !(entry.2.source == vertex)) inOrder := by
  intro found
  have scanned : found = graph.edgesAt vertex :=
    Incidence.edgesAt_ofGraph reachable.edgesWithin vertex
  rw [scanned]
  refine ⟨rfl, fun _ _ => mem_edgesAt_iff, graph.pairwise_edgesAt vertex, ?_,
    graph.edgesTo_sublist vertex, ?_⟩
  · rw [edgesFrom_eq_filter]
    exact List.filter_sublist
  · rw [edgesFrom_eq_filter, filter_edgesTo_eq_filter, merge_filter_edgesAt]

/-- At the top of the diamond, the loop leaves and enters and is found once. -/
theorem edgesAt_ofGraph_merges_diamond :
    diamond.Reachable ∧
      (Incidence.ofGraph diamond).edgesAt ⟨0⟩ =
        [(⟨0⟩, ⟨⟨0⟩, ⟨0⟩, .forward⟩), (⟨1⟩, ⟨⟨0⟩, ⟨2⟩, .backward⟩),
          (⟨2⟩, ⟨⟨1⟩, ⟨0⟩, .forward⟩)] ∧
      (diamond.edgesFrom ⟨0⟩).map Prod.fst = [⟨0⟩, ⟨1⟩] ∧
      (diamond.edgesTo ⟨0⟩).map Prod.fst = [⟨0⟩, ⟨2⟩] ∧
      (Incidence.ofGraph diamond).edgesAt ⟨0⟩ = (diamond.edgesFrom ⟨0⟩).merge
        ((diamond.edgesTo ⟨0⟩).filter fun entry => !(entry.2.source == ⟨0⟩)) inOrder := by
  obtain ⟨-, -, -, -, -, merged⟩ := edgesAt_ofGraph_merges diamond_reachable ⟨0⟩
  exact ⟨diamond_reachable, rfl, rfl, rfl, merged⟩

end FrameGraph

end Kinematics
