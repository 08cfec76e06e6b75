import Kinematics.Proofs.Frame.Forest
import Kinematics.Proofs.Frame.Naming

/-!
# Wiring of frames

Attaching a frame adds a vertex and, if its reference is known, the two edges that wire
the vertex to the reference.  A graph whose edges all come from wires of this kind is a
forest.
-/

namespace Kinematics

/-- A frame and the one it was connected to. -/
structure Wire where
  reference : VertexId
  child : VertexId

/-- The complementary edges that connect the two frames. -/
def Wire.edges (wire : Wire) : List Edge :=
  [⟨wire.reference, wire.child, .backward⟩, ⟨wire.child, wire.reference, .forward⟩]

/-- The frame that a vertex was connected to, if it was. -/
def Wire.parent (wires : List Wire) (vertex : VertexId) : Option VertexId :=
  (wires.find? fun wire => wire.child = vertex).map Wire.reference

theorem Wire.parent_eq_some {wires : List Wire} {vertex above : VertexId}
    (distinct : (wires.map Wire.child).Nodup) :
    Wire.parent wires vertex = some above ↔ ⟨above, vertex⟩ ∈ wires := by
  unfold Wire.parent
  constructor
  · intro found
    obtain ⟨wire, isFound, rfl⟩ := Option.map_eq_some_iff.mp found
    have child : wire.child = vertex := by simpa using List.find?_some isFound
    rw [← child]
    exact List.mem_of_find?_eq_some isFound
  · intro member
    cases result : wires.find? fun wire => wire.child = vertex with
    | none =>
        have absent := List.find?_eq_none.mp result ⟨above, vertex⟩ member
        simp at absent
    | some wire =>
        have child : wire.child = vertex := by simpa using List.find?_some result
        have same := List.inj_on_of_nodup_map distinct (List.mem_of_find?_eq_some result) member
          child
        rw [same]
        rfl

namespace FrameGraph

variable {α : Type} {graph : FrameGraph α} {wires : List Wire}

/-- The edges of the graph are those of the wires, in order.  No frame is the child of two
wires, and each was inserted after the one it is connected to. -/
structure Wired (graph : FrameGraph α) (wires : List Wire) : Prop where
  edges : graph.edges = wires.flatMap Wire.edges
  distinct : (wires.map Wire.child).Nodup
  earlier : ∀ wire ∈ wires, wire.reference.index < wire.child.index
  within : ∀ wire ∈ wires, wire.child.index < graph.vertices.length

namespace Wired

theorem of_edges_eq_nil (edges : graph.edges = []) : graph.Wired [] where
  edges := edges
  distinct := List.nodup_nil
  earlier := fun _ member => absurd member List.not_mem_nil
  within := fun _ member => absurd member List.not_mem_nil

/-- Wires stay within a graph that has at least as many vertices. -/
theorem of_le (wired : graph.Wired wires) {larger : FrameGraph α}
    (edges : larger.edges = graph.edges)
    (size : graph.vertices.length ≤ larger.vertices.length) : larger.Wired wires where
  edges := edges.trans wired.edges
  distinct := wired.distinct
  earlier := wired.earlier
  within := fun wire member => lt_of_lt_of_le (wired.within wire member) size

theorem addVertex (wired : graph.Wired wires) (name : String) (payload : Transform α) :
    (graph.addVertex name payload).1.Wired wires :=
  wired.of_le rfl (by simp [FrameGraph.addVertex])

theorem modifyVertex (wired : graph.Wired wires) {changed : FrameGraph α} {id : VertexId}
    {change : Vertex α → Vertex α} (success : graph.modifyVertex id change = .ok changed) :
    changed.Wired wires := by
  obtain ⟨-, rfl⟩ := modifyVertex_eq_ok success
  exact wired.of_le rfl (by simp)

/-- A new vertex can be connected to an older one. -/
theorem addVertex_connect (wired : graph.Wired wires) (name : String) (payload : Transform α)
    {reference : VertexId} (known : reference.index < graph.vertices.length) :
    ((graph.addVertex name payload).1.connect reference ⟨graph.vertices.length⟩).1.Wired
      (wires ++ [⟨reference, ⟨graph.vertices.length⟩⟩]) where
  edges := by
    simp [connect, pushEdge, FrameGraph.addVertex, wired.edges, Wire.edges]
  distinct := by
    rw [List.map_append, List.nodup_append]
    refine ⟨wired.distinct, List.nodup_singleton _, ?_⟩
    rintro child member new isNew rfl
    obtain ⟨wire, isWire, rfl⟩ := List.mem_map.mp member
    have old := wired.within wire isWire
    rw [List.mem_singleton.mp isNew] at old
    exact lt_irrefl _ old
  earlier := by
    intro wire member
    rcases List.mem_append.mp member with old | new
    · exact wired.earlier wire old
    · rw [List.mem_singleton.mp new]
      exact known
  within := by
    intro wire member
    have size : ((graph.addVertex name payload).1.connect reference
        ⟨graph.vertices.length⟩).1.vertices.length = graph.vertices.length + 1 := by
      simp [connect, pushEdge, FrameGraph.addVertex]
    rw [size]
    rcases List.mem_append.mp member with old | new
    · exact Nat.lt_succ_of_lt (wired.within wire old)
    · rw [List.mem_singleton.mp new]
      exact Nat.lt_succ_self _

/-- Attaching a frame adds the wire to its reference, if that is known. -/
theorem attach (wired : graph.Wired wires) (name : String) (payload : Transform α)
    (reference : String) (tieBreak : TieBreak) :
    (graph.attach name payload reference tieBreak).graph.Wired
      (wires ++ ((tieBreak.resolve graph.names reference).map fun position =>
        ⟨⟨position⟩, ⟨graph.vertices.length⟩⟩).toList) := by
  rw [graph_attach]
  cases found : tieBreak.resolve graph.names reference with
  | none =>
      rw [Option.map_none, Option.toList_none, List.append_nil]
      exact wired.addVertex name payload
  | some position =>
      have known : position < graph.names.length := TieBreak.resolve_lt found
      rw [names, List.length_map] at known
      exact wired.addVertex_connect name payload known

theorem mem_edges (wired : graph.Wired wires) {edge : Edge} :
    edge ∈ graph.edges ↔ ∃ wire ∈ wires,
      edge = ⟨wire.reference, wire.child, .backward⟩ ∨
        edge = ⟨wire.child, wire.reference, .forward⟩ := by
  rw [wired.edges]
  simp only [List.mem_flatMap, Wire.edges, List.mem_cons, List.not_mem_nil, or_false]

theorem edgesWithin (wired : graph.Wired wires) : graph.EdgesWithin := by
  rw [edgesWithin_iff]
  intro edge member
  obtain ⟨wire, isWire, rfl | rfl⟩ := wired.mem_edges.mp member
  · have within := wired.within wire isWire
    exact ⟨lt_trans (wired.earlier wire isWire) within, within⟩
  · have within := wired.within wire isWire
    exact ⟨within, lt_trans (wired.earlier wire isWire) within⟩

/-- The frames of the graph hang from those they were connected to. -/
theorem hangs (wired : graph.Wired wires) : graph.Hangs (Wire.parent wires) where
  edge := by
    intro edge member
    rw [Wire.parent_eq_some wired.distinct]
    obtain ⟨wire, isWire, rfl | rfl⟩ := wired.mem_edges.mp member
    · exact isWire
    · exact isWire
  adjacent := by
    intro child above hung
    have member := (Wire.parent_eq_some wired.distinct).mp hung
    exact ⟨_, wired.mem_edges.mpr ⟨_, member, .inr rfl⟩, .inl ⟨rfl, rfl⟩⟩
  earlier := by
    intro child above hung
    exact wired.earlier _ ((Wire.parent_eq_some wired.distinct).mp hung)

end Wired

end FrameGraph

end Kinematics
