import Kinematics.Frame.Path
import Mathlib.Data.List.Induction
import Mathlib.Logic.Relation

/-!
# Walks in a frame graph

A walk goes from vertex to vertex along edges of the graph, each in either
orientation.  Walks say what a path search looks for without saying how it searches.
-/

namespace Kinematics

/-- The ends of an edge, in either order. -/
def Edge.Joins (edge : Edge) (left right : VertexId) : Prop :=
  edge.source = left ∧ edge.target = right ∨ edge.source = right ∧ edge.target = left

theorem Edge.Joins.symm {edge : Edge} {left right : VertexId}
    (joins : edge.Joins left right) : edge.Joins right left :=
  Or.symm joins

theorem Edge.opposite?_eq_some_iff {edge : Edge} {left right : VertexId} :
    edge.opposite? left = some right ↔ edge.Joins left right := by
  unfold Edge.opposite? Edge.Joins
  split
  · rename_i leaves
    constructor
    · intro equality
      exact .inl ⟨leaves, Option.some.inj equality⟩
    · rintro (⟨-, enters⟩ | ⟨back, enters⟩)
      · rw [enters]
      · rw [enters, ← leaves, back]
  · rename_i elsewhere
    split
    · rename_i enters
      constructor
      · intro equality
        exact .inr ⟨Option.some.inj equality, enters⟩
      · rintro (⟨leaves, -⟩ | ⟨leaves, -⟩)
        · exact absurd leaves elsewhere
        · rw [leaves]
    · rename_i apart
      constructor
      · intro equality
        cases equality
      · rintro (⟨leaves, -⟩ | ⟨-, enters⟩)
        · exact absurd leaves elsewhere
        · exact absurd enters apart

theorem Edge.touches_of_joins {edge : Edge} {left right : VertexId}
    (joins : edge.Joins left right) : edge.touches left = true := by
  rcases joins with ⟨leaves, -⟩ | ⟨-, enters⟩
  · simp [Edge.touches, leaves]
  · simp [Edge.touches, enters]

/-- The end that the child is placed relative to. -/
def Edge.reference (edge : Edge) : VertexId :=
  match edge.direction with
  | .forward => edge.target
  | .backward => edge.source

theorem Edge.joins_reference_child (edge : Edge) : edge.Joins edge.reference edge.child := by
  unfold Edge.reference Edge.child
  cases edge.direction with
  | forward => exact .inr ⟨rfl, rfl⟩
  | backward => exact .inl ⟨rfl, rfl⟩

theorem Edge.ends_eq_of_joins {edge : Edge} {left right : VertexId}
    (joins : edge.Joins left right) :
    left = edge.reference ∧ right = edge.child ∨ left = edge.child ∧ right = edge.reference := by
  unfold Edge.reference Edge.child
  cases edge.direction with
  | forward =>
      rcases joins with ⟨leaves, enters⟩ | ⟨leaves, enters⟩
      · exact .inr ⟨leaves.symm, enters.symm⟩
      · exact .inl ⟨enters.symm, leaves.symm⟩
  | backward =>
      rcases joins with ⟨leaves, enters⟩ | ⟨leaves, enters⟩
      · exact .inl ⟨leaves.symm, enters.symm⟩
      · exact .inr ⟨enters.symm, leaves.symm⟩

def Step.reversed (step : Step) : Step :=
  ⟨step.target, step.source, step.edge⟩

/-- The edges of a path, by their positions in the order of insertion. -/
def Step.positions (path : List Step) : List Nat :=
  path.map fun step => step.edge.index

/-- The vertices that a path from a vertex visits, in order. -/
def Step.visits (source : VertexId) (path : List Step) : List VertexId :=
  source :: path.map Step.target

namespace FrameGraph

variable {α : Type} {graph : FrameGraph α}

/-- An edge of the graph has the ends of the step as its ends. -/
def Follows (graph : FrameGraph α) (step : Step) : Prop :=
  ∃ edge, graph.edge? step.edge = some edge ∧ edge.Joins step.source step.target

/-- A path that leads from a vertex to another one. -/
inductive Walk (graph : FrameGraph α) : VertexId → List Step → VertexId → Prop where
  | stay (vertex : VertexId) : Walk graph vertex [] vertex
  | go {step : Step} {rest : List Step} {goal : VertexId} :
      graph.Follows step → Walk graph step.target rest goal →
      Walk graph step.source (step :: rest) goal

/-- Some edge joins two vertices, in either orientation. -/
def Adjacent (graph : FrameGraph α) (left right : VertexId) : Prop :=
  ∃ edge ∈ graph.edges, edge.Joins left right

/-- A chain of edges joins two vertices, each edge in either orientation. -/
def Joined (graph : FrameGraph α) : VertexId → VertexId → Prop :=
  Relation.ReflTransGen graph.Adjacent

theorem edge?_eq_some_iff {id : EdgeId} {edge : Edge} :
    graph.edge? id = some edge ↔ (id, edge) ∈ graph.indexedEdges := by
  simp only [edge?, indexedEdges, List.mem_map, Prod.mk.injEq, Prod.exists]
  constructor
  · intro found
    exact ⟨edge, id.index, List.mk_mem_zipIdx_iff_getElem?.mpr found, rfl, rfl⟩
  · rintro ⟨present, index, member, rfl, rfl⟩
    exact List.mk_mem_zipIdx_iff_getElem?.mp member

theorem Adjacent.symm {left right : VertexId} (adjacent : graph.Adjacent left right) :
    graph.Adjacent right left := by
  obtain ⟨edge, member, joins⟩ := adjacent
  exact ⟨edge, member, joins.symm⟩

theorem Joined.symm {left right : VertexId} (joined : graph.Joined left right) :
    graph.Joined right left := by
  induction joined with
  | refl => exact .refl
  | tail _ adjacent induction => exact .head adjacent.symm induction

theorem Follows.adjacent {step : Step} (follows : graph.Follows step) :
    graph.Adjacent step.source step.target := by
  obtain ⟨edge, found, joins⟩ := follows
  exact ⟨edge, List.mem_of_getElem? found, joins⟩

theorem Adjacent.exists_step {left right : VertexId} (adjacent : graph.Adjacent left right) :
    ∃ edge, graph.Follows ⟨left, right, edge⟩ := by
  obtain ⟨edge, member, joins⟩ := adjacent
  obtain ⟨index, found⟩ := List.mem_iff_getElem?.mp member
  exact ⟨⟨index⟩, edge, found, joins⟩

theorem Follows.reversed {step : Step} (follows : graph.Follows step) :
    graph.Follows step.reversed := by
  obtain ⟨edge, found, joins⟩ := follows
  exact ⟨edge, found, joins.symm⟩

namespace Walk

@[simp] theorem nil_iff {source goal : VertexId} :
    graph.Walk source [] goal ↔ source = goal := by
  constructor
  · intro walk
    cases walk
    rfl
  · rintro rfl
    exact .stay source

theorem cons_iff {source goal : VertexId} {step : Step} {rest : List Step} :
    graph.Walk source (step :: rest) goal ↔
      step.source = source ∧ graph.Follows step ∧ graph.Walk step.target rest goal := by
  constructor
  · intro walk
    cases walk with
    | go follows later => exact ⟨rfl, follows, later⟩
  · rintro ⟨rfl, follows, later⟩
    exact .go follows later

theorem append_iff {source goal : VertexId} {first second : List Step} :
    graph.Walk source (first ++ second) goal ↔
      ∃ middle, graph.Walk source first middle ∧ graph.Walk middle second goal := by
  induction first generalizing source with
  | nil => simp
  | cons step first induction =>
      simp only [List.cons_append, cons_iff, induction]
      constructor
      · rintro ⟨leaves, follows, middle, before, after⟩
        exact ⟨middle, ⟨leaves, follows, before⟩, after⟩
      · rintro ⟨middle, ⟨leaves, follows, before⟩, after⟩
        exact ⟨leaves, follows, middle, before, after⟩

theorem append {source middle goal : VertexId} {first second : List Step}
    (before : graph.Walk source first middle) (after : graph.Walk middle second goal) :
    graph.Walk source (first ++ second) goal :=
  append_iff.mpr ⟨middle, before, after⟩

theorem snoc_iff {source goal : VertexId} {path : List Step} {last : Step} :
    graph.Walk source (path ++ [last]) goal ↔
      graph.Walk source path last.source ∧ graph.Follows last ∧ last.target = goal := by
  simp only [append_iff, cons_iff, nil_iff]
  constructor
  · rintro ⟨middle, walk, rfl, follows, arrives⟩
    exact ⟨walk, follows, arrives⟩
  · rintro ⟨walk, follows, arrives⟩
    exact ⟨last.source, walk, rfl, follows, arrives⟩

theorem follows_of_mem {source goal : VertexId} {path : List Step}
    (walk : graph.Walk source path goal) {step : Step} (onPath : step ∈ path) :
    graph.Follows step := by
  induction walk with
  | stay => simp at onPath
  | go follows _ induction =>
      rcases List.mem_cons.mp onPath with rfl | later
      · exact follows
      · exact induction later

theorem joined {source goal : VertexId} {path : List Step}
    (walk : graph.Walk source path goal) : graph.Joined source goal := by
  induction walk with
  | stay => exact .refl
  | go follows _ induction => exact .head follows.adjacent induction

theorem reverse {source goal : VertexId} {path : List Step}
    (walk : graph.Walk source path goal) :
    graph.Walk goal (path.reverse.map Step.reversed) source := by
  induction walk with
  | stay vertex => exact .stay vertex
  | @go step rest goal follows _ induction =>
      rw [List.reverse_cons, List.map_append]
      exact induction.append (.go follows.reversed (.stay step.source))

end Walk

theorem joined_iff_exists_walk {source goal : VertexId} :
    graph.Joined source goal ↔ ∃ path, graph.Walk source path goal := by
  constructor
  · intro joined
    induction joined with
    | refl => exact ⟨[], .stay source⟩
    | tail _ adjacent induction =>
        obtain ⟨path, walk⟩ := induction
        obtain ⟨edge, follows⟩ := adjacent.exists_step
        exact ⟨path ++ [⟨_, _, edge⟩], Walk.snoc_iff.mpr ⟨walk, follows, rfl⟩⟩
  · rintro ⟨path, walk⟩
    exact walk.joined

end FrameGraph

end Kinematics
