import Kinematics.Proofs.Frame.Lineage
import Mathlib.SetTheory.Cardinal.Finite

/-!
# Connected parts of a graph

Edges, followed at either end, divide the vertices of a graph into components.  In a forest
every component has one top, so there are as many components as vertices that hang from
nothing.  Between two vertices of one component there is always a pose.
-/

namespace Kinematics

namespace FrameGraph

variable {α : Type} {graph : FrameGraph α}

/-- The vertices of a graph, two of them alike if edges join them. -/
def joinedSetoid (graph : FrameGraph α) : Setoid {id : VertexId // graph.contains id} where
  r left right := graph.Joined left right
  iseqv := ⟨fun _ => .refl, Joined.symm, .trans⟩

/-- A connected component of a graph. -/
def Component (graph : FrameGraph α) : Type := Quotient graph.joinedSetoid

section Forest

variable {parent : VertexId → Option VertexId}

theorem Hangs.parent_top (hangs : graph.Hangs parent) (vertex : VertexId) :
    parent (top parent vertex) = none := by
  induction size : vertex.index using Nat.strongRecOn generalizing vertex with
  | ind index induction =>
      cases hung : parent vertex with
      | none => rw [top_of_none hung, hung]
      | some above =>
          have earlier := hangs.earlier hung
          rw [hangs.top_of_some hung]
          exact induction _ (by omega) above rfl

/-- A forest has as many components as vertices that hang from nothing. -/
theorem Hangs.card_component (hangs : graph.Hangs parent) (within : graph.EdgesWithin) :
    Nat.card graph.Component =
      (List.range graph.vertices.length).countP fun index => (parent ⟨index⟩).isNone := by
  let tops := (List.range graph.vertices.length).filter fun index => (parent ⟨index⟩).isNone
  have mem_tops {index : Nat} :
      index ∈ tops ↔ index < graph.vertices.length ∧ parent ⟨index⟩ = none := by
    simp [tops]
  -- Every top stands for the component that it is in.
  let component (index : {index // index ∈ tops.toFinset}) : graph.Component :=
    Quotient.mk graph.joinedSetoid
      ⟨⟨index.1⟩, contains_iff.mpr (mem_tops.mp (List.mem_toFinset.mp index.2)).1⟩
  have injective : Function.Injective component := by
    intro left right same
    have joined : graph.Joined ⟨left.1⟩ ⟨right.1⟩ := Quotient.exact same
    have sameTop := hangs.joined_iff.mp joined
    rw [top_of_none (mem_tops.mp (List.mem_toFinset.mp left.2)).2,
      top_of_none (mem_tops.mp (List.mem_toFinset.mp right.2)).2] at sameTop
    exact Subtype.ext (congrArg VertexId.index sameTop)
  have surjective : Function.Surjective component := by
    intro part
    obtain ⟨⟨vertex, present⟩, rfl⟩ := Quotient.exists_rep part
    have joined := hangs.joined_top vertex
    have isTop : (top parent vertex).index ∈ tops :=
      mem_tops.mpr ⟨contains_iff.mp (joined.contains within present), hangs.parent_top vertex⟩
    exact ⟨⟨_, List.mem_toFinset.mpr isTop⟩, Quotient.sound joined.symm⟩
  calc
    Nat.card graph.Component = Nat.card {index // index ∈ tops.toFinset} :=
      (Nat.card_eq_of_bijective component ⟨injective, surjective⟩).symm
    _ = tops.toFinset.card := Nat.card_eq_fintype_card.trans (Fintype.card_coe _)
    _ = tops.length := List.toFinset_card_of_nodup (List.nodup_range.filter _)
    _ = _ := (List.countP_eq_length_filter ..).symm

/-- In a forest with one component edges join any two vertices. -/
theorem joined_of_card_component (single : Nat.card graph.Component = 1) {left right : VertexId}
    (leftPresent : graph.contains left) (rightPresent : graph.contains right) :
    graph.Joined left right := by
  obtain ⟨only, unique⟩ := Nat.card_eq_one_iff_exists.mp single
  have same := (unique (Quotient.mk graph.joinedSetoid ⟨left, leftPresent⟩)).trans
    (unique (Quotient.mk graph.joinedSetoid ⟨right, rightPresent⟩)).symm
  exact Quotient.exact same

end Forest

section Resolution

variable [Scalar α] (within : graph.EdgesWithin)

include within

/-- A step along an edge of the graph always multiplies. -/
theorem exists_composeStep {step : Step} {edge : Edge}
    (found : graph.edge? step.edge = some edge) (product : Transform α) :
    ∃ next, graph.composeStep product step = .ok next := by
  have inside : graph.contains edge.child := within.contains_child (List.mem_of_getElem? found)
  obtain ⟨child, isChild⟩ := Option.isSome_iff_exists.mp inside
  unfold composeStep
  simp only [found, isChild]
  split
  · exact ⟨_, rfl⟩
  · exact ⟨_, rfl⟩

/-- The payloads along steps can be composed if their edges are in the graph. -/
theorem exists_composePath {path : List Step}
    (known : ∀ step ∈ path, graph.edge? step.edge ≠ none) :
    ∃ product, graph.composePath path = .ok product := by
  unfold composePath
  generalize (Transform.identity : Transform α) = product
  induction path generalizing product with
  | nil => exact ⟨product, rfl⟩
  | cons step rest induction =>
      obtain ⟨edge, found⟩ := Option.ne_none_iff_exists'.mp (known step List.mem_cons_self)
      obtain ⟨next, isNext⟩ := exists_composeStep within found product
      rw [List.foldlM_cons, isNext]
      exact induction (fun other member => known other (List.mem_cons_of_mem _ member)) next

theorem Walk.exists_composePath {source goal : VertexId} {path : List Step}
    (walk : graph.Walk source path goal) : ∃ product, graph.composePath path = .ok product := by
  apply FrameGraph.exists_composePath within
  intro step onPath missing
  obtain ⟨edge, found, -⟩ := walk.follows_of_mem onPath
  rw [missing] at found
  cases found

/-- Between joined vertices there is a pose. -/
theorem Joined.exists_poseBetween {source target : VertexId} (present : graph.contains source)
    (joined : graph.Joined source target) :
    ∃ pose, graph.poseBetween source target = .ok pose := by
  obtain ⟨sourceVertex, foundSource⟩ := Option.isSome_iff_exists.mp present
  obtain ⟨targetVertex, foundTarget⟩ :=
    Option.isSome_iff_exists.mp (joined.contains within present)
  obtain ⟨path, found, earliest⟩ := findPath_eq_some within joined
  obtain ⟨product, composed⟩ := earliest.walk.exists_composePath within
  unfold poseBetween
  simp only [foundSource, foundTarget, found, composed]
  split
  · exact ⟨_, rfl⟩
  · exact ⟨_, rfl⟩

end Resolution

end FrameGraph

end Kinematics
