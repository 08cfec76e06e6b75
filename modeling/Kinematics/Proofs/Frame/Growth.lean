import Kinematics.Proofs.Frame.EarliestPath
import Kinematics.Proofs.Frame.Extension
import Kinematics.Proofs.Frame.Store

/-!
# Graphs that grow

An attached frame is a leaf: all of its edges lead to the one older frame that it was
connected to.  No path between older frames can pass through a leaf without coming back to
that frame, so the earliest paths stay as they are, and with them all answers about frames
that were there before.
-/

namespace Kinematics

namespace FrameGraph

variable {α : Type} {graph larger : FrameGraph α} {anchor : VertexId}

def fresh (graph : FrameGraph α) : VertexId := ⟨graph.vertices.length⟩

theorem ne_fresh_of_contains {id : VertexId} (old : graph.contains id) : id ≠ graph.fresh := by
  rintro rfl
  exact lt_irrefl _ (contains_iff.mp old)

/-- The larger graph has one more vertex, and all new edges join it to one older vertex. -/
structure GainsLeaf (graph larger : FrameGraph α) (anchor : VertexId) : Prop where
  vertices : ∃ leaf, larger.vertices = graph.vertices ++ [leaf]
  edges : ∃ added, larger.edges = graph.edges ++ added ∧
    ∀ edge ∈ added, graph.contains anchor ∧ edge.Joins anchor graph.fresh

theorem exists_gainsLeaf_attach (graph : FrameGraph α) (name : String) (payload : Transform α)
    (reference : String) (tieBreak : TieBreak) :
    ∃ anchor, graph.GainsLeaf (graph.attach name payload reference tieBreak).graph anchor := by
  have vertices : ∃ leaf, (graph.attach name payload reference tieBreak).graph.vertices =
      graph.vertices ++ [leaf] := ⟨_, graph.vertices_attach name payload reference tieBreak⟩
  have attached := graph.graph_attach name payload reference tieBreak
  cases found : tieBreak.resolve graph.names reference with
  | none =>
      rw [found] at attached
      refine ⟨graph.fresh, vertices, [], ?_, fun _ member => absurd member List.not_mem_nil⟩
      rw [attached, List.append_nil]
      rfl
  | some position =>
      rw [found] at attached
      have known : graph.contains ⟨position⟩ := by
        rw [contains_iff, ← List.length_map, ← names]
        exact TieBreak.resolve_lt found
      refine ⟨⟨position⟩, vertices,
        [⟨⟨position⟩, graph.fresh, .backward⟩, ⟨graph.fresh, ⟨position⟩, .forward⟩], ?_, ?_⟩
      · rw [attached]
        simp [connect, pushEdge, addVertex, fresh]
      · intro edge member
        refine ⟨known, ?_⟩
        simp only [List.mem_cons, List.not_mem_nil, or_false] at member
        rcases member with rfl | rfl
        · exact .inl ⟨rfl, rfl⟩
        · exact .inr ⟨rfl, rfl⟩

theorem Walk.eq_of_positions {source firstGoal secondGoal : VertexId} {first second : List Step}
    (firstWalk : graph.Walk source first firstGoal)
    (secondWalk : graph.Walk source second secondGoal)
    (same : Step.positions first = Step.positions second) : first = second := by
  induction first generalizing source second with
  | nil => exact (List.map_eq_nil_iff.mp same.symm).symm
  | cons step rest induction =>
      obtain ⟨other, others, rfl⟩ : ∃ other others, second = other :: others :=
        List.exists_cons_of_ne_nil fun empty => by simp [empty, Step.positions] at same
      obtain ⟨firstLeaves, firstFollows, firstRest⟩ := Walk.cons_iff.mp firstWalk
      obtain ⟨secondLeaves, secondFollows, secondRest⟩ := Walk.cons_iff.mp secondWalk
      obtain ⟨edgeIndex, later⟩ := List.cons_eq_cons.mp same
      have edge : step.edge = other.edge := congrArg EdgeId.mk edgeIndex
      have leaves : step.source = other.source := firstLeaves.trans secondLeaves.symm
      have arrives : step.target = other.target := firstFollows.target_eq secondFollows leaves edge
      obtain rfl : step = other := by
        cases step
        cases other
        cases leaves
        cases arrives
        cases edge
        rfl
      rw [induction firstRest secondRest later]

namespace GainsLeaf

variable (gains : graph.GainsLeaf larger anchor)

include gains

/-- An edge of the larger graph is an old one, or joins the new vertex to its anchor. -/
theorem edge?_cases {id : EdgeId} {edge : Edge} (found : larger.edge? id = some edge) :
    graph.edge? id = some edge ∨ graph.contains anchor ∧ edge.Joins anchor graph.fresh := by
  obtain ⟨added, edges, joins⟩ := gains.edges
  unfold edge? at found
  rw [edges] at found
  by_cases inside : id.index < graph.edges.length
  · rw [List.getElem?_append_left inside] at found
    exact .inl found
  · rw [List.getElem?_append_right (Nat.le_of_not_lt inside)] at found
    exact .inr (joins edge (List.mem_of_getElem? found))

theorem edgesWithin (within : graph.EdgesWithin) : larger.EdgesWithin := by
  obtain ⟨leaf, vertices⟩ := gains.vertices
  have size : larger.vertices.length = graph.vertices.length + 1 := by rw [vertices]; simp
  rw [edgesWithin_iff] at within ⊢
  intro edge member
  obtain ⟨index, isThere⟩ := List.mem_iff_getElem?.mp member
  have found : larger.edge? ⟨index⟩ = some edge := isThere
  rcases gains.edge?_cases found with old | ⟨known, joins⟩
  · have ends := within edge (List.mem_of_getElem? old)
    omega
  · have below := contains_iff.mp known
    have last : graph.fresh.index = graph.vertices.length := rfl
    rcases joins with ⟨leaves, enters⟩ | ⟨leaves, enters⟩
    · rw [leaves, enters]
      omega
    · rw [leaves, enters]
      omega

theorem extension : graph.Extends larger := by
  obtain ⟨leaf, vertices⟩ := gains.vertices
  obtain ⟨added, edges, -⟩ := gains.edges
  exact ⟨⟨[leaf], vertices.symm⟩, ⟨added, edges.symm⟩, gains.edgesWithin⟩

theorem vertex?_eq {id : VertexId} (old : graph.contains id) :
    larger.vertex? id = graph.vertex? id := by
  obtain ⟨vertex, found⟩ := Option.isSome_iff_exists.mp old
  rw [gains.extension.vertex?_eq found, found]

/-- A step between older vertices was there before. -/
theorem follows_of_old {step : Step} (follows : larger.Follows step)
    (leaves : step.source ≠ graph.fresh) (arrives : step.target ≠ graph.fresh) :
    graph.Follows step := by
  obtain ⟨edge, found, joins⟩ := follows
  rcases gains.edge?_cases found with old | ⟨-, toLeaf⟩
  · exact ⟨edge, old, joins⟩
  · rcases joins with ⟨source, target⟩ | ⟨target, source⟩ <;>
      rcases toLeaf with ⟨-, isFresh⟩ | ⟨isFresh, -⟩
    · exact absurd (target.symm.trans isFresh) arrives
    · exact absurd (source.symm.trans isFresh) leaves
    · exact absurd (source.symm.trans isFresh) leaves
    · exact absurd (target.symm.trans isFresh) arrives

/-- From the new vertex every step leads to its anchor. -/
theorem target_of_leaf (within : graph.EdgesWithin) {step : Step} (follows : larger.Follows step)
    (leaves : step.source = graph.fresh) : step.target = anchor := by
  obtain ⟨edge, found, joins⟩ := follows
  rcases gains.edge?_cases found with old | ⟨known, toLeaf⟩
  · have ends := Follows.contains within ⟨edge, old, joins⟩
    exact absurd leaves (ne_fresh_of_contains ends.1)
  · have apart := ne_fresh_of_contains known
    rcases joins with ⟨source, target⟩ | ⟨target, source⟩ <;>
      rcases toLeaf with ⟨first, second⟩ | ⟨second, first⟩
    · exact absurd (first.symm.trans (source.trans leaves)) apart
    · exact target.symm.trans first
    · exact target.symm.trans first
    · exact absurd (first.symm.trans (source.trans leaves)) apart

/-- A path without repetitions between older vertices does not visit the new one, because it
would come to it from the anchor and leave it to the anchor. -/
theorem walk_of_simple (within : graph.EdgesWithin) {source goal : VertexId} {path : List Step}
    (walk : larger.Walk source path goal) (simple : (Step.visits source path).Nodup)
    (starts : source ≠ graph.fresh) (ends : goal ≠ graph.fresh) :
    graph.Walk source path goal := by
  induction path generalizing source with
  | nil => exact Walk.nil_iff.mpr (Walk.nil_iff.mp walk)
  | cons step rest induction =>
      obtain ⟨rfl, follows, later⟩ := Walk.cons_iff.mp walk
      have visits : (step.source :: Step.visits step.target rest).Nodup := simple
      rw [List.nodup_cons] at visits
      have arrives : step.target ≠ graph.fresh := by
        intro atLeaf
        have fromAnchor : step.source = anchor :=
          gains.target_of_leaf within follows.reversed atLeaf
        cases rest with
        | nil => exact ends ((Walk.nil_iff.mp later).symm.trans atLeaf)
        | cons next others =>
            obtain ⟨leaves, nextFollows, -⟩ := Walk.cons_iff.mp later
            have toAnchor : next.target = anchor :=
              gains.target_of_leaf within nextFollows (leaves.trans atLeaf)
            apply visits.1
            rw [fromAnchor, ← toAnchor]
            exact List.mem_cons_of_mem _ List.mem_cons_self
      exact .go (gains.follows_of_old follows starts arrives) (induction later visits.2 arrives)

section Old

variable (within : graph.EdgesWithin) {source goal : VertexId}
  (starts : graph.contains source) (ends : graph.contains goal)

include within starts ends

/-- The search finds the same path between older vertices, or none as before. -/
theorem findPath_eq : larger.findPath source goal = graph.findPath source goal := by
  rcases larger.findPath_answers (gains.edgesWithin within) source goal with
    ⟨path, found, earliest⟩ | ⟨none, apart⟩
  · have old : graph.Walk source path goal :=
      gains.walk_of_simple within earliest.walk earliest.simple (ne_fresh_of_contains starts)
        (ne_fresh_of_contains ends)
    obtain ⟨other, otherFound, otherEarliest⟩ := findPath_eq_some within old.joined
    have rank : Step.rank path = Step.rank other :=
      le_antisymm (earliest.least other (gains.extension.walk otherEarliest.walk))
        (otherEarliest.least path old)
    have positions : Step.positions path = Step.positions other :=
      congrArg (fun rank => (ofLex rank).2) rank
    rw [found, otherFound, old.eq_of_positions otherEarliest.walk positions]
  · have stillApart : ¬graph.Joined source goal := fun joined =>
      apart (gains.extension.joined joined)
    rw [none, (findPath_eq_none_iff within).mpr stillApart]

end Old

section Answers

variable [Scalar α] (within : graph.EdgesWithin)

include within

theorem composeStep_eq {step : Step} (follows : graph.Follows step) (product : Transform α) :
    larger.composeStep product step = graph.composeStep product step := by
  obtain ⟨edge, found, -⟩ := follows
  have inside := within.contains_child (List.mem_of_getElem? found)
  unfold composeStep
  simp only [found, gains.extension.edge?_eq found, gains.vertex?_eq inside]

theorem composePath_eq {source goal : VertexId} {path : List Step}
    (walk : graph.Walk source path goal) : larger.composePath path = graph.composePath path := by
  unfold composePath
  generalize (Transform.identity : Transform α) = product
  induction walk generalizing product with
  | stay vertex => rfl
  | @go step rest goal follows _ induction =>
      rw [List.foldlM_cons, List.foldlM_cons, gains.composeStep_eq within follows]
      exact bind_congr induction

theorem poseBetween_eq {source target : VertexId} (starts : graph.contains source)
    (ends : graph.contains target) :
    larger.poseBetween source target = graph.poseBetween source target := by
  unfold poseBetween
  rw [gains.vertex?_eq starts, gains.vertex?_eq ends, gains.findPath_eq within starts ends]
  rcases graph.findPath_answers within source target with ⟨path, found, earliest⟩ | ⟨none, -⟩
  · simp only [found, gains.composePath_eq within earliest.walk]
  · simp only [none]

end Answers

/-- A name that was there before still stands for the same first vertex. -/
theorem findIdx?_eq {name : String} (present : name ∈ graph.names) :
    larger.vertices.findIdx? (·.name == name) = graph.vertices.findIdx? (·.name == name) := by
  obtain ⟨position, first, -⟩ := exists_first_of_mem_names present
  rw [gains.extension.findIdx?_eq first, first]

theorem resolveName_eq {name : String} (present : name ∈ graph.names) :
    larger.resolveName name .firstInserted = graph.resolveName name .firstInserted := by
  rw [resolveName_firstInserted, resolveName_firstInserted, gains.findIdx?_eq present]

theorem poseInFrame_eq [Scalar α] (within : graph.EdgesWithin) {source target : String}
    (starts : source ∈ graph.names) (ends : target ∈ graph.names) :
    larger.poseInFrame source target = graph.poseInFrame source target := by
  obtain ⟨u, firstSource, startInside⟩ := exists_first_of_mem_names starts
  obtain ⟨v, firstTarget, endInside⟩ := exists_first_of_mem_names ends
  have between := gains.poseBetween_eq within startInside endInside
  unfold poseInFrame
  rw [resolveFirst_eq, resolveFirst_eq, resolveFirst_eq, resolveFirst_eq,
    gains.findIdx?_eq starts, gains.findIdx?_eq ends, firstSource, firstTarget]
  exact congrArg (fun answer => if source = target then .ok Pose.identity else answer) between

end GainsLeaf

end FrameGraph

/-- Attaching one more frame to a graph, whatever its edges and whatever names are shared,
changes no answer about frames and names that were there before. -/
theorem Binding.attach_keeps_answers {α : Type} [Scalar α] (store : GraphStore α) (id : GraphId)
    (within : (store.graph id).EdgesWithin) (name : String) (pose : Pose α) (reference : String)
    (tieBreak : TieBreak) (owner : String) :
    let before := store.graph id
    let after := (Binding.attach store id name pose reference tieBreak owner).1.graph id
    (∀ u v, before.contains u → before.contains v →
        after.findPath u v = before.findPath u v ∧
          after.poseBetween u v = before.poseBetween u v) ∧
      (∀ s ∈ before.names,
        after.resolveName s .firstInserted = before.resolveName s .firstInserted) ∧
      ∀ s ∈ before.names, ∀ t ∈ before.names, after.poseInFrame s t = before.poseInFrame s t := by
  intro before after
  have stored := store.graph_set id id (before.attach name (.ofPose pose) reference tieBreak).graph
  rcases stored with kept | ⟨-, replaced⟩
  · have same : after = before := kept
    rw [same]
    exact ⟨fun _ _ _ _ => ⟨rfl, rfl⟩, fun _ _ => rfl, fun _ _ _ _ => rfl⟩
  · have attached : after = (before.attach name (.ofPose pose) reference tieBreak).graph := replaced
    obtain ⟨anchor, gains⟩ := before.exists_gainsLeaf_attach name (.ofPose pose) reference tieBreak
    rw [← attached] at gains
    refine ⟨?_, ?_, ?_⟩
    · intro u v starts ends
      exact ⟨gains.findPath_eq within starts ends, gains.poseBetween_eq within starts ends⟩
    · intro s present
      exact gains.resolveName_eq present
    · intro s starts t ends
      exact gains.poseInFrame_eq within starts ends

/-- A second frame of the name "top" under the last frame of a graph with two ways around. -/
theorem Binding.attach_keeps_answers_diamond :
    let store : GraphStore Float := ⟨[FrameGraph.diamond]⟩
    let before := store.graph ⟨0⟩
    let after :=
      (Binding.attach store ⟨0⟩ "top" (.ofRollPitchYaw ⟨1.0, 0.0, 0.0⟩ ⟨0.0, 0.0, 0.0⟩)
        "bottom" .unique "link").1.graph ⟨0⟩
    before.EdgesWithin ∧ after.edges.length = before.edges.length + 2 ∧
      after.findPath ⟨0⟩ ⟨3⟩ = some [⟨⟨0⟩, ⟨2⟩, ⟨1⟩⟩, ⟨⟨2⟩, ⟨3⟩, ⟨4⟩⟩] ∧
      after.poseBetween ⟨0⟩ ⟨3⟩ = before.poseBetween ⟨0⟩ ⟨3⟩ ∧
      after.resolveName "top" .firstInserted = .ok ⟨0⟩ ∧
      after.poseInFrame "bottom" "top" = before.poseInFrame "bottom" "top" := by
  intro store before after
  have within : before.EdgesWithin := FrameGraph.diamond_reachable.edgesWithin
  obtain ⟨between, names, queries⟩ := Binding.attach_keeps_answers store ⟨0⟩ within "top"
    (.ofRollPitchYaw ⟨1.0, 0.0, 0.0⟩ ⟨0.0, 0.0, 0.0⟩) "bottom" .unique "link"
  have top : "top" ∈ before.names := List.mem_cons_self
  have bottom : "bottom" ∈ before.names := by
    simp [before, store, GraphStore.graph, FrameGraph.diamond, FrameGraph.names]
  have path : FrameGraph.diamond.findPath ⟨0⟩ ⟨3⟩ =
      some [⟨⟨0⟩, ⟨2⟩, ⟨1⟩⟩, ⟨⟨2⟩, ⟨3⟩, ⟨4⟩⟩] := rfl
  have first : FrameGraph.diamond.resolveName "top" .firstInserted = .ok ⟨0⟩ := rfl
  obtain ⟨paths, poses⟩ := between ⟨0⟩ ⟨3⟩ rfl rfl
  exact ⟨within, rfl, paths.trans path, poses, (names "top" top).trans first,
    queries "bottom" bottom "top" top⟩

end Kinematics
