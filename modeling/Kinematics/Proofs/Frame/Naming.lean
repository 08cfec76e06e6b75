import Kinematics.Entity.Binding
import Kinematics.Proofs.Frame.Reachable
import Mathlib.Data.List.Basic

/-!
# Names of frames

Which vertex a name stands for depends only on the list of all names.  A name that is
looked up for the first vertex, or for the only one, gives a position in that list.
-/

namespace Kinematics

/-- The position that a name stands for in a list of names: the first one that has it, or
the only one. -/
def TieBreak.resolve (tieBreak : TieBreak) (names : List String) (name : String) : Option Nat :=
  match tieBreak with
  | .firstInserted => names.findIdx? (· == name)
  | .unique => if names.count name = 1 then names.findIdx? (· == name) else none

theorem TieBreak.findIdx?_of_resolve {tieBreak : TieBreak} {names : List String} {name : String}
    {position : Nat} (found : tieBreak.resolve names name = some position) :
    names.findIdx? (· == name) = some position := by
  cases tieBreak with
  | firstInserted => exact found
  | unique => exact (Option.ite_none_right_eq_some.mp found).2

theorem TieBreak.resolve_lt {tieBreak : TieBreak} {names : List String} {name : String}
    {position : Nat} (found : tieBreak.resolve names name = some position) :
    position < names.length := by
  obtain ⟨inside, -⟩ := List.findIdx?_eq_some_iff_getElem.mp (findIdx?_of_resolve found)
  exact inside

/-- The vertex that a name stands for, of all that have it. -/
def TieBreak.choose (tieBreak : TieBreak) (name : String) :
    List VertexId → Except GraphError VertexId
  | [] => .error (.nameNotFound name)
  | first :: others =>
    if tieBreak = .unique ∧ others ≠ [] then .error (.ambiguousName name (others.length + 1))
    else .ok first

namespace TieBreak

variable {tieBreak : TieBreak} {name : String} {candidates : List VertexId}

theorem choose_of_usable {first : VertexId} (isFirst : candidates.head? = some first)
    (usable : candidates.length = 1 ∨ tieBreak = .firstInserted) :
    tieBreak.choose name candidates = .ok first := by
  obtain ⟨others, rfl⟩ := List.head?_eq_some_iff.mp isFirst
  rcases usable with single | rfl
  · obtain rfl : others = [] := by simpa using single
    simp [choose]
  · simp [choose]

theorem choose_unique_of_shared (shared : 1 < candidates.length) :
    unique.choose name candidates = .error (.ambiguousName name candidates.length) := by
  match candidates, shared with
  | _ :: _ :: _, _ => simp [choose]

end TieBreak

namespace FrameGraph

variable {α : Type}

/-- The names of all vertices, in order. -/
def names (graph : FrameGraph α) : List String :=
  graph.vertices.map Vertex.name

theorem findIdx?_names (graph : FrameGraph α) (name : String) :
    graph.names.findIdx? (· == name) = graph.vertices.findIdx? (·.name == name) := by
  rw [names, List.findIdx?_map]
  rfl

theorem head?_named (graph : FrameGraph α) (name : String) :
    (graph.named name).head? = (graph.names.findIdx? (· == name)).map VertexId.mk := by
  unfold named names
  rw [List.head?_map, List.head?_filter, List.findIdx?_map, List.findIdx?_eq_fst_find?_zipIdx,
    Option.map_map]
  rfl

theorem head?_named_vertices (graph : FrameGraph α) (name : String) :
    (graph.named name).head? =
      (graph.vertices.findIdx? (·.name == name)).map VertexId.mk := by
  rw [head?_named, findIdx?_names]

theorem length_named (graph : FrameGraph α) (name : String) :
    (graph.named name).length = graph.names.count name := by
  have kept : graph.names.count name =
      (graph.vertices.zipIdx.map Prod.fst).countP fun vertex => vertex.name == name := by
    rw [List.zipIdx_map_fst, names, List.count, List.countP_map]
    rfl
  rw [kept, List.countP_map, List.countP_eq_length_filter]
  exact List.length_map _

theorem resolveName_eq_choose (graph : FrameGraph α) (name : String) (tieBreak : TieBreak) :
    graph.resolveName name tieBreak = tieBreak.choose name (graph.named name) := by
  unfold resolveName TieBreak.choose
  cases graph.named name with
  | nil => rfl
  | cons first others =>
      cases others with
      | nil => simp
      | cons second rest => cases tieBreak <;> simp

/-- Looking a name up among the vertices is looking it up among their names. -/
theorem resolveName_eq (graph : FrameGraph α) (name : String) (tieBreak : TieBreak) :
    (graph.resolveName name tieBreak).toOption =
      (tieBreak.resolve graph.names name).map VertexId.mk := by
  have first := graph.head?_named name
  have size := graph.length_named name
  unfold resolveName
  cases found : graph.named name with
  | nil =>
      rw [found] at first size
      cases tieBreak with
      | firstInserted => exact first
      | unique =>
          have none : graph.names.count name ≠ 1 := by
            rw [← size]
            exact Nat.zero_ne_one
          rw [TieBreak.resolve, if_neg none]
          rfl
  | cons vertex others =>
      rw [found] at first size
      cases tieBreak with
      | firstInserted =>
          cases others with
          | nil => exact first
          | cons => exact first
      | unique =>
          cases others with
          | nil =>
              have single : graph.names.count name = 1 := size.symm
              rw [TieBreak.resolve, if_pos single]
              exact first
          | cons =>
              have several : graph.names.count name ≠ 1 := by
                rw [← size, List.length_cons, List.length_cons]
                omega
              rw [TieBreak.resolve, if_neg several]
              rfl

/-- The first vertex with a name, or the error that there is none. -/
theorem resolveFirst_eq (graph : FrameGraph α) (name : String) :
    graph.resolveFirst name =
      match graph.vertices.findIdx? (·.name == name) with
      | none => .error (.notFound name)
      | some position => .ok ⟨position⟩ := by
  have first := graph.head?_named_vertices name
  unfold resolveFirst
  cases found : graph.named name with
  | nil =>
      rw [found] at first
      rw [Option.map_eq_none_iff.mp first.symm]
  | cons vertex others =>
      rw [found] at first
      obtain ⟨position, isFirst, rfl⟩ := Option.map_eq_some_iff.mp first.symm
      rw [isFirst]

/-- Looked up for the first vertex, a name fails only if no vertex has it. -/
theorem resolveName_firstInserted (graph : FrameGraph α) (name : String) :
    graph.resolveName name .firstInserted =
      match graph.vertices.findIdx? (·.name == name) with
      | none => .error (.nameNotFound name)
      | some position => .ok ⟨position⟩ := by
  have first := graph.head?_named_vertices name
  unfold resolveName
  cases found : graph.named name with
  | nil =>
      rw [found] at first
      rw [Option.map_eq_none_iff.mp first.symm]
  | cons vertex others =>
      rw [found] at first
      obtain ⟨position, isFirst, rfl⟩ := Option.map_eq_some_iff.mp first.symm
      rw [isFirst]
      cases others with
      | nil => rfl
      | cons => rfl

theorem exists_first_of_mem_names {graph : FrameGraph α} {name : String}
    (present : name ∈ graph.names) :
    ∃ position, graph.vertices.findIdx? (·.name == name) = some position ∧
      graph.contains ⟨position⟩ := by
  obtain ⟨vertex, member, isName⟩ := List.mem_map.mp present
  have known : (graph.vertices.findIdx? (·.name == name)).isSome := by
    rw [List.findIdx?_isSome]
    exact List.any_eq_true.mpr ⟨vertex, member, by simpa using isName⟩
  obtain ⟨position, first⟩ := Option.isSome_iff_exists.mp known
  obtain ⟨below, -⟩ := List.findIdx?_eq_some_iff_getElem.mp first
  exact ⟨position, first, contains_iff.mpr below⟩

theorem contains_of_resolveName {graph : FrameGraph α} {name : String} {tieBreak : TieBreak}
    {referenced : VertexId} (resolved : graph.resolveName name tieBreak = .ok referenced) :
    graph.contains referenced := by
  have position := graph.resolveName_eq name tieBreak
  rw [resolved] at position
  obtain ⟨index, isPosition, rfl⟩ := Option.map_eq_some_iff.mp position.symm
  rw [contains_iff, ← List.length_map, ← names]
  exact TieBreak.resolve_lt isPosition

section Attaching

variable {graph : FrameGraph α} {reference : String} {tieBreak : TieBreak} {referenced : VertexId}
  (name : String) (payload : Transform α)

/-- Edges between an older vertex and a new one are never refused. -/
theorem addEdgePair_addVertex (old : graph.contains referenced) :
    (graph.addVertex name payload).1.addEdgePair referenced ⟨graph.vertices.length⟩ =
      .ok ((graph.addVertex name payload).1.connect referenced ⟨graph.vertices.length⟩) := by
  have size : (graph.addVertex name payload).1.vertices.length = graph.vertices.length + 1 := by
    simp [addVertex]
  have older : (graph.addVertex name payload).1.contains referenced := by
    rw [contains_iff, size]
    exact Nat.lt_succ_of_lt (contains_iff.mp old)
  have new : (graph.addVertex name payload).1.contains ⟨graph.vertices.length⟩ := by
    rw [contains_iff, size]
    exact Nat.lt_succ_self _
  unfold addEdgePair
  rw [if_pos older, if_pos new]

theorem attach_of_ok (resolved : graph.resolveName reference tieBreak = .ok referenced) :
    graph.attach name payload reference tieBreak =
      ⟨((graph.addVertex name payload).1.connect referenced ⟨graph.vertices.length⟩).1,
        ⟨graph.vertices.length⟩, none⟩ := by
  have accepted := addEdgePair_addVertex name payload (contains_of_resolveName resolved)
  unfold attach
  rw [resolved]
  dsimp only [addVertex] at accepted ⊢
  rw [accepted]

theorem attach_of_error {error : GraphError}
    (unresolved : graph.resolveName reference tieBreak = .error error) :
    graph.attach name payload reference tieBreak =
      ⟨(graph.addVertex name payload).1, ⟨graph.vertices.length⟩, some (.unresolved error)⟩ := by
  unfold attach
  rw [unresolved]
  rfl

/-- Only a reference that is not resolved keeps a frame from being connected. -/
theorem problem_attach (graph : FrameGraph α) (reference : String) (tieBreak : TieBreak) :
    (graph.attach name payload reference tieBreak).problem =
      match graph.resolveName reference tieBreak with
      | .ok _ => none
      | .error error => some (.unresolved error) := by
  cases resolved : graph.resolveName reference tieBreak with
  | ok referenced => rw [attach_of_ok name payload resolved]
  | error error => rw [attach_of_error name payload resolved]

end Attaching

/-- Attaching a frame adds its vertex, and connects it to the one that the name of its
reference stands for among the older vertices. -/
theorem graph_attach (graph : FrameGraph α) (name : String) (payload : Transform α)
    (reference : String) (tieBreak : TieBreak) :
    (graph.attach name payload reference tieBreak).graph =
      match tieBreak.resolve graph.names reference with
      | none => (graph.addVertex name payload).1
      | some position =>
        ((graph.addVertex name payload).1.connect ⟨position⟩ ⟨graph.vertices.length⟩).1 := by
  have resolved := graph.resolveName_eq reference tieBreak
  cases found : graph.resolveName reference tieBreak with
  | error problem =>
      rw [found] at resolved
      rw [attach_of_error name payload found, Option.map_eq_none_iff.mp resolved.symm]
  | ok referenced =>
      rw [found] at resolved
      rw [attach_of_ok name payload found]
      obtain ⟨position, isPosition, rfl⟩ := Option.map_eq_some_iff.mp resolved.symm
      rw [isPosition]

theorem vertices_attach (graph : FrameGraph α) (name : String) (payload : Transform α)
    (reference : String) (tieBreak : TieBreak) :
    (graph.attach name payload reference tieBreak).graph.vertices =
      graph.vertices ++ [⟨name, payload⟩] := by
  rw [graph_attach]
  cases tieBreak.resolve graph.names reference with
  | none => rfl
  | some position => rfl

theorem root_attach (graph : FrameGraph α) (name : String) (payload : Transform α)
    (reference : String) (tieBreak : TieBreak) :
    (graph.attach name payload reference tieBreak).graph.root = graph.root := by
  rw [graph_attach]
  cases tieBreak.resolve graph.names reference with
  | none => rfl
  | some position => rfl

end FrameGraph

end Kinematics
