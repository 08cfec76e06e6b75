import Kinematics.Frame.Store

/-!
# Graphs of a store

What creating or replacing a graph does to the graphs of a store: to the one that is
meant, to any other one, and to a property that all of them have.
-/

namespace Kinematics

namespace GraphStore

variable {α : Type}

theorem graph_create (store : GraphStore α) (graph : FrameGraph α) :
    (store.create graph).1.graph ⟨store.graphs.length⟩ = graph := by
  unfold GraphStore.graph GraphStore.create
  rw [List.getElem?_concat_length]
  rfl

theorem set_create (store : GraphStore α) (graph other : FrameGraph α) :
    (store.create graph).1.set ⟨store.graphs.length⟩ other = (store.create other).1 := by
  have last : (store.graphs ++ [graph]).modify store.graphs.length (fun _ => other) =
      store.graphs ++ [other] := by
    induction store.graphs with
    | nil => rfl
    | cons first rest induction =>
        rw [List.cons_append, List.length_cons, List.modify_succ_cons, induction]
        rfl
  exact congrArg GraphStore.mk last

theorem graph_set (store : GraphStore α) (id other : GraphId) (graph : FrameGraph α) :
    (store.set id graph).graph other = store.graph other ∨
      id = other ∧ (store.set id graph).graph other = graph := by
  unfold GraphStore.set GraphStore.modify GraphStore.graph
  rw [List.getElem?_modify]
  by_cases same : id.index = other.index
  · cases store.graphs[other.index]? with
    | none => exact .inl rfl
    | some before =>
        right
        simp only [same, if_true]
        refine ⟨?_, rfl⟩
        cases id
        cases other
        exact congrArg GraphId.mk same
  · left
    simp [same]

theorem graph_set_self {store : GraphStore α} {id : GraphId}
    (old : id.index < store.graphs.length) (graph : FrameGraph α) :
    (store.set id graph).graph id = graph := by
  unfold GraphStore.set GraphStore.modify GraphStore.graph
  rw [List.getElem?_modify, List.getElem?_eq_getElem old]
  simp

theorem length_set (store : GraphStore α) (id : GraphId) (graph : FrameGraph α) :
    (store.set id graph).graphs.length = store.graphs.length :=
  List.length_modify ..

theorem set_of_length_le {store : GraphStore α} {id : GraphId}
    (unknown : store.graphs.length ≤ id.index) (graph : FrameGraph α) :
    store.set id graph = store :=
  congrArg GraphStore.mk (List.modify_eq_self unknown)

/-- Every graph of the store has a property. -/
def All (property : FrameGraph α → Prop) (store : GraphStore α) : Prop :=
  ∀ graph ∈ store.graphs, property graph

section All

variable {property : FrameGraph α → Prop} {store : GraphStore α} (all : store.All property)

include all

theorem All.graph (empty : property .empty) (id : GraphId) : property (store.graph id) := by
  unfold GraphStore.graph
  cases found : store.graphs[id.index]? with
  | none => exact empty
  | some graph => exact all graph (List.mem_of_getElem? found)

theorem All.create {graph : FrameGraph α} (new : property graph) :
    (store.create graph).1.All property := by
  intro other member
  rcases List.mem_append.mp member with old | isNew
  · exact all other old
  · rw [List.mem_singleton.mp isNew]
    exact new

theorem All.set {graph : FrameGraph α} (new : property graph) (id : GraphId) :
    (store.set id graph).All property := by
  intro other member
  obtain ⟨index, found⟩ := List.mem_iff_getElem?.mp member
  simp only [GraphStore.set, GraphStore.modify, List.getElem?_modify] at found
  obtain ⟨before, wasThere, rfl⟩ := Option.map_eq_some_iff.mp found
  by_cases same : id.index = index
  · simp only [same, if_true]
    exact new
  · simp only [same, if_false]
    exact all before (List.mem_of_getElem? wasThere)

end All

end GraphStore

end Kinematics
