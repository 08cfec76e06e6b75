import Kinematics.Frame.Query

/-!
# Graph stores

Several entities may live in one frame graph, and see what the others do to it.  The
graphs are therefore kept in a store, and an entity holds the number of its graph.
Graphs are never removed from a store.
-/

namespace Kinematics

/-- A graph of a store, by its position in the order of creation. -/
structure GraphId where
  index : Nat
  deriving DecidableEq

/-- Frame graphs in the order of their creation. -/
structure GraphStore (α : Type) where
  graphs : List (FrameGraph α)

namespace GraphStore

variable {α : Type}

def empty : GraphStore α := ⟨[]⟩

def create (store : GraphStore α) (graph : FrameGraph α) : GraphStore α × GraphId :=
  (⟨store.graphs ++ [graph]⟩, ⟨store.graphs.length⟩)

/-- A graph of the store; an empty one for a number that the store has not given out. -/
def graph (store : GraphStore α) (id : GraphId) : FrameGraph α :=
  store.graphs[id.index]?.getD .empty

def modify (store : GraphStore α) (id : GraphId) (change : FrameGraph α → FrameGraph α) :
    GraphStore α :=
  ⟨store.graphs.modify id.index change⟩

def set (store : GraphStore α) (id : GraphId) (graph : FrameGraph α) : GraphStore α :=
  store.modify id fun _ => graph

end GraphStore

end Kinematics
