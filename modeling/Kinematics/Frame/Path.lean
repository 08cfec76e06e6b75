import Kinematics.Frame.Graph

/-!
# Paths between frames

A breadth-first search that follows edges at either end and tries the edges of a
vertex in the order of their insertion.  It finds a path with the fewest steps, and
among these the one whose edges come first.
-/

namespace Kinematics

/-- One step of a path. -/
structure Step where
  source : VertexId
  target : VertexId
  edge : EdgeId
  deriving DecidableEq

/-- The edges at each vertex, by the position of the vertex. -/
abbrev Incidence := Array (List (EdgeId × Edge))

namespace Incidence

/-- One more edge at a vertex, before the others. -/
def insert (incidence : Incidence) (vertex : VertexId) (entry : EdgeId × Edge) : Incidence :=
  incidence.modify vertex.index (entry :: ·)

/-- One more edge at both of its ends, a loop once. -/
def addEdge (entry : EdgeId × Edge) (incidence : Incidence) : Incidence :=
  let incidence := incidence.insert entry.2.source entry
  if entry.2.target = entry.2.source then incidence else incidence.insert entry.2.target entry

/-- The edges at every vertex of a graph, in order.  They are collected in one pass that
begins with the last edge. -/
def ofGraph {α : Type} (graph : FrameGraph α) : Incidence :=
  graph.indexedEdges.foldr addEdge (Array.replicate graph.vertices.length [])

/-- The edges at a vertex, none if it is not in the graph. -/
def edgesAt (incidence : Incidence) (vertex : VertexId) : List (EdgeId × Edge) :=
  incidence[vertex.index]?.getD []

end Incidence

/-- What a search has found so far: the vertices still to be tried in the order they were
found, and all vertices and the steps to them with the latest first. -/
structure Search where
  queue : List VertexId
  visited : List VertexId
  arrivals : List Step

namespace Search

def start (source : VertexId) : Search := ⟨[source], [source], []⟩

/-- The search after trying one edge of a vertex. -/
def tryEdge (search : Search) (current : VertexId) (entry : EdgeId × Edge) :
    Search × Option VertexId :=
  match entry.2.opposite? current with
  | none => (search, none)
  | some next =>
    if next ∈ search.visited then (search, none)
    else
      ({ queue := search.queue ++ [next]
         visited := next :: search.visited
         arrivals := ⟨current, next, entry.1⟩ :: search.arrivals }, some next)

/-- The search after trying edges of a vertex in order, up to the one that arrives at
the goal, and whether it was reached. -/
def tryEdges (current goal : VertexId) : List (EdgeId × Edge) → Search → Search × Bool
  | [], search => (search, false)
  | entry :: rest, search =>
    match search.tryEdge current entry with
    | (search, some next) =>
      if next = goal then (search, true) else tryEdges current goal rest search
    | (search, none) => tryEdges current goal rest search

/-- The steps that lead from the source to a vertex, following arrivals backwards for
at most a given number of steps. -/
def pathTo (arrivals : List Step) (source : VertexId) : Nat → VertexId → List Step
  | 0, _ => []
  | bound + 1, current =>
    if current = source then []
    else
      match arrivals.find? fun step => step.target = current with
      | none => []
      | some step => pathTo arrivals source bound step.source ++ [step]

/-- The search until the goal is reached or the queue is empty, taking a bounded number
of vertices from the queue. -/
def run (incidence : Incidence) (source goal : VertexId) : Nat → Search → Option (List Step)
  | 0, _ => none
  | bound + 1, search =>
    match search.queue with
    | [] => none
    | current :: queue =>
      match tryEdges current goal (incidence.edgesAt current) { search with queue } with
      | (search, true) => some (pathTo search.arrivals source search.arrivals.length goal)
      | (search, false) => run incidence source goal bound search

end Search

namespace FrameGraph

variable {α : Type}

/-- The path from one vertex to another that has the fewest steps and, among these,
the earliest edges.  No vertex enters the queue twice, so the bound is never met. -/
def findPath (graph : FrameGraph α) (source goal : VertexId) : Option (List Step) :=
  if source = goal then some []
  else
    Search.run (Incidence.ofGraph graph) source goal (graph.vertices.length + 1)
      (Search.start source)

end FrameGraph

end Kinematics
