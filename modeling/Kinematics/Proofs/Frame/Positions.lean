import Kinematics.Proofs.Frame.Integrity

/-!
# Positions for identifiers

A graph with drawn identifiers in which every identifier is replaced by its position is
a `FrameGraph`, and every mutation does the same to both, errors included.  The main
statement puts this beside the integrity of the tables over whole runs.
-/

namespace Kinematics

variable {ι κ α : Type}

section

variable [DecidableEq ι]

theorem Table.modify_of_not_mem {β : Type} {table : List (ι × β)} {key : ι}
    (absent : key ∉ Table.keys table) (change : β → β) : Table.modify table key change = table := by
  unfold Table.modify
  conv_rhs => rw [← List.map_id table]
  apply List.map_congr_left
  intro entry member
  apply if_neg
  intro same
  exact absent (same ▸ List.mem_map_of_mem member)

theorem Table.map_modify {β γ : Type} {table : List (ι × β)} (distinct : (Table.keys table).Nodup)
    (key : ι) {change : β → β} {image : β → γ} {changeImage : γ → γ}
    (commutes : ∀ value, image (change value) = changeImage (image value)) :
    (Table.modify table key change).map (fun entry => image entry.2) =
      (table.map fun entry => image entry.2).modify ((Table.keys table).idxOf key)
        changeImage := by
  induction table with
  | nil => rfl
  | cons entry rest induction =>
      obtain ⟨first, value⟩ := entry
      obtain ⟨notLater, distinct⟩ := List.nodup_cons.mp distinct
      have isFirst : Table.keys ((first, value) :: rest) = first :: Table.keys rest := rfl
      rw [isFirst, List.map_cons]
      by_cases same : first = key
      · subst same
        rw [List.idxOf_cons_self, List.modify_zero_cons, ← commutes]
        have unchanged := Table.modify_of_not_mem notLater change
        unfold Table.modify at unchanged ⊢
        rw [List.map_cons, List.map_cons, if_pos rfl, unchanged]
      · have later : List.idxOf key (first :: Table.keys rest) = (Table.keys rest).idxOf key + 1 :=
          List.idxOf_cons_ne _ same
        rw [later, List.modify_succ_cons, ← induction distinct]
        unfold Table.modify
        rw [List.map_cons, List.map_cons, if_neg same]

namespace KeyedGraph

variable (graph : KeyedGraph ι κ α)

theorem contains_position (vertex : ι) :
    graph.toFrameGraph.contains (graph.position vertex) = true ↔
      vertex ∈ Table.keys graph.vertices := by
  rw [FrameGraph.contains_iff]
  change List.idxOf _ _ < List.length (List.map _ _) ↔ _
  rw [List.length_map, ← List.idxOf_lt_length_iff, Table.keys, List.length_map]

end KeyedGraph

namespace Drawing

variable {draws : Draws ι κ} {state : Drawing ι κ α}

theorem Integrity.toFrameGraph_pushVertex (integrity : state.Integrity draws) (name : String)
    (payload : Transform α) :
    (state.pushVertex draws name payload).graph.toFrameGraph =
      (state.graph.toFrameGraph.addVertex name payload).1 := by
  have stays : ∀ vertex ∈ Table.keys state.graph.vertices,
      (state.pushVertex draws name payload).graph.position vertex =
        state.graph.position vertex := by
    intro vertex present
    apply congrArg VertexId.mk
    change List.idxOf vertex (Table.keys (_ ++ _)) = _
    rw [Table.keys_append, List.idxOf_append_of_mem present]
  have edges : state.graph.edges.map (fun entry =>
        (state.pushVertex draws name payload).graph.edgeOf entry.2) =
      state.graph.toFrameGraph.edges := by
    apply List.map_congr_left
    intro entry member
    obtain ⟨leaves, enters⟩ := integrity.ends entry member
    unfold KeyedGraph.edgeOf
    rw [stays _ leaves, stays _ enters]
  have root : state.graph.root.map (state.pushVertex draws name payload).graph.position =
      state.graph.toFrameGraph.root := by
    apply Option.map_congr
    intro id member
    exact stays id (integrity.root id member)
  unfold KeyedGraph.toFrameGraph FrameGraph.addVertex
  rw [FrameGraph.mk.injEq]
  exact ⟨List.map_append, edges, root⟩

theorem toFrameGraph_pushEdge (draws : Draws ι κ) (state : Drawing ι κ α) (source target : ι)
    (direction : Direction) :
    (state.pushEdge draws source target direction).graph.toFrameGraph =
      (state.graph.toFrameGraph.pushEdge
        ⟨state.graph.position source, state.graph.position target, direction⟩).1 := by
  exact congrArg (FrameGraph.mk _ · _) List.map_append

variable {update : KeyedVertex ι α → KeyedVertex ι α} {change : Vertex α → Vertex α}
  (distinct : (Table.keys state.graph.vertices).Nodup) (vertex : ι)
  (commutes : ∀ before : KeyedVertex ι α, (update before).toVertex = change before.toVertex)

include distinct commutes

theorem toFrameGraph_modify :
    ({ state.graph with vertices := Table.modify state.graph.vertices vertex update } :
        KeyedGraph ι κ α).toFrameGraph =
      { state.graph.toFrameGraph with
        vertices := state.graph.toFrameGraph.vertices.modify
          (state.graph.position vertex).index change } := by
  have vertices := Table.map_modify distinct vertex commutes
  have stays : ({ state.graph with
      vertices := Table.modify state.graph.vertices vertex update } : KeyedGraph ι κ α).position =
      state.graph.position := by
    funext id
    unfold KeyedGraph.position
    rw [Table.keys_modify]
  unfold KeyedGraph.toFrameGraph KeyedGraph.edgeOf
  rw [stays, vertices]
  rfl

/-- The error that there is no vertex at a position. -/
def errorAt (graph : KeyedGraph ι κ α) (problem : VertexMissing ι) : GraphError :=
  .vertexNotFound (graph.position problem.vertex)

theorem settle_modifyVertex :
    state.graph.toFrameGraph.settle
        (state.graph.toFrameGraph.modifyVertex (state.graph.position vertex) change) =
      (((Mutation.modifyVertex vertex update).apply state).1.mapError (errorAt state.graph),
        ((Mutation.modifyVertex vertex update).apply state).2.graph.toFrameGraph) := by
  rw [Mutation.apply_modifyVertex, FrameGraph.modifyVertex]
  split
  · rename_i present
    rw [if_pos ((state.graph.contains_position vertex).mp present)]
    exact congrArg (Prod.mk (Except.ok ())) (toFrameGraph_modify distinct vertex commutes).symm
  · rename_i absent
    rw [if_neg (mt (state.graph.contains_position vertex).mpr absent)]
    rfl

end Drawing

end

namespace FrameGraph

variable [Scalar α] {graph : FrameGraph α}

omit [Scalar α] in
theorem exists_of_map_fst {β : Type} {result : Except GraphError (FrameGraph α × β)}
    (success : result.map Prod.fst = .ok graph) : ∃ value, result = .ok (graph, value) := by
  cases result with
  | ok pair =>
      obtain rfl := Except.ok.inj success
      exact ⟨pair.2, rfl⟩
  | error problem => cases success

theorem Reachable.settle (reachable : graph.Reachable)
    {result : Except GraphError (FrameGraph α)}
    (success : ∀ changed, result = .ok changed → changed.Reachable) :
    (graph.settle result).2.Reachable := by
  cases result with
  | ok changed => exact success changed rfl
  | error problem => exact reachable

theorem Reachable.serve (reachable : graph.Reachable) (request : Request VertexId α) :
    (graph.serve request).2.Reachable := by
  apply reachable.settle
  intro changed success
  cases request with
  | addVertex name payload =>
      obtain rfl := Except.ok.inj success
      exact .addVertex name payload reachable
  | addEdge source target direction =>
      obtain ⟨id, added⟩ := exists_of_map_fst success
      exact .addEdge reachable added
  | addEdgePair reference child =>
      obtain ⟨ids, added⟩ := exists_of_map_fst success
      exact .addEdgePair reachable added
  | rename vertex name => exact .rename reachable success
  | setPayload vertex payload => exact .setPayload reachable success

end FrameGraph

namespace Drawing

variable [DecidableEq ι] [DecidableEq κ] {draws : Draws ι κ} {state : Drawing ι κ α}

/-- A request does the same with identifiers and with positions. -/
theorem Integrity.toFrameGraph_serve (integrity : state.Integrity draws)
    (distinct : draws.Distinct) (request : Request ι α) :
    state.graph.toFrameGraph.serve (request.map state.graph.position) =
      (((Drawing.serve draws request).apply state).1.mapError (errorAt state.graph),
        ((Drawing.serve draws request).apply state).2.graph.toFrameGraph) := by
  have keys := integrity.nodup_vertexKeys distinct
  have known := state.graph.contains_position
  cases request with
  | addVertex name payload =>
      rw [Drawing.serve, apply_discard, integrity.apply_addVertex distinct]
      exact congrArg (Prod.mk (Except.ok ())) (integrity.toFrameGraph_pushVertex name payload).symm
  | addEdge source target direction =>
      rw [Drawing.serve, apply_discard, integrity.apply_addEdge distinct, Request.map,
        FrameGraph.serve, FrameGraph.perform, FrameGraph.addEdge]
      by_cases leaves : source ∈ Table.keys state.graph.vertices
      · rw [if_pos leaves, if_pos ((known source).mpr leaves)]
        by_cases enters : target ∈ Table.keys state.graph.vertices
        · rw [if_pos enters, if_pos ((known target).mpr enters)]
          exact congrArg (Prod.mk (Except.ok ()))
            (toFrameGraph_pushEdge draws state source target direction).symm
        · rw [if_neg enters, if_neg (mt (known target).mp enters)]
          rfl
      · rw [if_neg leaves, if_neg (mt (known source).mp leaves)]
        rfl
  | addEdgePair reference child =>
      rw [Drawing.serve, apply_discard, integrity.apply_addEdgePair distinct, Request.map,
        FrameGraph.serve, FrameGraph.perform, FrameGraph.addEdgePair]
      by_cases above : reference ∈ Table.keys state.graph.vertices
      · rw [if_pos above, if_pos ((known reference).mpr above)]
        by_cases below : child ∈ Table.keys state.graph.vertices
        · rw [if_pos below, if_pos ((known child).mpr below)]
          refine congrArg (Prod.mk (Except.ok ())) (Eq.symm ?_)
          dsimp only
          rw [toFrameGraph_pushEdge, toFrameGraph_pushEdge]
          rfl
        · rw [if_neg below, if_neg (mt (known child).mp below)]
          rfl
      · rw [if_neg above, if_neg (mt (known reference).mp above)]
        rfl
  | rename vertex name => exact settle_modifyVertex keys vertex fun _ => rfl
  | setPayload vertex payload => exact settle_modifyVertex keys vertex fun _ => rfl

variable [Scalar α]

theorem Integrity.reachable_run (distinct : draws.Distinct) (integrity : state.Integrity draws)
    (reachable : state.graph.toFrameGraph.Reachable) (requests : List (Request ι α)) :
    (state.run draws requests).graph.toFrameGraph.Reachable := by
  induction requests generalizing state with
  | nil => exact reachable
  | cons request rest induction =>
      have served := reachable.serve (request.map state.graph.position)
      rw [integrity.toFrameGraph_serve distinct] at served
      exact induction (integrity.serve distinct request).1 served

omit [DecidableEq κ] in
theorem toFrameGraph_start (distinct : draws.Distinct) (root : Option String) :
    (start draws root : Drawing ι κ α).graph.toFrameGraph =
      root.elim .empty FrameGraph.withRoot := by
  cases root with
  | none => rfl
  | some name =>
      rw [start_some distinct]
      have first : List.idxOf (draws.vertex 0) [draws.vertex 0] = 0 := List.idxOf_cons_self
      exact congrArg (fun root => FrameGraph.mk [⟨name, Transform.identity⟩] [] (some ⟨root⟩)) first

/-- Over every run of mutations with arbitrary identifiers: the identifiers of the tables are
distinct and are the keys, edges end in the graph, the root stays, and the tables only grow at
their ends.  Adding edges fails at the first end that is not there and then changes nothing, and
otherwise adds the edges that were asked for.  A graph with positions does the same. -/
theorem integrity_of_run (distinct : draws.Distinct) (root : Option String)
    (earlier later : List (Request ι α)) :
    let started : Drawing ι κ α := start draws root
    let before := started.run draws earlier
    let state := before.run draws later
    let ids := Table.keys state.graph.vertices
    let next := draws.edge state.edgeDraws
    let afterNext := draws.edge (state.edgeDraws + 1)
    (ids.Nodup ∧ ∀ entry ∈ state.graph.vertices, entry.2.id = entry.1) ∧
    ((Table.keys state.graph.edges).Nodup ∧ ∀ entry ∈ state.graph.edges, entry.2.id = entry.1) ∧
    (∀ entry ∈ state.graph.edges, entry.2.source ∈ ids ∧ entry.2.target ∈ ids) ∧
    (state.graph.root = started.graph.root ∧ state.graph.root.isSome = root.isSome ∧
      ∀ id ∈ state.graph.root, id ∈ ids) ∧
    before.graph.vertices.map (fun entry => (entry.1, entry.2.id)) <+:
      state.graph.vertices.map (fun entry => (entry.1, entry.2.id)) ∧
    before.graph.edges <+: state.graph.edges ∧
    (∀ source target direction, (Mutation.addEdge draws source target direction).apply state =
      if source ∉ ids then (.error ⟨source⟩, state)
      else if target ∉ ids then (.error ⟨target⟩, state)
      else (.ok next, { state with
        graph.edges := state.graph.edges ++ [(next, ⟨next, source, target, direction⟩)]
        edgeDraws := state.edgeDraws + 1 })) ∧
    (∀ reference child, (Mutation.addEdgePair draws reference child).apply state =
      if reference ∉ ids then (.error ⟨reference⟩, state)
      else if child ∉ ids then (.error ⟨child⟩, state)
      else (.ok (next, afterNext), { state with
        graph.edges := state.graph.edges ++
          [(next, ⟨next, reference, child, .backward⟩),
            (afterNext, ⟨afterNext, child, reference, .forward⟩)]
        edgeDraws := state.edgeDraws + 2 })) ∧
    state.graph.toFrameGraph.Reachable ∧
    ∀ request, state.graph.toFrameGraph.serve (request.map state.graph.position) =
      (((serve draws request).apply state).1.mapError (errorAt state.graph),
        ((serve draws request).apply state).2.graph.toFrameGraph) := by
  intro started before state ids next afterNext
  have initial : Integrity draws started := .start distinct root
  obtain ⟨halfway, grown⟩ := initial.run distinct earlier
  obtain ⟨integrity, further⟩ := halfway.run distinct later
  have rooted : started.graph.root.isSome = root.isSome := by
    cases root with
    | none => rfl
    | some name =>
        simp only [started, start_some distinct]
        rfl
  have reachable : started.graph.toFrameGraph.Reachable := by
    rw [toFrameGraph_start distinct]
    cases root with
    | none => exact .empty
    | some name => exact .withRoot name
  have sameRoot : state.graph.root = started.graph.root := (grown.trans further).root
  refine ⟨⟨?_, integrity.vertexIds⟩, ⟨?_, integrity.edgeIds⟩, integrity.ends,
    ⟨sameRoot, sameRoot ▸ rooted, integrity.root⟩, further.vertices, further.edges, ?_, ?_, ?_,
    integrity.toFrameGraph_serve distinct⟩
  · exact integrity.nodup_vertexKeys distinct
  · exact integrity.nodup_edgeKeys distinct
  · intro source target direction
    rw [ite_not, ite_not]
    exact integrity.apply_addEdge distinct source target direction
  · intro reference child
    rw [ite_not, ite_not]
    have added := integrity.apply_addEdgePair distinct reference child
    rw [pushEdge_pushEdge] at added
    exact added
  · exact halfway.reachable_run distinct (initial.reachable_run distinct reachable earlier) later

/-- Identifiers drawn in the order of the numbers. -/
def numbered : Draws Nat Nat := ⟨fun count => count, fun count => count⟩

theorem distinct_numbered : numbered.Distinct :=
  ⟨fun _ _ same => same, fun _ _ same => same⟩

/-- An arm at the root. -/
def armRequests : List (Request Nat Float) :=
  [.addVertex "arm" Transform.identity, .addEdgePair 0 1]

/-- An edge to nowhere, a pair of edges from the arm to itself, and a name for nothing. -/
def strayRequests : List (Request Nat Float) :=
  [.addEdge 1 7 .forward, .addEdgePair 1 1, .rename 9 "leg"]

theorem integrity_of_run_stray :
    let state :=
      ((start numbered (some "world")).run numbered armRequests).run numbered strayRequests
    numbered.Distinct ∧
      state.graph.edges =
        [(0, ⟨0, 0, 1, .backward⟩), (1, ⟨1, 1, 0, .forward⟩), (2, ⟨2, 1, 1, .backward⟩),
          (3, ⟨3, 1, 1, .forward⟩)] ∧
      (Mutation.addEdgePair numbered 7 8).apply state = (.error ⟨7⟩, state) ∧
      state.graph.toFrameGraph.Reachable := by
  intro state
  obtain ⟨-, -, -, -, -, -, -, pairs, reachable, -⟩ :=
    integrity_of_run distinct_numbered (some "world") armRequests strayRequests
  have unknown : 7 ∉ Table.keys state.graph.vertices := by decide +kernel
  exact ⟨distinct_numbered, by decide +kernel, (pairs 7 8).trans (if_pos unknown), reachable⟩

end Drawing

end Kinematics
