import Kinematics.Frame.Keyed
import Kinematics.Proofs.Frame.Reachable
import Mathlib.Data.List.Nodup

/-!
# Integrity of frame graphs

As long as drawn identifiers are distinct, the keys of both tables are the identifiers
that have been drawn so far, in this order, and the ends of every edge are in the graph.
So no insertion finds its key taken, no mutation fails half way, and a graph only grows
at its ends.
-/

namespace Kinematics

variable {ι κ α β γ : Type}

theorem Table.keys_append (table : List (κ × β)) (key : κ) (value : β) :
    keys (table ++ [(key, value)]) = keys table ++ [key] :=
  List.map_append

theorem Table.put_of_not_mem [DecidableEq κ] {table : List (κ × β)} {key : κ}
    (absent : key ∉ keys table) (value : β) : put table key value = table ++ [(key, value)] :=
  if_neg absent

theorem Table.putIfAbsent_of_not_mem [DecidableEq κ] {table : List (κ × β)} {key : κ}
    (absent : key ∉ keys table) (value : β) :
    putIfAbsent table key value = table ++ [(key, value)] :=
  if_neg absent

theorem Table.keys_modify [DecidableEq κ] (table : List (κ × β)) (key : κ) (change : β → β) :
    keys (modify table key change) = keys table := by
  unfold keys modify
  rw [List.map_map]
  apply List.map_congr_left
  intro entry _
  rw [Function.comp_apply]
  split
  · rename_i same
    exact same.symm
  · rfl

namespace Mutation

variable {state : Drawing ι κ α}

theorem apply_bind_ok {mutation : Mutation ι κ α β} {next : β → Mutation ι κ α γ}
    {value : β} {after : Drawing ι κ α} (success : mutation.apply state = (.ok value, after)) :
    (mutation >>= next).apply state = (next value).apply after := by
  unfold apply at success ⊢
  rw [ExceptT.run_bind, StateT.run_bind, success]
  rfl

theorem apply_bind_error {mutation : Mutation ι κ α β} {next : β → Mutation ι κ α γ}
    {problem : VertexMissing ι} {after : Drawing ι κ α}
    (failure : mutation.apply state = (.error problem, after)) :
    (mutation >>= next).apply state = (.error problem, after) := by
  unfold apply at failure ⊢
  rw [ExceptT.run_bind, StateT.run_bind, failure]
  rfl

variable [DecidableEq ι]

theorem apply_ensure (vertex : ι) (state : Drawing ι κ α) :
    (ensure vertex).apply state =
      (if vertex ∈ Table.keys state.graph.vertices then .ok () else .error ⟨vertex⟩, state) := by
  unfold ensure
  change (if _ then (pure () : Mutation ι κ α Unit) else throw _).apply state = _
  split <;> rfl

/-- What follows a check is done if the vertex is there. -/
theorem apply_ensure_bind (vertex : ι) (next : Mutation ι κ α β) (state : Drawing ι κ α) :
    (ensure vertex >>= fun _ => next).apply state =
      if vertex ∈ Table.keys state.graph.vertices then next.apply state
      else (.error ⟨vertex⟩, state) := by
  have checked := apply_ensure vertex state
  split
  · rename_i present
    rw [if_pos present] at checked
    exact apply_bind_ok checked
  · rename_i absent
    rw [if_neg absent] at checked
    exact apply_bind_error checked

theorem apply_modifyVertex (vertex : ι) (update : KeyedVertex ι α → KeyedVertex ι α)
    (state : Drawing ι κ α) :
    (modifyVertex vertex update).apply state =
      if vertex ∈ Table.keys state.graph.vertices then
        (.ok (), { state with
          graph.vertices := Table.modify state.graph.vertices vertex update })
      else (.error ⟨vertex⟩, state) :=
  apply_ensure_bind vertex _ state

end Mutation

namespace Drawing

/-- A vertex with the next identifier, at the end. -/
def pushVertex (draws : Draws ι κ) (state : Drawing ι κ α) (name : String)
    (payload : Transform α) : Drawing ι κ α :=
  let id := draws.vertex state.vertexDraws
  { state with
    graph.vertices := state.graph.vertices ++ [(id, ⟨id, name, payload⟩)]
    vertexDraws := state.vertexDraws + 1 }

/-- An edge with the next identifier, at the end. -/
def pushEdge (draws : Draws ι κ) (state : Drawing ι κ α) (source target : ι)
    (direction : Direction) : Drawing ι κ α :=
  let id := draws.edge state.edgeDraws
  { state with
    graph.edges := state.graph.edges ++ [(id, ⟨id, source, target, direction⟩)]
    edgeDraws := state.edgeDraws + 1 }

theorem pushEdge_pushEdge (draws : Draws ι κ) (state : Drawing ι κ α) (reference child : ι) :
    (state.pushEdge draws reference child .backward).pushEdge draws child reference .forward =
      { state with
        graph.edges := state.graph.edges ++
          [(draws.edge state.edgeDraws,
              ⟨draws.edge state.edgeDraws, reference, child, .backward⟩),
            (draws.edge (state.edgeDraws + 1),
              ⟨draws.edge (state.edgeDraws + 1), child, reference, .forward⟩)]
        edgeDraws := state.edgeDraws + 2 } :=
  congrArg (fun edges => (⟨⟨state.graph.vertices, edges, state.graph.root⟩,
    state.vertexDraws, state.edgeDraws + 2⟩ : Drawing ι κ α)) (List.append_assoc _ _ _)

/-- The tables hold what has been drawn, under the identifiers that have been drawn, and all
that is referred to is there. -/
structure Integrity (draws : Draws ι κ) (state : Drawing ι κ α) : Prop where
  vertexKeys : Table.keys state.graph.vertices =
    (List.range state.vertexDraws).map draws.vertex
  edgeKeys : Table.keys state.graph.edges = (List.range state.edgeDraws).map draws.edge
  vertexIds : ∀ entry ∈ state.graph.vertices, entry.2.id = entry.1
  edgeIds : ∀ entry ∈ state.graph.edges, entry.2.id = entry.1
  ends : ∀ entry ∈ state.graph.edges, entry.2.source ∈ Table.keys state.graph.vertices ∧
    entry.2.target ∈ Table.keys state.graph.vertices
  root : ∀ id ∈ state.graph.root, id ∈ Table.keys state.graph.vertices

theorem drawn_not_mem {draw : Nat → ι} (distinct : Function.Injective draw) (count : Nat) :
    draw count ∉ (List.range count).map draw := by
  intro member
  obtain ⟨earlier, inRange, same⟩ := List.mem_map.mp member
  rw [distinct same] at inRange
  exact List.not_mem_range_self inRange

theorem nodup_drawn {draw : Nat → ι} (distinct : Function.Injective draw) (count : Nat) :
    ((List.range count).map draw).Nodup :=
  List.nodup_range.map distinct

theorem drawn_succ (draw : Nat → ι) (count : Nat) :
    (List.range (count + 1)).map draw = (List.range count).map draw ++ [draw count] := by
  rw [List.range_succ, List.map_append]
  rfl

namespace Integrity

variable {draws : Draws ι κ} {state : Drawing ι κ α} (integrity : state.Integrity draws)

include integrity

theorem nodup_vertexKeys (distinct : draws.Distinct) :
    (Table.keys state.graph.vertices).Nodup := by
  rw [integrity.vertexKeys]
  exact nodup_drawn distinct.vertex state.vertexDraws

theorem nodup_edgeKeys (distinct : draws.Distinct) : (Table.keys state.graph.edges).Nodup := by
  rw [integrity.edgeKeys]
  exact nodup_drawn distinct.edge state.edgeDraws

theorem pushVertex (name : String) (payload : Transform α) :
    (state.pushVertex draws name payload).Integrity draws where
  vertexKeys := by
    refine (Table.keys_append _ _ _).trans ?_
    rw [integrity.vertexKeys]
    exact (drawn_succ draws.vertex state.vertexDraws).symm
  edgeKeys := integrity.edgeKeys
  vertexIds := by
    intro entry member
    rcases List.mem_append.mp member with old | new
    · exact integrity.vertexIds entry old
    · rw [List.mem_singleton.mp new]
  edgeIds := integrity.edgeIds
  ends := by
    intro entry member
    change _ ∈ Table.keys (_ ++ _) ∧ _ ∈ Table.keys (_ ++ _)
    rw [Table.keys, List.map_append]
    obtain ⟨leaves, enters⟩ := integrity.ends entry member
    exact ⟨List.mem_append_left _ leaves, List.mem_append_left _ enters⟩
  root := by
    intro id member
    change _ ∈ Table.keys (_ ++ _)
    rw [Table.keys, List.map_append]
    exact List.mem_append_left _ (integrity.root id member)

theorem pushEdge {source target : ι} (leaves : source ∈ Table.keys state.graph.vertices)
    (enters : target ∈ Table.keys state.graph.vertices) (direction : Direction) :
    (state.pushEdge draws source target direction).Integrity draws where
  vertexKeys := integrity.vertexKeys
  edgeKeys := by
    refine (Table.keys_append _ _ _).trans ?_
    rw [integrity.edgeKeys]
    exact (drawn_succ draws.edge state.edgeDraws).symm
  vertexIds := integrity.vertexIds
  edgeIds := by
    intro entry member
    rcases List.mem_append.mp member with old | new
    · exact integrity.edgeIds entry old
    · rw [List.mem_singleton.mp new]
  ends := by
    intro entry member
    rcases List.mem_append.mp member with old | new
    · exact integrity.ends entry old
    · rw [List.mem_singleton.mp new]
      exact ⟨leaves, enters⟩
  root := integrity.root

theorem modify [DecidableEq ι] (vertex : ι) {update : KeyedVertex ι α → KeyedVertex ι α}
    (sameId : ∀ before, (update before).id = before.id) :
    ({ state with graph.vertices := Table.modify state.graph.vertices vertex update } :
      Drawing ι κ α).Integrity draws := by
  have sameKeys := Table.keys_modify state.graph.vertices vertex update
  refine ⟨sameKeys.trans integrity.vertexKeys, integrity.edgeKeys, ?_, integrity.edgeIds, ?_, ?_⟩
  · intro entry member
    obtain ⟨before, old, rfl⟩ := List.mem_map.mp member
    have same := integrity.vertexIds before old
    split
    · rename_i here
      rw [sameId, same, here]
    · exact same
  · intro entry member
    rw [sameKeys]
    exact integrity.ends entry member
  · intro id member
    rw [sameKeys]
    exact integrity.root id member

variable [DecidableEq ι] (distinct : draws.Distinct)

include distinct

theorem apply_addVertex (name : String) (payload : Transform α) :
    (Mutation.addVertex draws name payload).apply state =
      (.ok (draws.vertex state.vertexDraws), state.pushVertex draws name payload) := by
  have absent : draws.vertex state.vertexDraws ∉ Table.keys state.graph.vertices := by
    rw [integrity.vertexKeys]
    exact drawn_not_mem distinct.vertex state.vertexDraws
  have appended := Table.putIfAbsent_of_not_mem absent
    (⟨draws.vertex state.vertexDraws, name, payload⟩ : KeyedVertex ι α)
  unfold Drawing.pushVertex
  dsimp only
  rw [← appended]
  rfl

variable [DecidableEq κ]

theorem apply_addEdge (source target : ι) (direction : Direction) :
    (Mutation.addEdge draws source target direction).apply state =
      if source ∈ Table.keys state.graph.vertices then
        if target ∈ Table.keys state.graph.vertices then
          (.ok (draws.edge state.edgeDraws), state.pushEdge draws source target direction)
        else (.error ⟨target⟩, state)
      else (.error ⟨source⟩, state) := by
  have absent : draws.edge state.edgeDraws ∉ Table.keys state.graph.edges := by
    rw [integrity.edgeKeys]
    exact drawn_not_mem distinct.edge state.edgeDraws
  have appended := Table.put_of_not_mem absent
    (⟨draws.edge state.edgeDraws, source, target, direction⟩ : KeyedEdge ι κ)
  unfold Mutation.addEdge Drawing.pushEdge
  dsimp only
  rw [Mutation.apply_ensure_bind, Mutation.apply_ensure_bind, ← appended]
  rfl

/-- The second edge of a pair cannot fail where the first one did not, so that a pair is
inserted as a whole or not at all. -/
theorem apply_addEdgePair (reference child : ι) :
    (Mutation.addEdgePair draws reference child).apply state =
      if reference ∈ Table.keys state.graph.vertices then
        if child ∈ Table.keys state.graph.vertices then
          (.ok (draws.edge state.edgeDraws, draws.edge (state.edgeDraws + 1)),
            (state.pushEdge draws reference child .backward).pushEdge draws child reference
              .forward)
        else (.error ⟨child⟩, state)
      else (.error ⟨reference⟩, state) := by
  unfold Mutation.addEdgePair
  rw [Mutation.apply_ensure_bind, Mutation.apply_ensure_bind]
  split
  · rename_i above
    split
    · rename_i below
      have down := (integrity.apply_addEdge distinct reference child .backward).trans
        ((if_pos above).trans (if_pos below))
      have halfway := integrity.pushEdge above below .backward
      have up := (halfway.apply_addEdge distinct child reference .forward).trans
        ((if_pos below).trans (if_pos above))
      rw [Mutation.apply_bind_ok down, Mutation.apply_bind_ok up]
      rfl
    · rfl
  · rfl

end Integrity

/-- Vertices and edges have been added at the end, and the old ones have the identifiers and
the edges all the fields that they had. -/
structure Extends (before after : Drawing ι κ α) : Prop where
  vertices : before.graph.vertices.map (fun entry => (entry.1, entry.2.id)) <+:
    after.graph.vertices.map fun entry => (entry.1, entry.2.id)
  edges : before.graph.edges <+: after.graph.edges
  root : after.graph.root = before.graph.root

namespace Extends

theorem refl (state : Drawing ι κ α) : state.Extends state :=
  ⟨List.prefix_rfl, List.prefix_rfl, rfl⟩

theorem trans {first second third : Drawing ι κ α} (left : first.Extends second)
    (right : second.Extends third) : first.Extends third :=
  ⟨left.vertices.trans right.vertices, left.edges.trans right.edges,
    right.root.trans left.root⟩

theorem pushVertex (draws : Draws ι κ) (state : Drawing ι κ α) (name : String)
    (payload : Transform α) : state.Extends (state.pushVertex draws name payload) :=
  ⟨(List.prefix_append _ _).map _, List.prefix_rfl, rfl⟩

theorem pushEdge (draws : Draws ι κ) (state : Drawing ι κ α) (source target : ι)
    (direction : Direction) : state.Extends (state.pushEdge draws source target direction) :=
  ⟨List.prefix_rfl, List.prefix_append _ _, rfl⟩

theorem modify [DecidableEq ι] (state : Drawing ι κ α) (vertex : ι)
    {update : KeyedVertex ι α → KeyedVertex ι α}
    (sameId : ∀ before, (update before).id = before.id) :
    state.Extends
      { state with graph.vertices := Table.modify state.graph.vertices vertex update } := by
  have same : (Table.modify state.graph.vertices vertex update).map
      (fun entry => (entry.1, entry.2.id)) =
      state.graph.vertices.map fun entry => (entry.1, entry.2.id) := by
    unfold Table.modify
    rw [List.map_map]
    apply List.map_congr_left
    intro entry _
    rw [Function.comp_apply]
    split
    · rename_i here
      rw [sameId, here]
    · rfl
  exact ⟨same ▸ List.prefix_rfl, List.prefix_rfl, rfl⟩

end Extends

variable [DecidableEq ι] [DecidableEq κ] {draws : Draws ι κ}

omit [DecidableEq ι] [DecidableEq κ] in
theorem apply_discard (mutation : Mutation ι κ α β) (state : Drawing ι κ α) :
    Mutation.apply (discard mutation) state =
      ((mutation.apply state).1.map fun _ => (), (mutation.apply state).2) := by
  have forgets : (discard mutation : Mutation ι κ α Unit) = mutation >>= fun _ => pure () :=
    rfl
  rw [forgets]
  rcases result : mutation.apply state with ⟨outcome, after⟩
  cases outcome with
  | ok value => exact Mutation.apply_bind_ok result
  | error problem => exact Mutation.apply_bind_error result

theorem Integrity.serve (distinct : draws.Distinct) {state : Drawing ι κ α}
    (integrity : state.Integrity draws) (request : Request ι α) :
    ((Drawing.serve draws request).apply state).2.Integrity draws ∧
      state.Extends ((Drawing.serve draws request).apply state).2 := by
  cases request with
  | addVertex name payload =>
      rw [Drawing.serve, apply_discard, integrity.apply_addVertex distinct]
      exact ⟨integrity.pushVertex name payload, .pushVertex draws state name payload⟩
  | addEdge source target direction =>
      rw [Drawing.serve, apply_discard, integrity.apply_addEdge distinct]
      split
      · rename_i leaves
        split
        · rename_i enters
          exact ⟨integrity.pushEdge leaves enters direction, .pushEdge draws state _ _ _⟩
        · exact ⟨integrity, .refl state⟩
      · exact ⟨integrity, .refl state⟩
  | addEdgePair reference child =>
      rw [Drawing.serve, apply_discard, integrity.apply_addEdgePair distinct]
      split
      · rename_i above
        split
        · rename_i below
          have halfway := integrity.pushEdge above below .backward
          have down := Extends.pushEdge draws state reference child .backward
          exact ⟨halfway.pushEdge below above .forward, down.trans (.pushEdge draws _ _ _ _)⟩
        · exact ⟨integrity, .refl state⟩
      · exact ⟨integrity, .refl state⟩
  | rename vertex name =>
      rw [Drawing.serve, Mutation.apply_modifyVertex]
      split
      · exact ⟨integrity.modify vertex fun _ => rfl, .modify state vertex fun _ => rfl⟩
      · exact ⟨integrity, .refl state⟩
  | setPayload vertex payload =>
      rw [Drawing.serve, Mutation.apply_modifyVertex]
      split
      · exact ⟨integrity.modify vertex fun _ => rfl, .modify state vertex fun _ => rfl⟩
      · exact ⟨integrity, .refl state⟩

theorem Integrity.run (distinct : draws.Distinct) {state : Drawing ι κ α}
    (integrity : state.Integrity draws) (requests : List (Request ι α)) :
    (state.run draws requests).Integrity draws ∧ state.Extends (state.run draws requests) := by
  induction requests generalizing state with
  | nil => exact ⟨integrity, .refl state⟩
  | cons request rest induction =>
      obtain ⟨served, grown⟩ := integrity.serve distinct request
      obtain ⟨kept, further⟩ := induction served
      exact ⟨kept, grown.trans further⟩

omit [DecidableEq ι] [DecidableEq κ] in
theorem Integrity.empty : (Drawing.empty : Drawing ι κ α).Integrity draws :=
  ⟨rfl, rfl, nofun, nofun, nofun, nofun⟩

omit [DecidableEq κ] in
theorem start_some [Scalar α] (distinct : draws.Distinct) (name : String) :
    (start draws (some name) : Drawing ι κ α) =
      { Drawing.pushVertex draws .empty name Transform.identity with
        graph.root := some (draws.vertex 0) } := by
  have added := (Integrity.empty (α := α)).apply_addVertex distinct name Transform.identity
  exact congrArg Prod.snd (Mutation.apply_bind_ok added)

omit [DecidableEq κ] in
theorem Integrity.start [Scalar α] (distinct : draws.Distinct) (root : Option String) :
    (Drawing.start draws root : Drawing ι κ α).Integrity draws := by
  cases root with
  | none => exact .empty
  | some name =>
      rw [start_some distinct]
      have pushed : (Drawing.pushVertex draws (.empty : Drawing ι κ α) name
        Transform.identity).Integrity draws := Integrity.empty.pushVertex name _
      refine ⟨pushed.vertexKeys, pushed.edgeKeys, pushed.vertexIds, pushed.edgeIds, pushed.ends, ?_⟩
      intro id member
      obtain rfl := Option.some.inj member
      exact List.mem_cons_self

end Drawing

end Kinematics
