import Kinematics.Proofs.Frame.Insertion
import Kinematics.Proofs.Frame.Outcomes
import Mathlib.Data.List.Nodup
import Mathlib.Data.Set.Function

/-!
# Renaming frames

Renaming a frame moves it from the list of one name to that of another one, where it keeps the
place that its creation gives it.  Paths and products do not look at names, so poses stay as they
are, and answers to questions by name only speak of the frames under their new names.
-/

namespace Kinematics

def GraphError.mapNames (relabel : String → String) : GraphError → GraphError
  | vertexNotFound vertex => vertexNotFound vertex
  | edgeNotFound edge => edgeNotFound edge
  | nameNotFound name => nameNotFound (relabel name)
  | ambiguousName name count => ambiguousName (relabel name) count

def ResolveError.mapNames (relabel : String → String) : ResolveError → ResolveError
  | notFound frame => notFound (relabel frame)
  | noPath source target => noPath (relabel source) (relabel target)
  | graph error => graph (error.mapNames relabel)

def Vertex.mapName {α : Type} (relabel : String → String) (vertex : Vertex α) : Vertex α :=
  { vertex with name := relabel vertex.name }

namespace FrameGraph

variable {α : Type}

def ids (graph : FrameGraph α) : List VertexId :=
  (List.range graph.vertices.length).map VertexId.mk

/-- The graph with other names for all of its frames. -/
def mapNames (graph : FrameGraph α) (relabel : String → String) : FrameGraph α :=
  { graph with vertices := graph.vertices.map (Vertex.mapName relabel) }

/-- The graph after one frame has been given the other name for the one that it has. -/
def relabelFrame (relabel : String → String) (graph : FrameGraph α) (id : VertexId) :
    Except GraphError (FrameGraph α) := do
  let vertex ← graph.vertex id
  graph.rename id (relabel vertex.name)

/-- The graph after this has been done to one frame after the other. -/
def renameEach (graph : FrameGraph α) (relabel : String → String) :
    Except GraphError (FrameGraph α) :=
  graph.ids.foldlM (relabelFrame relabel) graph

section Names

variable {graph : FrameGraph α}

theorem nodup_ids (graph : FrameGraph α) : graph.ids.Nodup := by
  apply List.nodup_range.map
  intro left right same
  exact congrArg VertexId.index same

theorem mem_named {name : String} {id : VertexId} :
    id ∈ graph.named name ↔ (graph.vertex? id).map Vertex.name = some name := by
  simp only [named, vertex?, List.mem_map, List.mem_filter, beq_iff_eq, Prod.exists,
    Option.map_eq_some_iff]
  constructor
  · rintro ⟨vertex, index, ⟨member, isName⟩, rfl⟩
    exact ⟨vertex, List.mk_mem_zipIdx_iff_getElem?.mp member, isName⟩
  · rintro ⟨vertex, found, isName⟩
    exact ⟨vertex, id.index, ⟨List.mk_mem_zipIdx_iff_getElem?.mpr found, isName⟩, rfl⟩

/-- The frames with a name come in the order of their creation. -/
theorem named_eq_filter (graph : FrameGraph α) (name : String) :
    graph.named name =
      graph.ids.filter fun id => (graph.vertex? id).map Vertex.name = some name := by
  have inOrder : graph.ids = graph.vertices.zipIdx.map fun entry => ⟨entry.2⟩ := by
    have positions : graph.vertices.zipIdx.map Prod.snd = List.range graph.vertices.length := by
      rw [List.zipIdx_map_snd, List.range_eq_range']
    rw [ids, ← positions, List.map_map]
    rfl
  rw [inOrder, List.filter_map, named]
  congr 1
  apply List.filter_congr
  rintro ⟨vertex, index⟩ member
  have found : graph.vertices[index]? = some vertex := List.mk_mem_zipIdx_iff_getElem?.mp member
  simp [vertex?, found, Bool.beq_eq_decide_eq]

end Names

/-- The graphs differ in the names of their frames at most. -/
structure DifferInNames (before after : FrameGraph α) : Prop where
  edges : after.edges = before.edges
  payload? : ∀ id, (after.vertex? id).map Vertex.payload = (before.vertex? id).map Vertex.payload

namespace DifferInNames

variable {before after : FrameGraph α} (differ : before.DifferInNames after)

include differ

theorem contains_eq (id : VertexId) : after.contains id = before.contains id := by
  simpa [contains] using congrArg Option.isSome (differ.payload? id)

theorem length_vertices : after.vertices.length = before.vertices.length := by
  have payloads : after.vertices.map Vertex.payload = before.vertices.map Vertex.payload := by
    apply List.ext_getElem?
    intro position
    simpa [vertex?] using differ.payload? ⟨position⟩
  simpa using congrArg List.length payloads

theorem findPath_eq (source goal : VertexId) :
    after.findPath source goal = before.findPath source goal :=
  findPath_congr differ.edges differ.length_vertices source goal

variable [Scalar α]

theorem composeStep_eq (product : Transform α) (step : Step) :
    after.composeStep product step = before.composeStep product step := by
  unfold composeStep edge?
  rw [differ.edges]
  cases before.edges[step.edge.index]? with
  | none => rfl
  | some edge =>
      have payload := differ.payload? edge.child
      cases isChild : before.vertex? edge.child with
      | none =>
          rw [isChild] at payload
          simp only [Option.map_eq_none_iff.mp payload, isChild]
      | some child =>
          rw [isChild] at payload
          obtain ⟨other, found, same⟩ := Option.map_eq_some_iff.mp payload
          simp only [found, isChild, same]

theorem composePath_eq (path : List Step) :
    after.composePath path = before.composePath path := by
  have steps : after.composeStep = before.composeStep :=
    funext fun product => funext (differ.composeStep_eq product)
  unfold composePath
  rw [steps]

theorem poseBetween_eq_ok_iff {source target : VertexId} {pose : Pose α} :
    after.poseBetween source target = .ok pose ↔ before.poseBetween source target = .ok pose := by
  simp only [FrameGraph.poseBetween_eq_ok_iff, differ.contains_eq, differ.findPath_eq,
    differ.composePath_eq]

end DifferInNames

section Rename

variable {graph changed : FrameGraph α} {vertex : VertexId} {name : String}

theorem exists_rename (present : graph.contains vertex) (name : String) :
    ∃ changed, graph.rename vertex name = .ok changed := by
  unfold rename modifyVertex
  rw [if_pos present]
  exact ⟨_, rfl⟩

variable (renamed : graph.rename vertex name = .ok changed)

include renamed

theorem vertex?_rename (id : VertexId) :
    changed.vertex? id =
      (graph.vertex? id).map fun found => if id = vertex then { found with name } else found := by
  obtain ⟨-, rfl⟩ := modifyVertex_eq_ok renamed
  have sameIndex : vertex.index = id.index ↔ id = vertex :=
    ⟨fun same => (VertexId.ext_index same).symm, fun same => congrArg VertexId.index same.symm⟩
  unfold vertex?
  rw [List.getElem?_modify]
  simp only [sameIndex]
  rfl

theorem ids_rename : changed.ids = graph.ids := by
  obtain ⟨-, rfl⟩ := modifyVertex_eq_ok renamed
  simp [ids]

theorem differInNames_rename : graph.DifferInNames changed where
  edges := by
    obtain ⟨-, rfl⟩ := modifyVertex_eq_ok renamed
    rfl
  payload? := by
    intro id
    rw [vertex?_rename renamed, Option.map_map]
    congr 1
    funext found
    simp only [Function.comp_apply]
    split <;> rfl

/-- The frames with the new name are those that had it and the renamed one, still in the order
of their creation. -/
theorem named_rename_new :
    changed.named name = graph.ids.filter fun id => id ∈ graph.named name ∨ id = vertex := by
  obtain ⟨present, -⟩ := modifyVertex_eq_ok renamed
  obtain ⟨before, found⟩ := Option.isSome_iff_exists.mp present
  rw [named_eq_filter, ids_rename renamed]
  apply List.filter_congr
  intro id _
  rw [decide_eq_decide, mem_named, vertex?_rename renamed]
  by_cases same : id = vertex
  · simp [same, found]
  · simp [same]

theorem named_rename_old {before : Vertex α} (found : graph.vertex? vertex = some before)
    (different : before.name ≠ name) :
    changed.named before.name = (graph.named before.name).erase vertex := by
  have distinct : (graph.named before.name).Nodup := by
    rw [named_eq_filter]
    exact graph.nodup_ids.filter _
  rw [distinct.erase_eq_filter, named_eq_filter, ids_rename renamed,
    graph.named_eq_filter before.name, List.filter_filter]
  apply List.filter_congr
  intro id _
  rw [vertex?_rename renamed]
  by_cases same : id = vertex
  · simp [same, found, different.symm]
  · simp [same]

theorem named_rename_other {before : Vertex α} (found : graph.vertex? vertex = some before)
    {other : String} (notOld : other ≠ before.name) (notNew : other ≠ name) :
    changed.named other = graph.named other := by
  rw [named_eq_filter, ids_rename renamed, graph.named_eq_filter other]
  apply List.filter_congr
  intro id _
  rw [decide_eq_decide, vertex?_rename renamed]
  by_cases same : id = vertex
  · simp [same, found, notOld.symm, notNew.symm]
  · simp [same]

end Rename

section MapNames

variable (graph : FrameGraph α) (relabel : String → String)

theorem relabelFrame_append (done rest : List (Vertex α)) (vertex : Vertex α) :
    relabelFrame relabel { graph with vertices := done ++ vertex :: rest } ⟨done.length⟩ =
      .ok { graph with vertices := done ++ vertex.mapName relabel :: rest } := by
  have found : vertex? { graph with vertices := done ++ vertex :: rest } ⟨done.length⟩ =
      some vertex := by
    simp [vertex?]
  have inPlace (change : Vertex α → Vertex α) :
      (done ++ vertex :: rest).modify done.length change = done ++ change vertex :: rest := by
    rw [List.modify_eq_take_cons_drop (by simp)]
    simp
  simp [relabelFrame, FrameGraph.vertex, rename, modifyVertex, contains, found, bind, Except.bind,
    inPlace, Vertex.mapName]

/-- Frames that are renamed in turn have their new names up to the one that is next. -/
theorem foldlM_relabelFrame (done rest : List (Vertex α)) :
    ((List.range' done.length rest.length).map VertexId.mk).foldlM (relabelFrame relabel)
        { graph with vertices := done ++ rest } =
      .ok { graph with vertices := done ++ rest.map (Vertex.mapName relabel) } := by
  induction rest generalizing done with
  | nil => rfl
  | cons vertex rest induction =>
      have later := induction (done ++ [vertex.mapName relabel])
      rw [List.length_append, List.length_singleton, List.append_assoc, List.append_assoc] at later
      rw [List.length_cons, List.range'_succ, List.map_cons, List.foldlM_cons,
        relabelFrame_append]
      exact later

theorem renameEach_eq : graph.renameEach relabel = .ok (graph.mapNames relabel) := by
  have all := graph.foldlM_relabelFrame relabel [] graph.vertices
  rw [List.length_nil, ← List.range_eq_range'] at all
  exact all

theorem vertex?_mapNames (id : VertexId) :
    (graph.mapNames relabel).vertex? id = (graph.vertex? id).map (Vertex.mapName relabel) :=
  List.getElem?_map

theorem differInNames_mapNames : graph.DifferInNames (graph.mapNames relabel) where
  edges := rfl
  payload? := by
    intro id
    rw [vertex?_mapNames, Option.map_map]
    rfl

variable {graph relabel} in
/-- A name that no other name of a frame is changed to keeps its frames. -/
theorem named_mapNames {name : String}
    (apart : ∀ other ∈ graph.names, relabel other = relabel name → other = name) :
    (graph.mapNames relabel).named (relabel name) = graph.named name := by
  have ids : (graph.mapNames relabel).ids = graph.ids := by
    simp [FrameGraph.ids, mapNames]
  rw [named_eq_filter, named_eq_filter, ids]
  apply List.filter_congr
  intro id _
  rw [decide_eq_decide, vertex?_mapNames]
  cases found : graph.vertex? id with
  | none => simp
  | some vertex =>
      have present : vertex.name ∈ graph.names :=
        List.mem_map_of_mem (List.mem_of_getElem? found)
      simp only [Option.map_some, Vertex.mapName, Option.some.injEq]
      exact ⟨apart vertex.name present, congrArg relabel⟩

variable [Scalar α]

/-- What goes wrong along a path has nothing to do with names. -/
theorem mapError_composeStep (product : Transform α) (step : Step) :
    (graph.composeStep product step).mapError (ResolveError.mapNames relabel) =
      graph.composeStep product step := by
  unfold composeStep
  cases graph.edge? step.edge with
  | none => rfl
  | some edge =>
      cases found : graph.vertex? edge.child with
      | none => simp only [found]; rfl
      | some child => simp only [found]; split <;> rfl

theorem mapError_composePath (path : List Step) :
    (graph.composePath path).mapError (ResolveError.mapNames relabel) =
      graph.composePath path := by
  unfold composePath
  generalize (Transform.identity : Transform α) = product
  induction path generalizing product with
  | nil => rfl
  | cons step rest induction =>
      have unchanged := graph.mapError_composeStep relabel product step
      rw [List.foldlM_cons]
      cases stepped : graph.composeStep product step with
      | error problem =>
          rw [stepped] at unchanged
          exact unchanged
      | ok next => exact induction next

theorem poseBetween_mapNames (source target : VertexId) :
    (graph.mapNames relabel).poseBetween source target =
      (graph.poseBetween source target).mapError (ResolveError.mapNames relabel) := by
  have differ := graph.differInNames_mapNames relabel
  unfold poseBetween
  rw [differ.findPath_eq, vertex?_mapNames, vertex?_mapNames]
  cases graph.vertex? source with
  | none => rfl
  | some first =>
      cases graph.vertex? target with
      | none => rfl
      | some last =>
          simp only [Option.map_some]
          split
          · rfl
          · cases graph.findPath source target with
            | none => rfl
            | some path =>
                have unchanged := graph.mapError_composePath relabel path
                simp only [differ.composePath_eq]
                cases composed : graph.composePath path with
                | ok product => rfl
                | error problem =>
                    rw [composed] at unchanged
                    exact congrArg Except.error (Except.error.inj unchanged).symm

theorem poseInFrame_mapNames {source target : String}
    (injective : Set.InjOn relabel {name | name ∈ graph.names ∨ name = source ∨ name = target}) :
    (graph.mapNames relabel).poseInFrame (relabel source) (relabel target) =
      (graph.poseInFrame source target).mapError (ResolveError.mapNames relabel) := by
  have sourceFrames : (graph.mapNames relabel).named (relabel source) = graph.named source :=
    named_mapNames fun other present => injective (Or.inl present) (Or.inr (Or.inl rfl))
  have targetFrames : (graph.mapNames relabel).named (relabel target) = graph.named target :=
    named_mapNames fun other present => injective (Or.inl present) (Or.inr (Or.inr rfl))
  have sameName : relabel source = relabel target → source = target :=
    fun same => injective (Or.inr (Or.inl rfl)) (Or.inr (Or.inr rfl)) same
  rw [poseInFrame_eq, poseInFrame_eq, sourceFrames, targetFrames]
  cases (graph.named source).head? with
  | none => rfl
  | some first =>
      cases (graph.named target).head? with
      | none => rfl
      | some second =>
          by_cases same : source = target
          · simp only [same, if_true]
            rfl
          · simp only [mt sameName same, same, if_false]
            exact graph.poseBetween_mapNames relabel first second

end MapNames

/-- In every graph, a renamed frame is listed under its new name at the place that its creation
gives it, and no longer under its old one; the frames of every other name stay as they are, and
what a name stands for follows these lists.  No path, no product and no pose between vertices
changes.  Where all frames are renamed so that different names stay different, questions by the
new names are answered as those by the old ones were. -/
theorem rename_moves_name [Scalar α] {graph : FrameGraph α} {vertex : VertexId}
    {before : Vertex α} (found : graph.vertex? vertex = some before) (name : String) :
    (∃ changed, graph.rename vertex name = .ok changed ∧
      (changed.named name = graph.ids.filter fun id => id ∈ graph.named name ∨ id = vertex) ∧
      (before.name ≠ name →
        changed.named before.name = (graph.named before.name).erase vertex) ∧
      (∀ other, other ≠ before.name → other ≠ name → changed.named other = graph.named other) ∧
      (∀ asked tieBreak,
        changed.resolveName asked tieBreak = tieBreak.choose asked (changed.named asked)) ∧
      (∀ source goal, changed.findPath source goal = graph.findPath source goal) ∧
      (∀ path, changed.composePath path = graph.composePath path) ∧
      ∀ source target pose,
        changed.poseBetween source target = .ok pose ↔
          graph.poseBetween source target = .ok pose) ∧
    ∀ relabel : String → String, ∃ renamed, graph.renameEach relabel = .ok renamed ∧
      ∀ source target : String,
        Set.InjOn relabel {name | name ∈ graph.names ∨ name = source ∨ name = target} →
        renamed.poseInFrame (relabel source) (relabel target) =
          (graph.poseInFrame source target).mapError (ResolveError.mapNames relabel) := by
  constructor
  · obtain ⟨changed, renamed⟩ := exists_rename (Option.isSome_of_eq_some found) name
    have differ := differInNames_rename renamed
    exact ⟨changed, renamed, named_rename_new renamed, named_rename_old renamed found,
      fun other => named_rename_other renamed found, changed.resolveName_eq_choose,
      differ.findPath_eq, differ.composePath_eq, fun _ _ _ => differ.poseBetween_eq_ok_iff⟩
  · intro relabel
    exact ⟨graph.mapNames relabel, graph.renameEach_eq relabel,
      fun source target => graph.poseInFrame_mapNames relabel⟩

theorem rename_moves_name_strandedDiamond :
    (∃ changed, strandedDiamond.rename ⟨1⟩ "right" = .ok changed ∧
      changed.named "right" = [⟨1⟩, ⟨2⟩] ∧ changed.named "left" = [] ∧
      changed.named "stray" = [⟨4⟩] ∧ changed.resolveName "right" .firstInserted = .ok ⟨1⟩ ∧
      changed.resolveName "right" .unique = .error (.ambiguousName "right" 2) ∧
      changed.findPath ⟨0⟩ ⟨3⟩ = some [⟨⟨0⟩, ⟨2⟩, ⟨1⟩⟩, ⟨⟨2⟩, ⟨3⟩, ⟨4⟩⟩]) ∧
    ∃ renamed, strandedDiamond.renameEach ("old " ++ ·) = .ok renamed ∧
      renamed.poseInFrame "old bottom" "old stray" =
        .error (.noPath "old bottom" "old stray") := by
  have found : strandedDiamond.vertex? ⟨1⟩ = some ⟨"left", Transform.identity⟩ := rfl
  obtain ⟨single, all⟩ := rename_moves_name found "right"
  obtain ⟨changed, isChanged, new, old, others, resolved, paths, -, -⟩ := single
  obtain ⟨renamed, isRenamed, answers⟩ := all ("old " ++ ·)
  have isRight : changed.named "right" = [⟨1⟩, ⟨2⟩] := new.trans (by decide +kernel)
  have injective : Function.Injective fun name : String => "old " ++ name := by
    intro left right same
    simpa using same
  refine ⟨⟨changed, isChanged, isRight, ?_, ?_, ?_, ?_, ?_⟩, renamed, isRenamed, ?_⟩
  · exact (old (by decide)).trans (by decide +kernel)
  · exact (others "stray" (by decide) (by decide)).trans (by decide +kernel)
  · rw [resolved, isRight]
    rfl
  · rw [resolved, isRight]
    rfl
  · rw [paths]
    rfl
  · exact answers "bottom" "stray" injective.injOn

end FrameGraph

end Kinematics
