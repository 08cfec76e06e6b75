import Kinematics.Proofs.Entity.Loading
import Kinematics.Proofs.Frame.Wiring

/-!
# The frames of a document

A model attaches the frames of its links, joints and lights one after the other to a
graph with a root.  The reference of each is looked up among the names of the root and
of the frames before it, which decides from the document alone what every frame hangs
from.
-/

namespace Kinematics

variable {α : Type}

/-- The elements without those whose name an earlier one has already.  Elements without a
name are not compared. -/
def Element.firstOfEachName : List String → List (Element α) → List (Element α)
  | _, [] => []
  | taken, element :: rest =>
    match element.name? with
    | none => element :: firstOfEachName taken rest
    | some name =>
      if name ∈ taken then firstOfEachName taken rest
      else element :: firstOfEachName (name :: taken) rest

theorem Element.firstOfEachName_subset (taken : List String) (elements : List (Element α)) :
    Element.firstOfEachName taken elements ⊆ elements := by
  induction elements generalizing taken with
  | nil => exact List.Subset.refl _
  | cons element rest induction =>
      unfold Element.firstOfEachName
      cases element.name? with
      | none => exact List.cons_subset_cons element (induction taken)
      | some name =>
          by_cases known : name ∈ taken
          · simp only [known, if_true]
            exact List.subset_cons_of_subset element (induction taken)
          · simp only [known, if_false]
            exact List.cons_subset_cons element (induction (name :: taken))

namespace Model

section Parent

/-- What every vertex of a loaded document hangs from.  The first vertex is the root; every
other one hangs from the vertex that the name of its reference stands for among the vertices
before it. -/
def parent (settings : Settings) (frames : List (FrameSource α)) (vertex : VertexId) :
    Option VertexId :=
  match vertex.index with
  | 0 => none
  | index + 1 =>
    frames[index]?.bind fun frame =>
      (settings.tieBreak.resolve
        (settings.rootFrame :: (frames.take index).map FrameSource.name) frame.reference).map
        VertexId.mk

variable {settings : Settings} {frames : List (FrameSource α)} {frame : FrameSource α}

theorem parent_root : parent settings frames ⟨0⟩ = none :=
  rfl

theorem parent_of_length_le {vertex : VertexId} (outside : frames.length < vertex.index) :
    parent settings frames vertex = none := by
  obtain ⟨index, isSucc⟩ := Nat.exists_eq_succ_of_ne_zero (Nat.ne_zero_of_lt outside)
  have absent : frames[index]? = none := List.getElem?_eq_none (by omega)
  unfold parent
  simp only [isSucc, absent]
  rfl

/-- What a frame hangs from does not depend on later frames. -/
theorem parent_snoc_of_le {index : Nat} (inside : index < frames.length) :
    parent settings (frames ++ [frame]) ⟨index + 1⟩ = parent settings frames ⟨index + 1⟩ := by
  unfold parent
  simp only [List.getElem?_append_left inside,
    List.take_append_of_le_length (Nat.le_of_lt inside)]

theorem parent_snoc_last :
    parent settings (frames ++ [frame]) ⟨frames.length + 1⟩ =
      (settings.tieBreak.resolve (settings.rootFrame :: frames.map FrameSource.name)
        frame.reference).map VertexId.mk := by
  unfold parent
  simp

/-- The wires between the frames and what they hang from. -/
def wires (settings : Settings) (frames : List (FrameSource α)) : List Wire :=
  (List.range frames.length).filterMap fun index =>
    (parent settings frames ⟨index + 1⟩).map fun above => ⟨above, ⟨index + 1⟩⟩

theorem wires_snoc :
    wires settings (frames ++ [frame]) =
      wires settings frames ++
        ((settings.tieBreak.resolve (settings.rootFrame :: frames.map FrameSource.name)
          frame.reference).map fun position => ⟨⟨position⟩, ⟨frames.length + 1⟩⟩).toList := by
  have earlier : ∀ index ∈ List.range frames.length,
      (parent settings (frames ++ [frame]) ⟨index + 1⟩).map
          (fun above => (⟨above, ⟨index + 1⟩⟩ : Wire)) =
        (parent settings frames ⟨index + 1⟩).map fun above => ⟨above, ⟨index + 1⟩⟩ := by
    intro index member
    rw [parent_snoc_of_le (List.mem_range.mp member)]
  unfold wires
  rw [List.length_append, List.length_singleton, List.range_succ, List.filterMap_append,
    List.filterMap_congr earlier, List.filterMap_cons, parent_snoc_last, Option.map_map]
  rfl

theorem mem_wires {vertex above : VertexId} :
    ⟨above, vertex⟩ ∈ wires settings frames ↔ parent settings frames vertex = some above := by
  unfold wires
  simp only [List.mem_filterMap, List.mem_range, Option.map_eq_some_iff, Wire.mk.injEq]
  constructor
  · rintro ⟨index, -, found, hung, rfl, rfl⟩
    exact hung
  · intro hung
    have positive : vertex.index ≠ 0 := by
      intro zero
      have isRoot : vertex = ⟨0⟩ := VertexId.ext_index zero
      rw [isRoot, parent_root] at hung
      cases hung
    obtain ⟨index, isSucc⟩ := Nat.exists_eq_succ_of_ne_zero positive
    have same : vertex = ⟨index + 1⟩ := VertexId.ext_index isSucc
    have inside : index < frames.length := by
      by_contra outside
      rw [parent_of_length_le (by omega)] at hung
      cases hung
    subst same
    exact ⟨index, inside, above, hung, rfl, rfl⟩

end Parent

section Graph

variable [Scalar α]

/-- The graph of a document with given frames. -/
def graphOf (settings : Settings) (frames : List (FrameSource α)) : FrameGraph α :=
  frames.foldl (fun graph frame =>
    (graph.attach frame.name (Transform.ofPose frame.pose) frame.reference
      settings.tieBreak).graph) (.withRoot settings.rootFrame)

variable (settings : Settings) (frames : List (FrameSource α))

theorem graphOf_snoc (frame : FrameSource α) :
    graphOf settings (frames ++ [frame]) =
      ((graphOf settings frames).attach frame.name (Transform.ofPose frame.pose)
        frame.reference settings.tieBreak).graph := by
  unfold graphOf
  rw [List.foldl_append]
  rfl

/-- The vertices of a loaded document are the root and the frames in order. -/
theorem vertices_graphOf :
    (graphOf settings frames).vertices =
      ⟨settings.rootFrame, Transform.identity⟩ ::
        frames.map fun frame => ⟨frame.name, Transform.ofPose frame.pose⟩ := by
  induction frames using List.reverseRecOn with
  | nil => rfl
  | append_singleton frames frame induction =>
      rw [graphOf_snoc, FrameGraph.vertices_attach, induction, List.map_append]
      rfl

theorem root_graphOf : (graphOf settings frames).root = some ⟨0⟩ := by
  induction frames using List.reverseRecOn with
  | nil => rfl
  | append_singleton frames frame induction =>
      rw [graphOf_snoc, FrameGraph.root_attach, induction]

theorem rootName?_graphOf : (graphOf settings frames).rootName? = some settings.rootFrame := by
  unfold FrameGraph.rootName? FrameGraph.vertex?
  rw [root_graphOf, vertices_graphOf]
  rfl

theorem names_graphOf :
    (graphOf settings frames).names = settings.rootFrame :: frames.map FrameSource.name := by
  unfold FrameGraph.names
  rw [vertices_graphOf, List.map_cons, List.map_map]
  rfl

theorem length_vertices_graphOf :
    (graphOf settings frames).vertices.length = frames.length + 1 := by
  rw [vertices_graphOf, List.length_cons, List.length_map]

/-- The edges of a loaded document are the wires between its frames. -/
theorem wired_graphOf : (graphOf settings frames).Wired (wires settings frames) := by
  induction frames using List.reverseRecOn with
  | nil => exact .of_edges_eq_nil rfl
  | append_singleton frames frame induction =>
      have attached := induction.attach frame.name (Transform.ofPose frame.pose)
        frame.reference settings.tieBreak
      rw [names_graphOf, length_vertices_graphOf] at attached
      rw [graphOf_snoc, wires_snoc]
      exact attached

theorem hangs_graphOf : (graphOf settings frames).Hangs (parent settings frames) := by
  have wired := wired_graphOf settings frames
  have same : Wire.parent (wires settings frames) = parent settings frames := by
    funext vertex
    apply Option.ext
    intro above
    rw [Wire.parent_eq_some wired.distinct, mem_wires]
  rw [← same]
  exact wired.hangs

end Graph

end Model

end Kinematics
