import Kinematics.Proofs.Frame.Lineage
import Kinematics.Proofs.Model.Editing

/-!
# What a pose query means

A query on a model names two frames.  Whatever names and poses have been given to the
parts of the model since it was loaded, the answer is the motion between the placements
of the two frames along the lineages that the document fixed.
-/

namespace Kinematics

theorem Value.isUnit_of_toPose? {value : Value ℝ} {pose : Pose ℝ}
    (read : value.toPose? = some pose) : pose.rotation.IsUnit := by
  cases value with
  | pose placement =>
      cases read
      exact Quaternion.isUnit_ofRollPitchYaw placement.angles
  | bool | int | double | string | vector3 | color => cases read

/-- The pose of an element has a unit quaternion, also where the element states none. -/
theorem isUnit_locatedPoseOf (element : Element ℝ) :
    (locatedPoseOf element).pose.rotation.IsUnit := by
  unfold locatedPoseOf Element.locatedPose?
  cases element.first? "pose" with
  | none => exact Quaternion.isUnit_identity
  | some child =>
      simp only [Option.map_some, Option.getD_some]
      cases result : child.value.bind Value.toPose? with
      | none => exact Quaternion.isUnit_identity
      | some pose =>
          obtain ⟨value, -, read⟩ := Option.bind_eq_some_iff.mp result
          exact Value.isUnit_of_toPose? read

namespace Model

variable {settings : Settings} {store : GraphStore ℝ} {element : Element ℝ}

theorem isUnit_of_mem_frames {frame : FrameSource ℝ} (member : frame ∈ frames settings element) :
    frame.pose.rotation.IsUnit := by
  have source : ∃ child, frame.pose = (locatedPoseOf child).pose := by
    unfold frames at member
    simp only [List.mem_append, List.mem_map] at member
    rcases member with (⟨child, -, rfl⟩ | ⟨child, -, rfl⟩) | ⟨child, -, rfl⟩
    · exact ⟨child, rfl⟩
    · exact ⟨child, rfl⟩
    · exact ⟨child, rfl⟩
  obtain ⟨child, isPose⟩ := source
  rw [isPose]
  exact isUnit_locatedPoseOf child

theorem rigidPayloads_graphOf {frames : List (FrameSource ℝ)}
    (units : ∀ frame ∈ frames, frame.pose.rotation.IsUnit) :
    (graphOf settings frames).RigidPayloads := by
  intro vertex member
  rw [vertices_graphOf] at member
  rcases List.mem_cons.mp member with rfl | later
  · exact Transform.IsRigid.one
  · obtain ⟨frame, isFrame, rfl⟩ := List.mem_map.mp later
    exact Transform.isRigid_ofPose (units frame isFrame)

/-- A loaded document has the shape that its frames give it. -/
theorem shaped_load (isModel : element.kind = "model") :
    ((load element settings store).store.graph (load element settings store).entity.graph).Shaped
      (graphOf settings (frames settings element)).edges
      ((frames settings element).length + 1) := by
  rw [graph_load, store_load settings store isModel, GraphStore.graph_create]
  exact ⟨rfl, length_vertices_graphOf _ _,
    rigidPayloads_graphOf fun frame member => isUnit_of_mem_frames member⟩

/-- An element of another kind leaves the model without frames. -/
theorem shaped_load_of_ne (otherKind : element.kind ≠ "model") :
    ((load element settings store).store.graph (load element settings store).entity.graph).Shaped
      [] 0 := by
  have unloaded : (load element settings store).store = (store.create .empty).1 := by
    unfold load
    rw [if_neg otherKind]
    rfl
  rw [graph_load, unloaded, GraphStore.graph_create]
  exact ⟨rfl, rfl, fun _ member => absurd member List.not_mem_nil⟩

/-- The answer to a query in a graph of the shape of a loaded document. -/
theorem poseInFrame_of_shaped {graph : FrameGraph ℝ} {frames : List (FrameSource ℝ)}
    (shaped : graph.Shaped (graphOf settings frames).edges (frames.length + 1))
    {source target : String} {u v : Nat}
    (firstSource : graph.vertices.findIdx? (·.name == source) = some u)
    (firstTarget : graph.vertices.findIdx? (·.name == target) = some v) :
    (top (parent settings frames) ⟨u⟩ ≠ top (parent settings frames) ⟨v⟩ →
        graph.poseInFrame source target = .error (.noPath source target)) ∧
      (top (parent settings frames) ⟨u⟩ = top (parent settings frames) ⟨v⟩ →
        ∃ pose, graph.poseInFrame source target = .ok pose ∧
          (Transform.ofPose pose).toMatrix =
            (graph.placement (parent settings frames) ⟨v⟩).toMatrix⁻¹ *
              (graph.placement (parent settings frames) ⟨u⟩).toMatrix) := by
  have hangs : graph.Hangs (parent settings frames) :=
    (hangs_graphOf settings frames).of_edges_eq shaped.edges
  have within : graph.EdgesWithin := by
    apply (wired_graphOf settings frames).edgesWithin.of_le shaped.edges
    rw [shaped.size, length_vertices_graphOf]
  exact hangs.poseInFrame within shaped.payloads firstSource firstTarget

/-- For every document and all settings, and after any names and poses have been given to
links, joints and lights, a query fails if a name is missing, then the source before the
target; otherwise it concerns the first vertices with the names.  It fails if their lineages
have different tops, and else answers with the motion between their placements. -/
theorem poseInFrame_of_edits (element : Element ℝ) (settings : Settings)
    (store : GraphStore ℝ) (edits : List (Edit ℝ)) (units : ∀ change ∈ edits, change.IsUnit)
    (source target : String) :
    let loaded := load element settings store
    let state := edits.foldl edit (loaded.store, loaded.entity)
    let graph := state.1.graph state.2.graph
    let above := parent settings (frames settings element)
    let answer := state.2.poseInFrame state.1 source target
    match graph.vertices.findIdx? (·.name == source),
      graph.vertices.findIdx? (·.name == target) with
    | none, _ => answer = .error (.resolve (.notFound source))
    | some _, none => answer = .error (.resolve (.notFound target))
    | some u, some v =>
      (answer = .error (.resolve (.noPath source target)) ↔ top above ⟨u⟩ ≠ top above ⟨v⟩) ∧
        (top above ⟨u⟩ = top above ⟨v⟩ →
          ∃ pose, answer = .ok pose ∧
            (Transform.ofPose pose).toMatrix =
              (graph.placement above ⟨v⟩).toMatrix⁻¹ *
                (graph.placement above ⟨u⟩).toMatrix) := by
  intro loaded state graph above answer
  have isAnswer : answer = (graph.poseInFrame source target).mapError .resolve := rfl
  rw [isAnswer]
  cases firstSource : graph.vertices.findIdx? (·.name == source) with
  | none =>
      rw [FrameGraph.poseInFrame_of_no_source firstSource]
      rfl
  | some u =>
      cases firstTarget : graph.vertices.findIdx? (·.name == target) with
      | none =>
          rw [FrameGraph.poseInFrame_of_no_target firstSource firstTarget]
          rfl
      | some v =>
          have isModel : element.kind = "model" := by
            by_contra otherKind
            have nothing : graph.Shaped [] 0 :=
              foldl_edit_shaped units (shaped_load_of_ne otherKind)
            obtain ⟨inside, -⟩ := List.findIdx?_eq_some_iff_getElem.mp firstSource
            rw [nothing.size] at inside
            exact Nat.not_lt_zero u inside
          -- Edits change names and payloads, and the shape of the graph decides all else.
          have shaped : graph.Shaped (graphOf settings (frames settings element)).edges
              ((frames settings element).length + 1) :=
            foldl_edit_shaped units (shaped_load isModel)
          obtain ⟨apart, together⟩ := poseInFrame_of_shaped shaped firstSource firstTarget
          refine ⟨⟨?_, ?_⟩, ?_⟩
          · intro fails same
            obtain ⟨pose, found, -⟩ := together same
            rw [found] at fails
            cases fails
          · intro different
            rw [apart different]
            rfl
          · intro same
            obtain ⟨pose, found, motion⟩ := together same
            refine ⟨pose, ?_, motion⟩
            rw [found]
            rfl

/-- A link with a name, placed in a named frame. -/
noncomputable def craneLink (name reference : String) : Element ℝ :=
  { kind := "link"
    attributes := .ofList [("name", .string name)]
    value := none
    children :=
      [{ kind := "pose"
         attributes := .ofList [("relative_to", .string reference)]
         value := some (.pose ⟨⟨1, 1, 0⟩, ⟨1, 0, 0⟩⟩)
         children := [] }] }

/-- An arm on a base, and a hook beside the arm. -/
noncomputable def crane : Element ℝ :=
  { kind := "model"
    attributes := .empty
    value := none
    children := [craneLink "base" "", craneLink "arm" "base", craneLink "hook" "base"] }

/-- The arm gets another name, and the base another pose. -/
noncomputable def craneEdits : List (Edit ℝ) :=
  [.rename (.link 1) "tool", .move (.link 0) FrameGraph.tilt]

theorem poseInFrame_of_edits_crane :
    let loaded := load crane .default .empty
    let state := craneEdits.foldl edit (loaded.store, loaded.entity)
    let above := parent .default (frames .default crane)
    let graph := state.1.graph state.2.graph
    ∃ pose, state.2.poseInFrame state.1 "tool" "hook" = .ok pose ∧
      (Transform.ofPose pose).toMatrix =
        (graph.placement above ⟨3⟩).toMatrix⁻¹ * (graph.placement above ⟨2⟩).toMatrix := by
  have units : ∀ change ∈ craneEdits, change.IsUnit := by
    intro change member
    simp only [craneEdits, List.mem_cons, List.not_mem_nil, or_false] at member
    rcases member with rfl | rfl
    · exact True.intro
    · exact FrameGraph.isUnit_tilt
  have answer := poseInFrame_of_edits crane .default .empty craneEdits units "tool" "hook"
  intro loaded state above graph
  have firstSource : graph.vertices.findIdx? (·.name == "tool") = some 2 := by
    rfl
  have firstTarget : graph.vertices.findIdx? (·.name == "hook") = some 3 := by
    rfl
  have sameTop : top above ⟨2⟩ = top above ⟨3⟩ := by
    have hangs := hangs_graphOf .default (frames .default crane)
    have arm : above ⟨2⟩ = some ⟨1⟩ := rfl
    have hook : above ⟨3⟩ = some ⟨1⟩ := rfl
    exact (hangs.top_of_some arm).trans (hangs.top_of_some hook).symm
  simp only [loaded, state, above, graph] at firstSource firstTarget sameTop ⊢
  simp only [firstSource, firstTarget] at answer
  exact answer.2 sameTop

end Model

end Kinematics
