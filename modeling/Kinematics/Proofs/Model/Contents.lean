import Kinematics.Proofs.Model.Entities
import Kinematics.Report.PoseTable

/-!
# What a loaded model holds

The links, joints and lights of a loaded model own the vertices after the root, one each.
Of every frame that hangs from nothing it is reported once that it is not connected; what
else is reported comes from the elements alone.
-/

namespace Kinematics

variable {α : Type} [Scalar α]

/-- An entity of a model, as far as its place is concerned. -/
structure Placed where
  kind : EntityKind
  frame : Binding
  poseFrame : String

/-- The record of an entity in a table of poses. -/
def Placed.record (store : GraphStore α) (frame : String) (entity : Placed) : PoseRecord α :=
  ⟨entity.kind, entity.frame.name store, frame,
    entity.frame.poseInFrame store (if frame.isEmpty then entity.poseFrame else frame)⟩

namespace Model

/-- The entities of a model in the order of its tables. -/
def placed (model : Model α) : List Placed :=
  (model.links.map fun link => ⟨.link, link.frame, link.poseFrame⟩) ++
    (model.joints.map fun joint => ⟨.joint, joint.frame, joint.poseFrame⟩) ++
    (model.lights.map fun light => ⟨.light, light.frame, light.poseFrame⟩)

theorem poseRecords_eq (model : Model α) (store : GraphStore α) (frame : String) :
    model.poseRecords store frame = model.placed.map (Placed.record store frame) := by
  unfold placed
  rw [List.map_append, List.map_append, List.map_map, List.map_map, List.map_map]
  rfl

omit [Scalar α] in
theorem length_placed (model : Model α) :
    model.placed.length = model.links.length + model.joints.length + model.lights.length := by
  simp [placed, Nat.add_assoc]

variable (settings : Settings) (store : GraphStore α) (element : Element α)

def linkFrames : List (FrameSource α) :=
  (Element.firstOfEachName [] (element.elements "link")).map (.located settings.rootFrame .link)

/-- The frames of the links and joints of a document. -/
def bodyFrames : List (FrameSource α) :=
  linkFrames settings element ++
    (Element.firstOfEachName [] (element.elements "joint")).map .ofJoint

/-- The links of a document, loaded into a graph that has nothing but its root. -/
def loadedLinks : LoadedAll α (Link α) :=
  LoadedAll.distinct .link
    (fun child => Link.load child (some ⟨store.graphs.length⟩) settings.tieBreak) []
    (element.elements "link") (started settings store [])

/-- The joints of a document, loaded after its links. -/
def loadedJoints : LoadedAll α (Joint α) :=
  LoadedAll.distinct .joint
    (fun child => Joint.load child (some ⟨store.graphs.length⟩) settings.tieBreak) []
    (element.elements "joint") (started settings store (linkFrames settings element))

/-- The lights of a document, loaded after its links and joints. -/
def loadedLights : LoadedAll α (Light α) :=
  LoadedAll.each (fun child => Light.load child (some ⟨store.graphs.length⟩) settings.tieBreak)
    (element.elements "light") (started settings store (bodyFrames settings element))

variable {element}

/-- A document is loaded kind by kind, each into the graph of the frames before it. -/
theorem load_eq (isModel : element.kind = "model") :
    load element settings store =
      { store := started settings store (frames settings element)
        entity :=
          { name := element.name?.getD ""
            links := (loadedLinks settings store element).entities
            joints := (loadedJoints settings store element).entities
            lights := (loadedLights settings store element).entities
            graph := ⟨store.graphs.length⟩
            element := some element }
        diagnostics :=
          Joint.reportMissing element.name? (.nameMissing .model) ++
            (loadedLinks settings store element).diagnostics ++
            (loadedJoints settings store element).diagnostics ++
            (loadedLights settings store element).diagnostics } := by
  have links : (loadedLinks settings store element).store =
      started settings store (linkFrames settings element) :=
    (attaching_link settings store).store_distinct .link element []
  have joints : (loadedJoints settings store element).store =
      started settings store (bodyFrames settings element) :=
    (attaching_joint settings store).store_distinct .joint element (linkFrames settings element)
  have lights : (loadedLights settings store element).store =
      started settings store (frames settings element) :=
    (attaching_light settings store).store_each
      (fun _ member => kind_of_mem_elements member) (bodyFrames settings element)
  unfold load
  rw [if_pos isModel, ← lights]
  unfold loadedLights
  rw [← joints]
  unfold loadedJoints
  rw [← links]
  rfl

/-- The entities of a document own the vertices after the root, in order. -/
theorem frame_placed_load (isModel : element.kind = "model") :
    (load element settings store).entity.placed.map Placed.frame =
      (List.range' 1 (frames settings element).length).map fun index =>
        ⟨⟨store.graphs.length⟩, ⟨index⟩, true⟩ := by
  have links := (attaching_link settings store).frames_distinct .link element []
  have joints := (attaching_joint settings store).frames_distinct .joint element
    (linkFrames settings element)
  have lights := (attaching_light settings store).frames_each
    (fun child (member : child ∈ element.elements "light") => kind_of_mem_elements member)
    (bodyFrames settings element)
  have inOrder : (load element settings store).entity.placed.map Placed.frame =
      (loadedLinks settings store element).entities.map Link.frame ++
        (loadedJoints settings store element).entities.map Joint.frame ++
        (loadedLights settings store element).entities.map Light.frame := by
    rw [load_eq settings store isModel]
    simp only [placed, List.map_append, List.map_map]
    rfl
  have linkCount : (linkFrames settings element).length =
      (Element.firstOfEachName [] (element.elements "link")).length :=
    List.length_map _
  have bodyCount : (bodyFrames settings element).length =
      (linkFrames settings element).length +
        (Element.firstOfEachName [] (element.elements "joint")).length := by
    simp [bodyFrames]
  have count : (frames settings element).length =
      (bodyFrames settings element).length + (element.elements "light").length := by
    simp [frames, bodyFrames, linkFrames, Nat.add_assoc]
  -- The three ranges of vertices follow one another.
  rw [inOrder]
  unfold loadedLinks loadedJoints loadedLights
  rw [links, joints, lights, ← List.map_append, ← List.map_append, count, bodyCount,
    ← linkCount, List.length_nil, Nat.zero_add, Nat.add_comm _ 1, List.range'_append_1,
    Nat.add_comm _ 1, List.range'_append_1]

theorem rootFrame_load (isModel : element.kind = "model") :
    (load element settings store).entity.rootFrame (load element settings store).store =
      settings.rootFrame := by
  unfold rootFrame
  rw [graphOf_load settings store isModel, rootName?_graphOf]
  rfl

/-- The frame of an entity is a vertex of the graph of its document. -/
theorem frame_of_mem_placed (isModel : element.kind = "model") {entity : Placed}
    (member : entity ∈ (load element settings store).entity.placed) :
    entity.frame.attached ∧
      entity.frame.graph = (load element settings store).entity.graph ∧
      ((load element settings store).store.graph
        (load element settings store).entity.graph).contains entity.frame.vertex := by
  have owned : entity.frame ∈ (load element settings store).entity.placed.map Placed.frame :=
    List.mem_map_of_mem member
  rw [frame_placed_load settings store isModel] at owned
  obtain ⟨index, inside, isFrame⟩ := List.mem_map.mp owned
  obtain ⟨-, below⟩ := List.mem_range'_1.mp inside
  rw [← isFrame, graphOf_load settings store isModel, FrameGraph.contains_iff,
    length_vertices_graphOf, graph_load]
  refine ⟨rfl, rfl, ?_⟩
  rw [Nat.add_comm]
  exact below

theorem length_frames (isModel : element.kind = "model") :
    (frames settings element).length =
      (load element settings store).entity.links.length +
        (load element settings store).entity.joints.length +
        (load element settings store).entity.lights.length := by
  have owned := congrArg List.length (frame_placed_load settings store isModel)
  rw [List.length_map, length_placed, List.length_map, List.length_range'] at owned
  exact owned.symm

/-- Every frame that hangs from nothing is reported as not connected, and no other. -/
theorem countP_isUnconnected_load (isModel : element.kind = "model") :
    (load element settings store).diagnostics.countP Diagnostic.isUnconnected =
      unhung settings (frames settings element) := by
  have links : (loadedLinks settings store element).diagnostics.countP Diagnostic.isUnconnected +
      unhung settings ([] : List (FrameSource α)) = unhung settings (linkFrames settings element) :=
    (attaching_link settings store).countP_isUnconnected_distinct .link element []
  have joints : (loadedJoints settings store element).diagnostics.countP
      Diagnostic.isUnconnected + unhung settings (linkFrames settings element) =
        unhung settings (bodyFrames settings element) :=
    (attaching_joint settings store).countP_isUnconnected_distinct .joint element
      (linkFrames settings element)
  have lights : (loadedLights settings store element).diagnostics.countP
      Diagnostic.isUnconnected + unhung settings (bodyFrames settings element) =
        unhung settings (frames settings element) :=
    (attaching_light settings store).countP_isUnconnected_each
      (fun _ member => kind_of_mem_elements member) (bodyFrames settings element)
  have named : (Joint.reportMissing element.name? (.nameMissing .model) :
      List (Diagnostic α)).countP Diagnostic.isUnconnected = 0 :=
    (Diagnostic.Intrinsic.ite ⟨rfl, rfl⟩).connected.countP_eq_zero
  have root : unhung settings ([] : List (FrameSource α)) = 0 := rfl
  -- The counts of the three kinds add up, each beginning where the one before ends.
  rw [load_eq settings store isModel]
  simp only [List.countP_append]
  omega

theorem diagnostics_load_of_ne (otherKind : element.kind ≠ "model") :
    (load element settings store).diagnostics = [.wrongKind .model] := by
  unfold load
  rw [if_neg otherKind]

theorem kind_of_clean (clean : (load element settings store).diagnostics = []) :
    element.kind = "model" := by
  by_contra otherKind
  rw [diagnostics_load_of_ne settings store otherKind] at clean
  exact List.cons_ne_nil _ _ clean

/-- Nothing is reported exactly if the elements have names that are distinct where they have
to be, have no faults, and describe frames that all hang from others. -/
theorem diagnostics_load_eq_nil (isModel : element.kind = "model") :
    (load element settings store).diagnostics = [] ↔
      element.name?.isSome ∧
        (((element.elements "link").filterMap Element.name?).Nodup ∧
          ∀ child ∈ element.elements "link", Link.faults child = []) ∧
        (((element.elements "joint").filterMap Element.name?).Nodup ∧
          ∀ child ∈ element.elements "joint", Joint.faults child = []) ∧
        (∀ child ∈ element.elements "light", Light.faults child = []) ∧
        unhung settings (frames settings element) = 0 := by
  have links : (loadedLinks settings store element).diagnostics.filter
      (fun fault => !fault.isUnconnected) = [] ↔
        ((element.elements "link").filterMap Element.name?).Nodup ∧
          ∀ child ∈ element.elements "link", Link.faults child = [] :=
    (attaching_link settings store).filter_distinct_eq_nil .link element []
  have joints : (loadedJoints settings store element).diagnostics.filter
      (fun fault => !fault.isUnconnected) = [] ↔
        ((element.elements "joint").filterMap Element.name?).Nodup ∧
          ∀ child ∈ element.elements "joint", Joint.faults child = [] :=
    (attaching_joint settings store).filter_distinct_eq_nil .joint element
      (linkFrames settings element)
  have lights : (loadedLights settings store element).diagnostics.filter
      (fun fault => !fault.isUnconnected) = (element.elements "light").flatMap Light.faults :=
    (attaching_light settings store).filter_each
      (fun _ member => kind_of_mem_elements member) (bodyFrames settings element)
  have named : (Joint.reportMissing element.name? (.nameMissing .model) :
      List (Diagnostic α)).filter (fun fault => !fault.isUnconnected) = [] ↔
        element.name?.isSome := by
    cases element.name? with
    | none => exact iff_of_false (List.cons_ne_nil _ _) Bool.false_ne_true
    | some name => exact iff_of_true rfl rfl
  rw [Diagnostic.eq_nil_iff, countP_isUnconnected_load settings store isModel,
    load_eq settings store isModel]
  simp only [List.filter_append, List.append_eq_nil_iff, named, links, joints, lights,
    List.flatMap_eq_nil_iff, and_assoc]

end Model

end Kinematics
