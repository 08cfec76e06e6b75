import Kinematics.Proofs.Model.Children

/-!
# Documents that load alike

Of a document its name and its links, joints and lights matter, each kind in its order.  How
the kinds are interleaved and what other children there are does not show in the loaded
model, and a repeated name shows in the report only.
-/

namespace Kinematics

variable {α : Type}

/-- A document without the links and joints that repeat a name. -/
def Element.withoutRepeats (element : Element α) : Element α :=
  { element with children := unrepeated [] element.children }

variable [Scalar α]

namespace Model

/-- The current names of the links whose elements state one. -/
def linkNames (model : Model α) (store : GraphStore α) : List String :=
  model.links.filterMap fun link =>
    (link.element.bind Element.name?).map fun _ => link.name store

/-- The current names of the joints whose elements state one. -/
def jointNames (model : Model α) (store : GraphStore α) : List String :=
  model.joints.filterMap fun joint =>
    (joint.element.bind Element.name?).map fun _ => joint.name store

/-- Two loads of documents that find the same model, each in a graph of its own. -/
structure Alike (first second : Loaded α (Model α)) : Prop where
  name : second.entity.name = first.entity.name
  members : second.entity.members =
    first.entity.members.map (Member.relocate second.entity.graph id)
  graph : second.store.graph second.entity.graph = first.store.graph first.entity.graph

section Alike

variable {first second : Loaded α (Model α)} (alike : Alike first second)

include alike

theorem Alike.poseInFrame_eq (source target : String) :
    second.entity.poseInFrame second.store source target =
      first.entity.poseInFrame first.store source target := by
  unfold poseInFrame
  rw [alike.graph]

theorem Alike.poseInFrame?_eq {member : Member α} {vertex : VertexId}
    (isFrame : member.frame? = some ⟨first.entity.graph, vertex, true⟩) (frame : String) :
    (member.relocate second.entity.graph id).poseInFrame? second.store frame =
      member.poseInFrame? first.store frame := by
  apply Member.poseInFrame?_relocate
  intro binding found
  obtain rfl := Option.some.inj (isFrame.symm.trans found)
  exact Binding.poseInFrame_relocate alike.graph _

end Alike

section Documents

variable {first second : Element α} (settings : Settings) (store otherStore : GraphStore α)

/-- Documents load alike if they have the same name, and the same children once those that
repeat a name are left out. -/
theorem alike_load (firstIsModel : first.kind = "model") (secondIsModel : second.kind = "model")
    (name : second.name? = first.name?)
    (children : Element.unrepeated [] (Element.loadOrder second.children) =
      Element.unrepeated [] (Element.loadOrder first.children)) :
    Alike (load first settings store) (load second settings otherStore) := by
  obtain ⟨-, firstMembers, -⟩ := load_children settings store firstIsModel
  obtain ⟨-, secondMembers, -⟩ := load_children settings otherStore secondIsModel
  refine ⟨?_, ?_, ?_⟩
  · rw [name_load settings store firstIsModel, name_load settings otherStore secondIsModel, name]
  · rw [firstMembers, secondMembers, map_relocate_entitiesFrom, graph_load, children]
    rfl
  · rw [graph_load_children settings store firstIsModel,
      graph_load_children settings otherStore secondIsModel]
    unfold framesOf
    rw [children]

/-- Two documents with the same attributes, the same first child that states a name, and the
same links, joints and lights, each kind in its order, load alike, however the kinds are
interleaved with one another and with other children.  The faults are reported in the same
order, and every question for a pose has the same answer. -/
theorem load_of_interleaved (firstIsModel : first.kind = "model")
    (secondIsModel : second.kind = "model")
    (attributes : ∀ name, second.attributes.get? name = first.attributes.get? name)
    (nameChild : second.first? "name" = first.first? "name")
    (links : second.elements "link" = first.elements "link")
    (joints : second.elements "joint" = first.elements "joint")
    (lights : second.elements "light" = first.elements "light") :
    let left := load first settings store
    let right := load second settings otherStore
    Alike left right ∧ right.diagnostics = left.diagnostics ∧
      (∀ source target, right.entity.poseInFrame right.store source target =
        left.entity.poseInFrame left.store source target) ∧
      ∀ member ∈ left.entity.members, ∀ frame,
        (member.relocate right.entity.graph id).poseInFrame? right.store frame =
          member.poseInFrame? left.store frame := by
  have name : second.name? = first.name? := by
    unfold Element.name? Element.read? Element.lookup?
    rw [attributes, nameChild]
  have children : Element.loadOrder second.children = Element.loadOrder first.children := by
    unfold Element.elements at links joints lights
    unfold Element.loadOrder
    rw [links, joints, lights]
  have alike := alike_load settings store otherStore firstIsModel secondIsModel name
    (congrArg (Element.unrepeated []) children)
  obtain ⟨-, -, firstReports⟩ := load_children settings store firstIsModel
  obtain ⟨-, -, secondReports⟩ := load_children settings otherStore secondIsModel
  refine ⟨alike, ?_, alike.poseInFrame_eq, ?_⟩
  · rw [firstReports, secondReports, name, children]
  · intro member isMember frame
    obtain ⟨vertex, -, isFrame⟩ := frame?_of_mem_members settings store firstIsModel isMember
    exact alike.poseInFrame?_eq isFrame frame

end Documents

def labelled (kind name : String) (children : List (Element Float)) : Element Float :=
  ⟨kind, .ofList [("name", .string name)], none, children⟩

/-- The pose of a light that is placed in a named frame. -/
def placedIn (frame : String) : Element Float :=
  ⟨"pose", .ofList [("relative_to", .string frame)], none, []⟩

/-- A gun on a base, with a lamp at its barrel.  The lamp comes first, and a remark between the
links. -/
def turret : Element Float :=
  labelled "model" "turret"
    [labelled "light" "lamp" [placedIn "barrel"], labelled "joint" "yaw" [],
      labelled "link" "base" [], labelled "remark" "spare" [],
      labelled "link" "barrel" [placedIn "base"]]

/-- The same gun kind by kind. -/
def sortedTurret : Element Float :=
  labelled "model" "turret"
    [labelled "link" "base" [], labelled "link" "barrel" [placedIn "base"],
      labelled "joint" "yaw" [], labelled "light" "lamp" [placedIn "barrel"]]

theorem load_of_interleaved_turret :
    let left := load turret .default .empty
    let right := load sortedTurret .default ⟨[.withRoot "world"]⟩
    turret.children.length ≠ sortedTurret.children.length ∧
      right.diagnostics = left.diagnostics ∧
      right.entity.poseInFrame right.store "lamp" "base" =
        left.entity.poseInFrame left.store "lamp" "base" := by
  obtain ⟨-, reports, poses, -⟩ := load_of_interleaved .default .empty ⟨[.withRoot "world"]⟩
    (rfl : turret.kind = "model") (rfl : sortedTurret.kind = "model") (fun _ => rfl) rfl rfl rfl rfl
  exact ⟨by decide, reports, poses "lamp" "base"⟩

section Repeats

variable {settings : Settings} {earlier : List (Element α)} {child : Element α}

/-- Of a child that repeats no name it is not reported that it does. -/
theorem isDuplicate_of_mem_report (new : ¬child.Repeats earlier) :
    ∀ fault ∈ report settings earlier child, fault.isDuplicate = false := by
  intro fault member
  rw [report, if_neg new] at member
  rcases List.mem_append.mp member with own | ofReference
  · exact (child.intrinsic_faults fault own).2
  · have cases := (FrameSource.ofChild settings.rootFrame child).report_cases
      (graphOf settings (framesOf settings.rootFrame earlier)) settings.tieBreak
    rcases cases with ⟨-, silent⟩ | ⟨-, other, reported, isUnconnected⟩
    · rw [silent] at ofReference
      exact absurd ofReference List.not_mem_nil
    · rw [reported] at ofReference
      obtain rfl := List.mem_singleton.mp ofReference
      have code : fault.code = .frameGraphError := beq_iff_eq.mp isUnconnected
      rw [Diagnostic.isDuplicate, code]
      rfl

/-- The report of a child that repeats no name does not depend on earlier ones that do. -/
theorem report_unrepeated (new : ¬child.Repeats earlier) :
    report settings (Element.unrepeated [] earlier) child = report settings earlier child := by
  have newAmongFew : ¬child.Repeats (Element.unrepeated [] earlier) := fun repeats =>
    new (repeats.mono (Element.unrepeated_sublist earlier []).subset)
  unfold report framesOf
  rw [if_neg new, if_neg newAmongFew, Element.unrepeated_unrepeated earlier (List.Subset.refl [])]

variable (settings earlier) (children : List (Element α))

/-- Apart from repetitions, what is reported is what there is to report of the other
children. -/
theorem filter_not_isDuplicate_reports :
    (reports settings earlier children).filter (fun fault => !fault.isDuplicate) =
      reports settings (Element.unrepeated [] earlier) (Element.unrepeated earlier children) := by
  induction children generalizing earlier with
  | nil => rfl
  | cons child rest induction =>
      have later := induction (earlier ++ [child])
      rw [reports, List.filter_append]
      by_cases repeats : child.Repeats earlier
      · rw [Element.unrepeated_snoc_of_repeats repeats] at later
        rw [Element.unrepeated_cons_of_repeats rest repeats, report, if_pos repeats]
        exact later
      · rw [Element.unrepeated_snoc_of_new repeats] at later
        have kept : (report settings earlier child).filter (fun fault => !fault.isDuplicate) =
            report settings earlier child :=
          List.filter_eq_self.mpr fun fault member => by
            rw [isDuplicate_of_mem_report repeats fault member]
            rfl
        rw [Element.unrepeated_cons_of_new rest repeats, reports, report_unrepeated repeats, kept]
        exact congrArg _ later

/-- Every repetition is reported once. -/
theorem filter_isDuplicate_reports :
    (reports settings earlier children).filter Diagnostic.isDuplicate =
      (Element.repeated earlier children).map .repeatOf := by
  induction children generalizing earlier with
  | nil => rfl
  | cons child rest induction =>
      rw [reports, List.filter_append, induction]
      by_cases repeats : child.Repeats earlier
      · rw [Element.repeated_cons_of_repeats rest repeats, report, if_pos repeats]
        rfl
      · have none : (report settings earlier child).filter Diagnostic.isDuplicate = [] :=
          List.filter_eq_nil_iff.mpr fun fault member => by
            rw [isDuplicate_of_mem_report repeats fault member]
            decide
        rw [Element.repeated_cons_of_new rest repeats, none]
        rfl

end Repeats

section WithoutRepeats

variable (settings : Settings) (store otherStore : GraphStore α) {element : Element α}

omit [Scalar α] in
theorem links_withoutRepeats :
    Element.unrepeated [] (element.elements "link") = element.withoutRepeats.elements "link" :=
  Element.sift_filter false [] element.children rfl

omit [Scalar α] in
theorem joints_withoutRepeats :
    Element.unrepeated (element.elements "link") (element.elements "joint") =
      element.withoutRepeats.elements "joint" :=
  Element.sift_filter false _ element.children (Element.no_joint_among_links _)

omit [Scalar α] in
theorem elements_withoutRepeats {kind : String} (otherKind : ¬(kind = "link" ∨ kind = "joint")) :
    element.withoutRepeats.elements kind = element.elements kind := by
  have left : Element.unrepeated [] (element.elements kind) =
      element.withoutRepeats.elements kind :=
    Element.sift_filter false [] element.children rfl
  rw [← left]
  apply Element.unrepeated_eq_self
  intro child member isBody
  exact otherKind (kind_of_mem_elements member ▸ isBody)

omit [Scalar α] in
theorem name?_withoutRepeats : element.withoutRepeats.name? = element.name? := by
  have names : element.withoutRepeats.elements "name" = element.elements "name" :=
    elements_withoutRepeats (by decide)
  have first : element.withoutRepeats.first? "name" = element.first? "name" := by
    unfold Element.first?
    rw [← List.head?_filter, ← List.head?_filter]
    exact congrArg List.head? names
  unfold Element.name? Element.read? Element.lookup?
  rw [first]
  rfl

/-- Of each kind the entities keep, in order, the elements that repeat no name, and have the
names of these. -/
theorem told_load (isModel : element.kind = "model") :
    let whole := load element settings store
    let stated := fun child : Element α => (some child, some (child.name?.getD ""))
    whole.entity.links.map (fun link => (link.element, some (link.name whole.store))) =
        (element.withoutRepeats.elements "link").map stated ∧
      whole.entity.joints.map (fun joint => (joint.element, some (joint.name whole.store))) =
        (element.withoutRepeats.elements "joint").map stated ∧
      whole.entity.lights.map (fun light => (light.element, some (light.name whole.store))) =
        (element.elements "light").map stated := by
  intro whole stated
  obtain ⟨links, joints, lights, linkRun, jointRun, lightRun, isLoad⟩ :=
    exists_runs settings store isModel
  have isFinal := graph_load_children settings store isModel
  rw [graph_load] at isFinal
  have linksTold := linkRun.told (element.elements "joint" ++ element.elements "light")
    (by rw [List.nil_append, ← List.append_assoc]; exact isFinal)
  have jointsTold := jointRun.told (element.elements "light") isFinal
  have lightsTold := lightRun.told [] (by rw [List.append_nil]; exact isFinal)
  have notBodies : ∀ child ∈ element.elements "light",
      ¬(child.kind = "link" ∨ child.kind = "joint") := by
    intro child member
    rw [kind_of_mem_elements member]
    decide
  rw [links_withoutRepeats] at linksTold
  rw [joints_withoutRepeats] at jointsTold
  rw [Element.unrepeated_eq_self notBodies] at lightsTold
  unfold LoadedAll.map at linksTold jointsTold lightsTold
  rw [List.map_map] at linksTold jointsTold lightsTold
  have isLinks : whole.entity.links = links.entities :=
    congrArg (fun loaded => loaded.entity.links) isLoad
  have isJoints : whole.entity.joints = joints.entities :=
    congrArg (fun loaded => loaded.entity.joints) isLoad
  have isLights : whole.entity.lights = lights.entities :=
    congrArg (fun loaded => loaded.entity.lights) isLoad
  rw [isLinks, isJoints, isLights]
  exact ⟨linksTold, jointsTold, lightsTold⟩

omit [Scalar α] in
/-- Entities that keep some elements and have their names have the names that the elements
state. -/
theorem filterMap_of_told {ε : Type} {entities : List ε} {elementOf : ε → Option (Element α)}
    {nameOf : ε → String} {children : List (Element α)}
    (told : entities.map (fun entity => (elementOf entity, some (nameOf entity))) =
      children.map fun child => (some child, some (child.name?.getD ""))) :
    entities.filterMap (fun entity =>
        ((elementOf entity).bind Element.name?).map fun _ => nameOf entity) =
      children.filterMap Element.name? := by
  let pick (entry : Option (Element α) × Option String) : Option String :=
    (entry.1.bind Element.name?).bind fun _ => entry.2
  calc
    _ = (entities.map fun entity => (elementOf entity, some (nameOf entity))).filterMap pick := by
      rw [List.filterMap_map]
      apply List.filterMap_congr
      intro entity _
      exact Option.map_eq_bind
    _ = (children.map fun child => (some child, some (child.name?.getD ""))).filterMap pick := by
      rw [told]
    _ = _ := by
      rw [List.filterMap_map]
      apply List.filterMap_congr
      intro child _
      change child.name?.bind (fun _ => some (child.name?.getD "")) = child.name?
      cases child.name? <;> rfl

omit [Scalar α] in
theorem loadOrder_withoutRepeats :
    Element.loadOrder element.withoutRepeats.children =
      Element.unrepeated [] (Element.loadOrder element.children) :=
  (Element.sift_loadOrder element.children false).symm

theorem alike_withoutRepeats (isModel : element.kind = "model") :
    Alike (load element settings store) (load element.withoutRepeats settings otherStore) := by
  have isModelToo : element.withoutRepeats.kind = "model" := isModel
  refine alike_load settings store otherStore isModel isModelToo name?_withoutRepeats ?_
  rw [loadOrder_withoutRepeats]
  exact Element.unrepeated_unrepeated _ (List.Subset.refl [])

theorem diagnostics_withoutRepeats (isModel : element.kind = "model") :
    (load element.withoutRepeats settings otherStore).diagnostics =
      (load element settings store).diagnostics.filter fun fault => !fault.isDuplicate := by
  have isModelToo : element.withoutRepeats.kind = "model" := isModel
  obtain ⟨-, -, whole⟩ := load_children settings store isModel
  obtain ⟨-, -, rest⟩ := load_children settings otherStore isModelToo
  have named : (Joint.reportMissing element.name? (.nameMissing .model) :
      List (Diagnostic α)).filter (fun fault => !fault.isDuplicate) =
        Joint.reportMissing element.name? (.nameMissing .model) := by
    cases element.name? <;> rfl
  rw [whole, rest, List.filter_append, named, filter_not_isDuplicate_reports,
    name?_withoutRepeats, loadOrder_withoutRepeats]
  rfl

theorem filter_isDuplicate_load (isModel : element.kind = "model") :
    (load element settings store).diagnostics.filter Diagnostic.isDuplicate =
      (Element.loadOrder (Element.repeated [] element.children)).map .repeatOf := by
  obtain ⟨-, -, whole⟩ := load_children settings store isModel
  have named : (Joint.reportMissing element.name? (.nameMissing .model) :
      List (Diagnostic α)).filter Diagnostic.isDuplicate = [] := by
    cases element.name? <;> rfl
  have inOrder : Element.repeated [] (Element.loadOrder element.children) =
      Element.loadOrder (Element.repeated [] element.children) :=
    Element.sift_loadOrder element.children true
  rw [whole, List.filter_append, named, List.nil_append, filter_isDuplicate_reports, inOrder]

/-- Every link and every joint is loaded or reported as a repetition. -/
theorem length_links_add_length_joints (isModel : element.kind = "model") :
    (load element settings store).entity.links.length +
        (load element settings store).entity.joints.length +
        (load element settings store).diagnostics.countP Diagnostic.isDuplicate =
      (element.elements "link").length + (element.elements "joint").length := by
  obtain ⟨links, joints, -⟩ := told_load settings store isModel
  have linkCount := congrArg List.length links
  have jointCount := congrArg List.length joints
  have total := Element.length_unrepeated_add_length_repeated
    (Element.loadOrder element.children) []
  have inOrder : Element.repeated [] (Element.loadOrder element.children) =
      Element.loadOrder (Element.repeated [] element.children) :=
    Element.sift_loadOrder element.children true
  have whole : (Element.loadOrder element.children).length =
      (element.elements "link").length + (element.elements "joint").length +
        (element.elements "light").length := by
    simp [Element.loadOrder, Element.elements, Nat.add_assoc]
  have left : (Element.loadOrder element.withoutRepeats.children).length =
      (element.withoutRepeats.elements "link").length +
        (element.withoutRepeats.elements "joint").length +
        (element.withoutRepeats.elements "light").length := by
    simp [Element.loadOrder, Element.elements, Nat.add_assoc]
  have allLights : element.withoutRepeats.elements "light" = element.elements "light" :=
    elements_withoutRepeats (by decide)
  rw [allLights, loadOrder_withoutRepeats] at left
  rw [List.length_map, List.length_map] at linkCount jointCount
  rw [List.countP_eq_length_filter, filter_isDuplicate_load settings store isModel,
    List.length_map, ← inOrder]
  omega

/-- Links and joints that repeat a name are left out as if they had not been written.  Without
them a document loads alike.  It has the same faults reported in the same order but for one
report of each repetition, and all entities keep the order of their elements.  Every link and
every joint of the document is loaded or reported as a repetition, every light is loaded, and
no two links and no two joints that state names have the same. -/
theorem load_withoutRepeats (isModel : element.kind = "model") :
    let whole := load element settings store
    let rest := load element.withoutRepeats settings otherStore
    Alike whole rest ∧
      rest.diagnostics = whole.diagnostics.filter (fun fault => !fault.isDuplicate) ∧
      whole.diagnostics.filter Diagnostic.isDuplicate =
        (Element.loadOrder (Element.repeated [] element.children)).map .repeatOf ∧
      whole.entity.links.map Link.element = (element.withoutRepeats.elements "link").map some ∧
      whole.entity.joints.map Joint.element = (element.withoutRepeats.elements "joint").map some ∧
      whole.entity.lights.map Light.element = (element.elements "light").map some ∧
      whole.entity.links.length + whole.entity.joints.length +
          whole.diagnostics.countP Diagnostic.isDuplicate =
        (element.elements "link").length + (element.elements "joint").length ∧
      whole.entity.lights.length = (element.elements "light").length ∧
      (whole.entity.linkNames whole.store).Nodup ∧
      (whole.entity.jointNames whole.store).Nodup := by
  intro whole rest
  obtain ⟨links, joints, lights⟩ := told_load settings store isModel
  have linkElements := congrArg (List.map Prod.fst) links
  have jointElements := congrArg (List.map Prod.fst) joints
  have lightElements := congrArg (List.map Prod.fst) lights
  have lightCount := congrArg List.length lights
  rw [List.map_map, List.map_map] at linkElements jointElements lightElements
  rw [List.length_map, List.length_map] at lightCount
  refine ⟨alike_withoutRepeats settings store otherStore isModel,
    diagnostics_withoutRepeats settings store otherStore isModel,
    filter_isDuplicate_load settings store isModel, linkElements, jointElements, lightElements,
    length_links_add_length_joints settings store isModel, lightCount, ?_, ?_⟩
  · have names := filterMap_of_told links
    rw [← links_withoutRepeats] at names
    unfold linkNames
    rw [names]
    exact Element.nodup_names_unrepeated (.inl rfl) (fun _ => kind_of_mem_elements) []
  · have names := filterMap_of_told joints
    rw [← joints_withoutRepeats] at names
    unfold jointNames
    rw [names]
    exact Element.nodup_names_unrepeated (.inr rfl) (fun _ => kind_of_mem_elements) _

end WithoutRepeats

/-- A cart whose second wheel repeats the name of the first one, with a lamp of the same name
and two links without names. -/
def cart : Element Float :=
  labelled "model" "cart"
    [labelled "link" "wheel" [], labelled "light" "wheel" [], .ofKind "link",
      labelled "link" "wheel" [], .ofKind "link", labelled "joint" "wheel" []]

theorem load_withoutRepeats_cart :
    let whole := load cart .default .empty
    let rest := load cart.withoutRepeats .default .empty
    rest.diagnostics = whole.diagnostics.filter (fun fault => !fault.isDuplicate) ∧
      whole.diagnostics.filter Diagnostic.isDuplicate = [.nameDuplicate .link "wheel"] ∧
      whole.entity.links.map Link.element =
        [some (labelled "link" "wheel" []), some (.ofKind "link"), some (.ofKind "link")] ∧
      whole.entity.links.length + whole.entity.joints.length +
        whole.diagnostics.countP Diagnostic.isDuplicate = 5 := by
  obtain ⟨-, reports, repetitions, links, -, -, count, -⟩ :=
    load_withoutRepeats .default .empty .empty (rfl : cart.kind = "model")
  exact ⟨reports, repetitions, links, count⟩

end Model

end Kinematics
