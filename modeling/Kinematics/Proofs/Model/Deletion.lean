import Kinematics.Proofs.Frame.Insertion
import Kinematics.Proofs.Model.Alike

/-!
# Children that nothing refers to

A child whose name nothing else has and nothing refers to can be taken out of a document.  The
other entities keep all that is known about them but the positions of their frames, the other
reports stay, and all questions that do not mention the name have the answers they had.
-/

namespace Kinematics

variable {α : Type}

/-- The name of the frame of an element. -/
def Element.frameName (element : Element α) : String :=
  element.name?.getD ""

/-- A link, a joint or a light among its children does not name an element. -/
theorem Element.name?_delete {element child : Element α} {before after : List (Element α)}
    (children : element.children = before ++ child :: after) (isBody : child.IsBody) :
    ({ element with children := before ++ after } : Element α).name? = element.name? := by
  have otherKind : (child.kind == "name") = false := by
    rcases isBody with isKind | isKind | isKind
    · rw [isKind]
      rfl
    · rw [isKind]
      rfl
    · rw [isKind]
      rfl
  have first : ({ element with children := before ++ after } : Element α).first? "name" =
      element.first? "name" := by
    unfold first?
    rw [children, List.find?_append, List.find?_append, List.find?_cons, otherKind]
  unfold name? read? lookup?
  rw [first]

namespace Model

section Frames

variable (settings : Settings) (before : List (FrameSource α)) {after : List (FrameSource α)}
  {new : FrameSource α}

/-- Where no later frame refers to a new one, every other frame hangs from the same frame. -/
theorem parent_insert (unreferenced : ∀ frame ∈ after, new.name ≠ frame.reference)
    (vertex : VertexId) :
    parent settings (before ++ new :: after) (vertex.skip (before.length + 1)) =
      (parent settings (before ++ after) vertex).map (VertexId.skip (before.length + 1)) := by
  obtain ⟨_ | index⟩ := vertex
  · rfl
  · have sameFrame := getElem?_skipIndex before after new index
    have isSkip : VertexId.skip (before.length + 1) ⟨index + 1⟩ =
        ⟨skipIndex before.length index + 1⟩ := by
      unfold VertexId.skip skipIndex
      simp only [Nat.add_lt_add_iff_right]
      split <;> rfl
    rw [isSkip]
    unfold parent
    simp only [sameFrame]
    cases found : (before ++ after)[index]? with
    | none => rfl
    | some frame =>
        simp only [Option.bind_some, Option.map_map]
        by_cases early : index < before.length
        · -- The names that decide this are all before the new one.
          rw [skipIndex_of_lt early, List.take_append_of_le_length (Nat.le_of_lt early),
            List.take_append_of_le_length (Nat.le_of_lt early)]
          apply Option.map_congr
          intro position resolved
          have below := TieBreak.resolve_lt resolved
          rw [List.length_cons, List.length_map, List.length_take] at below
          exact congrArg VertexId.mk (skipIndex_of_lt (by omega)).symm
        · -- The new name is among those that decide this, but is not the one looked for.
          have late : before.length ≤ index := Nat.not_lt.mp early
          have later : frame ∈ after := by
            rw [List.getElem?_append_right late] at found
            exact List.mem_of_getElem? found
          have moved := settings.tieBreak.resolve_insert
            (settings.rootFrame :: before.map FrameSource.name)
            ((after.take (index - before.length)).map FrameSource.name)
            (unreferenced frame later)
          have few : (before ++ after).take index =
              before ++ after.take (index - before.length) := by
            rw [List.take_append, List.take_of_length_le late]
          have many : (before ++ new :: after).take (index + 1) =
              before ++ new :: after.take (index - before.length) := by
            rw [List.take_append, List.take_of_length_le (Nat.le_succ_of_le late),
              Nat.succ_sub late, List.take_succ_cons]
          rw [List.cons_append, List.cons_append, List.length_cons, List.length_map] at moved
          rw [skipIndex_of_le late, few, many, List.map_append, List.map_append, List.map_cons,
            moved, Option.map_map]
          rfl

variable [Scalar α]

theorem vertex?_insert (id : VertexId) :
    (graphOf settings (before ++ new :: after)).vertex? (id.skip (before.length + 1)) =
      (graphOf settings (before ++ after)).vertex? id := by
  let vertexOf (frame : FrameSource α) : Vertex α := ⟨frame.name, Transform.ofPose frame.pose⟩
  have moved := getElem?_skipIndex (⟨settings.rootFrame, Transform.identity⟩ ::
    before.map vertexOf) (after.map vertexOf) (vertexOf new) id.index
  rw [List.length_cons, List.length_map] at moved
  unfold FrameGraph.vertex?
  rw [vertices_graphOf, vertices_graphOf, List.map_append, List.map_append]
  exact moved

theorem embedding_insert (unreferenced : ∀ frame ∈ after, new.name ≠ frame.reference) :
    FrameGraph.Embedding (graphOf settings (before ++ after))
      (graphOf settings (before ++ new :: after)) (parent settings (before ++ after))
      (parent settings (before ++ new :: after)) (VertexId.skip (before.length + 1)) where
  injective := VertexId.skip_injective _
  vertex?_place := vertex?_insert settings before
  smallHangs := hangs_graphOf settings _
  largeHangs := hangs_graphOf settings _
  smallWithin := (wired_graphOf settings _).edgesWithin
  largeWithin := (wired_graphOf settings _).edgesWithin
  parents := by
    intro child above hung
    rw [parent_insert settings before unreferenced, hung]
    rfl

/-- Any other name stands for the same first frame. -/
theorem head?_named_insert {name : String} (different : new.name ≠ name) :
    ((graphOf settings (before ++ new :: after)).named name).head? =
      ((graphOf settings (before ++ after)).named name).head?.map
        (VertexId.skip (before.length + 1)) := by
  have moved : (settings.rootFrame :: before.map FrameSource.name ++
      new.name :: after.map FrameSource.name).findIdx? (· == name) =
        ((settings.rootFrame :: before.map FrameSource.name ++
          after.map FrameSource.name).findIdx? (· == name)).map
            (skipIndex (settings.rootFrame :: before.map FrameSource.name).length) :=
    findIdx?_insert _ _ (beq_false_of_ne different)
  rw [List.length_cons, List.length_map] at moved
  rw [FrameGraph.head?_named, FrameGraph.head?_named, names_graphOf, names_graphOf,
    List.map_append, List.map_append, List.map_cons, ← List.cons_append, ← List.cons_append, moved,
    Option.map_map, Option.map_map]
  rfl

/-- A frame that is not called by its name does not show in the report of a reference. -/
theorem report_insert (frame : FrameSource α) (different : new.name ≠ frame.reference) :
    frame.report (graphOf settings (before ++ new :: after)) settings.tieBreak =
      frame.report (graphOf settings (before ++ after)) settings.tieBreak := by
  apply FrameSource.report_congr
  rw [names_graphOf, names_graphOf, List.map_append, List.map_append, List.map_cons,
    ← List.cons_append, ← List.cons_append, List.count_append, List.count_append,
    List.count_cons_of_ne different]

end Frames

section Children

variable [Scalar α] {settings : Settings} {alone : Element α} {before : List (Element α)}

theorem framesOf_insert {root : String} {between : List (Element α)}
    (new : ¬alone.Repeats before) (unique : ∀ child ∈ between, ¬child.Repeats [alone]) :
    framesOf root (before ++ alone :: between) =
      framesOf root before ++
        .ofChild root alone :: (Element.unrepeated before between).map (.ofChild root) := by
  have between_eq := Element.unrepeated_insert unique before []
  rw [List.append_nil] at between_eq
  rw [← List.singleton_append, ← List.append_assoc, framesOf_append, framesOf_snoc_of_new new,
    between_eq, List.append_assoc, List.singleton_append]

/-- What is reported of later children does not depend on one whose name nothing else has and
nothing refers to. -/
theorem reports_insert {between later : List (Element α)} (new : ¬alone.Repeats before)
    (unique : ∀ child ∈ between ++ later, ¬child.Repeats [alone])
    (unreferenced : ∀ child ∈ Element.unrepeated (before ++ between) later,
      alone.frameName ≠ (FrameSource.ofChild settings.rootFrame child).reference) :
    reports settings (before ++ alone :: between) later =
      reports settings (before ++ between) later := by
  induction later generalizing between with
  | nil => rfl
  | cons child rest induction =>
      have uniqueBetween : ∀ other ∈ between, ¬other.Repeats [alone] :=
        fun other member => unique other (List.mem_append_left _ member)
      have uniqueChild : ¬child.Repeats [alone] :=
        unique child (List.mem_append_right _ List.mem_cons_self)
      have repeats_iff := Element.repeats_insert uniqueChild before between
      -- A child that is passed over needs no reference, so only the others are asked for theirs.
      have further : reports settings (before ++ alone :: (between ++ [child])) rest =
          reports settings (before ++ (between ++ [child])) rest := by
        apply induction
        · rwa [List.append_assoc]
        · intro other member
          apply unreferenced other
          rw [← List.append_assoc] at member
          by_cases repeats : child.Repeats (before ++ between)
          · rwa [Element.unrepeated_cons_of_repeats rest repeats]
          · rw [Element.unrepeated_cons_of_new rest repeats]
            exact List.mem_cons_of_mem _ member
      rw [← List.cons_append, ← List.append_assoc, ← List.append_assoc] at further
      rw [reports, reports, further]
      congr 1
      unfold report
      by_cases repeats : child.Repeats (before ++ between)
      · rw [if_pos repeats, if_pos (repeats_iff.mpr repeats)]
      · have different : (FrameSource.ofChild settings.rootFrame alone).name ≠
            (FrameSource.ofChild settings.rootFrame child).reference := by
          rw [FrameSource.name_ofChild]
          apply unreferenced child
          rw [Element.unrepeated_cons_of_new rest repeats]
          exact List.mem_cons_self
        rw [if_neg repeats, if_neg fun also => repeats (repeats_iff.mp also),
          framesOf_insert new uniqueBetween, framesOf_append,
          report_insert settings _ _ different]

end Children

section Entities

variable [Scalar α] {root : String} {gap index : Nat} {children : List (Element α)}

/-- Entities before a gap keep their positions. -/
theorem relocate_before (graph other : GraphId) (before : index + children.length ≤ gap) :
    (entitiesFrom root graph index children).map (Member.relocate other (VertexId.skip gap)) =
      entitiesFrom root other index children := by
  rw [map_relocate_entitiesFrom]
  apply List.map_congr_left
  rintro ⟨child, position⟩ member
  obtain ⟨-, below, -⟩ := List.mem_zipIdx member
  have inside : position < gap := by omega
  have kept : VertexId.skip gap ⟨position⟩ = ⟨position⟩ :=
    congrArg VertexId.mk (skipIndex_of_lt inside)
  simp only [kept]

/-- Entities after a gap move up. -/
theorem relocate_after (graph other : GraphId) (after : gap ≤ index) :
    (entitiesFrom root graph index children).map (Member.relocate other (VertexId.skip gap)) =
      entitiesFrom root other (index + 1) children := by
  rw [map_relocate_entitiesFrom]
  unfold entitiesFrom
  rw [List.zipIdx_succ, List.map_map]
  apply List.map_congr_left
  rintro ⟨child, position⟩ member
  obtain ⟨above, -, -⟩ := List.mem_zipIdx member
  have moved : VertexId.skip gap ⟨position⟩ = ⟨position + 1⟩ :=
    congrArg VertexId.mk (skipIndex_of_le (Nat.le_trans after above))
  simp only [moved, Function.comp_apply]

variable {alone : Element α} {before later : List (Element α)}

/-- One more child gives one more entity between the others. -/
theorem entitiesFrom_insert (graph : GraphId) (new : ¬alone.Repeats before)
    (unique : ∀ child ∈ later, ¬child.Repeats [alone]) :
    entitiesFrom root graph 1 (Element.unrepeated [] (before ++ alone :: later)) =
      entitiesFrom root graph 1 (Element.unrepeated [] before) ++
        entityOf root alone ⟨graph, ⟨(framesOf root before).length + 1⟩, true⟩ ::
          entitiesFrom root graph ((framesOf root before).length + 2)
            (Element.unrepeated before later) := by
  have later_eq := Element.unrepeated_insert unique before []
  rw [List.append_nil] at later_eq
  have size : (framesOf root before).length = (Element.unrepeated [] before).length :=
    List.length_map _
  rw [Element.unrepeated_append, List.nil_append, Element.unrepeated_cons_of_new later new,
    later_eq, entitiesFrom_append, size, Nat.add_comm 1]
  rfl

/-- Without the child the others are the same, the later ones with earlier frames. -/
theorem relocate_insert (graph other : GraphId) :
    (entitiesFrom root other 1 (Element.unrepeated [] (before ++ later))).map
        (Member.relocate graph (VertexId.skip ((framesOf root before).length + 1))) =
      entitiesFrom root graph 1 (Element.unrepeated [] before) ++
        entitiesFrom root graph ((framesOf root before).length + 2)
          (Element.unrepeated before later) := by
  have size : (framesOf root before).length = (Element.unrepeated [] before).length :=
    List.length_map _
  rw [Element.unrepeated_append, List.nil_append, entitiesFrom_append, List.map_append, size,
    relocate_before other graph (Nat.le_of_eq (Nat.add_comm _ _)),
    relocate_after other graph (Nat.le_of_eq (Nat.add_comm _ _)), Nat.add_comm 1]

end Entities

section Apart

variable [Scalar α]

/-- In the order of loading, a child that matters to none of the later ones. -/
structure Apart (settings : Settings) (first last : List (Element α)) (child : Element α) :
    Prop where
  new : ¬child.Repeats first
  unique : ∀ other ∈ last, ¬other.Repeats [child]
  references : ∀ other ∈ Element.unrepeated first last,
    child.frameName ≠ (FrameSource.ofChild settings.rootFrame other).reference

variable {settings : Settings} {first last : List (Element α)} {child : Element α}
  (apart : Apart settings first last child)

/-- The frame that is put between those of other children moves the later ones up. -/
def gapAfter (root : String) (first : List (Element α)) : VertexId → VertexId :=
  VertexId.skip ((framesOf root first).length + 1)

include apart

theorem Apart.name_ne : ∀ frame ∈ (Element.unrepeated first last).map
    (FrameSource.ofChild settings.rootFrame),
    (FrameSource.ofChild settings.rootFrame child).name ≠ frame.reference := by
  intro frame member
  obtain ⟨other, isOther, rfl⟩ := List.mem_map.mp member
  rw [FrameSource.name_ofChild]
  exact apart.references other isOther

theorem Apart.framesOf_eq :
    framesOf settings.rootFrame (first ++ child :: last) =
      framesOf settings.rootFrame first ++ .ofChild settings.rootFrame child ::
        (Element.unrepeated first last).map (.ofChild settings.rootFrame) :=
  framesOf_insert apart.new apart.unique

theorem Apart.embedding :
    FrameGraph.Embedding (graphOf settings (framesOf settings.rootFrame (first ++ last)))
      (graphOf settings (framesOf settings.rootFrame (first ++ child :: last)))
      (parent settings (framesOf settings.rootFrame (first ++ last)))
      (parent settings (framesOf settings.rootFrame (first ++ child :: last)))
      (gapAfter settings.rootFrame first) := by
  rw [apart.framesOf_eq, framesOf_append]
  exact embedding_insert settings _ apart.name_ne

theorem Apart.full (vertex : VertexId) :
    parent settings (framesOf settings.rootFrame (first ++ child :: last))
        (gapAfter settings.rootFrame first vertex) =
      (parent settings (framesOf settings.rootFrame (first ++ last)) vertex).map
        (gapAfter settings.rootFrame first) := by
  rw [apart.framesOf_eq, framesOf_append]
  exact parent_insert settings _ apart.name_ne vertex

theorem Apart.head?_named {name : String} (different : name ≠ child.frameName) :
    ((graphOf settings (framesOf settings.rootFrame (first ++ child :: last))).named name).head? =
      ((graphOf settings (framesOf settings.rootFrame (first ++ last))).named name).head?.map
        (gapAfter settings.rootFrame first) := by
  have different : (FrameSource.ofChild settings.rootFrame child).name ≠ name := by
    rw [FrameSource.name_ofChild]
    exact different.symm
  rw [apart.framesOf_eq, framesOf_append]
  exact head?_named_insert settings _ different

theorem Apart.reports_eq :
    reports settings [] (first ++ child :: last) =
      reports settings [] first ++ report settings first child ++ reports settings first last := by
  have later : reports settings (first ++ [child]) last = reports settings (first ++ []) last :=
    reports_insert apart.new apart.unique (by rw [List.append_nil]; exact apart.references)
  rw [List.append_nil] at later
  rw [reports_append, List.nil_append, reports, later, List.append_assoc]

end Apart

section Load

variable [Scalar α]

section Both

variable {settings : Settings} (store otherStore : GraphStore α) {whole rest child : Element α}
  {first last : List (Element α)} (apart : Apart settings first last child)
  (wholeIsModel : whole.kind = "model") (restIsModel : rest.kind = "model")
  (wholeOrder : Element.loadOrder whole.children = first ++ child :: last)
  (restOrder : Element.loadOrder rest.children = first ++ last)

include apart wholeIsModel restIsModel wholeOrder restOrder

/-- One document has the entity of the child between those that both have. -/
theorem Apart.members_load :
    ∃ earlier later : List (Member α),
      VertexId.skip (earlier.length + 1) = gapAfter settings.rootFrame first ∧
        (load whole settings store).entity.members =
          earlier ++ entityOf settings.rootFrame child
            (nextFrame store (framesOf settings.rootFrame first)) :: later ∧
        (load rest settings otherStore).entity.members.map
            (Member.relocate ⟨store.graphs.length⟩ (gapAfter settings.rootFrame first)) =
          earlier ++ later := by
  obtain ⟨-, wholeMembers, -⟩ := load_children settings store wholeIsModel
  obtain ⟨-, restMembers, -⟩ := load_children settings otherStore restIsModel
  rw [wholeOrder, entitiesFrom_insert _ apart.new apart.unique] at wholeMembers
  rw [restOrder] at restMembers
  refine ⟨_, _, ?_, wholeMembers, ?_⟩
  · unfold gapAfter framesOf entitiesFrom
    rw [List.length_map, List.length_map, List.length_zipIdx]
  · rw [restMembers]
    exact relocate_insert _ _

/-- One document has the reports of the child between those that both have. -/
theorem Apart.diagnostics_load (sameName : rest.name? = whole.name?) :
    ∃ earlier later : List (Diagnostic α),
      (load whole settings store).diagnostics =
          earlier ++ report settings first child ++ later ∧
        (load rest settings otherStore).diagnostics = earlier ++ later := by
  obtain ⟨-, -, wholeReports⟩ := load_children settings store wholeIsModel
  obtain ⟨-, -, restReports⟩ := load_children settings otherStore restIsModel
  rw [wholeOrder, apart.reports_eq, ← List.append_assoc, ← List.append_assoc] at wholeReports
  rw [restOrder, sameName, reports_append, ← List.append_assoc] at restReports
  exact ⟨_, _, wholeReports, restReports⟩

theorem Apart.embedding_load :
    FrameGraph.Embedding
      ((load rest settings otherStore).store.graph (load rest settings otherStore).entity.graph)
      ((load whole settings store).store.graph (load whole settings store).entity.graph)
      (parent settings (framesOf settings.rootFrame (first ++ last)))
      (parent settings (framesOf settings.rootFrame (first ++ child :: last)))
      (gapAfter settings.rootFrame first) := by
  rw [graph_load_children settings store wholeIsModel,
    graph_load_children settings otherStore restIsModel, wholeOrder, restOrder]
  exact apart.embedding

theorem Apart.head?_named_load {name : String} (different : name ≠ child.frameName) :
    (((load whole settings store).store.graph
        (load whole settings store).entity.graph).named name).head? =
      (((load rest settings otherStore).store.graph
        (load rest settings otherStore).entity.graph).named name).head?.map
          (gapAfter settings.rootFrame first) := by
  rw [graph_load_children settings store wholeIsModel,
    graph_load_children settings otherStore restIsModel, wholeOrder, restOrder]
  exact apart.head?_named different

end Both

/-- No other link, joint or light has the name of a child, and no other entity of the document
refers to it: no link or light by its pose frame, and no joint by its parent. -/
structure Unreferenced (settings : Settings) (others : List (Element α)) (child : Element α) :
    Prop where
  names : ∀ other ∈ others, other.IsBody → other.frameName ≠ child.frameName
  references : ∀ other ∈ Element.unrepeated [] others, other.IsBody →
    (FrameSource.ofChild settings.rootFrame other).reference ≠ child.frameName

theorem Unreferenced.name?_ne {settings : Settings} {others : List (Element α)}
    {child other : Element α} (unreferenced : Unreferenced settings others child)
    (member : other ∈ Element.loadOrder others) : other.name? ≠ child.name? := by
  obtain ⟨isOther, isBody⟩ := Element.mem_loadOrder.mp member
  intro same
  apply unreferenced.names other isOther isBody
  unfold Element.frameName
  rw [same]

theorem Unreferenced.apart {settings : Settings} {others first last : List (Element α)}
    {child : Element α} (unreferenced : Unreferenced settings others child)
    (inOrder : Element.loadOrder others = first ++ last) : Apart settings first last child where
  new := by
    rintro ⟨-, -, other, member, -, sameName⟩
    apply unreferenced.name?_ne _ sameName
    rw [inOrder]
    exact List.mem_append_left last member
  unique := by
    rintro other member ⟨-, -, earlier, isChild, -, sameName⟩
    rw [List.mem_singleton.mp isChild] at sameName
    apply unreferenced.name?_ne _ sameName.symm
    rw [inOrder]
    exact List.mem_append_right first member
  references := by
    intro other member
    have left : other ∈ Element.loadOrder (Element.unrepeated [] others) := by
      have sameOrder : Element.unrepeated [] (Element.loadOrder others) =
          Element.loadOrder (Element.unrepeated [] others) :=
        Element.sift_loadOrder others false
      rw [← sameOrder, inOrder, Element.unrepeated_append]
      exact List.mem_append_right _ member
    obtain ⟨isOther, isBody⟩ := Element.mem_loadOrder.mp left
    exact (unreferenced.references other isOther isBody).symm

/-- A child that nothing refers to can be taken out of a document, wherever it stands.  The
document loses one entity and a run of reports, those that loading this child gives.  All other
entities stay as they are but for the positions of their frames, and all other reports stay in
order.  Every pose between other frames stays the same, and so does every answer to a question
for a name that is not the one of the child, be it a pose or an error. -/
theorem load_of_unreferenced (settings : Settings) (store otherStore : GraphStore α)
    {element child : Element α} {before after : List (Element α)}
    (isModel : element.kind = "model") (children : element.children = before ++ child :: after)
    (isBody : child.IsBody) (unreferenced : Unreferenced settings (before ++ after) child) :
    let whole := load element settings store
    let rest := load { element with children := before ++ after } settings otherStore
    let wholeGraph := whole.store.graph whole.entity.graph
    let restGraph := rest.store.graph rest.entity.graph
    rest.entity.name = whole.entity.name ∧
      ∃ (preceding following : List (Element α)) (earlier later : List (Member α))
        (first last : List (Diagnostic α)),
        let own := loadChild settings.tieBreak whole.entity.graph child
          (started settings store (framesOf settings.rootFrame preceding))
        let place := VertexId.skip (earlier.length + 1)
        Element.loadOrder element.children = preceding ++ child :: following ∧
          whole.entity.members = earlier ++ own.entity :: later ∧
          rest.entity.members.map (Member.relocate whole.entity.graph place) = earlier ++ later ∧
          whole.diagnostics = first ++ own.diagnostics ++ last ∧
          rest.diagnostics = first ++ last ∧
          (∀ id, wholeGraph.vertex? (place id) = restGraph.vertex? id) ∧
          (∀ u v, restGraph.contains u → restGraph.contains v →
            wholeGraph.poseBetween (place u) (place v) = restGraph.poseBetween u v) ∧
          (∀ source target, source ≠ child.frameName → target ≠ child.frameName →
            whole.entity.poseInFrame whole.store source target =
              rest.entity.poseInFrame rest.store source target) ∧
          ∀ member ∈ rest.entity.members, ∀ frame, member.asked frame ≠ child.frameName →
            (member.relocate whole.entity.graph place).poseInFrame? whole.store frame =
              member.poseInFrame? rest.store frame := by
  intro whole rest wholeGraph restGraph
  obtain ⟨preceding, following, wholeOrder, restOrder⟩ :=
    Element.loadOrder_insert isBody before after
  rw [← children] at wholeOrder
  have apart := unreferenced.apart restOrder
  have sameName := Element.name?_delete children isBody
  have restIsModel : ({ element with children := before ++ after } : Element α).kind = "model" :=
    isModel
  have isGraph : whole.entity.graph = ⟨store.graphs.length⟩ := graph_load settings store
  obtain ⟨earlier, later, isPlace, wholeMembers, restMembers⟩ :=
    apart.members_load store otherStore isModel restIsModel wholeOrder restOrder
  obtain ⟨first, last, wholeReports, restReports⟩ :=
    apart.diagnostics_load store otherStore isModel restIsModel wholeOrder restOrder sameName
  have embedding := apart.embedding_load store otherStore isModel restIsModel wholeOrder restOrder
  have named {name : String} (different : name ≠ child.frameName) :=
    apart.head?_named_load store otherStore isModel restIsModel wholeOrder restOrder different
  refine ⟨?_, preceding, following, earlier, later, first, last, wholeOrder, ?_⟩
  · have restName := name_load settings otherStore restIsModel
    rw [sameName] at restName
    exact restName.trans (name_load settings store isModel).symm
  rw [isPlace, isGraph, loadChild_of_new settings store isBody apart.new]
  refine ⟨wholeMembers, restMembers, wholeReports, restReports, embedding.vertex?_place, ?_, ?_, ?_⟩
  · intro u v present alsoPresent
    exact embedding.poseBetween_place apart.full present alsoPresent
  · intro source target sourceNe targetNe
    exact congrArg (Except.mapError PoseError.resolve)
      (embedding.poseInFrame_place apart.full (named sourceNe) (named targetNe))
  · intro member isMember frame different
    obtain ⟨vertex, present, isFrame⟩ :=
      frame?_of_mem_members settings otherStore restIsModel isMember
    apply Member.poseInFrame?_relocate
    intro binding found
    obtain rfl := Option.some.inj (isFrame.symm.trans found)
    rw [← isGraph]
    exact embedding.binding_poseInFrame apart.full rfl rfl present (named different)

end Load

/-- Nothing refers to the joint of the turret. -/
theorem load_of_unreferenced_turret :
    let before := [labelled "light" "lamp" [placedIn "barrel"]]
    let after := [labelled "link" "base" [], labelled "remark" "spare" [],
      labelled "link" "barrel" [placedIn "base"]]
    let whole := load turret .default .empty
    let rest := load { turret with children := before ++ after } .default .empty
    turret.children = before ++ labelled "joint" "yaw" [] :: after ∧
      rest.entity.members.length + 1 = whole.entity.members.length ∧
      rest.diagnostics.Sublist whole.diagnostics ∧
      whole.entity.poseInFrame whole.store "lamp" "base" =
        rest.entity.poseInFrame rest.store "lamp" "base" := by
  intro before after whole rest
  have children : turret.children = before ++ labelled "joint" "yaw" [] :: after := rfl
  have unreferenced : Unreferenced .default (before ++ after) (labelled "joint" "yaw" []) := by
    refine ⟨?_, ?_⟩
    · have names : ∀ other ∈ before ++ after,
          other.frameName ≠ (labelled "joint" "yaw" []).frameName := by decide
      exact fun other member _ => names other member
    · have references : ∀ other ∈ Element.unrepeated [] (before ++ after),
          (FrameSource.ofChild Settings.default.rootFrame other).reference ≠
            (labelled "joint" "yaw" []).frameName := by decide
      exact fun other member _ => references other member
  obtain ⟨-, preceding, following, earlier, later, first, last, -, wholeMembers, restMembers,
    wholeReports, restReports, -, -, poses, -⟩ :=
    load_of_unreferenced .default .empty .empty (rfl : turret.kind = "model") children
      (.inr (.inl rfl)) unreferenced
  have count := congrArg List.length restMembers
  rw [List.length_map, List.length_append] at count
  refine ⟨children, ?_, ?_, poses "lamp" "base" (by decide) (by decide)⟩
  · rw [wholeMembers, List.length_append, List.length_cons, ← Nat.add_assoc, ← count]
  · rw [wholeReports, restReports]
    exact (List.sublist_append_left first _).append (.refl last)

end Model

end Kinematics
