import Kinematics.Proofs.Frame.Insertion
import Kinematics.Proofs.Report.PoseTable
import Kinematics.Proofs.Scene.Relocation

/-!
# Queries of entities and queries by name

An entity asks for its pose from its own vertex, a model from the first vertex of a name.  The
two agree for every entity that is itself the first of its name.  Right after a load every link
is that which can be found by a name other than the root's, because the links own the vertices
that follow the root, in their order.
-/

namespace Kinematics

variable {α : Type} [Scalar α]

theorem Binding.poseInFrame_eq_poseInFrame {binding : Binding} {store : GraphStore α}
    (attached : binding.attached)
    (first : ((store.graph binding.graph).named (binding.name store)).head? = some binding.vertex)
    (frame : String) :
    binding.poseInFrame store frame =
      ((store.graph binding.graph).poseInFrame (binding.name store) frame).mapError .resolve := by
  obtain ⟨vertex, found⟩ :=
    Option.isSome_iff_exists.mp (FrameGraph.contains_of_head?_named first)
  have isName : binding.name store = vertex.name := by
    unfold Binding.name
    rw [found]
    rfl
  rw [isName] at first ⊢
  rw [FrameGraph.poseInFrame_eq, first]
  unfold poseInFrame
  simp only [attached, if_true, found, FrameGraph.resolveName_firstInserted_eq]
  by_cases same : vertex.name = frame
  · rw [← same, first]
    simp only [if_true]
    rfl
  · cases ((store.graph binding.graph).named frame).head? with
    | none => simp only [same, if_false]; rfl
    | some target => simp only [same, if_false]

/-- An entity whose frame is the first of its name answers for the name. -/
theorem Member.poseInFrame?_of_first (store : GraphStore α) (member : Member α) {binding : Binding}
    (owns : member.frame? = some binding) (attached : binding.attached)
    (first : (store.graph binding.graph).vertices.findIdx? (·.name == binding.name store) =
      some binding.vertex.index)
    {frame : String} (named : frame ≠ "") :
    member.poseInFrame? store frame =
      some (((store.graph binding.graph).poseInFrame (binding.name store) frame).mapError
        .resolve) := by
  have head : ((store.graph binding.graph).named (binding.name store)).head? =
      some binding.vertex := by
    rw [FrameGraph.head?_named_vertices, first]
    rfl
  rw [Member.poseInFrame?_eq, owns, Member.asked_of_ne named]
  exact congrArg some (Binding.poseInFrame_eq_poseInFrame attached head frame)

namespace Model

variable {settings : Settings} {store : GraphStore α} {element : Element α}

/-- The links of a document own the vertices after the root, in order. -/
theorem frame_link_load (isModel : element.kind = "model") {index : Nat} {link : Link α}
    (found : (load element settings store).entity.links[index]? = some link) :
    link.frame = ⟨⟨store.graphs.length⟩, ⟨index + 1⟩, true⟩ := by
  have owned : (loadedLinks settings store element).entities.map Link.frame = _ :=
    (attaching_link settings store).frames_distinct .link element []
  rw [load_eq settings store isModel] at found
  have isFrame := congrArg (fun frames => frames[index]?) owned
  simp only [List.getElem?_map, found, Option.map_some] at isFrame
  obtain ⟨position, isPosition, same⟩ := Option.map_eq_some_iff.mp isFrame.symm
  obtain ⟨inside, rfl⟩ := List.getElem?_eq_some_iff.mp isPosition
  rw [← same, List.getElem_range', List.length_nil]
  congr 2
  omega

theorem contains_link_load (isModel : element.kind = "model") {link : Link α}
    (member : link ∈ (load element settings store).entity.links) :
    ((load element settings store).store.graph
      (load element settings store).entity.graph).contains link.frame.vertex := by
  have placed : (⟨.link, link.frame, link.poseFrame⟩ : Placed) ∈
      (load element settings store).entity.placed := by
    unfold Model.placed
    exact List.mem_append_left _ (List.mem_append_left _ (List.mem_map_of_mem member))
  exact (frame_of_mem_placed settings store isModel placed).2.2

theorem names_link_load (isModel : element.kind = "model") {index : Nat} {link : Link α}
    (found : (load element settings store).entity.links[index]? = some link) :
    ((load element settings store).store.graph
      (load element settings store).entity.graph).names[index + 1]? =
        some (link.name (load element settings store).store) := by
  have inside := contains_link_load isModel (List.mem_of_getElem? found)
  obtain ⟨vertex, isVertex⟩ := Option.isSome_iff_exists.mp inside
  have isFrame := frame_link_load isModel found
  have isName : link.name (load element settings store).store = vertex.name := by
    unfold Link.name Binding.name
    rw [isFrame] at isVertex ⊢
    rw [graph_load] at isVertex
    rw [isVertex]
    rfl
  rw [isFrame] at isVertex
  have isThere : ((load element settings store).store.graph
    (load element settings store).entity.graph).vertices[index + 1]? = some vertex := isVertex
  rw [isName, FrameGraph.names, List.getElem?_map, isThere]
  rfl

/-- A link that is found by its name is the first frame of the name, unless the root has it. -/
theorem first_of_link? (isModel : element.kind = "model") {name : String}
    (apart : name ≠ settings.rootFrame) {link : Link α}
    (found : (load element settings store).entity.link? (load element settings store).store name =
      some link) :
    link.frame.attached ∧ link.frame.graph = (load element settings store).entity.graph ∧
      link.name (load element settings store).store = name ∧
      ((load element settings store).store.graph
        (load element settings store).entity.graph).vertices.findIdx? (·.name == name) =
          some link.frame.vertex.index := by
  obtain ⟨index, isIndex, isLink⟩ := Option.bind_eq_some_iff.mp found
  obtain ⟨inside, hasName, before⟩ := List.findIdx?_eq_some_iff_getElem.mp isIndex
  have isThis := (List.getElem?_eq_some_iff.mp isLink).2
  have isName : link.name (load element settings store).store = name := by
    rw [isThis] at hasName
    exact beq_iff_eq.mp hasName
  have isFrame := frame_link_load isModel isLink
  obtain ⟨below, atLink⟩ := List.getElem?_eq_some_iff.mp (names_link_load isModel isLink)
  refine ⟨by rw [isFrame], by rw [isFrame, graph_load], isName, ?_⟩
  rw [← FrameGraph.findIdx?_names, isFrame, List.findIdx?_eq_some_iff_getElem]
  refine ⟨below, beq_iff_eq.mpr (atLink.trans isName), ?_⟩
  intro position earlier
  cases position with
  | zero =>
      have root : ((load element settings store).store.graph
          (load element settings store).entity.graph).names[0]? = some settings.rootFrame := by
        rw [graphOf_load settings store isModel, names_graphOf]
        rfl
      obtain ⟨_, atRoot⟩ := List.getElem?_eq_some_iff.mp root
      rw [atRoot]
      exact fun same => apart (beq_iff_eq.mp same).symm
  | succ position =>
      have known := List.getElem?_eq_getElem (Nat.lt_trans (Nat.lt_of_succ_lt_succ earlier) inside)
      obtain ⟨_, atEarlier⟩ := List.getElem?_eq_some_iff.mp (names_link_load isModel known)
      rw [atEarlier]
      exact before position (Nat.lt_of_succ_lt_succ earlier)

theorem links_load_of_ne (otherKind : element.kind ≠ "model") :
    (load element settings store).entity.links = [] := by
  unfold load
  rw [if_neg otherKind]
  rfl

/-- For every store of graphs, a link, a joint or a light whose frame is attached and is the
first one of its current name answers every query for a named frame as the graph answers the
query between the two names, with the same pose or the same fault.  Right after a model has been
loaded, from whatever element and with whatever settings, the link that is found by a name other
than that of the root is such a link, so that it answers as the model does. -/
theorem queries_agree :
    (∀ (store : GraphStore α) (member : Member α) (binding : Binding),
      member.frame? = some binding → binding.attached = true →
      (store.graph binding.graph).vertices.findIdx? (·.name == binding.name store) =
        some binding.vertex.index →
      ∀ frame, frame ≠ "" →
        member.poseInFrame? store frame =
          some (((store.graph binding.graph).poseInFrame (binding.name store) frame).mapError
            .resolve)) ∧
    ∀ (element : Element α) (settings : Settings) (store : GraphStore α),
      let loaded := load element settings store
      ∀ name, name ≠ loaded.entity.rootFrame loaded.store →
      ∀ link, loaded.entity.link? loaded.store name = some link →
        link.frame.attached = true ∧ link.frame.graph = loaded.entity.graph ∧
          link.name loaded.store = name ∧
          (loaded.store.graph loaded.entity.graph).vertices.findIdx? (·.name == name) =
            some link.frame.vertex.index ∧
          ∀ frame, frame ≠ "" →
            link.poseInFrame loaded.store frame =
              loaded.entity.poseInFrame loaded.store name frame := by
  refine ⟨fun store member binding owns attached first frame named =>
    member.poseInFrame?_of_first store owns attached first named, ?_⟩
  intro element settings store loaded name apart link found
  have isModel : element.kind = "model" := by
    by_contra otherKind
    have none : loaded.entity.links = [] := links_load_of_ne otherKind
    obtain ⟨index, -, isLink⟩ := Option.bind_eq_some_iff.mp found
    rw [none] at isLink
    cases isLink
  have notRoot : name ≠ settings.rootFrame := rootFrame_load settings store isModel ▸ apart
  obtain ⟨attached, isGraph, isName, first⟩ := first_of_link? isModel notRoot found
  refine ⟨attached, isGraph, isName, first, ?_⟩
  intro frame named
  have isBindingName : link.frame.name loaded.store = name := isName
  have answers := (Member.link link).poseInFrame?_of_first loaded.store rfl attached
    (by rw [isGraph, isBindingName]; exact first) named
  rw [isGraph, isBindingName] at answers
  exact Option.some.inj answers

theorem queries_agree_leaf :
    let loaded := load (door [leaf, hinge "leaf" "frame" "leaf", hinge "latch" "frame" "leaf"])
      .default .empty
    ∃ link, loaded.entity.link? loaded.store "leaf" = some link ∧
      (Member.link link).poseInFrame? loaded.store "latch" =
        some (.error (.resolve (.noPath "leaf" "latch"))) ∧
      link.poseInFrame loaded.store "frame" = .error (.resolve (.notFound "frame")) ∧
      link.poseInFrame loaded.store "__model__" =
        loaded.entity.poseInFrame loaded.store "leaf" "__model__" := by
  intro loaded
  obtain ⟨entities, links⟩ := @queries_agree Float _
  have apart : "leaf" ≠ loaded.entity.rootFrame loaded.store := by decide +kernel
  have known : (loaded.entity.link? loaded.store "leaf").isSome := by decide +kernel
  obtain ⟨link, found⟩ := Option.isSome_iff_exists.mp known
  obtain ⟨attached, isGraph, isName, first, answers⟩ := links _ _ _ "leaf" apart link found
  have isBindingName : link.frame.name loaded.store = "leaf" := isName
  have lost : loaded.entity.poseInFrame loaded.store "leaf" "frame" =
      .error (.resolve (.notFound "frame")) := rfl
  have stranded : loaded.entity.poseInFrame loaded.store "leaf" "latch" =
      .error (.resolve (.noPath "leaf" "latch")) := rfl
  refine ⟨link, found, ?_, (answers "frame" (by decide)).trans lost,
    answers "__model__" (by decide)⟩
  rw [entities loaded.store (.link link) link.frame rfl attached
    (by rw [isGraph, isBindingName]; exact first) "latch" (by decide), isGraph, isBindingName]
  exact congrArg some stranded

end Model

end Kinematics
