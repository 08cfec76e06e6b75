import Kinematics.Proofs.Frame.Subforest
import Kinematics.Proofs.Model.Children

/-!
# Strict references

A strict load refuses references to names that several frames share.  It goes through the
same frames as a lenient load, because names do not depend on how frames are wired, so the
two differ only in what is withheld: some wires, each with a report of its own.  Whatever
the strict load resolves it resolves to the answer of the lenient one.
-/

namespace Kinematics

variable {α : Type}

namespace Settings

/-- The same settings, with references to shared names refused. -/
def strict (settings : Settings) : Settings :=
  { settings with strictReferences := true }

/-- The same settings, with references to shared names resolved to the first frame. -/
def lenient (settings : Settings) : Settings :=
  { settings with strictReferences := false }

end Settings

/-- Whether a fault is that several frames have the name that an entity refers to. -/
def Diagnostic.isShared : Diagnostic α → Bool
  | referenceShared _ _ _ _ => true
  | _ => false

/-- A list of faults without those that are due to strictness. -/
def Diagnostic.unshared (faults : List (Diagnostic α)) : List (Diagnostic α) :=
  faults.filter fun fault => !fault.isShared

namespace Diagnostic

theorem unshared_append (first second : List (Diagnostic α)) :
    unshared (first ++ second) = unshared first ++ unshared second :=
  List.filter_append first second

theorem Connected.unshared_eq {faults : List (Diagnostic α)} (connected : Connected faults) :
    unshared faults = faults := by
  apply List.filter_eq_self.mpr
  intro fault member
  have apart := connected fault member
  cases fault with
  | referenceShared => cases apart
  | _ => rfl

end Diagnostic

/-- Names decide what a lenient load reports of a reference, and a strict one reports shared
names besides. -/
theorem FrameSource.unshared_report [Scalar α] (frame : FrameSource α)
    {sparse dense : FrameGraph α} (vertices : sparse.vertices = dense.vertices) :
    Diagnostic.unshared (frame.report sparse .unique) = frame.report dense .firstInserted := by
  have named : sparse.named frame.reference = dense.named frame.reference := by
    unfold FrameGraph.named
    rw [vertices]
  unfold report
  rw [FrameGraph.problem_attach, FrameGraph.problem_attach]
  unfold FrameGraph.resolveName
  rw [named]
  rcases dense.named frame.reference with - | ⟨first, - | ⟨second, others⟩⟩
  · rfl
  · rfl
  · rfl

namespace LoadedAll

variable {ε : Type}

/-- Two runs of loads that give the same entities, and the same reports but for shared
names. -/
structure Mirrors (strict lenient : LoadedAll α ε) : Prop where
  entities : strict.entities = lenient.entities
  diagnostics : Diagnostic.unshared strict.diagnostics = lenient.diagnostics

/-- One more entity in front of both runs. -/
theorem Mirrors.cons {strict lenient : Loaded α ε}
    {strictRest lenientRest : GraphStore α → LoadedAll α ε}
    (entity : strict.entity = lenient.entity)
    (diagnostics : Diagnostic.unshared strict.diagnostics = lenient.diagnostics)
    (rest : Mirrors (strictRest strict.store) (lenientRest lenient.store)) :
    Mirrors (LoadedAll.cons strict strictRest) (LoadedAll.cons lenient lenientRest) where
  entities := by
    simp only [LoadedAll.cons, entity, rest.entities]
  diagnostics := by
    simp only [LoadedAll.cons, Diagnostic.unshared_append, diagnostics, rest.diagnostics]

end LoadedAll

namespace Model

variable [Scalar α]

section Runs

open LoadedAll (Mirrors)

variable {ε : Type} {settings : Settings} {store : GraphStore α} {kind : String}
  {strictLoad lenientLoad : Element α → GraphStore α → Loaded α ε} {frameOf : ε → Binding}
  {faults : Element α → List (Diagnostic α)} {toFrame : Element α → FrameSource α}
  (strictly : Attaching settings.strict store kind strictLoad frameOf faults toFrame)
  (leniently : Attaching settings.lenient store kind lenientLoad frameOf faults toFrame)
  (same : ∀ element, element.kind = kind → ∀ frames,
    (strictLoad element (started settings.strict store frames)).entity =
      (lenientLoad element (started settings.lenient store frames)).entity)

include strictly leniently

theorem unshared_load {element : Element α} (isKind : element.kind = kind)
    (frames : List (FrameSource α)) :
    Diagnostic.unshared (strictLoad element (started settings.strict store frames)).diagnostics =
      (lenientLoad element (started settings.lenient store frames)).diagnostics := by
  have vertices : (graphOf settings.strict frames).vertices =
      (graphOf settings.lenient frames).vertices := by
    rw [vertices_graphOf, vertices_graphOf]
    rfl
  rw [strictly.reports element isKind, leniently.reports element isKind,
    Diagnostic.unshared_append, (strictly.connected element).unshared_eq]
  exact congrArg (faults element ++ ·) ((toFrame element).unshared_report vertices)

include same

theorem mirrors_each {elements : List (Element α)}
    (kinds : ∀ element ∈ elements, element.kind = kind) (frames : List (FrameSource α)) :
    Mirrors (LoadedAll.each strictLoad elements (started settings.strict store frames))
      (LoadedAll.each lenientLoad elements (started settings.lenient store frames)) := by
  induction elements generalizing frames with
  | nil => exact ⟨rfl, rfl⟩
  | cons element rest induction =>
      have isKind := kinds element List.mem_cons_self
      have later := induction (fun other member => kinds other (List.mem_cons_of_mem _ member))
        (frames ++ [toFrame element])
      rw [← strictly.attaches element isKind, ← leniently.attaches element isKind] at later
      exact .cons (same element isKind frames) (unshared_load strictly leniently isKind frames)
        later

theorem mirrors_distinct (owner : EntityKind) {elements : List (Element α)}
    (kinds : ∀ element ∈ elements, element.kind = kind) (taken : List String)
    (frames : List (FrameSource α)) :
    Mirrors
      (LoadedAll.distinct owner strictLoad taken elements (started settings.strict store frames))
      (LoadedAll.distinct owner lenientLoad taken elements
        (started settings.lenient store frames)) := by
  induction elements generalizing taken frames with
  | nil => exact ⟨rfl, rfl⟩
  | cons element rest induction =>
      have isKind := kinds element List.mem_cons_self
      have others : ∀ other ∈ rest, other.kind = kind :=
        fun other member => kinds other (List.mem_cons_of_mem _ member)
      have further (taken : List String) := induction others taken (frames ++ [toFrame element])
      simp only [← strictly.attaches element isKind, ← leniently.attaches element isKind] at further
      have entity := same element isKind frames
      have diagnostics := unshared_load strictly leniently isKind frames
      unfold LoadedAll.distinct
      cases element.name? with
      | none => exact .cons entity diagnostics (further taken)
      | some name =>
          by_cases known : name ∈ taken
          · have left := induction others taken frames
            simp only [known, if_true]
            exact ⟨left.entities, congrArg (List.cons _) left.diagnostics⟩
          · simp only [known, if_false]
            exact .cons entity diagnostics (further (name :: taken))

end Runs

section Wires

variable (settings : Settings) (frames : List (FrameSource α))

omit [Scalar α] in
/-- What a frame hangs from after a strict load it hangs from after a lenient one. -/
theorem parent_lenient {vertex above : VertexId}
    (hung : parent settings.strict frames vertex = some above) :
    parent settings.lenient frames vertex = some above := by
  unfold parent at hung ⊢
  split at hung
  · cases hung
  · rename_i index isIndex
    obtain ⟨frame, isFrame, found⟩ := Option.bind_eq_some_iff.mp hung
    obtain ⟨position, resolved, rfl⟩ := Option.map_eq_some_iff.mp found
    obtain ⟨-, first⟩ := Option.ite_none_right_eq_some.mp resolved
    simp only [isFrame, Option.bind_some]
    exact Option.map_eq_some_iff.mpr ⟨position, first, rfl⟩

omit [Scalar α] in
/-- The wires of a strict load are among those of a lenient one, in the same order. -/
theorem wires_strict_sublist :
    (wires settings.strict frames).Sublist (wires settings.lenient frames) := by
  unfold wires
  induction List.range frames.length with
  | nil => exact .slnil
  | cons index rest induction =>
      cases hung : parent settings.strict frames ⟨index + 1⟩ with
      | none =>
          rw [List.filterMap_cons_none (by rw [hung]; rfl)]
          refine induction.trans ?_
          exact (List.sublist_cons_self index rest).filterMap _
      | some above =>
          rw [List.filterMap_cons_some (by rw [hung]; rfl),
            List.filterMap_cons_some (by rw [parent_lenient settings frames hung]; rfl)]
          exact induction.cons_cons _

theorem subforest_graphOf :
    FrameGraph.Subforest (graphOf settings.strict frames) (graphOf settings.lenient frames)
      (parent settings.strict frames) (parent settings.lenient frames) where
  vertices := by
    rw [vertices_graphOf, vertices_graphOf]
    rfl
  sparseHangs := hangs_graphOf settings.strict frames
  denseHangs := hangs_graphOf settings.lenient frames
  sparseWithin := (wired_graphOf settings.strict frames).edgesWithin
  denseWithin := (wired_graphOf settings.lenient frames).edgesWithin
  parents := parent_lenient settings frames

end Wires

section Loads

variable (settings : Settings) (store : GraphStore α) {element : Element α}

/-- A strict load finds the entities of a lenient one, and reports the same but for shared
names. -/
theorem mirrors_load (isModel : element.kind = "model") :
    (load element settings.strict store).entity = (load element settings.lenient store).entity ∧
      Diagnostic.unshared (load element settings.strict store).diagnostics =
        (load element settings.lenient store).diagnostics := by
  have links : LoadedAll.Mirrors (loadedLinks settings.strict store element)
      (loadedLinks settings.lenient store element) :=
    mirrors_distinct (attaching_link settings.strict store) (attaching_link settings.lenient store)
      (fun _ isLink frames => Member.link.inj
        ((entity_link settings.strict store frames isLink).trans
          (entity_link settings.lenient store frames isLink).symm)) .link
      (fun _ member => kind_of_mem_elements member) [] []
  have joints : LoadedAll.Mirrors (loadedJoints settings.strict store element)
      (loadedJoints settings.lenient store element) :=
    mirrors_distinct (attaching_joint settings.strict store)
      (attaching_joint settings.lenient store)
      (fun _ isJoint frames => Member.joint.inj
        ((entity_joint settings.strict store frames isJoint).trans
          (entity_joint settings.lenient store frames isJoint).symm)) .joint
      (fun _ member => kind_of_mem_elements member) [] (linkFrames settings element)
  have lights : LoadedAll.Mirrors (loadedLights settings.strict store element)
      (loadedLights settings.lenient store element) :=
    mirrors_each (attaching_light settings.strict store) (attaching_light settings.lenient store)
      (fun _ isLight frames => Member.light.inj
        ((entity_light settings.strict store frames isLight).trans
          (entity_light settings.lenient store frames isLight).symm))
      (fun _ member => kind_of_mem_elements member) (bodyFrames settings element)
  have named : Diagnostic.Connected
      (Joint.reportMissing element.name? (.nameMissing .model) : List (Diagnostic α)) :=
    (Diagnostic.Intrinsic.ite ⟨rfl, rfl⟩).connected
  rw [load_eq settings.strict store isModel, load_eq settings.lenient store isModel]
  constructor
  · simp only [links.entities, joints.entities, lights.entities]
  · simp only [Diagnostic.unshared_append, named.unshared_eq, links.diagnostics,
      joints.diagnostics, lights.diagnostics]

/-- Without a document there is nothing that strictness could withhold. -/
theorem load_strict_of_ne (otherKind : element.kind ≠ "model") :
    load element settings.strict store = load element settings.lenient store := by
  unfold load
  rw [if_neg otherKind, if_neg otherKind]

theorem edges_load_of_ne (otherKind : element.kind ≠ "model") :
    ((load element settings store).store.graph (load element settings store).entity.graph).edges =
      [] := by
  unfold load
  rw [if_neg otherKind]
  exact congrArg FrameGraph.edges (GraphStore.graph_create store .empty)

end Loads

/-- A strict load of a document only withholds what a lenient load of it gives.  Both load the
same entities, with the same names, into frames that are inserted in the same order.  The
strict load leaves out some of the wires, and reports the references that it refuses besides
what the lenient load reports.  Every pose between frames that it resolves is the one that
the lenient load resolves. -/
theorem strict_withholds (element : Element α) (settings : Settings) (store : GraphStore α) :
    let strict := load element settings.strict store
    let lenient := load element settings.lenient store
    let sparse := strict.store.graph strict.entity.graph
    let dense := lenient.store.graph lenient.entity.graph
    strict.entity = lenient.entity ∧
      (∀ entity ∈ strict.entity.placed,
        entity.frame.name strict.store = entity.frame.name lenient.store) ∧
      sparse.vertices = dense.vertices ∧ sparse.root = dense.root ∧
      (∃ sparseWires denseWires : List Wire, sparse.edges = sparseWires.flatMap Wire.edges ∧
        dense.edges = denseWires.flatMap Wire.edges ∧ sparseWires.Sublist denseWires) ∧
      lenient.diagnostics = Diagnostic.unshared strict.diagnostics ∧
      ∀ u v pose, sparse.poseBetween u v = .ok pose → dense.poseBetween u v = .ok pose := by
  intro strict lenient sparse dense
  by_cases isModel : element.kind = "model"
  · obtain ⟨entities, diagnostics⟩ := mirrors_load settings store isModel
    have isSparse : sparse = graphOf settings.strict (frames settings element) :=
      graphOf_load settings.strict store isModel
    have isDense : dense = graphOf settings.lenient (frames settings element) :=
      graphOf_load settings.lenient store isModel
    have sub := subforest_graphOf settings (frames settings element)
    rw [← isSparse, ← isDense] at sub
    refine ⟨entities, ?_, sub.vertices, ?_, ?_, diagnostics.symm, ?_⟩
    · intro entity member
      obtain ⟨-, inGraph, -⟩ := frame_of_mem_placed settings.strict store isModel member
      have inSparse : strict.store.graph entity.frame.graph = sparse := by rw [inGraph]
      have inDense : lenient.store.graph entity.frame.graph = dense := by rw [inGraph, entities]
      unfold Binding.name
      rw [inSparse, inDense, sub.vertex?_eq]
    · rw [isSparse, isDense, root_graphOf, root_graphOf]
    · refine ⟨_, _, ?_, ?_, wires_strict_sublist settings (frames settings element)⟩
      · rw [isSparse]
        exact (wired_graphOf settings.strict _).edges
      · rw [isDense]
        exact (wired_graphOf settings.lenient _).edges
    · intro u v pose resolved
      exact sub.poseBetween_eq_ok resolved
  · have same : strict = lenient := load_strict_of_ne settings store isModel
    have bare : dense.edges = [] := edges_load_of_ne settings.lenient store isModel
    have faults : lenient.diagnostics = [.wrongKind .model] :=
      diagnostics_load_of_ne settings.lenient store isModel
    have sameGraph : sparse = dense := by
      simp only [sparse, dense, same]
    rw [sameGraph, same, faults]
    exact ⟨rfl, fun _ _ => rfl, rfl, rfl, ⟨[], [], bare, bare, .slnil⟩, rfl,
      fun _ _ _ resolved => resolved⟩

/-- A link, a joint at it of the same name, and a light that refers to this name. -/
def twins : Element Float :=
  { kind := "model"
    attributes := .ofList [("name", .string "twins")]
    value := none
    children :=
      [⟨"link", .ofList [("name", .string "arm")], none, []⟩,
        ⟨"joint",
          .ofList [("name", .string "arm"), ("parent", .string "arm"), ("child", .string "arm"),
            ("type", .string "fixed")], none, []⟩,
        ⟨"light", .ofList [("name", .string "lamp")], none,
          [⟨"pose", .ofList [("relative_to", .string "arm")], none, []⟩]⟩] }

/-- The light keeps its frame and loses the two edges to the link. -/
example :
    let strict := load twins Settings.default.strict .empty
    let lenient := load twins Settings.default.lenient .empty
    strict.diagnostics.map Diagnostic.message =
        ["The light [lamp] references frame [arm], which is shared by 2 frames."] ∧
      lenient.diagnostics.length = 0 ∧
      (strict.store.graph strict.entity.graph).edges.length = 4 ∧
      (lenient.store.graph lenient.entity.graph).edges.length = 6 := by
  decide +kernel

end Model

end Kinematics
