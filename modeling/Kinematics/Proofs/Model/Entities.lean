import Kinematics.Proofs.Entity.Reports
import Kinematics.Proofs.Model.Loading

/-!
# Entities of a loaded model

Loading a link, a joint or a light of a document attaches one frame to the graph, gives its
vertex to the entity, and reports the faults of the element before that of its reference.
This adds up over all elements: the entities own the vertices after the root in order, and
the reports tell apart what the elements lack from how many frames hang from nothing.
-/

namespace Kinematics

variable {α : Type}

namespace Element

/-- The names that elements of one kind have are distinct and not taken. -/
def DistinctNames (taken : List String) (elements : List (Element α)) : Prop :=
  (elements.filterMap name?).Nodup ∧ ∀ name ∈ elements.filterMap name?, name ∉ taken

theorem distinctNames_nil {elements : List (Element α)} :
    DistinctNames [] elements ↔ (elements.filterMap name?).Nodup :=
  and_iff_left fun _ _ => List.not_mem_nil

variable {element : Element α} {rest : List (Element α)} {taken : List String} {name : String}

theorem distinctNames_cons_of_none (unnamed : element.name? = none) :
    DistinctNames taken (element :: rest) ↔ DistinctNames taken rest := by
  unfold DistinctNames
  rw [List.filterMap_cons_none unnamed]

theorem not_distinctNames_cons (named : element.name? = some name) (known : name ∈ taken) :
    ¬DistinctNames taken (element :: rest) := by
  rintro ⟨-, untaken⟩
  rw [List.filterMap_cons_some named] at untaken
  exact untaken name List.mem_cons_self known

theorem distinctNames_cons_of_new (named : element.name? = some name) (new : name ∉ taken) :
    DistinctNames taken (element :: rest) ↔ DistinctNames (name :: taken) rest := by
  unfold DistinctNames
  rw [List.filterMap_cons_some named, List.nodup_cons]
  constructor
  · rintro ⟨⟨first, distinct⟩, untaken⟩
    refine ⟨distinct, ?_⟩
    intro other member isTaken
    rcases List.mem_cons.mp isTaken with rfl | earlier
    · exact first member
    · exact untaken other (List.mem_cons_of_mem _ member) earlier
  · rintro ⟨distinct, untaken⟩
    refine ⟨⟨fun member => untaken name member List.mem_cons_self, distinct⟩, ?_⟩
    intro other member isTaken
    rcases List.mem_cons.mp member with rfl | later
    · exact new isTaken
    · exact untaken other later (List.mem_cons_of_mem _ isTaken)

/-- Where names are distinct no element is left out. -/
theorem firstOfEachName_eq_self {elements : List (Element α)}
    (distinct : DistinctNames taken elements) : firstOfEachName taken elements = elements := by
  induction elements generalizing taken with
  | nil => rfl
  | cons element rest induction =>
      unfold firstOfEachName
      cases named : element.name? with
      | none => rw [induction ((distinctNames_cons_of_none named).mp distinct)]
      | some name =>
          have new : name ∉ taken := fun known => not_distinctNames_cons named known distinct
          simp only [new, if_false]
          rw [induction ((distinctNames_cons_of_new named new).mp distinct)]

end Element

namespace LoadedAll

section Distinct

variable {ε : Type} {load : Element α → GraphStore α → Loaded α ε} (kind : EntityKind)
  (taken : List String) (elements : List (Element α)) (store : GraphStore α)

theorem entities_distinct :
    (distinct kind load taken elements store).entities =
      (each load (Element.firstOfEachName taken elements) store).entities := by
  induction elements generalizing taken store with
  | nil => rfl
  | cons element rest induction =>
      unfold distinct Element.firstOfEachName
      cases element.name? with
      | none => exact congrArg (List.cons _) (induction taken (load element store).store)
      | some name =>
          by_cases known : name ∈ taken
          · simp only [known, if_true]
            exact induction taken store
          · simp only [known, if_false]
            exact congrArg (List.cons _) (induction (name :: taken) (load element store).store)

/-- A name that is taken says nothing about connections. -/
theorem countP_isUnconnected_distinct :
    (distinct kind load taken elements store).diagnostics.countP Diagnostic.isUnconnected =
      (each load (Element.firstOfEachName taken elements) store).diagnostics.countP
        Diagnostic.isUnconnected := by
  induction elements generalizing taken store with
  | nil => rfl
  | cons element rest induction =>
      unfold distinct Element.firstOfEachName
      cases element.name? with
      | none =>
          simp only [each, cons, List.countP_append, induction]
      | some name =>
          by_cases known : name ∈ taken
          · simp only [known, if_true]
            rw [List.countP_cons_of_neg (by simp [Diagnostic.isUnconnected, Diagnostic.code])]
            exact induction taken store
          · simp only [known, if_false, each, cons, List.countP_append, induction]

/-- Apart from connections, nothing is reported exactly if no name is taken and the elements
have no faults. -/
theorem filter_distinct_eq_nil :
    (distinct kind load taken elements store).diagnostics.filter
        (fun fault => !fault.isUnconnected) = [] ↔
      Element.DistinctNames taken elements ∧
        (each load elements store).diagnostics.filter (fun fault => !fault.isUnconnected) = [] := by
  induction elements generalizing taken store with
  | nil => simp [distinct, each, Element.DistinctNames]
  | cons element rest induction =>
      unfold distinct
      cases named : element.name? with
      | none =>
          rw [Element.distinctNames_cons_of_none named]
          simp only [each, cons, List.filter_append, List.append_eq_nil_iff, induction]
          tauto
      | some name =>
          by_cases known : name ∈ taken
          · have isFault : (!(Diagnostic.nameDuplicate kind name : Diagnostic α).isUnconnected) =
                true := rfl
            simp only [known, if_true]
            rw [List.filter_cons, if_pos isFault]
            simp [Element.not_distinctNames_cons named known]
          · rw [Element.distinctNames_cons_of_new named known]
            simp only [known, if_false, each, cons, List.filter_append, List.append_eq_nil_iff,
              induction]
            tauto

end Distinct

end LoadedAll

namespace Model

/-- How many frames of a document hang from nothing, besides the root. -/
def unhung (settings : Settings) (frames : List (FrameSource α)) : Nat :=
  (List.range frames.length).countP fun index => (parent settings frames ⟨index + 1⟩).isNone

theorem unhung_snoc (settings : Settings) (frames : List (FrameSource α))
    (frame : FrameSource α) :
    unhung settings (frames ++ [frame]) =
      unhung settings frames +
        if (settings.tieBreak.resolve (settings.rootFrame :: frames.map FrameSource.name)
          frame.reference).isNone then 1 else 0 := by
  have earlier : (List.range frames.length).countP
      (fun index => (parent settings (frames ++ [frame]) ⟨index + 1⟩).isNone) =
        unhung settings frames := by
    apply List.countP_congr
    intro index member
    rw [parent_snoc_of_le (List.mem_range.mp member)]
  unfold unhung at earlier ⊢
  rw [List.length_append, List.length_singleton, List.range_succ, List.countP_append, earlier,
    List.countP_singleton, parent_snoc_last, Option.isNone_map]

variable [Scalar α]

/-- A store in which the frames of a document have been attached to the graph added last. -/
def started (settings : Settings) (store : GraphStore α) (frames : List (FrameSource α)) :
    GraphStore α :=
  (store.create (graphOf settings frames)).1

/-- Loads of elements of one kind that attach one frame each.  What is reported of an element
is its own faults, and then what there is to report of its reference. -/
structure Attaching {ε : Type} (settings : Settings) (store : GraphStore α) (kind : String)
    (load : Element α → GraphStore α → Loaded α ε) (frameOf : ε → Binding)
    (faults : Element α → List (Diagnostic α)) (toFrame : Element α → FrameSource α) : Prop where
  attaches : ∀ element, element.kind = kind → ∀ frames,
    (load element (started settings store frames)).store =
      started settings store (frames ++ [toFrame element])
  owns : ∀ element, element.kind = kind → ∀ frames,
    frameOf (load element (started settings store frames)).entity =
      ⟨⟨store.graphs.length⟩, ⟨frames.length + 1⟩, true⟩
  reports : ∀ element, element.kind = kind → ∀ frames,
    (load element (started settings store frames)).diagnostics =
      faults element ++ (toFrame element).report (graphOf settings frames) settings.tieBreak
  connected : ∀ element, Diagnostic.Connected (faults element)

namespace Attaching

variable {ε : Type} {settings : Settings} {store : GraphStore α} {kind : String}
  {load : Element α → GraphStore α → Loaded α ε} {frameOf : ε → Binding}
  {faults : Element α → List (Diagnostic α)} {toFrame : Element α → FrameSource α}
  (attaching : Attaching settings store kind load frameOf faults toFrame)
  {elements : List (Element α)} (kinds : ∀ element ∈ elements, element.kind = kind)
  (frames : List (FrameSource α))

include attaching kinds

theorem store_each :
    (LoadedAll.each load elements (started settings store frames)).store =
      started settings store (frames ++ elements.map toFrame) :=
  LoadedAll.store_each attaching.attaches kinds frames

/-- The entities own the next vertices in order. -/
theorem frames_each :
    (LoadedAll.each load elements (started settings store frames)).entities.map frameOf =
      (List.range' (frames.length + 1) elements.length).map fun index =>
        ⟨⟨store.graphs.length⟩, ⟨index⟩, true⟩ := by
  induction elements generalizing frames with
  | nil => rfl
  | cons element rest induction =>
      have isKind := kinds element List.mem_cons_self
      have later := induction (fun other member => kinds other (List.mem_cons_of_mem _ member))
        (frames ++ [toFrame element])
      rw [List.length_append, List.length_singleton] at later
      simp only [LoadedAll.each, LoadedAll.cons, List.map_cons, List.length_cons,
        List.range'_succ]
      rw [attaching.attaches element isKind, attaching.owns element isKind, later]

/-- One fault for every frame that hangs from nothing says that it is not connected. -/
theorem countP_isUnconnected_each :
    (LoadedAll.each load elements (started settings store frames)).diagnostics.countP
        Diagnostic.isUnconnected + unhung settings frames =
      unhung settings (frames ++ elements.map toFrame) := by
  induction elements generalizing frames with
  | nil =>
      rw [List.map_nil, List.append_nil]
      exact Nat.zero_add _
  | cons element rest induction =>
      have isKind := kinds element List.mem_cons_self
      have later := induction (fun other member => kinds other (List.mem_cons_of_mem _ member))
        (frames ++ [toFrame element])
      -- The graph of the frames so far decides whether the reference of this one is found.
      have reference := (toFrame element).countP_report (graphOf settings frames)
        settings.tieBreak
      rw [names_graphOf] at reference
      rw [unhung_snoc, ← reference, List.append_assoc, List.singleton_append] at later
      simp only [LoadedAll.each, LoadedAll.cons, List.countP_append, List.map_cons]
      rw [attaching.attaches element isKind, attaching.reports element isKind,
        List.countP_append, (attaching.connected element).countP_eq_zero]
      omega

/-- Apart from connections, the elements' own faults are reported in order. -/
theorem filter_each :
    (LoadedAll.each load elements (started settings store frames)).diagnostics.filter
        (fun fault => !fault.isUnconnected) = elements.flatMap faults := by
  induction elements generalizing frames with
  | nil => rfl
  | cons element rest induction =>
      have isKind := kinds element List.mem_cons_self
      have later := induction (fun other member => kinds other (List.mem_cons_of_mem _ member))
        (frames ++ [toFrame element])
      simp only [LoadedAll.each, LoadedAll.cons, List.filter_append, List.flatMap_cons]
      rw [attaching.attaches element isKind, attaching.reports element isKind,
        List.filter_append, (attaching.connected element).filter_eq_self,
        FrameSource.filter_report, List.append_nil, later]

end Attaching

omit [Scalar α] in
theorem kind_of_mem_firstOfEachName {element : Element α} {kind : String} :
    ∀ child ∈ Element.firstOfEachName [] (element.elements kind), child.kind = kind :=
  fun _ member => kind_of_mem_elements (Element.firstOfEachName_subset [] _ member)

namespace Attaching

variable {ε : Type} {settings : Settings} {store : GraphStore α} {kind : String}
  {load : Element α → GraphStore α → Loaded α ε} {frameOf : ε → Binding}
  {faults : Element α → List (Diagnostic α)} {toFrame : Element α → FrameSource α}
  (attaching : Attaching settings store kind load frameOf faults toFrame) (owner : EntityKind)
  (element : Element α) (frames : List (FrameSource α))

include attaching

theorem store_distinct :
    (LoadedAll.distinct owner load [] (element.elements kind)
        (started settings store frames)).store =
      started settings store
        (frames ++ (Element.firstOfEachName [] (element.elements kind)).map toFrame) := by
  rw [LoadedAll.store_distinct]
  exact attaching.store_each kind_of_mem_firstOfEachName frames

theorem frames_distinct :
    (LoadedAll.distinct owner load [] (element.elements kind)
        (started settings store frames)).entities.map frameOf =
      (List.range' (frames.length + 1)
        (Element.firstOfEachName [] (element.elements kind)).length).map fun index =>
          ⟨⟨store.graphs.length⟩, ⟨index⟩, true⟩ := by
  rw [LoadedAll.entities_distinct]
  exact attaching.frames_each kind_of_mem_firstOfEachName frames

theorem countP_isUnconnected_distinct :
    (LoadedAll.distinct owner load [] (element.elements kind)
        (started settings store frames)).diagnostics.countP Diagnostic.isUnconnected +
        unhung settings frames =
      unhung settings
        (frames ++ (Element.firstOfEachName [] (element.elements kind)).map toFrame) := by
  rw [LoadedAll.countP_isUnconnected_distinct]
  exact attaching.countP_isUnconnected_each kind_of_mem_firstOfEachName frames

theorem filter_distinct_eq_nil :
    (LoadedAll.distinct owner load [] (element.elements kind)
        (started settings store frames)).diagnostics.filter
          (fun fault => !fault.isUnconnected) = [] ↔
      ((element.elements kind).filterMap Element.name?).Nodup ∧
        ∀ child ∈ element.elements kind, faults child = [] := by
  rw [LoadedAll.filter_distinct_eq_nil, Element.distinctNames_nil,
    attaching.filter_each (fun _ member => kind_of_mem_elements member),
    List.flatMap_eq_nil_iff]

end Attaching

section Kinds

variable (settings : Settings) (store : GraphStore α)

/-- An entity that names no pose frame is placed relative to the root. -/
theorem placementFrame_started (frames : List (FrameSource α)) (named : String) :
    placementFrame (started settings store frames) (some ⟨store.graphs.length⟩) named =
      if named.isEmpty then settings.rootFrame else named :=
  congrArg (fun root => if named.isEmpty then root else named)
    (rootOf_graphOf settings store frames)

theorem attaching_link :
    Attaching settings store "link"
      (fun child => Link.load child (some ⟨store.graphs.length⟩) settings.tieBreak)
      Link.frame Link.faults (.located settings.rootFrame .link) where
  attaches := attaches_link settings store
  owns := by
    intro element isLink frames
    rw [Link.frame_load _ _ _ isLink, started, GraphStore.graph_create, length_vertices_graphOf]
  reports := by
    intro element isLink frames
    rw [Link.diagnostics_load _ _ _ isLink, started, rootOf_graphOf, GraphStore.graph_create]
  connected := fun element => (Link.intrinsic_faults element).connected

theorem attaching_joint :
    Attaching settings store "joint"
      (fun child => Joint.load child (some ⟨store.graphs.length⟩) settings.tieBreak)
      Joint.frame Joint.faults .ofJoint where
  attaches := attaches_joint settings store
  owns := by
    intro element isJoint frames
    rw [Joint.frame_load _ _ _ isJoint, started, GraphStore.graph_create,
      length_vertices_graphOf]
  reports := by
    intro element isJoint frames
    rw [Joint.diagnostics_load _ _ _ isJoint, started, GraphStore.graph_create]
  connected := fun element => (Joint.intrinsic_faults element).connected

theorem attaching_light :
    Attaching settings store "light"
      (fun child => Light.load child (some ⟨store.graphs.length⟩) settings.tieBreak)
      Light.frame Light.faults (.located settings.rootFrame .light) where
  attaches := attaches_light settings store
  owns := by
    intro element isLight frames
    rw [Light.frame_load _ _ _ isLight, started, GraphStore.graph_create,
      length_vertices_graphOf]
  reports := by
    intro element isLight frames
    rw [Light.diagnostics_load _ _ _ isLight, started, rootOf_graphOf, GraphStore.graph_create]
  connected := fun element => (Light.intrinsic_faults element).connected

end Kinds

end Model

end Kinematics
