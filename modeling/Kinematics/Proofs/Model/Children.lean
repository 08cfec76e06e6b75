import Kinematics.Proofs.Document.Repeats
import Kinematics.Proofs.Model.Contents
import Kinematics.Proofs.Scene.Relocation

/-!
# The children of a document

Links are loaded before joints and joints before lights.  A child that repeats a name is
reported and passed over.  Every other one becomes an entity with the next vertex of the
graph, and all else about the entity comes from the child and the name of the root.  What is
reported of a child depends on the names of the frames that were there before it.
-/

namespace Kinematics

variable {α : Type}

/-- The links, joints and lights of a model, in order. -/
def Model.members (model : Model α) : List (Member α) :=
  model.links.map .link ++ model.joints.map .joint ++ model.lights.map .light

/-- What a child of a document is loaded as. -/
def Element.owner (child : Element α) : EntityKind :=
  if child.kind = "link" then .link else if child.kind = "joint" then .joint else .light

/-- What is reported of a child that repeats a name. -/
def Diagnostic.repeatOf (child : Element α) : Diagnostic α :=
  .nameDuplicate child.owner (child.name?.getD "")

section Owner

variable {child : Element α}

theorem Element.owner_of_link (isLink : child.kind = "link") : child.owner = .link :=
  if_pos isLink

theorem Element.owner_of_joint (isJoint : child.kind = "joint") : child.owner = .joint := by
  unfold owner
  rw [isJoint]
  rfl

theorem Element.owner_of_light (isLight : child.kind = "light") : child.owner = .light := by
  unfold owner
  rw [isLight]
  rfl

end Owner

namespace LoadedAll

variable {ε δ : Type}

def map (loaded : LoadedAll α ε) (change : ε → δ) : LoadedAll α δ :=
  ⟨loaded.store, loaded.entities.map change, loaded.diagnostics⟩

variable {load : Element α → GraphStore α → Loaded α ε}
  {loadOther : Element α → GraphStore α → Loaded α δ} {change : ε → δ}
  {elements : List (Element α)}
  (same : ∀ element ∈ elements, ∀ store, (load element store).map change = loadOther element store)

include same

theorem map_each (store : GraphStore α) :
    (each load elements store).map change = each loadOther elements store := by
  induction elements generalizing store with
  | nil => rfl
  | cons element rest induction =>
      have first := same element List.mem_cons_self store
      have later := induction (fun other member => same other (List.mem_cons_of_mem _ member))
      unfold each
      rw [← first, LoadedAll.cons, LoadedAll.cons, ← later]
      rfl

theorem map_distinct (kind : EntityKind) (taken : List String) (store : GraphStore α) :
    (distinct kind load taken elements store).map change =
      distinct kind loadOther taken elements store := by
  induction elements generalizing taken store with
  | nil => rfl
  | cons element rest induction =>
      have first := same element List.mem_cons_self store
      have later := induction (fun other member => same other (List.mem_cons_of_mem _ member))
      unfold distinct
      cases element.name? with
      | none =>
          simp only
          rw [← first, LoadedAll.cons, LoadedAll.cons, ← later]
          rfl
      | some name =>
          by_cases known : name ∈ taken
          · simp only [known, if_true]
            rw [← later]
            rfl
          · simp only [known, if_false]
            rw [← first, LoadedAll.cons, LoadedAll.cons, ← later]
            rfl

end LoadedAll

variable [Scalar α]

/-- The faults of a child, apart from its name being taken and its reference. -/
def Element.faults (child : Element α) : List (Diagnostic α) :=
  match child.owner with
  | .link => Link.faults child
  | .joint => Joint.faults child
  | _ => Light.faults child

/-- The frame of a child, in a document with a given name for its root. -/
def FrameSource.ofChild (root : String) (child : Element α) : FrameSource α :=
  match child.owner with
  | .joint => .ofJoint child
  | owner => .located root owner child

namespace Model

/-- The load of a child as what it describes. -/
def loadChild (tieBreak : TieBreak) (graph : GraphId) (child : Element α) (store : GraphStore α) :
    Loaded α (Member α) :=
  match child.owner with
  | .link => (Link.load child (some graph) tieBreak store).map .link
  | .joint => (Joint.load child (some graph) tieBreak store).map .joint
  | _ => (Light.load child (some graph) tieBreak store).map .light

/-- The entity that a child describes, in a document with a given name for its root, with a
frame of its own. -/
def entityOf (root : String) (child : Element α) (frame : Binding) : Member α :=
  (loadChild .firstInserted ⟨0⟩ child ⟨[.withRoot root]⟩).entity.mapFrame fun _ => frame

/-- The entities that children describe, with the vertices from a given one on. -/
def entitiesFrom (root : String) (graph : GraphId) (index : Nat) (children : List (Element α)) :
    List (Member α) :=
  (children.zipIdx index).map fun (child, index) => entityOf root child ⟨graph, ⟨index⟩, true⟩

/-- The frames of children that are loaded in this order. -/
def framesOf (root : String) (children : List (Element α)) : List (FrameSource α) :=
  (Element.unrepeated [] children).map (.ofChild root)

/-- What is reported of a child that comes after earlier ones. -/
def report (settings : Settings) (earlier : List (Element α)) (child : Element α) :
    List (Diagnostic α) :=
  if child.Repeats earlier then [.repeatOf child]
  else
    child.faults ++
      (FrameSource.ofChild settings.rootFrame child).report
        (graphOf settings (framesOf settings.rootFrame earlier)) settings.tieBreak

/-- What is reported of children that come after earlier ones. -/
def reports (settings : Settings) : List (Element α) → List (Element α) → List (Diagnostic α)
  | _, [] => []
  | earlier, child :: rest =>
    report settings earlier child ++ reports settings (earlier ++ [child]) rest

end Model

section Owner

variable {child : Element α} {tieBreak : TieBreak} {graph : GraphId} {store : GraphStore α}
  {root : String}

theorem Element.faults_of_link (isLink : child.kind = "link") :
    child.faults = Link.faults child := by
  rw [faults, owner_of_link isLink]

theorem Element.faults_of_joint (isJoint : child.kind = "joint") :
    child.faults = Joint.faults child := by
  rw [faults, owner_of_joint isJoint]

theorem Element.faults_of_light (isLight : child.kind = "light") :
    child.faults = Light.faults child := by
  rw [faults, owner_of_light isLight]

theorem Element.intrinsic_faults (child : Element α) : Diagnostic.Intrinsic child.faults := by
  unfold faults
  split
  · exact Link.intrinsic_faults child
  · exact Joint.intrinsic_faults child
  · exact Light.intrinsic_faults child

theorem FrameSource.ofChild_of_link (isLink : child.kind = "link") :
    ofChild root child = .located root .link child := by
  rw [ofChild, Element.owner_of_link isLink]

theorem FrameSource.ofChild_of_joint (isJoint : child.kind = "joint") :
    ofChild root child = .ofJoint child := by
  rw [ofChild, Element.owner_of_joint isJoint]

theorem FrameSource.ofChild_of_light (isLight : child.kind = "light") :
    ofChild root child = .located root .light child := by
  rw [ofChild, Element.owner_of_light isLight]

theorem FrameSource.name_ofChild : (ofChild root child).name = child.name?.getD "" := by
  unfold ofChild
  cases child.owner <;> rfl

theorem Model.loadChild_of_link (isLink : child.kind = "link") :
    loadChild tieBreak graph child store =
      (Link.load child (some graph) tieBreak store).map .link := by
  rw [loadChild, Element.owner_of_link isLink]

theorem Model.loadChild_of_joint (isJoint : child.kind = "joint") :
    loadChild tieBreak graph child store =
      (Joint.load child (some graph) tieBreak store).map .joint := by
  rw [loadChild, Element.owner_of_joint isJoint]

theorem Model.loadChild_of_light (isLight : child.kind = "light") :
    loadChild tieBreak graph child store =
      (Light.load child (some graph) tieBreak store).map .light := by
  rw [loadChild, Element.owner_of_light isLight]

end Owner

namespace Model

section Kinds

variable (settings : Settings) (store : GraphStore α) (frames : List (FrameSource α))
  {child : Element α}

/-- The binding of the frame that is attached to a document after others. -/
def nextFrame : Binding :=
  ⟨⟨store.graphs.length⟩, ⟨frames.length + 1⟩, true⟩

theorem entity_link (isLink : child.kind = "link") :
    Member.link (Link.load child (some ⟨store.graphs.length⟩) settings.tieBreak
        (started settings store frames)).entity =
      entityOf settings.rootFrame child (nextFrame store frames) := by
  have owns := (attaching_link settings store).owns child isLink frames
  unfold entityOf
  rw [loadChild_of_link isLink]
  unfold Link.load at owns ⊢
  simp only [if_pos isLink] at owns ⊢
  rw [owns, placementFrame_started]
  rfl

theorem entity_joint (isJoint : child.kind = "joint") :
    Member.joint (Joint.load child (some ⟨store.graphs.length⟩) settings.tieBreak
        (started settings store frames)).entity =
      entityOf settings.rootFrame child (nextFrame store frames) := by
  have owns := (attaching_joint settings store).owns child isJoint frames
  unfold entityOf
  rw [loadChild_of_joint isJoint]
  unfold Joint.load at owns ⊢
  simp only [if_pos isJoint] at owns ⊢
  rw [owns]
  rfl

theorem entity_light (isLight : child.kind = "light") :
    Member.light (Light.load child (some ⟨store.graphs.length⟩) settings.tieBreak
        (started settings store frames)).entity =
      entityOf settings.rootFrame child (nextFrame store frames) := by
  have owns := (attaching_light settings store).owns child isLight frames
  unfold entityOf
  rw [loadChild_of_light isLight]
  unfold Light.load Light.ofElement at owns ⊢
  simp only [if_pos isLight] at owns ⊢
  rw [owns, placementFrame_started]
  rfl

theorem Attaching.map_load {ε δ : Type} {kind : String}
    {load : Element α → GraphStore α → Loaded α ε} {frameOf : ε → Binding}
    {faults : Element α → List (Diagnostic α)} {toFrame : Element α → FrameSource α}
    (attaching : Attaching settings store kind load frameOf faults toFrame)
    (isKind : child.kind = kind) {change : ε → δ} {entity : δ}
    (isEntity : change (load child (started settings store frames)).entity = entity) :
    (load child (started settings store frames)).map change =
      { store := started settings store (frames ++ [toFrame child])
        entity := entity
        diagnostics :=
          faults child ++ (toFrame child).report (graphOf settings frames) settings.tieBreak } := by
  rw [← isEntity, ← attaching.reports child isKind frames, ← attaching.attaches child isKind frames]
  rfl

/-- A child attaches its frame, becomes an entity with the next vertex, and has its own faults
reported before what there is to report of its reference. -/
theorem loadChild_started (isBody : child.IsBody) :
    loadChild settings.tieBreak ⟨store.graphs.length⟩ child (started settings store frames) =
      { store := started settings store (frames ++ [.ofChild settings.rootFrame child])
        entity := entityOf settings.rootFrame child (nextFrame store frames)
        diagnostics :=
          child.faults ++
            (FrameSource.ofChild settings.rootFrame child).report (graphOf settings frames)
              settings.tieBreak } := by
  rcases isBody with isLink | isJoint | isLight
  · rw [loadChild_of_link isLink, Element.faults_of_link isLink,
      FrameSource.ofChild_of_link isLink]
    exact (attaching_link settings store).map_load settings store frames isLink
      (entity_link settings store frames isLink)
  · rw [loadChild_of_joint isJoint, Element.faults_of_joint isJoint,
      FrameSource.ofChild_of_joint isJoint]
    exact (attaching_joint settings store).map_load settings store frames isJoint
      (entity_joint settings store frames isJoint)
  · rw [loadChild_of_light isLight, Element.faults_of_light isLight,
      FrameSource.ofChild_of_light isLight]
    exact (attaching_light settings store).map_load settings store frames isLight
      (entity_light settings store frames isLight)

end Kinds

section Lists

variable {root : String} {earlier : List (Element α)} {child : Element α}

theorem framesOf_append (first second : List (Element α)) :
    framesOf root (first ++ second) =
      framesOf root first ++ (Element.unrepeated first second).map (.ofChild root) := by
  unfold framesOf
  rw [Element.unrepeated_append, List.map_append, List.nil_append]

theorem framesOf_snoc_of_repeats (repeats : child.Repeats earlier) :
    framesOf root (earlier ++ [child]) = framesOf root earlier := by
  rw [framesOf, Element.unrepeated_snoc_of_repeats repeats]
  rfl

theorem framesOf_snoc_of_new (new : ¬child.Repeats earlier) :
    framesOf root (earlier ++ [child]) = framesOf root earlier ++ [.ofChild root child] := by
  rw [framesOf, Element.unrepeated_snoc_of_new new, List.map_append]
  rfl

theorem entitiesFrom_append (graph : GraphId) (index : Nat) (first second : List (Element α)) :
    entitiesFrom root graph index (first ++ second) =
      entitiesFrom root graph index first ++
        entitiesFrom root graph (index + first.length) second := by
  unfold entitiesFrom
  rw [List.zipIdx_append, List.map_append]

theorem reports_append (settings : Settings) (earlier first second : List (Element α)) :
    reports settings earlier (first ++ second) =
      reports settings earlier first ++ reports settings (earlier ++ first) second := by
  induction first generalizing earlier with
  | nil =>
      rw [List.append_nil]
      rfl
  | cons child rest induction =>
      have later := induction (earlier ++ [child])
      rw [List.append_assoc] at later
      rw [List.cons_append, reports, reports, later, List.append_assoc]
      rfl

theorem frame?_entityOf (frame : Binding) : (entityOf root child frame).frame? = some frame := by
  unfold entityOf loadChild
  cases child.owner <;> rfl

theorem element?_entityOf (frame : Binding) :
    (entityOf root child frame).element? = some child := by
  unfold entityOf loadChild
  rw [Member.element?_mapFrame]
  split
  · unfold Link.load
    split <;> rfl
  · unfold Joint.load
    split <;> rfl
  · unfold Light.load
    split <;> rfl

/-- Told as members of another graph, entities only have their vertices changed. -/
theorem map_relocate_entitiesFrom (graph other : GraphId) (place : VertexId → VertexId)
    (index : Nat) (children : List (Element α)) :
    (entitiesFrom root graph index children).map (Member.relocate other place) =
      (children.zipIdx index).map fun (child, index) =>
        entityOf root child ⟨other, place ⟨index⟩, true⟩ := by
  unfold entitiesFrom
  rw [List.map_map]
  apply List.map_congr_left
  rintro ⟨child, index⟩ -
  exact Member.mapFrame_mapFrame _ _ _

end Lists

section Runs

/-- A run that loads children of a document after earlier ones. -/
structure Yields (settings : Settings) (store : GraphStore α)
    (earlier children : List (Element α)) (run : LoadedAll α (Member α)) : Prop where
  leaves : run.store = started settings store (framesOf settings.rootFrame (earlier ++ children))
  entities : run.entities =
    entitiesFrom settings.rootFrame ⟨store.graphs.length⟩
      ((framesOf settings.rootFrame earlier).length + 1) (Element.unrepeated earlier children)
  diagnostics : run.diagnostics = reports settings earlier children

variable {settings : Settings} {store : GraphStore α} {earlier rest : List (Element α)}
  {child : Element α}

theorem Yields.nil :
    Yields settings store earlier []
      ⟨started settings store (framesOf settings.rootFrame earlier), [], []⟩ where
  leaves := by rw [List.append_nil]
  entities := rfl
  diagnostics := rfl

variable (settings store) in
/-- A child that repeats no name is loaded, after earlier ones, as what it describes and with
the next vertex. -/
theorem loadChild_of_new (isBody : child.IsBody) (new : ¬child.Repeats earlier) :
    loadChild settings.tieBreak ⟨store.graphs.length⟩ child
        (started settings store (framesOf settings.rootFrame earlier)) =
      { store := started settings store (framesOf settings.rootFrame (earlier ++ [child]))
        entity :=
          entityOf settings.rootFrame child (nextFrame store (framesOf settings.rootFrame earlier))
        diagnostics := report settings earlier child } := by
  rw [loadChild_started settings store _ isBody, framesOf_snoc_of_new new, report, if_neg new]

/-- One more child that repeats no name becomes one more entity. -/
theorem Yields.load {restRun : GraphStore α → LoadedAll α (Member α)} (isBody : child.IsBody)
    (new : ¬child.Repeats earlier)
    (later : Yields settings store (earlier ++ [child]) rest
      (restRun (started settings store (framesOf settings.rootFrame (earlier ++ [child]))))) :
    Yields settings store earlier (child :: rest)
      (LoadedAll.cons
        (loadChild settings.tieBreak ⟨store.graphs.length⟩ child
          (started settings store (framesOf settings.rootFrame earlier))) restRun) := by
  obtain ⟨leaves, entities, diagnostics⟩ := later
  rw [List.append_assoc] at leaves
  rw [loadChild_of_new settings store isBody new]
  refine ⟨leaves, ?_, ?_⟩
  · have size : (framesOf settings.rootFrame (earlier ++ [child])).length =
        (framesOf settings.rootFrame earlier).length + 1 := by
      rw [framesOf_snoc_of_new new, List.length_append, List.length_singleton]
    rw [size] at entities
    rw [LoadedAll.cons, entities, Element.unrepeated_cons_of_new rest new]
    rfl
  · rw [LoadedAll.cons, diagnostics, reports]

/-- One more child that repeats a name is only reported. -/
theorem Yields.skip {run : LoadedAll α (Member α)} (repeats : child.Repeats earlier)
    (later : Yields settings store (earlier ++ [child]) rest run) :
    Yields settings store earlier (child :: rest)
      { run with diagnostics := .repeatOf child :: run.diagnostics } := by
  obtain ⟨leaves, entities, diagnostics⟩ := later
  rw [List.append_assoc] at leaves
  rw [framesOf_snoc_of_repeats repeats] at entities
  refine ⟨leaves, ?_, ?_⟩
  · rw [entities, Element.unrepeated_cons_of_repeats rest repeats]
  · rw [diagnostics, reports, report, if_pos repeats]
    exact (List.singleton_append ..).symm

/-- A run that goes on where another one ends. -/
theorem Yields.append {children later : List (Element α)} {first second : LoadedAll α (Member α)}
    (before : Yields settings store earlier children first)
    (after : Yields settings store (earlier ++ children) later second) :
    Yields settings store earlier (children ++ later)
      ⟨second.store, first.entities ++ second.entities,
        first.diagnostics ++ second.diagnostics⟩ where
  leaves := by rw [after.leaves, List.append_assoc]
  entities := by
    have size : (framesOf settings.rootFrame (earlier ++ children)).length =
        (framesOf settings.rootFrame earlier).length +
          (Element.unrepeated earlier children).length := by
      rw [framesOf_append, List.length_append, List.length_map]
    rw [before.entities, after.entities, Element.unrepeated_append, entitiesFrom_append, size,
      Nat.add_right_comm]
  diagnostics := by rw [before.diagnostics, after.diagnostics, reports_append]

/-- The entities of a run keep their elements, and have their names, also after more children
have been loaded. -/
theorem Yields.told {children : List (Element α)} {run : LoadedAll α (Member α)}
    (yields : Yields settings store earlier children run) (later : List (Element α))
    {final : GraphStore α}
    (isFinal : final.graph ⟨store.graphs.length⟩ =
      graphOf settings (framesOf settings.rootFrame (earlier ++ children ++ later))) :
    run.entities.map (fun member => (member.element?, member.name? final)) =
      (Element.unrepeated earlier children).map fun child =>
        (some child, some (child.name?.getD "")) := by
  rw [yields.entities]
  unfold entitiesFrom
  rw [List.map_map]
  generalize isStart : (framesOf settings.rootFrame earlier).length + 1 = start
  have told : ∀ entry ∈ (Element.unrepeated earlier children).zipIdx start,
      (final.graph ⟨store.graphs.length⟩).vertex? ⟨entry.2⟩ =
        some ⟨entry.1.name?.getD "",
          Transform.ofPose (FrameSource.ofChild settings.rootFrame entry.1).pose⟩ := by
    rintro ⟨child, index⟩ member
    obtain ⟨after, isChild⟩ := List.mk_mem_zipIdx_iff_le_and_getElem?_sub.mp member
    obtain ⟨position, rfl⟩ := Nat.exists_eq_add_of_le after
    rw [Nat.add_sub_cancel_left] at isChild
    obtain ⟨inside, -⟩ := List.getElem?_eq_some_iff.mp isChild
    have isIndex : start + position =
        (framesOf settings.rootFrame earlier).length + position + 1 := by omega
    rw [isFinal]
    unfold FrameGraph.vertex?
    rw [vertices_graphOf, isIndex, List.getElem?_cons_succ, List.getElem?_map, framesOf_append,
      framesOf_append, List.append_assoc,
      List.getElem?_append_right (Nat.le_add_right _ _), Nat.add_sub_cancel_left,
      List.getElem?_append_left (by rwa [List.length_map]), List.getElem?_map, isChild]
    simp only [Option.map_some, FrameSource.name_ofChild]
  calc
    _ = ((Element.unrepeated earlier children).zipIdx start).map
        fun entry => (some entry.1, some (entry.1.name?.getD "")) := by
      apply List.map_congr_left
      intro entry member
      have isVertex := told entry member
      simp only [Function.comp_apply, element?_entityOf, Member.name?, frame?_entityOf,
        Option.map_some, Binding.name, isVertex, Option.getD_some]
    _ = (((Element.unrepeated earlier children).zipIdx start).map Prod.fst).map
        fun child => (some child, some (child.name?.getD "")) := by
      rw [List.map_map]
      rfl
    _ = _ := by rw [List.zipIdx_map_fst]

/-- Names that are taken are those of earlier elements of a kind. -/
def Taken (kind : String) (taken : List String) (earlier : List (Element α)) : Prop :=
  ∀ name, name ∈ taken ↔ ∃ other ∈ earlier, other.kind = kind ∧ other.name? = some name

omit [Scalar α] in
theorem taken_nil {kind : String} (others : earlier.filter (·.kind == kind) = []) :
    Taken kind [] earlier := by
  intro name
  refine iff_of_false List.not_mem_nil ?_
  rintro ⟨other, member, isKind, -⟩
  exact List.filter_eq_nil_iff.mp others other member (beq_iff_eq.mpr isKind)

omit [Scalar α] in
theorem Taken.skip {kind : String} {taken : List String} (before : Taken kind taken earlier)
    (known : ∀ name, child.name? = some name → name ∈ taken) :
    Taken kind taken (earlier ++ [child]) := by
  intro name
  constructor
  · intro member
    obtain ⟨other, isEarlier, same⟩ := (before name).mp member
    exact ⟨other, List.mem_append_left _ isEarlier, same⟩
  · rintro ⟨other, member, isKind, named⟩
    rcases List.mem_append.mp member with isEarlier | isLast
    · exact (before name).mpr ⟨other, isEarlier, isKind, named⟩
    · rw [List.mem_singleton.mp isLast] at named
      exact known name named

omit [Scalar α] in
theorem Taken.add {kind name : String} {taken : List String} (before : Taken kind taken earlier)
    (isKind : child.kind = kind) (named : child.name? = some name) :
    Taken kind (name :: taken) (earlier ++ [child]) := by
  intro other
  rw [List.mem_cons, before other]
  constructor
  · rintro (rfl | ⟨element, isEarlier, same⟩)
    · exact ⟨child, List.mem_append_right _ (List.mem_singleton_self _), isKind, named⟩
    · exact ⟨element, List.mem_append_left _ isEarlier, same⟩
  · rintro ⟨element, member, sameKind, sameName⟩
    rcases List.mem_append.mp member with isEarlier | isLast
    · exact .inr ⟨element, isEarlier, sameKind, sameName⟩
    · rw [List.mem_singleton.mp isLast, named] at sameName
      exact .inl (Option.some.inj sameName).symm

variable (settings store) in
/-- Links, or joints, are loaded one after the other unless their names are taken. -/
theorem yields_distinct {kind : String} {owner : EntityKind} {children : List (Element α)}
    (isBodyKind : kind = "link" ∨ kind = "joint")
    (kinds : ∀ child ∈ children, child.kind = kind ∧ child.owner = owner) {taken : List String}
    (claimed : Taken kind taken earlier) :
    Yields settings store earlier children
      (LoadedAll.distinct owner (loadChild settings.tieBreak ⟨store.graphs.length⟩) taken children
        (started settings store (framesOf settings.rootFrame earlier))) := by
  induction children generalizing taken earlier with
  | nil => exact .nil
  | cons child rest induction =>
      obtain ⟨isKind, isOwner⟩ := kinds child List.mem_cons_self
      have isBody : child.IsBody := by
        unfold Element.IsBody
        rw [isKind]
        tauto
      have others := fun other member => kinds other (List.mem_cons_of_mem _ member)
      -- The loader keeps the names that it met, not the elements.  Both decide alike as long as
      -- the names are those of the earlier elements of the kind.
      unfold LoadedAll.distinct
      cases named : child.name? with
      | none =>
          have new : ¬child.Repeats earlier := by simp [Element.Repeats, named]
          exact .load isBody new
            (induction others (claimed.skip fun name isName => by simp [named] at isName))
      | some name =>
          have repeats_iff : child.Repeats earlier ↔ name ∈ taken := by
            rw [claimed name]
            unfold Element.Repeats
            rw [isKind, named]
            simp [isBodyKind]
          by_cases known : name ∈ taken
          · have same : (.nameDuplicate owner name : Diagnostic α) = .repeatOf child := by
              rw [Diagnostic.repeatOf, isOwner, named]
              rfl
            have repeats := repeats_iff.mpr known
            have still : Taken kind taken (earlier ++ [child]) := by
              apply claimed.skip
              intro other isName
              rwa [← Option.some.inj (named.symm.trans isName)]
            have later := induction others still
            rw [framesOf_snoc_of_repeats repeats] at later
            simp only [known, if_true]
            rw [same]
            exact later.skip repeats
          · simp only [known, if_false]
            exact .load isBody (fun repeats => known (repeats_iff.mp repeats))
              (induction others (claimed.add isKind named))

variable (settings store earlier) in
/-- Lights are loaded one after the other. -/
theorem yields_each {children : List (Element α)}
    (kinds : ∀ child ∈ children, child.kind = "light") :
    Yields settings store earlier children
      (LoadedAll.each (loadChild settings.tieBreak ⟨store.graphs.length⟩) children
        (started settings store (framesOf settings.rootFrame earlier))) := by
  induction children generalizing earlier with
  | nil => exact .nil
  | cons child rest induction =>
      have isLight := kinds child List.mem_cons_self
      have new : ¬child.Repeats earlier := by simp [Element.Repeats, isLight]
      exact .load (.inr (.inr isLight)) new
        (induction _ fun other member => kinds other (List.mem_cons_of_mem _ member))

end Runs

section Load

variable (settings : Settings) (store : GraphStore α) {element : Element α}

theorem name_load (isModel : element.kind = "model") :
    (load element settings store).entity.name = element.name?.getD "" := by
  unfold load
  rw [if_pos isModel]

/-- A document is loaded by three runs, each of which goes on where the one before ends. -/
theorem exists_runs (isModel : element.kind = "model") :
    ∃ (links : LoadedAll α (Link α)) (joints : LoadedAll α (Joint α))
      (lights : LoadedAll α (Light α)),
      Yields settings store [] (element.elements "link") (links.map .link) ∧
      Yields settings store (element.elements "link") (element.elements "joint")
        (joints.map .joint) ∧
      Yields settings store (element.elements "link" ++ element.elements "joint")
        (element.elements "light") (lights.map .light) ∧
      load element settings store =
        { store := lights.store
          entity :=
            { name := element.name?.getD "", links := links.entities, joints := joints.entities
              lights := lights.entities, graph := ⟨store.graphs.length⟩, element := some element }
          diagnostics :=
            Joint.reportMissing element.name? (.nameMissing .model) ++ links.diagnostics ++
              joints.diagnostics ++ lights.diagnostics } := by
  have linkKinds : ∀ child ∈ element.elements "link", child.kind = "link" ∧ child.owner = .link :=
    fun child member =>
      have isLink := kind_of_mem_elements member
      ⟨isLink, Element.owner_of_link isLink⟩
  have jointKinds : ∀ child ∈ element.elements "joint",
      child.kind = "joint" ∧ child.owner = .joint :=
    fun child member =>
      have isJoint := kind_of_mem_elements member
      ⟨isJoint, Element.owner_of_joint isJoint⟩
  have links := yields_distinct settings store (.inl rfl) linkKinds
    (taken_nil rfl : Taken "link" [] [])
  have joints := yields_distinct settings store (.inr rfl) jointKinds
    (taken_nil (Element.no_joint_among_links element.children) :
      Taken "joint" [] (element.elements "link"))
  have lights := yields_each settings store (element.elements "link" ++ element.elements "joint")
    fun child (member : child ∈ element.elements "light") => kind_of_mem_elements member
  rw [← LoadedAll.map_distinct fun child member store =>
    (loadChild_of_link (linkKinds child member).1).symm] at links
  rw [← LoadedAll.map_distinct fun child member store =>
    (loadChild_of_joint (jointKinds child member).1).symm] at joints
  rw [← LoadedAll.map_each fun child member store =>
    (loadChild_of_light (kind_of_mem_elements member)).symm] at lights
  refine ⟨_, _, _, links, joints, lights, ?_⟩
  -- The stores that the joints and the lights start from are where the run before ended.
  have afterLinks := links.leaves
  have afterJoints := joints.leaves
  rw [List.nil_append] at afterLinks
  simp only [LoadedAll.map] at afterLinks afterJoints
  unfold load
  rw [if_pos isModel, ← afterJoints, ← afterLinks]
  rfl

/-- The graph of a loaded document has the frames of its children in the order of loading.
Its entities are what the children that repeat no name describe, with consecutive vertices.
The missing name of the document is reported first, and then what there is to report of each
child. -/
theorem load_children (isModel : element.kind = "model") :
    let loaded := load element settings store
    let children := Element.loadOrder element.children
    loaded.store = started settings store (framesOf settings.rootFrame children) ∧
      loaded.entity.members =
        entitiesFrom settings.rootFrame ⟨store.graphs.length⟩ 1
          (Element.unrepeated [] children) ∧
      loaded.diagnostics =
        Joint.reportMissing element.name? (.nameMissing .model) ++
          reports settings [] children := by
  obtain ⟨links, joints, lights, linkRun, jointRun, lightRun, isLoad⟩ :=
    exists_runs settings store isModel
  have run := (linkRun.append jointRun).append lightRun
  intro loaded children
  refine ⟨?_, ?_, ?_⟩
  · calc
      loaded.store = lights.store := congrArg Loaded.store isLoad
      _ = _ := run.leaves
  · calc
      loaded.entity.members = _ := congrArg (fun loaded => loaded.entity.members) isLoad
      _ = _ := run.entities
  · calc
      loaded.diagnostics = _ := congrArg Loaded.diagnostics isLoad
      _ = Joint.reportMissing element.name? (.nameMissing .model) ++
          (links.diagnostics ++ joints.diagnostics ++ lights.diagnostics) := by
        simp only [List.append_assoc]
      _ = _ := congrArg _ run.diagnostics

theorem graph_load_children (isModel : element.kind = "model") :
    (load element settings store).store.graph (load element settings store).entity.graph =
      graphOf settings (framesOf settings.rootFrame (Element.loadOrder element.children)) := by
  obtain ⟨leaves, -, -⟩ := load_children settings store isModel
  rw [graph_load, leaves]
  exact GraphStore.graph_create store _

/-- The entities of a loaded document own vertices of its graph. -/
theorem frame?_of_mem_members (isModel : element.kind = "model") {member : Member α}
    (isMember : member ∈ (load element settings store).entity.members) :
    let loaded := load element settings store
    ∃ vertex, (loaded.store.graph loaded.entity.graph).contains vertex ∧
      member.frame? = some ⟨loaded.entity.graph, vertex, true⟩ := by
  intro loaded
  obtain ⟨-, members, -⟩ := load_children settings store isModel
  rw [members] at isMember
  obtain ⟨⟨child, index⟩, isEntry, rfl⟩ := List.mem_map.mp isMember
  obtain ⟨-, below, -⟩ := List.mem_zipIdx isEntry
  refine ⟨⟨index⟩, ?_, ?_⟩
  · have isFinal := graph_load_children settings store isModel
    rw [isFinal, FrameGraph.contains_iff, length_vertices_graphOf, framesOf, List.length_map,
      Nat.add_comm]
    exact below
  · rw [graph_load]
    exact frame?_entityOf _

end Load

end Model

end Kinematics
