import Kinematics.Proofs.Model.Alike
import Kinematics.Proofs.Scene.Frames

/-!
# Members that are loaded again

A load takes everything from the element and from the graph that it is given.  What the
member was before does not show in the reports, in the graph, or in the member, and neither
do the other graphs of the store.  The exception is an axis, which keeps what the element
leaves open.
-/

namespace Kinematics

variable {α : Type}

/-- A model told as one of another graph. -/
def Model.rehome (graph : GraphId) (model : Model α) : Model α :=
  { model with
    links := model.links.map fun link => { link with frame := link.frame.relocate graph id }
    joints := model.joints.map fun joint => { joint with frame := joint.frame.relocate graph id }
    lights := model.lights.map fun light => { light with frame := light.frame.relocate graph id }
    graph }

namespace Member

/-- A member told as one of another graph, with all the frames that it has. -/
def rehome (graph : GraphId) : Member α → Member α
  | model entity => model (entity.rehome graph)
  | other => other.relocate graph id

/-- Two loads report the same and find the same member, in equal graphs. -/
structure Interchangeable (first second : Loaded α (Member α)) : Prop where
  diagnostics : first.diagnostics = second.diagnostics
  entity : ∀ graph, first.entity.rehome graph = second.entity.rehome graph
  graph : first.entity.home?.map first.store.graph = second.entity.home?.map second.store.graph

end Member

theorem Model.members_rehome (graph : GraphId) (model : Model α) :
    (model.rehome graph).members = model.members.map (Member.relocate graph id) := by
  simp only [members, rehome, List.map_append, List.map_map]
  rfl

section Kinds

variable (model : Model α)

def Member.link? : Member α → Option (Link α)
  | link entity => some entity
  | _ => none

def Member.joint? : Member α → Option (Joint α)
  | joint entity => some entity
  | _ => none

def Member.light? : Member α → Option (Light α)
  | light entity => some entity
  | _ => none

theorem Model.filterMap_link? : model.members.filterMap Member.link? = model.links := by
  simp [members, List.filterMap_append, List.filterMap_map, Function.comp_def, Member.link?]

theorem Model.filterMap_joint? : model.members.filterMap Member.joint? = model.joints := by
  simp [members, List.filterMap_append, List.filterMap_map, Function.comp_def, Member.joint?]

theorem Model.filterMap_light? : model.members.filterMap Member.light? = model.lights := by
  simp [members, List.filterMap_append, List.filterMap_map, Function.comp_def, Member.light?]

end Kinds

/-- The entities of a model are in its list of members, kind by kind. -/
theorem Model.eq_of_members {left right : Model α} (name : left.name = right.name)
    (members : left.members = right.members) (graph : left.graph = right.graph)
    (element : left.element = right.element) : left = right := by
  have links : left.links = right.links := by
    rw [← left.filterMap_link?, members, right.filterMap_link?]
  have joints : left.joints = right.joints := by
    rw [← left.filterMap_joint?, members, right.filterMap_joint?]
  have lights : left.lights = right.lights := by
    rw [← left.filterMap_light?, members, right.filterMap_light?]
  cases left
  cases right
  congr

variable [Scalar α]

namespace Axis

section Stated

variable (element : Element α)

/-- The direction that an element of an axis states, at unit length. -/
def direction? : Option (Vec3 α) :=
  if element.kind ∈ elementKinds then
    (element.read? Value.toVec3? "xyz").bind fun xyz => (default.withDirection? xyz).map Axis.xyz
  else none

/-- Whether the direction is given in the frame of the parent model.  An element of an axis
that does not mention it denies it. -/
def usesParentModelFrame? : Option Bool :=
  if element.kind ∈ elementKinds then
    some (element.readD Value.toBool? "use_parent_model_frame" false)
  else none

/-- The limits that an element of an axis states. -/
def limit? : Option (AxisLimit α) :=
  if element.kind ∈ elementKinds then (element.first? "limit").map AxisLimit.ofElement else none

/-- The dynamics that an element of an axis states. -/
def dynamics? : Option (AxisDynamics α) :=
  if element.kind ∈ elementKinds then (element.first? "dynamics").map AxisDynamics.ofElement
  else none

/-- Two axes are the same in everything that an element leaves open. -/
structure AgreeWhereOpen (left right : Axis α) : Prop where
  xyz : direction? element = none → left.xyz = right.xyz
  useParentModelFrame : usesParentModelFrame? element = none →
    left.useParentModelFrame = right.useParentModelFrame
  limit : limit? element = none → left.limit = right.limit
  dynamics : dynamics? element = none → left.dynamics = right.dynamics

end Stated

variable {element : Element α}

theorem withDirection?_eq_map (axis : Axis α) (xyz : Vec3 α) :
    axis.withDirection? xyz =
      ((default.withDirection? xyz).map Axis.xyz).map fun unit => { axis with xyz := unit } := by
  by_cases long : Scalar.isFinite xyz.length ∧ ¬xyz.length < leastLength
  · simp [withDirection?, long]
  · simp [withDirection?, if_neg long]

theorem loadDirection_fst (axis : Axis α) (isAxis : element.kind ∈ elementKinds) :
    (axis.loadDirection element).1 =
      { axis with xyz := (direction? element).getD axis.xyz } := by
  simp only [loadDirection, direction?, if_pos isAxis]
  cases element.read? Value.toVec3? "xyz" with
  | none => rfl
  | some xyz =>
      simp only [axis.withDirection?_eq_map, Option.bind_some]
      cases (default.withDirection? xyz).map Axis.xyz <;> rfl

/-- A load takes what the element states and keeps the rest. -/
theorem load_fst (axis : Axis α) :
    (axis.load element).1 =
      { xyz := (direction? element).getD axis.xyz
        useParentModelFrame := (usesParentModelFrame? element).getD axis.useParentModelFrame
        limit := (limit? element).getD axis.limit
        dynamics := (dynamics? element).getD axis.dynamics
        element := some element } := by
  by_cases isAxis : element.kind ∈ elementKinds
  · have turned := loadDirection_fst { axis with element := some element } isAxis
    simp only [load, if_pos isAxis, turned, usesParentModelFrame?, limit?, dynamics?,
      Option.getD_some]
  · simp only [load, direction?, usesParentModelFrame?, limit?, dynamics?, if_neg isAxis,
      Option.getD_none]

/-- What is reported of an element does not depend on the axis. -/
theorem load_snd (left right : Axis α) : (left.load element).2 = (right.load element).2 := by
  unfold load loadDirection
  split
  · cases element.read? Value.toVec3? "xyz" with
    | none => rfl
    | some xyz =>
        simp only [withDirection?_eq_map { left with element := some element },
          withDirection?_eq_map { right with element := some element }]
        cases (default.withDirection? xyz).map Axis.xyz <;> rfl
  · rfl

theorem load_fst_eq_iff (left right : Axis α) :
    (left.load element).1 = (right.load element).1 ↔ AgreeWhereOpen element left right := by
  have open_iff {β : Type} (stated : Option β) (first second : β) :
      stated.getD first = stated.getD second ↔ (stated = none → first = second) := by
    cases stated <;> simp
  simp only [load_fst, Axis.mk.injEq, open_iff, and_true]
  exact ⟨fun ⟨xyz, use, limit, dynamics⟩ => ⟨xyz, use, limit, dynamics⟩,
    fun ⟨xyz, use, limit, dynamics⟩ => ⟨xyz, use, limit, dynamics⟩⟩

end Axis

section Graphs

variable {store other : GraphStore α} {graph otherGraph : Option GraphId}

omit [Scalar α] in
theorem rootOf_congr (same : graph.map store.graph = otherGraph.map other.graph) :
    rootOf store graph = rootOf other otherGraph := by
  have roots := congrArg (Option.bind · FrameGraph.rootName?) same
  have roots : (graph.bind fun id => (store.graph id).rootName?) =
      otherGraph.bind fun id => (other.graph id).rootName? := by
    simpa [Option.bind_map, Function.comp_def] using roots
  unfold rootOf
  rw [roots]

omit [Scalar α] in
theorem placementFrame_congr (same : graph.map store.graph = otherGraph.map other.graph)
    (named : String) :
    placementFrame store graph named = placementFrame other otherGraph named :=
  congrArg (fun root => if named.isEmpty then root else named) (rootOf_congr same)

omit [Scalar α] in
theorem isNone_congr (same : graph.map store.graph = otherGraph.map other.graph) :
    graph.isNone = otherGraph.isNone := by
  simpa using congrArg Option.isNone same

/-- Two frames have been placed alike. -/
structure Binding.PlacedAlike (first second : GraphStore α × Binding × List (Diagnostic α)) :
    Prop where
  frame : ∀ id', first.2.1.relocate id' id = second.2.1.relocate id' id
  faults : first.2.2 = second.2.2
  graph : first.1.graph first.2.1.graph = second.1.graph second.2.1.graph

/-- A frame is placed alike in equal graphs. -/
theorem Binding.place_alike (known : Known graph store) (knownOther : Known otherGraph other)
    (same : graph.map store.graph = otherGraph.map other.graph) (name : String) (pose : Pose α)
    (reference : String) (tieBreak : TieBreak) (owner : String) :
    PlacedAlike (place store graph name pose reference tieBreak owner)
      (place other otherGraph name pose reference tieBreak owner) := by
  cases graph with
  | none =>
      obtain rfl : otherGraph = none := Option.map_eq_none_iff.mp same.symm
      refine ⟨fun _ => rfl, rfl, ?_⟩
      exact (store.graph_create _).trans (other.graph_create _).symm
  | some id =>
      obtain ⟨otherId, rfl, sameGraph⟩ := Option.map_eq_some_iff.mp same.symm
      have attached : place other (some otherId) name pose reference tieBreak owner =
          attach other otherId name pose reference tieBreak owner := rfl
      rw [attached]
      unfold attach
      rw [sameGraph]
      refine ⟨fun _ => rfl, rfl, ?_⟩
      exact (store.graph_set_self (known id rfl) _).trans
        (other.graph_set_self (knownOther otherId rfl) _).symm

omit [Scalar α] in
/-- Members whose frames have been placed alike are interchangeable if nothing else of them
depends on their frames. -/
theorem Binding.PlacedAlike.interchangeable
    {first second : GraphStore α × Binding × List (Diagnostic α)}
    (placed : PlacedAlike first second) (build : Binding → Member α)
    (report : List (Diagnostic α) → List (Diagnostic α))
    (rehomed : ∀ id' frame, (build frame).rehome id' = build (frame.relocate id' id))
    (homed : ∀ frame, (build frame).home? = some frame.graph) :
    Member.Interchangeable ⟨first.1, build first.2.1, report first.2.2⟩
      ⟨second.1, build second.2.1, report second.2.2⟩ where
  diagnostics := congrArg report placed.faults
  entity := by
    intro id'
    rw [rehomed, rehomed, placed.frame]
  graph := by
    rw [homed, homed, Option.map_some, Option.map_some, placed.graph]

/-- The frames of members that have not been loaded. -/
theorem Binding.detached_alike (store other : GraphStore α) :
    PlacedAlike (place store none "" Pose.identity "" .unique "")
      (place other none "" Pose.identity "" .unique "") :=
  have same : (none : Option GraphId).map store.graph = (none : Option GraphId).map other.graph :=
    rfl
  have unknown (store : GraphStore α) : Known none store := nofun
  place_alike (unknown store) (unknown other) same "" Pose.identity "" .unique ""

variable (element : Element α) (tieBreak : TieBreak) (known : Binding.Known graph store)
  (knownOther : Binding.Known otherGraph other)
  (same : graph.map store.graph = otherGraph.map other.graph)

include known knownOther same

omit [Scalar α] in
/-- Graphs that are added leave equal graphs equal. -/
theorem map_graph_create (new otherNew : FrameGraph α) :
    graph.map (store.create new).1.graph = otherGraph.map (other.create otherNew).1.graph := by
  have kept {store : GraphStore α} {graph : Option GraphId} (known : Binding.Known graph store)
      (new : FrameGraph α) : graph.map (store.create new).1.graph = graph.map store.graph :=
    Option.map_congr fun id isGraph => GraphStore.graph_create_of_lt (known id isGraph) new
  rw [kept known, kept knownOther, same]

/-- A frame that is placed in equal graphs leaves them equal. -/
theorem Binding.map_graph_placeFrame (frame : FrameSource α) :
    graph.map (placeFrame store graph frame tieBreak).graph =
      otherGraph.map (placeFrame other otherGraph frame tieBreak).graph := by
  cases graph with
  | none =>
      obtain rfl : otherGraph = none := Option.map_eq_none_iff.mp same.symm
      rfl
  | some id =>
      obtain ⟨otherId, rfl, -⟩ := Option.map_eq_some_iff.mp same.symm
      exact congrArg some (place_alike known knownOther same _ _ _ _ _).graph

theorem Binding.map_graph_placeOr (condition : Prop) [Decidable condition]
    (frame : FrameSource α) :
    graph.map (if condition then placeFrame store graph frame tieBreak
        else placeFrame store none .unloaded tieBreak).graph =
      otherGraph.map (if condition then placeFrame other otherGraph frame tieBreak
        else placeFrame other none .unloaded tieBreak).graph := by
  split
  · exact map_graph_placeFrame tieBreak known knownOther same frame
  · exact map_graph_create known knownOther same _ _

theorem Link.load_interchangeable :
    Member.Interchangeable ((Link.load element graph tieBreak store).map .link)
      ((Link.load element otherGraph tieBreak other).map .link) := by
  unfold Link.load
  split
  · simp only [placementFrame_congr same, isNone_congr same]
    exact (Binding.place_alike known knownOther same _ _ _ _ _).interchangeable
      (fun frame => .link ⟨_, _, frame, _⟩) (fun problems => _ ++ problems ++ _)
      (fun _ _ => rfl) (fun _ => rfl)
  · exact (Binding.detached_alike store other).interchangeable
      (fun frame => .link ⟨_, _, frame, _⟩) (fun _ => _) (fun _ _ => rfl) (fun _ => rfl)

theorem Joint.load_interchangeable :
    Member.Interchangeable ((Joint.load element graph tieBreak store).map .joint)
      ((Joint.load element otherGraph tieBreak other).map .joint) := by
  unfold Joint.load
  split
  · simp only [isNone_congr same]
    exact (Binding.place_alike known knownOther same _ _ _ _ _).interchangeable
      (fun frame => .joint ⟨_, _, _, _, _, _, _, frame, _⟩) (fun problems => _ ++ problems ++ _)
      (fun _ _ => rfl) (fun _ => rfl)
  · exact (Binding.detached_alike store other).interchangeable
      (fun frame => .joint ⟨_, _, _, _, _, _, _, frame, _⟩) (fun _ => _) (fun _ _ => rfl)
      (fun _ => rfl)

theorem Light.load_interchangeable :
    Member.Interchangeable ((Light.load element graph tieBreak store).map .light)
      ((Light.load element otherGraph tieBreak other).map .light) := by
  unfold Light.load
  split
  · simp only [placementFrame_congr same]
    exact (Binding.place_alike known knownOther same _ _ _ _ _).interchangeable
      (fun frame => .light (Light.ofElement element _ _ frame)) (fun problems => _ ++ problems)
      (fun _ _ => rfl) (fun _ => rfl)
  · exact (Binding.detached_alike store other).interchangeable
      (fun frame => .light { Light.default frame with element := some element }) (fun _ => _)
      (fun _ _ => rfl) (fun _ => rfl)

theorem Model.map_graph_load (settings : Settings) :
    graph.map (Model.load element settings store).store.graph =
      otherGraph.map (Model.load element settings other).store.graph := by
  by_cases isModel : element.kind = "model"
  · rw [store_load settings store isModel, store_load settings other isModel]
    exact map_graph_create known knownOther same _ _
  · unfold load
    simp only [if_neg isModel]
    exact map_graph_create known knownOther same _ _

end Graphs

theorem Model.load_interchangeable (element : Element α) (settings : Settings)
    (store other : GraphStore α) :
    Member.Interchangeable ((Model.load element settings store).map .model)
      ((Model.load element settings other).map .model) := by
  by_cases isModel : element.kind = "model"
  · have alike := alike_load settings store other isModel isModel rfl rfl
    obtain ⟨-, -, reports⟩ := load_children settings store isModel
    obtain ⟨-, -, otherReports⟩ := load_children settings other isModel
    refine ⟨reports.trans otherReports.symm, ?_, congrArg some alike.graph.symm⟩
    intro graph
    apply congrArg Member.model
    apply eq_of_members
    · exact alike.name.symm
    · rw [members_rehome, members_rehome, alike.members, List.map_map]
      apply List.map_congr_left
      intro member _
      exact (member.relocate_relocate _ graph).symm
    · rfl
    · simp only [rehome, load, if_pos isModel]
  · unfold load
    simp only [if_neg isModel]
    refine ⟨rfl, fun _ => rfl, congrArg some ?_⟩
    exact (store.graph_create _).trans (other.graph_create _).symm

namespace Member

/-- Two members are the same in everything that a load of an element does not set anew. -/
def AgreeWhereOpen (element : Element α) : Member α → Member α → Prop
  | axis left, axis right => Axis.AgreeWhereOpen element left right
  | _, _ => True

/-- Equal graphs that members of one kind are loaded into are equal afterwards. -/
theorem map_graph_load {left right : Member α} (sameKind : left.kind = right.kind)
    {source : MemberSource α} {graph : Option GraphId} {store other : GraphStore α}
    (known : Binding.Known source.graph store) (knownOther : Binding.Known graph other)
    (sameGraph : source.graph.map store.graph = graph.map other.graph) :
    source.graph.map (left.load source store).store.graph =
      graph.map (right.load { source with graph } other).store.graph := by
  cases left <;> cases right <;> cases sameKind
  case link.link.refl =>
    change _ = graph.map (Link.load source.element graph source.tieBreak other).store.graph
    rw [Link.store_load, ← rootOf_congr sameGraph, load, Loaded.map, Link.store_load]
    exact Binding.map_graph_placeOr _ known knownOther sameGraph _ _
  case joint.joint.refl =>
    change _ = graph.map (Joint.load source.element graph source.tieBreak other).store.graph
    rw [Joint.store_load, load, Loaded.map, Joint.store_load]
    exact Binding.map_graph_placeOr _ known knownOther sameGraph _ _
  case light.light.refl =>
    change _ = graph.map (Light.load source.element graph source.tieBreak other).store.graph
    rw [Light.store_load, ← rootOf_congr sameGraph, load, Loaded.map, Light.store_load]
    exact Binding.map_graph_placeOr _ known knownOther sameGraph _ _
  case axis.axis.refl => exact sameGraph
  case binding.binding.refl =>
    exact Binding.map_graph_placeFrame _ known knownOther sameGraph source.frame
  case model.model.refl =>
    exact Model.map_graph_load source.element known knownOther sameGraph source.settings

/-- Whatever two members of a kind were before, loading an element into them reports the same
faults, and leaves the same in the graph that is given and in the graph that the member is then
in.  They become the same member, apart from the identifier of that graph, exactly if they agree
in what the element leaves open.  That is always so unless they are axes. -/
theorem load_starts_afresh {left right : Member α} (sameKind : left.kind = right.kind)
    {source : MemberSource α} {graph : Option GraphId} {store other : GraphStore α}
    (known : Binding.Known source.graph store) (knownOther : Binding.Known graph other)
    (sameGraph : source.graph.map store.graph = graph.map other.graph) :
    let first := left.load source store
    let second := right.load { source with graph } other
    first.diagnostics = second.diagnostics ∧
      source.graph.map first.store.graph = graph.map second.store.graph ∧
      first.entity.home?.map first.store.graph = second.entity.home?.map second.store.graph ∧
      ((∀ id, first.entity.rehome id = second.entity.rehome id) ↔
        AgreeWhereOpen source.element left right) := by
  intro first second
  have given := map_graph_load sameKind known knownOther sameGraph
  have of_interchangeable (alike : Interchangeable first second)
      (closed : AgreeWhereOpen source.element left right) :
      first.diagnostics = second.diagnostics ∧
        source.graph.map first.store.graph = graph.map second.store.graph ∧
        first.entity.home?.map first.store.graph = second.entity.home?.map second.store.graph ∧
        ((∀ id, first.entity.rehome id = second.entity.rehome id) ↔
          AgreeWhereOpen source.element left right) :=
    ⟨alike.diagnostics, given, alike.graph, iff_of_true alike.entity closed⟩
  cases left <;> cases right <;> cases sameKind
  case link.link.refl =>
    exact of_interchangeable (Link.load_interchangeable _ _ known knownOther sameGraph) trivial
  case joint.joint.refl =>
    exact of_interchangeable (Joint.load_interchangeable _ _ known knownOther sameGraph) trivial
  case light.light.refl =>
    exact of_interchangeable (Light.load_interchangeable _ _ known knownOther sameGraph) trivial
  case binding.binding.refl =>
    have placed := Binding.place_alike known knownOther sameGraph source.frame.name
      source.frame.pose source.frame.reference source.tieBreak source.frame.owner
    exact of_interchangeable
      (placed.interchangeable .binding id (fun _ _ => rfl) fun _ => rfl) trivial
  case model.model.refl =>
    exact of_interchangeable
      (Model.load_interchangeable source.element source.settings store other) trivial
  case axis.axis.refl before otherBefore =>
    refine ⟨before.load_snd otherBefore, given, rfl, ?_⟩
    rw [AgreeWhereOpen, ← before.load_fst_eq_iff]
    exact ⟨fun same => axis.inj (same ⟨0⟩), fun same _ => congrArg axis same⟩

/-- What a member is loaded from. -/
def sourceOf (element : Element Float) (graph : Option GraphId) : MemberSource Float :=
  { element, graph, tieBreak := .firstInserted, settings := .default, frame := .unloaded }

/-- A wheel that has been in use, and one that has just been made, are mounted in equal graphs
of two stores. -/
theorem load_starts_afresh_wheel :
    let used : Member Float := link ⟨Pose.identity, "axle", ⟨⟨0⟩, ⟨0⟩, true⟩, none⟩
    let unused := (new (.empty : GraphStore Float) .link).2
    let wheel : Element Float := ⟨"link", .ofList [("name", .string "wheel")], none, []⟩
    let store : GraphStore Float := ⟨[.withRoot "world"]⟩
    let other : GraphStore Float := ⟨[.empty, .withRoot "world"]⟩
    let first := used.load (sourceOf wheel (some ⟨0⟩)) store
    let second := unused.load (sourceOf wheel (some ⟨1⟩)) other
    used.kind = unused.kind ∧ store.graph ⟨0⟩ = other.graph ⟨1⟩ ∧
      first.diagnostics = second.diagnostics ∧
      first.store.graph ⟨0⟩ = second.store.graph ⟨1⟩ ∧
      ∀ id, first.entity.rehome id = second.entity.rehome id := by
  intro used unused wheel store other first second
  have known : Binding.Known (sourceOf wheel (some ⟨0⟩)).graph store := by
    rintro id ⟨⟩
    decide
  have knownOther : Binding.Known (some ⟨1⟩) other := by
    rintro id ⟨⟩
    decide
  have sameGraph : (some ⟨0⟩ : Option GraphId).map store.graph = (some ⟨1⟩).map other.graph := rfl
  obtain ⟨reports, graphs, -, same⟩ :=
    load_starts_afresh (rfl : used.kind = unused.kind) known knownOther sameGraph
  exact ⟨rfl, rfl, reports, Option.some.inj graphs, same.mpr trivial⟩

/-- The upright axis of a hinge. -/
def hinge (children : List (Element Float)) : Element Float :=
  ⟨"axis", .ofList [("xyz", .vector3 ⟨0.0, 0.0, 1.0⟩)], none, children⟩

/-- An axis that had a limit keeps it when it is loaded from an element that states none.  An
axis that has just been made gets no limit from it. -/
theorem load_ne_afresh_hinge :
    let limit : Element Float := ⟨"limit", .ofList [("upper", .double 1.5)], none, []⟩
    let unused := (new (.empty : GraphStore Float) .axis).2
    let used := (unused.load (sourceOf (hinge [limit]) none) .empty).entity
    used.kind = unused.kind ∧
      (used.load (sourceOf (hinge []) none) .empty).entity ≠
        (unused.load (sourceOf (hinge []) none) .empty).entity := by
  intro limit unused used
  refine ⟨rfl, fun same => ?_⟩
  have agree : Axis.AgreeWhereOpen (hinge []) (Axis.default.load (hinge [limit])).1 Axis.default :=
    (Axis.load_fst_eq_iff _ _).mp (axis.inj same)
  have kept := agree.limit rfl
  rw [Axis.load_fst] at kept
  have upper : (1.5 : Float) = 1e16 := congrArg AxisLimit.upper kept
  exact absurd (congrArg Float.toBits upper) (by decide)

end Member

end Kinematics
