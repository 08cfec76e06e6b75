import Kinematics.Proofs.Entity.Loading
import Kinematics.Proofs.Frame.Store
import Kinematics.Proofs.Frame.Wiring

/-!
# Loaded graphs are forests

Entities are loaded, loaded again, renamed and moved in any order, and frames are added
by hand.  Every graph of the store stays a forest, because a frame is wired only when it
is attached, and only to a frame that was there before.
-/

namespace Kinematics

/-- All edges of the graph come from wires. -/
def FrameGraph.IsForest {α : Type} (graph : FrameGraph α) : Prop :=
  ∃ wires, graph.Wired wires

theorem FrameGraph.isForest_empty {α : Type} : (FrameGraph.empty : FrameGraph α).IsForest :=
  ⟨[], .of_edges_eq_nil rfl⟩

theorem FrameGraph.isForest_withRoot {α : Type} [Scalar α] (name : String) :
    (FrameGraph.withRoot name : FrameGraph α).IsForest :=
  ⟨[], .of_edges_eq_nil rfl⟩

namespace GraphStore

open FrameGraph (isForest_empty isForest_withRoot)

variable {α : Type} [Scalar α]

/-- The stores that loads and changes of frames lead to, from one without graphs. -/
inductive Built : GraphStore α → Prop where
  | empty : Built .empty
  | create {store : GraphStore α} : Built store → Built (store.create .empty).1
  | createRoot {store : GraphStore α} (name : String) :
      Built store → Built (store.create (.withRoot name)).1
  | new {store : GraphStore α} (kind : MemberKind) : Built store → Built (Member.new store kind).1
  | load {store : GraphStore α} (member : Member α) (source : MemberSource α) :
      Built store → Built (member.load source store).store
  | addVertex {store : GraphStore α} (id : GraphId) (name : String) (payload : Transform α) :
      Built store → Built (store.set id ((store.graph id).addVertex name payload).1)
  | rename {store : GraphStore α} {id : GraphId} {vertex : VertexId} {name : String}
      {graph : FrameGraph α} : Built store →
      (store.graph id).rename vertex name = .ok graph → Built (store.set id graph)
  | setPayload {store : GraphStore α} {id : GraphId} {vertex : VertexId}
      {payload : Transform α} {graph : FrameGraph α} : Built store →
      (store.graph id).setPayload vertex payload = .ok graph → Built (store.set id graph)
  | setName {store : GraphStore α} (member : Member α) (name : String) :
      Built store → Built (member.setName store name)
  | setPose {store : GraphStore α} (member : Member α) (pose : Pose α) :
      Built store → Built (member.setPose store pose).1

/-- Placing a frame and creating a graph keep all graphs forests. -/
theorem kept_isForest : Kept fun store : GraphStore α => store.All FrameGraph.IsForest where
  place := by
    intro store graph frame tieBreak all
    cases graph with
    | none =>
        rw [Binding.placeFrame_none]
        exact all.create ⟨[], (FrameGraph.Wired.of_edges_eq_nil rfl).addVertex frame.name _⟩
    | some graph =>
        obtain ⟨wires, wired⟩ := all.graph isForest_empty graph
        rw [Binding.placeFrame_some]
        exact all.set ⟨_, wired.attach frame.name _ frame.reference tieBreak⟩ graph
  create := fun all => all.create isForest_empty
  createRoot := fun name all => all.create (isForest_withRoot name)

omit [Scalar α] in
theorem All.modifyVertex_isForest {store : GraphStore α}
    (all : store.All FrameGraph.IsForest) {id : GraphId} {vertex : VertexId}
    {change : Vertex α → Vertex α} {graph : FrameGraph α}
    (success : (store.graph id).modifyVertex vertex change = .ok graph) :
    (store.set id graph).All FrameGraph.IsForest := by
  obtain ⟨wires, wired⟩ := all.graph isForest_empty id
  exact all.set ⟨wires, wired.modifyVertex success⟩ id

omit [Scalar α] in
theorem All.setName_isForest {store : GraphStore α} (all : store.All FrameGraph.IsForest)
    (frame : Binding) (name : String) :
    (frame.setName store name).All FrameGraph.IsForest := by
  unfold Binding.setName
  cases result : (store.graph frame.graph).rename frame.vertex name with
  | ok graph => exact all.modifyVertex_isForest result
  | error problem => exact all

theorem All.setPose_isForest {store : GraphStore α} (all : store.All FrameGraph.IsForest)
    (frame : Binding) (pose : Pose α) :
    (frame.setPose store pose).All FrameGraph.IsForest := by
  unfold Binding.setPose
  cases result : (store.graph frame.graph).setPayload frame.vertex (.ofPose pose) with
  | ok graph => exact all.modifyVertex_isForest result
  | error problem => exact all

theorem Built.all_isForest {store : GraphStore α} (built : store.Built) :
    store.All FrameGraph.IsForest := by
  induction built with
  | empty => exact fun _ member => absurd member List.not_mem_nil
  | create _ all => exact all.create isForest_empty
  | createRoot name _ all => exact all.create (isForest_withRoot name)
  | new kind _ all => exact kept_isForest.new all kind
  | load member source _ all => exact kept_isForest.load all member source
  | addVertex id name payload _ all =>
      obtain ⟨wires, wired⟩ := all.graph isForest_empty id
      exact all.set ⟨wires, wired.addVertex name payload⟩ id
  | rename _ success all => exact all.modifyVertex_isForest success
  | setPayload _ success all => exact all.modifyVertex_isForest success
  | setName member name _ all =>
      unfold Member.setName
      cases member.frame? with
      | none => exact all
      | some frame => exact all.setName_isForest frame name
  | setPose member pose _ all =>
      cases member with
      | link link => exact all.setPose_isForest link.frame pose
      | joint joint => exact all.setPose_isForest joint.frame pose
      | light light => exact all.setPose_isForest light.frame pose
      | binding frame => exact all.setPose_isForest frame pose
      | axis => exact all
      | model => exact all

/-- A link loaded twice under a root, and a joint at the link under its new name. -/
def workshop : GraphStore Float :=
  let started : GraphStore Float := (GraphStore.empty.create (.withRoot "world")).1
  let (created, link) := Member.new started .link
  let source (element : Element Float) : MemberSource Float :=
    ⟨element, some ⟨0⟩, .unique, .default, .unloaded⟩
  let arm : Element Float := ⟨"link", .ofList [("name", .string "arm")], none, []⟩
  let hinge : Element Float := ⟨"joint", .ofList [("parent", .string "old")], none, []⟩
  let first := link.load (source arm) created
  let renamed := first.entity.setName first.store "old"
  let second := first.entity.load (source arm) renamed
  (Member.load (.joint (Joint.new second.store).2) (source hinge) second.store).store

theorem workshop_built : workshop.Built := by
  have started : Built (GraphStore.empty.create (.withRoot "world") : GraphStore Float × _).1 :=
    Built.empty.createRoot "world"
  exact ((((started.new .link).load _ _).setName _ "old").load _ _).load _ _

/-- Every graph that loads and changes of frames lead to is a forest: its edges are
complementary pairs in a row, no frame is the child of two pairs, the reference of a pair was
inserted before its child, and two frames that edges join have exactly one sequence of
frames between them that repeats none. -/
theorem Built.graph_forest {store : GraphStore α} (built : store.Built) (id : GraphId) :
    ∃ wires : List Wire,
      (store.graph id).edges =
        wires.flatMap (fun wire =>
          [⟨wire.reference, wire.child, .backward⟩, ⟨wire.child, wire.reference, .forward⟩]) ∧
      (wires.map Wire.child).Nodup ∧
      (∀ wire ∈ wires, wire.reference.index < wire.child.index ∧
        wire.child.index < (store.graph id).vertices.length) ∧
      (∀ wire ∈ wires, wire.reference ≠ wire.child) ∧
      ∀ source target, (store.graph id).Joined source target →
        ∃! visits, visits.Nodup ∧ ∃ path,
          (store.graph id).Walk source path target ∧ Step.visits source path = visits := by
  obtain ⟨wires, wired⟩ := built.all_isForest.graph isForest_empty id
  refine ⟨wires, wired.edges, wired.distinct, ?_, ?_, ?_⟩
  · intro wire member
    exact ⟨wired.earlier wire member, wired.within wire member⟩
  · intro wire member same
    have earlier := wired.earlier wire member
    rw [same] at earlier
    exact lt_irrefl _ earlier
  · intro source target joined
    exact wired.hangs.existsUnique_visits wired.edgesWithin joined

theorem Built.graph_forest_workshop :
    workshop.Built ∧
      (workshop.graph ⟨0⟩).edges =
        [⟨⟨0⟩, ⟨1⟩, .backward⟩, ⟨⟨1⟩, ⟨0⟩, .forward⟩, ⟨⟨0⟩, ⟨2⟩, .backward⟩,
          ⟨⟨2⟩, ⟨0⟩, .forward⟩, ⟨⟨1⟩, ⟨3⟩, .backward⟩, ⟨⟨3⟩, ⟨1⟩, .forward⟩] ∧
      ∃! visits, visits.Nodup ∧ ∃ path,
        (workshop.graph ⟨0⟩).Walk ⟨3⟩ path ⟨2⟩ ∧ Step.visits ⟨3⟩ path = visits := by
  obtain ⟨wires, -, -, -, -, unique⟩ := Built.graph_forest workshop_built ⟨0⟩
  have up : (workshop.graph ⟨0⟩).Adjacent ⟨3⟩ ⟨1⟩ :=
    FrameGraph.Follows.adjacent (⟨_, rfl, .inl ⟨rfl, rfl⟩⟩ :
      (workshop.graph ⟨0⟩).Follows ⟨⟨3⟩, ⟨1⟩, ⟨5⟩⟩)
  have further : (workshop.graph ⟨0⟩).Adjacent ⟨1⟩ ⟨0⟩ :=
    FrameGraph.Follows.adjacent (⟨_, rfl, .inl ⟨rfl, rfl⟩⟩ :
      (workshop.graph ⟨0⟩).Follows ⟨⟨1⟩, ⟨0⟩, ⟨1⟩⟩)
  have down : (workshop.graph ⟨0⟩).Adjacent ⟨0⟩ ⟨2⟩ :=
    FrameGraph.Follows.adjacent (⟨_, rfl, .inl ⟨rfl, rfl⟩⟩ :
      (workshop.graph ⟨0⟩).Follows ⟨⟨0⟩, ⟨2⟩, ⟨2⟩⟩)
  have joined : (workshop.graph ⟨0⟩).Joined ⟨3⟩ ⟨2⟩ :=
    .tail (.tail (.single up) further) down
  exact ⟨workshop_built, rfl, unique ⟨3⟩ ⟨2⟩ joined⟩

end GraphStore

end Kinematics
