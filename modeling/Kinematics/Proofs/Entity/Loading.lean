import Kinematics.Scene.Member

/-!
# What loading does to the graphs

A load changes the store of graphs in one of two ways: it places one frame, attached or
alone, or it creates a graph and attaches frames to it.  Whatever holds of a store and
is kept by placing a frame is therefore kept by every load.
-/

namespace Kinematics

variable {α : Type} [Scalar α]

namespace Binding

def placeFrame (store : GraphStore α) (graph : Option GraphId) (frame : FrameSource α)
    (tieBreak : TieBreak) : GraphStore α :=
  (place store graph frame.name frame.pose frame.reference tieBreak frame.owner).1

theorem placeFrame_some (store : GraphStore α) (graph : GraphId) (frame : FrameSource α)
    (tieBreak : TieBreak) :
    placeFrame store (some graph) frame tieBreak =
      store.set graph ((store.graph graph).attach frame.name (Transform.ofPose frame.pose)
        frame.reference tieBreak).graph :=
  rfl

theorem placeFrame_none (store : GraphStore α) (frame : FrameSource α) (tieBreak : TieBreak) :
    placeFrame store none frame tieBreak =
      (store.create (FrameGraph.empty.addVertex frame.name
        (Transform.ofPose frame.pose)).1).1 :=
  rfl

end Binding

/-- The frame of an entity that has not been loaded. -/
def FrameSource.unloaded : FrameSource α :=
  ⟨"", Pose.identity, "", ""⟩

/-- The name of the frame that an entity is placed relative to where it names none. -/
def rootOf (store : GraphStore α) (graph : Option GraphId) : String :=
  (graph.bind fun graph => (store.graph graph).rootName?).getD Settings.defaultRootFrame

/-- The frame of an entity that is placed relative to the root where it names no frame. -/
def FrameSource.located (root : String) (owner : EntityKind) (element : Element α) :
    FrameSource α :=
  { name := element.name?.getD ""
    pose := (locatedPoseOf element).pose
    reference :=
      if (locatedPoseOf element).frame.isEmpty then root else (locatedPoseOf element).frame
    owner := owner.label }

/-- The frame of a joint, which is placed relative to its parent. -/
def FrameSource.ofJoint (element : Element α) : FrameSource α :=
  { name := element.name?.getD ""
    pose := (locatedPoseOf element).pose
    reference := (element.read? Value.toString? "parent").getD ""
    owner := EntityKind.joint.label }

variable (element : Element α) (graph : Option GraphId) (tieBreak : TieBreak)
  (store : GraphStore α)

theorem Link.store_load :
    (Link.load element graph tieBreak store).store =
      if element.kind = "link" then
        Binding.placeFrame store graph (.located (rootOf store graph) .link element) tieBreak
      else Binding.placeFrame store none .unloaded tieBreak := by
  unfold Link.load
  split
  · rfl
  · rfl

theorem Light.store_load :
    (Light.load element graph tieBreak store).store =
      if element.kind = "light" then
        Binding.placeFrame store graph (.located (rootOf store graph) .light element) tieBreak
      else Binding.placeFrame store none .unloaded tieBreak := by
  unfold Light.load
  split
  · rfl
  · rfl

theorem Joint.store_load :
    (Joint.load element graph tieBreak store).store =
      if element.kind = "joint" then
        Binding.placeFrame store graph (.ofJoint element) tieBreak
      else Binding.placeFrame store none .unloaded tieBreak := by
  unfold Joint.load
  split
  · rfl
  · rfl

section Several

omit [Scalar α]

variable {ε : Type} {motive : GraphStore α → Prop} {load : Element α → GraphStore α → Loaded α ε}

/-- What every load keeps is kept by loading several elements. -/
theorem LoadedAll.each_keeps
    (step : ∀ element store, motive store → motive (load element store).store)
    (elements : List (Element α)) {store : GraphStore α} (holds : motive store) :
    motive (LoadedAll.each load elements store).store := by
  induction elements generalizing store with
  | nil => exact holds
  | cons element rest induction => exact induction (step element store holds)

theorem LoadedAll.distinct_keeps
    (step : ∀ element store, motive store → motive (load element store).store)
    (kind : EntityKind) (taken : List String) (elements : List (Element α))
    {store : GraphStore α} (holds : motive store) :
    motive (LoadedAll.distinct kind load taken elements store).store := by
  induction elements generalizing store taken with
  | nil => exact holds
  | cons element rest induction =>
      unfold LoadedAll.distinct
      cases element.name? with
      | none => exact induction taken (step element store holds)
      | some name =>
          by_cases known : name ∈ taken
          · simp only [known, if_true]
            exact induction taken holds
          · simp only [known, if_false]
            exact induction (name :: taken) (step element store holds)

end Several

/-- A property of stores that placing a frame and creating a graph keep. -/
structure GraphStore.Kept (motive : GraphStore α → Prop) : Prop where
  place : ∀ {store : GraphStore α} (graph : Option GraphId) (frame : FrameSource α)
    (tieBreak : TieBreak), motive store → motive (Binding.placeFrame store graph frame tieBreak)
  create : ∀ {store : GraphStore α}, motive store → motive (store.create .empty).1
  createRoot : ∀ {store : GraphStore α} (name : String), motive store →
    motive (store.create (.withRoot name)).1

namespace GraphStore.Kept

variable {motive : GraphStore α → Prop} (kept : Kept motive) {store : GraphStore α}
  (holds : motive store)

include kept holds

/-- An entity places its frame, or a frame of its own if it is of another kind. -/
theorem placeOr (condition : Prop) [Decidable condition] (graph : Option GraphId)
    (frame : FrameSource α) (tieBreak : TieBreak) :
    motive (if condition then Binding.placeFrame store graph frame tieBreak
      else Binding.placeFrame store none .unloaded tieBreak) := by
  split
  · exact kept.place graph frame tieBreak holds
  · exact kept.place none .unloaded tieBreak holds

theorem loadLink (element : Element α) (graph : Option GraphId) (tieBreak : TieBreak) :
    motive (Link.load element graph tieBreak store).store := by
  rw [Link.store_load]
  exact kept.placeOr holds _ graph _ tieBreak

theorem loadLight (element : Element α) (graph : Option GraphId) (tieBreak : TieBreak) :
    motive (Light.load element graph tieBreak store).store := by
  rw [Light.store_load]
  exact kept.placeOr holds _ graph _ tieBreak

theorem loadJoint (element : Element α) (graph : Option GraphId) (tieBreak : TieBreak) :
    motive (Joint.load element graph tieBreak store).store := by
  rw [Joint.store_load]
  exact kept.placeOr holds _ graph _ tieBreak

theorem loadModel (element : Element α) (settings : Settings) :
    motive (Model.load element settings store).store := by
  unfold Model.load
  split
  · apply LoadedAll.each_keeps
    · exact fun child store holds => kept.loadLight holds child _ _
    apply LoadedAll.distinct_keeps
    · exact fun child store holds => kept.loadJoint holds child _ _
    apply LoadedAll.distinct_keeps
    · exact fun child store holds => kept.loadLink holds child _ _
    exact kept.createRoot settings.rootFrame holds
  · exact kept.create holds

/-- The first load of a member and every later one keep the property. -/
theorem load (member : Member α) (source : MemberSource α) :
    motive (member.load source store).store := by
  cases member with
  | link => exact kept.loadLink holds source.element source.graph source.tieBreak
  | joint => exact kept.loadJoint holds source.element source.graph source.tieBreak
  | light => exact kept.loadLight holds source.element source.graph source.tieBreak
  | axis => exact holds
  | binding => exact kept.place source.graph source.frame source.tieBreak holds
  | model => exact kept.loadModel holds source.element source.settings

theorem new (kind : MemberKind) : motive (Member.new store kind).1 := by
  cases kind with
  | axis => exact holds
  | model => exact kept.create holds
  | link => exact kept.place none .unloaded .firstInserted holds
  | joint => exact kept.place none .unloaded .firstInserted holds
  | light => exact kept.place none .unloaded .firstInserted holds
  | binding => exact kept.place none .unloaded .firstInserted holds

end GraphStore.Kept

end Kinematics
