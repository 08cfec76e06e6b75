import Kinematics.Proofs.Frame.Store
import Kinematics.Proofs.Model.Frames

/-!
# Loading a model

A model adds one graph to the store, the graph of the frames of its document.  The loads
of its links, joints and lights each attach one frame to that graph.
-/

namespace Kinematics

variable {α : Type} [Scalar α]

namespace LoadedAll

variable {ε : Type} {load : Element α → GraphStore α → Loaded α ε}

omit [Scalar α] in
/-- Leaving out elements whose name is taken is loading the others. -/
theorem store_distinct (kind : EntityKind) (taken : List String) (elements : List (Element α))
    (store : GraphStore α) :
    (distinct kind load taken elements store).store =
      (each load (Element.firstOfEachName taken elements) store).store := by
  induction elements generalizing taken store with
  | nil => rfl
  | cons element rest induction =>
      unfold distinct Element.firstOfEachName
      cases element.name? with
      | none => exact induction taken (load element store).store
      | some name =>
          by_cases known : name ∈ taken
          · simp only [known, if_true]
            exact induction taken store
          · simp only [known, if_false]
            exact induction (name :: taken) (load element store).store

/-- Loads that attach one frame each attach the frames of all elements. -/
theorem store_each {settings : Settings} {store : GraphStore α} {kind : String}
    {toFrame : Element α → FrameSource α}
    (attaches : ∀ element, element.kind = kind → ∀ frames,
      (load element (store.create (Model.graphOf settings frames)).1).store =
        (store.create (Model.graphOf settings (frames ++ [toFrame element]))).1)
    {elements : List (Element α)} (kinds : ∀ element ∈ elements, element.kind = kind)
    (frames : List (FrameSource α)) :
    (each load elements (store.create (Model.graphOf settings frames)).1).store =
      (store.create (Model.graphOf settings (frames ++ elements.map toFrame))).1 := by
  induction elements generalizing frames with
  | nil =>
      rw [List.map_nil, List.append_nil]
      rfl
  | cons element rest induction =>
      have first := attaches element (kinds element List.mem_cons_self) frames
      have later := induction (fun other member => kinds other (List.mem_cons_of_mem _ member))
        (frames ++ [toFrame element])
      rw [List.append_assoc] at later
      rw [← first] at later
      exact later

end LoadedAll

namespace Model

variable (settings : Settings) (store : GraphStore α)

/-- The frames of a document, in the order in which they are attached. -/
def frames (settings : Settings) (element : Element α) : List (FrameSource α) :=
  (Element.firstOfEachName [] (element.elements "link")).map
      (.located settings.rootFrame .link) ++
    (Element.firstOfEachName [] (element.elements "joint")).map .ofJoint ++
    (element.elements "light").map (.located settings.rootFrame .light)

theorem placeFrame_graphOf (frames : List (FrameSource α)) (frame : FrameSource α) :
    Binding.placeFrame (store.create (graphOf settings frames)).1 (some ⟨store.graphs.length⟩)
        frame settings.tieBreak =
      (store.create (graphOf settings (frames ++ [frame]))).1 := by
  rw [Binding.placeFrame_some, GraphStore.graph_create, GraphStore.set_create, graphOf_snoc]

theorem rootOf_graphOf (frames : List (FrameSource α)) :
    rootOf (store.create (graphOf settings frames)).1 (some ⟨store.graphs.length⟩) =
      settings.rootFrame := by
  unfold rootOf
  rw [Option.bind_some, GraphStore.graph_create, rootName?_graphOf]
  rfl

omit [Scalar α] in
theorem kind_of_mem_elements {element child : Element α} {kind : String}
    (member : child ∈ element.elements kind) : child.kind = kind := by
  simpa using (List.mem_filter.mp member).2

theorem attaches_link (element : Element α) (isLink : element.kind = "link")
    (frames : List (FrameSource α)) :
    (Link.load element (some ⟨store.graphs.length⟩) settings.tieBreak
        (store.create (graphOf settings frames)).1).store =
      (store.create (graphOf settings
        (frames ++ [.located settings.rootFrame .link element]))).1 := by
  rw [Link.store_load, if_pos isLink, rootOf_graphOf, placeFrame_graphOf]

theorem attaches_joint (element : Element α) (isJoint : element.kind = "joint")
    (frames : List (FrameSource α)) :
    (Joint.load element (some ⟨store.graphs.length⟩) settings.tieBreak
        (store.create (graphOf settings frames)).1).store =
      (store.create (graphOf settings (frames ++ [.ofJoint element]))).1 := by
  rw [Joint.store_load, if_pos isJoint, placeFrame_graphOf]

theorem attaches_light (element : Element α) (isLight : element.kind = "light")
    (frames : List (FrameSource α)) :
    (Light.load element (some ⟨store.graphs.length⟩) settings.tieBreak
        (store.create (graphOf settings frames)).1).store =
      (store.create (graphOf settings
        (frames ++ [.located settings.rootFrame .light element]))).1 := by
  rw [Light.store_load, if_pos isLight, rootOf_graphOf, placeFrame_graphOf]

theorem graph_load {element : Element α} :
    (load element settings store).entity.graph = ⟨store.graphs.length⟩ := by
  unfold load
  split
  · rfl
  · rfl

/-- Loading a document adds the graph of its frames to the store. -/
theorem store_load {element : Element α} (isModel : element.kind = "model") :
    (load element settings store).store =
      (store.create (graphOf settings (frames settings element))).1 := by
  have links := LoadedAll.store_each (attaches_link settings store)
    (fun child member => kind_of_mem_elements
      (Element.firstOfEachName_subset [] (element.elements "link") member)) []
  have joints := LoadedAll.store_each (attaches_joint settings store)
    (fun child member => kind_of_mem_elements
      (Element.firstOfEachName_subset [] (element.elements "joint") member))
    ([] ++ (Element.firstOfEachName [] (element.elements "link")).map
      (.located settings.rootFrame .link))
  have lights := LoadedAll.store_each (attaches_light settings store)
    (fun child (member : child ∈ element.elements "light") => kind_of_mem_elements member)
    ([] ++ (Element.firstOfEachName [] (element.elements "link")).map
      (.located settings.rootFrame .link) ++
      (Element.firstOfEachName [] (element.elements "joint")).map .ofJoint)
  rw [← joints, ← links, ← LoadedAll.store_distinct, ← LoadedAll.store_distinct] at lights
  unfold load
  rw [if_pos isModel]
  exact lights

/-- The graph of a loaded document is that of its frames. -/
theorem graphOf_load {element : Element α} (isModel : element.kind = "model") :
    (load element settings store).store.graph (load element settings store).entity.graph =
      graphOf settings (frames settings element) := by
  rw [graph_load, store_load settings store isModel, GraphStore.graph_create]

end Model

end Kinematics
