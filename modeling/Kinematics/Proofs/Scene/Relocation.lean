import Kinematics.Scene.Member

/-!
# Members in another graph

A member can be told as one whose frame is a vertex of another graph, with everything else
as it is.  It answers as before wherever the two graphs answer alike about its frame.
-/

namespace Kinematics

variable {α : Type}

/-- A frame told as one of another graph. -/
def Binding.relocate (graph : GraphId) (place : VertexId → VertexId) (frame : Binding) : Binding :=
  ⟨graph, place frame.vertex, frame.attached⟩

namespace Member

def mapFrame (change : Binding → Binding) : Member α → Member α
  | link entity => link { entity with frame := change entity.frame }
  | joint entity => joint { entity with frame := change entity.frame }
  | light entity => light { entity with frame := change entity.frame }
  | binding frame => binding (change frame)
  | axis entity => axis entity
  | model entity => model entity

/-- A member with its frame found in another graph. -/
def relocate (graph : GraphId) (place : VertexId → VertexId) : Member α → Member α :=
  mapFrame (Binding.relocate graph place)

/-- The element that a member was loaded from, if it keeps it. -/
def element? : Member α → Option (Element α)
  | link entity => entity.element
  | joint entity => entity.element
  | light entity => entity.element
  | model entity => entity.element
  | binding _ | axis _ => none

def kind : Member α → MemberKind
  | link _ => .link
  | joint _ => .joint
  | light _ => .light
  | axis _ => .axis
  | binding _ => .binding
  | model _ => .model

/-- The graph that the frames of a member are in, if it has frames. -/
def home? : Member α → Option GraphId
  | model entity => some entity.graph
  | other => other.frame?.map Binding.graph

theorem mapFrame_mapFrame (first second : Binding → Binding) (member : Member α) :
    (member.mapFrame first).mapFrame second = member.mapFrame (second ∘ first) := by
  cases member <;> rfl

theorem relocate_relocate (first second : GraphId) (member : Member α) :
    (member.relocate first id).relocate second id = member.relocate second id :=
  mapFrame_mapFrame _ _ member

theorem frame?_mapFrame (change : Binding → Binding) (member : Member α) :
    (member.mapFrame change).frame? = member.frame?.map change := by
  cases member <;> rfl

theorem poseFrame?_mapFrame (change : Binding → Binding) (member : Member α) :
    (member.mapFrame change).poseFrame? = member.poseFrame? := by
  cases member <;> rfl

theorem element?_mapFrame (change : Binding → Binding) (member : Member α) :
    (member.mapFrame change).element? = member.element? := by
  cases member <;> rfl

/-- The frame that a query with a name is about. -/
def asked (member : Member α) (frame : String) : String :=
  if frame.isEmpty then member.poseFrame?.getD frame else frame

theorem asked_of_ne {member : Member α} {frame : String} (named : frame ≠ "") :
    member.asked frame = frame := by
  simp [asked, named]

theorem asked_empty {member : Member α} {frame : String}
    (isFrame : member.poseFrame? = some frame) : member.asked "" = frame := by
  simp [asked, isFrame]

variable [Scalar α]

/-- The current name of a member that has a frame. -/
def name? (member : Member α) (store : GraphStore α) : Option String :=
  member.frame?.map fun frame => frame.name store

theorem poseInFrame?_eq (member : Member α) (store : GraphStore α) (frame : String) :
    member.poseInFrame? store frame =
      member.frame?.map fun binding => binding.poseInFrame store (member.asked frame) := by
  cases member with
  | binding entity =>
      have same : (binding entity : Member α).asked frame = frame := ite_self frame
      rw [same]
      rfl
  | link | joint | light | axis | model => rfl

/-- A member answers alike in two stores if its frame does. -/
theorem poseInFrame?_relocate {member : Member α} {store other : GraphStore α} {graph : GraphId}
    {place : VertexId → VertexId} {frame : String}
    (alike : ∀ binding, member.frame? = some binding →
      (binding.relocate graph place).poseInFrame other (member.asked frame) =
        binding.poseInFrame store (member.asked frame)) :
    (member.relocate graph place).poseInFrame? other frame = member.poseInFrame? store frame := by
  have asksSame : (member.relocate graph place).asked frame = member.asked frame := by
    unfold asked relocate
    rw [poseFrame?_mapFrame]
  rw [poseInFrame?_eq, poseInFrame?_eq, asksSame]
  unfold relocate
  rw [frame?_mapFrame]
  cases found : member.frame? with
  | none => rfl
  | some binding => exact congrArg some (alike binding found)

end Member

/-- A frame answers alike in equal graphs. -/
theorem Binding.poseInFrame_relocate [Scalar α] {binding : Binding} {store other : GraphStore α}
    {graph : GraphId} (same : other.graph graph = store.graph binding.graph) (frame : String) :
    (binding.relocate graph id).poseInFrame other frame = binding.poseInFrame store frame := by
  unfold Binding.poseInFrame Binding.name Binding.relocate
  rw [same]
  rfl

end Kinematics
