import Kinematics.Proofs.Entity.Loading
import Kinematics.Proofs.Frame.Naming

/-!
# What loading an entity reports

An entity that is attached to a graph gets the next vertex of the graph.  Its report has two
parts: the faults of its element, which the element alone decides, and then that its
reference could not be resolved, which the names in the graph decide.
-/

namespace Kinematics

variable {α : Type}

theorem FrameGraph.vertex_attach (graph : FrameGraph α) (name : String) (payload : Transform α)
    (reference : String) (tieBreak : TieBreak) :
    (graph.attach name payload reference tieBreak).vertex = ⟨graph.vertices.length⟩ := by
  cases resolved : graph.resolveName reference tieBreak with
  | ok referenced => rw [attach_of_ok name payload resolved]
  | error problem => rw [attach_of_error name payload resolved]

/-- An attached frame has the next vertex of its graph. -/
theorem Binding.binding_attach [Scalar α] (store : GraphStore α) (graph : GraphId)
    (name : String) (pose : Pose α) (reference : String) (tieBreak : TieBreak) (owner : String) :
    (Binding.attach store graph name pose reference tieBreak owner).2.1 =
      ⟨graph, ⟨(store.graph graph).vertices.length⟩, true⟩ :=
  congrArg (fun vertex => Binding.mk graph vertex true)
    (FrameGraph.vertex_attach _ _ _ _ _)

/-- Whether a fault is that a frame could not be connected. -/
def Diagnostic.isUnconnected (diagnostic : Diagnostic α) : Bool :=
  diagnostic.code == .frameGraphError

/-- Whether a fault is that a name is taken. -/
def Diagnostic.isDuplicate (diagnostic : Diagnostic α) : Bool :=
  diagnostic.code == .duplicateName

namespace Diagnostic

/-- None of the faults is that a frame could not be connected. -/
def Connected (faults : List (Diagnostic α)) : Prop :=
  ∀ fault ∈ faults, fault.isUnconnected = false

theorem eq_nil_iff {faults : List (Diagnostic α)} :
    faults = [] ↔
      faults.filter (fun fault => !fault.isUnconnected) = [] ∧ faults.countP isUnconnected = 0 := by
  constructor
  · rintro rfl
    exact ⟨rfl, rfl⟩
  · rintro ⟨others, connections⟩
    apply List.eq_nil_iff_forall_not_mem.mpr
    intro fault member
    have unconnected : fault.isUnconnected = true := by
      simpa using List.filter_eq_nil_iff.mp others fault member
    exact List.countP_eq_zero.mp connections fault member unconnected

/-- None of the faults is about what other elements of a document there are: that a frame
could not be connected, or that a name is taken. -/
def Intrinsic (faults : List (Diagnostic α)) : Prop :=
  ∀ fault ∈ faults, fault.isUnconnected = false ∧ fault.isDuplicate = false

namespace Intrinsic

theorem nil : Intrinsic ([] : List (Diagnostic α)) :=
  fun _ member => absurd member List.not_mem_nil

theorem singleton {fault : Diagnostic α}
    (apart : fault.isUnconnected = false ∧ fault.isDuplicate = false) : Intrinsic [fault] := by
  intro other member
  rw [List.mem_singleton.mp member]
  exact apart

theorem append {first second : List (Diagnostic α)} (before : Intrinsic first)
    (after : Intrinsic second) : Intrinsic (first ++ second) :=
  List.forall_mem_append.mpr ⟨before, after⟩

theorem ite {condition : Prop} [Decidable condition] {fault : Diagnostic α}
    (apart : fault.isUnconnected = false ∧ fault.isDuplicate = false) :
    Intrinsic (if condition then [fault] else []) := by
  split
  · exact singleton apart
  · exact nil

theorem connected {faults : List (Diagnostic α)} (intrinsic : Intrinsic faults) :
    Connected faults :=
  fun fault member => (intrinsic fault member).1

end Intrinsic

namespace Connected

theorem countP_eq_zero {faults : List (Diagnostic α)} (connected : Connected faults) :
    faults.countP isUnconnected = 0 :=
  List.countP_eq_zero.mpr fun fault member => by simp [connected fault member]

theorem filter_eq_self {faults : List (Diagnostic α)} (connected : Connected faults) :
    faults.filter (fun fault => !fault.isUnconnected) = faults :=
  List.filter_eq_self.mpr fun fault member => by simp [connected fault member]

end Connected

end Diagnostic

variable [Scalar α]

namespace FrameSource

/-- What is reported of the reference of a frame that is attached to a graph. -/
def report (frame : FrameSource α) (graph : FrameGraph α) (tieBreak : TieBreak) :
    List (Diagnostic α) :=
  Binding.reportOf frame.owner frame.name frame.reference
    (graph.attach frame.name (Transform.ofPose frame.pose) frame.reference tieBreak).problem

variable (frame : FrameSource α) (graph : FrameGraph α) (tieBreak : TieBreak)

/-- A reference that is resolved is not reported, any other one is reported once. -/
theorem report_cases :
    (∃ position, tieBreak.resolve graph.names frame.reference = some position) ∧
        frame.report graph tieBreak = [] ∨
      tieBreak.resolve graph.names frame.reference = none ∧
        ∃ fault, frame.report graph tieBreak = [fault] ∧ fault.isUnconnected := by
  have resolved := graph.resolveName_eq frame.reference tieBreak
  unfold report
  rw [FrameGraph.problem_attach]
  cases found : graph.resolveName frame.reference tieBreak with
  | ok referenced =>
      rw [found] at resolved
      obtain ⟨position, isPosition, -⟩ := Option.map_eq_some_iff.mp resolved.symm
      exact .inl ⟨⟨position, isPosition⟩, rfl⟩
  | error problem =>
      rw [found] at resolved
      have unresolved : tieBreak.resolve graph.names frame.reference = none :=
        Option.map_eq_none_iff.mp resolved.symm
      refine .inr ⟨unresolved, ?_⟩
      cases problem with
      | ambiguousName name count => exact ⟨_, rfl, rfl⟩
      | vertexNotFound | edgeNotFound | nameNotFound => exact ⟨_, rfl, rfl⟩

theorem countP_report :
    (frame.report graph tieBreak).countP Diagnostic.isUnconnected =
      if (tieBreak.resolve graph.names frame.reference).isNone then 1 else 0 := by
  rcases frame.report_cases graph tieBreak with
    ⟨⟨position, resolved⟩, silent⟩ | ⟨unresolved, fault, reported, isUnconnected⟩
  · rw [silent, resolved]
    rfl
  · rw [reported, unresolved, List.countP_singleton, if_pos isUnconnected]
    rfl

variable {graph} in
/-- How many frames have its name decides what is reported of a reference. -/
theorem report_congr {other : FrameGraph α}
    (count : graph.names.count frame.reference = other.names.count frame.reference) :
    frame.report graph tieBreak = frame.report other tieBreak := by
  rw [← FrameGraph.length_named, ← FrameGraph.length_named] at count
  unfold report
  rw [FrameGraph.problem_attach, FrameGraph.problem_attach]
  unfold FrameGraph.resolveName
  generalize graph.named frame.reference = found at count ⊢
  generalize other.named frame.reference = foundThere at count ⊢
  match found, foundThere, count with
  | [], [], _ => rfl
  | [_], [_], _ => rfl
  | _ :: _ :: _, _ :: _ :: _, count =>
      cases tieBreak with
      | firstInserted => rfl
      | unique => exact congrArg (fun count => Binding.reportOf _ _ _
          (some (.unresolved (.ambiguousName frame.reference count)))) count

/-- The reference has nothing but its own fault reported. -/
theorem filter_report :
    (frame.report graph tieBreak).filter (fun fault => !fault.isUnconnected) = [] := by
  rcases frame.report_cases graph tieBreak with
    ⟨-, silent⟩ | ⟨-, fault, reported, isUnconnected⟩
  · rw [silent]
    rfl
  · rw [reported]
    simp [isUnconnected]

end FrameSource

def Link.faults (element : Element α) : List (Diagnostic α) :=
  nameReport .link element.name?

def Joint.faults (element : Element α) : List (Diagnostic α) :=
  reportMissing element.name? (.nameMissing .joint) ++
    reportMissing (element.read? Value.toString? "parent") .parentMissing ++
    reportMissing (element.read? Value.toString? "child") .childMissing ++
    (loadAxis element "axis").2 ++ (loadAxis element "axis2").2 ++ (loadType element).2

def Light.faults (element : Element α) : List (Diagnostic α) :=
  typeReport element ++ nameReport .light element.name? ++ attenuationReport element ++
    directionReport element ++ ((spotElement? element).map SpotCone.reportOf).getD []

section Intrinsic

open Diagnostic (Intrinsic)

omit [Scalar α] in
theorem intrinsic_nameReport (kind : EntityKind) (name : Option String) :
    Intrinsic (nameReport kind name : List (Diagnostic α)) := by
  cases name with
  | none => exact .singleton ⟨rfl, rfl⟩
  | some name => exact .ite ⟨rfl, rfl⟩

omit [Scalar α] in
theorem Link.intrinsic_faults (element : Element α) : Intrinsic (faults element) :=
  intrinsic_nameReport .link element.name?

theorem Joint.intrinsic_loadAxis (element : Element α) (kind : String) :
    Intrinsic (loadAxis element kind).2 := by
  unfold loadAxis
  split
  · exact .nil
  · unfold Axis.load Axis.loadDirection
    dsimp only
    split
    · split
      · exact .singleton ⟨rfl, rfl⟩
      · split
        · exact .nil
        · exact .singleton ⟨rfl, rfl⟩
    · exact .singleton ⟨rfl, rfl⟩

omit [Scalar α] in
theorem Joint.intrinsic_loadType (element : Element α) : Intrinsic (loadType element).2 := by
  unfold loadType
  split
  · exact .singleton ⟨rfl, rfl⟩
  · split
    · exact .nil
    · exact .singleton ⟨rfl, rfl⟩

theorem Joint.intrinsic_faults (element : Element α) : Intrinsic (faults element) :=
  (((((Intrinsic.ite ⟨rfl, rfl⟩).append (.ite ⟨rfl, rfl⟩)).append (.ite ⟨rfl, rfl⟩)).append
    (intrinsic_loadAxis element "axis")).append (intrinsic_loadAxis element "axis2")).append
    (intrinsic_loadType element)

theorem Light.intrinsic_attenuationReport (element : Element α) :
    Intrinsic (attenuationReport element) := by
  unfold attenuationReport
  split
  · exact .nil
  · exact .ite ⟨rfl, rfl⟩

theorem SpotCone.intrinsic_reportOf (element : Element α) : Intrinsic (reportOf element) := by
  intro fault member
  obtain ⟨⟨name, label⟩, -, reported⟩ := List.mem_filterMap.mp member
  obtain ⟨-, same⟩ := Option.ite_none_right_eq_some.mp reported
  cases same
  exact ⟨rfl, rfl⟩

theorem Light.intrinsic_faults (element : Element α) : Intrinsic (faults element) := by
  have cone : Intrinsic (((spotElement? element).map SpotCone.reportOf).getD []) := by
    cases spotElement? element with
    | none => exact .nil
    | some spot => exact SpotCone.intrinsic_reportOf spot
  exact ((((Intrinsic.ite ⟨rfl, rfl⟩).append (intrinsic_nameReport .light element.name?)).append
    (intrinsic_attenuationReport element)).append (.ite ⟨rfl, rfl⟩)).append cone

end Intrinsic

section Loads

variable {element : Element α} (graph : GraphId) (tieBreak : TieBreak) (store : GraphStore α)

theorem Link.diagnostics_load (isLink : element.kind = "link") :
    (Link.load element (some graph) tieBreak store).diagnostics =
      Link.faults element ++
        (FrameSource.located (rootOf store (some graph)) .link element).report
          (store.graph graph) tieBreak := by
  unfold Link.load
  rw [if_pos isLink]
  exact List.append_nil _

theorem Joint.diagnostics_load (isJoint : element.kind = "joint") :
    (Joint.load element (some graph) tieBreak store).diagnostics =
      Joint.faults element ++
        (FrameSource.ofJoint element).report (store.graph graph) tieBreak := by
  unfold Joint.load
  rw [if_pos isJoint]
  exact List.append_nil _

theorem Light.diagnostics_load (isLight : element.kind = "light") :
    (Light.load element (some graph) tieBreak store).diagnostics =
      Light.faults element ++
        (FrameSource.located (rootOf store (some graph)) .light element).report
          (store.graph graph) tieBreak := by
  unfold Light.load
  rw [if_pos isLight]
  rfl

theorem Link.frame_load (isLink : element.kind = "link") :
    (Link.load element (some graph) tieBreak store).entity.frame =
      ⟨graph, ⟨(store.graph graph).vertices.length⟩, true⟩ := by
  unfold Link.load
  rw [if_pos isLink]
  exact Binding.binding_attach store graph _ _ _ tieBreak EntityKind.link.label

theorem Joint.frame_load (isJoint : element.kind = "joint") :
    (Joint.load element (some graph) tieBreak store).entity.frame =
      ⟨graph, ⟨(store.graph graph).vertices.length⟩, true⟩ := by
  unfold Joint.load
  rw [if_pos isJoint]
  exact Binding.binding_attach store graph _ _ _ tieBreak EntityKind.joint.label

theorem Light.frame_load (isLight : element.kind = "light") :
    (Light.load element (some graph) tieBreak store).entity.frame =
      ⟨graph, ⟨(store.graph graph).vertices.length⟩, true⟩ := by
  unfold Light.load
  rw [if_pos isLight]
  exact Binding.binding_attach store graph _ _ _ tieBreak EntityKind.light.label

end Loads

end Kinematics
