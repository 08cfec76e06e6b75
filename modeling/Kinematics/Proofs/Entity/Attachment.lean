import Kinematics.Proofs.Entity.Reports
import Kinematics.Proofs.Frame.Store

/-!
# What attaching a frame does

Attaching a frame adds one vertex at the end of the graph of a document.  If the name of its
reference is usable, the vertex and the earliest one of that name are joined by a pair of
complementary edges and nothing is reported; otherwise no edge is added and one fault is.
-/

namespace Kinematics

namespace FrameGraph

variable {α : Type} {graph : FrameGraph α}

variable {reference : String} {tieBreak : TieBreak} (name : String) (payload : Transform α)

/-- A usable reference is joined to the new vertex as if by a request for a pair of edges, which
never fails. -/
theorem attach_of_usable {first : Nat}
    (isFirst : graph.vertices.findIdx? (·.name == reference) = some first)
    (usable : (graph.named reference).length = 1 ∨ tieBreak = .firstInserted) :
    graph.attach name payload reference tieBreak =
        ⟨((graph.addVertex name payload).1.connect ⟨first⟩ ⟨graph.vertices.length⟩).1,
          ⟨graph.vertices.length⟩, none⟩ ∧
      (graph.addVertex name payload).1.addEdgePair ⟨first⟩ ⟨graph.vertices.length⟩ =
        .ok ((graph.addVertex name payload).1.connect ⟨first⟩ ⟨graph.vertices.length⟩) := by
  have head : (graph.named reference).head? = some ⟨first⟩ := by
    rw [head?_named_vertices, isFirst]
    rfl
  have resolved : graph.resolveName reference tieBreak = .ok ⟨first⟩ := by
    rw [resolveName_eq_choose]
    exact TieBreak.choose_of_usable head usable
  obtain ⟨inside, -⟩ := List.findIdx?_eq_some_iff_getElem.mp isFirst
  exact ⟨attach_of_ok name payload resolved,
    addEdgePair_addVertex name payload (contains_iff.mpr inside)⟩

theorem attach_of_missing (missing : graph.named reference = []) :
    graph.attach name payload reference tieBreak =
      ⟨(graph.addVertex name payload).1, ⟨graph.vertices.length⟩,
        some (.unresolved (.nameNotFound reference))⟩ := by
  apply attach_of_error
  rw [resolveName_eq_choose, missing]
  rfl

theorem attach_of_shared (shared : 1 < (graph.named reference).length) :
    graph.attach name payload reference .unique =
      ⟨(graph.addVertex name payload).1, ⟨graph.vertices.length⟩,
        some (.unresolved (.ambiguousName reference (graph.named reference).length))⟩ := by
  apply attach_of_error
  rw [resolveName_eq_choose]
  exact TieBreak.choose_unique_of_shared shared

theorem exists_first_of_named (named : graph.named reference ≠ []) :
    ∃ first, graph.vertices.findIdx? (·.name == reference) = some first ∧
      first < graph.vertices.length := by
  obtain ⟨vertex, others, isNamed⟩ := List.exists_cons_of_ne_nil named
  have head := graph.head?_named_vertices reference
  rw [isNamed] at head
  obtain ⟨first, isFirst, -⟩ := Option.map_eq_some_iff.mp head.symm
  obtain ⟨inside, -⟩ := List.findIdx?_eq_some_iff_getElem.mp isFirst
  exact ⟨first, isFirst, inside⟩

theorem Reachable.attach [Scalar α] (reachable : graph.Reachable) :
    (graph.attach name payload reference tieBreak).graph.Reachable := by
  have grown := reachable.addVertex name payload
  cases resolved : graph.resolveName reference tieBreak with
  | error problem =>
      rw [attach_of_error name payload resolved]
      exact grown
  | ok referenced =>
      rw [attach_of_ok name payload resolved]
      have accepted := addEdgePair_addVertex name payload (contains_of_resolveName resolved)
      exact grown.addEdgePair accepted

end FrameGraph

namespace Binding

variable {α : Type} [Scalar α]

omit [Scalar α] in
theorem code_of_mem_reportOf {owner name reference : String} {problem : Option Unconnected}
    {fault : Diagnostic α} (member : fault ∈ reportOf owner name reference problem) :
    fault.code = .frameGraphError := by
  cases problem with
  | none => exact absurd member List.not_mem_nil
  | some problem =>
      cases problem with
      | refused error => rw [List.mem_singleton.mp member]; rfl
      | unresolved error => cases error <;> (rw [List.mem_singleton.mp member]; rfl)

/-- Attaching a frame to a graph of the store adds one vertex with its name and its pose at the
end, and changes nothing else of the vertices, of the root and of other graphs.  If one vertex has
the name of the reference, or several have and the first one is meant, then the earliest of them,
which is never the new one, and the new one are joined by two complementary edges as a request for
a pair of edges would add them, and nothing is reported.  If none has, or several have and one only
was asked for, no edge is added and just this is reported.  Loading an entity reports that after
the faults of its element. -/
theorem attach_exact {store : GraphStore α} {id : GraphId} (known : id.index < store.graphs.length)
    (frame : FrameSource α) (tieBreak : TieBreak) :
    let before := store.graph id
    let payload := Transform.ofPose frame.pose
    let new : VertexId := ⟨before.vertices.length⟩
    let candidates := before.named frame.reference
    let attached := attach store id frame.name frame.pose frame.reference tieBreak frame.owner
    let after := attached.1.graph id
    let reported := attached.2.2
    attached.2.1 = ⟨id, new, true⟩ ∧
    after.vertices = before.vertices ++ [⟨frame.name, payload⟩] ∧ after.root = before.root ∧
    (∀ other, other ≠ id → attached.1.graph other = store.graph other) ∧
    (candidates.length = 1 ∨ 1 < candidates.length ∧ tieBreak = .firstInserted →
      ∃ first : VertexId,
        before.vertices.findIdx? (·.name == frame.reference) = some first.index ∧
        before.contains first ∧ first ≠ new ∧
        after.edges = before.edges ++ [⟨first, new, .backward⟩, ⟨new, first, .forward⟩] ∧
        ((before.addVertex frame.name payload).1.addEdgePair first new).map Prod.fst = .ok after ∧
        reported = []) ∧
    (candidates.length = 0 →
      after.edges = before.edges ∧
        reported = [.referenceUnknown frame.owner frame.name frame.reference]) ∧
    (1 < candidates.length ∧ tieBreak = .unique →
      after.edges = before.edges ∧
        reported = [.referenceShared frame.owner frame.name frame.reference candidates.length]) ∧
    (∀ fault ∈ reported, fault.code = .frameGraphError) ∧
    (before.Reachable → after.Reachable) ∧
    ∀ element,
      (element.kind = "link" → frame = .located (rootOf store (some id)) .link element →
        (Link.load element (some id) tieBreak store).diagnostics =
          Link.faults element ++ reported) ∧
      (element.kind = "joint" → frame = .ofJoint element →
        (Joint.load element (some id) tieBreak store).diagnostics =
          Joint.faults element ++ reported) ∧
      (element.kind = "light" → frame = .located (rootOf store (some id)) .light element →
        (Light.load element (some id) tieBreak store).diagnostics =
          Light.faults element ++ reported) := by
  intro before payload new candidates attached after reported
  let result := before.attach frame.name payload frame.reference tieBreak
  have isAfter : after = result.graph := store.graph_set_self known result.graph
  have isReported : reported =
      reportOf frame.owner frame.name frame.reference result.problem := rfl
  have others (other : GraphId) (apart : other ≠ id) :
      attached.1.graph other = store.graph other :=
    (store.graph_set id other result.graph).resolve_right fun same => apart same.1.symm
  refine ⟨binding_attach store id _ _ _ _ _, ?_, ?_, others, ?_, ?_, ?_, ?_, ?_, ?_⟩
  · rw [isAfter]
    exact before.vertices_attach ..
  · rw [isAfter]
    exact before.root_attach ..
  · intro usable
    have named : before.named frame.reference ≠ [] := by
      intro none
      simp [candidates, none] at usable
    obtain ⟨first, isFirst, inside⟩ := FrameGraph.exists_first_of_named named
    obtain ⟨isResult, requested⟩ :=
      FrameGraph.attach_of_usable frame.name payload isFirst (usable.imp_right And.right)
    have joined : result = _ := isResult
    refine ⟨⟨first⟩, isFirst, FrameGraph.contains_iff.mpr inside, ?_, ?_, ?_, ?_⟩
    · exact fun same => Nat.ne_of_lt inside (congrArg VertexId.index same)
    · rw [isAfter, joined]
      simp [FrameGraph.connect, FrameGraph.pushEdge, FrameGraph.addVertex, new]
    · rw [isAfter, joined, requested]
      rfl
    · rw [isReported, joined]
      rfl
  · intro none
    have joined : result = _ := FrameGraph.attach_of_missing _ _ (List.length_eq_zero_iff.mp none)
    rw [isAfter, isReported, joined]
    exact ⟨rfl, rfl⟩
  · rintro ⟨shared, rfl⟩
    have joined : result = _ := FrameGraph.attach_of_shared _ _ shared
    rw [isAfter, isReported, joined]
    exact ⟨rfl, rfl⟩
  · exact fun fault => code_of_mem_reportOf
  · intro reachable
    rw [isAfter]
    exact reachable.attach _ _
  · intro element
    refine ⟨?_, ?_, ?_⟩
    · rintro isLink rfl
      exact Link.diagnostics_load id tieBreak store isLink
    · rintro isJoint rfl
      exact Joint.diagnostics_load id tieBreak store isJoint
    · rintro isLight rfl
      exact Light.diagnostics_load id tieBreak store isLight

/-- Two arms in a world. -/
def twins : FrameGraph Float :=
  (((FrameGraph.withRoot "world").addVertex "arm" Transform.identity).1.addVertex "arm"
    Transform.identity).1

/-- A link with the name of the frame that it is placed in. -/
def thirdArm : Element Float :=
  { kind := "link"
    attributes := .ofList [("name", .string "arm")]
    value := none
    children := [⟨"pose", .ofList [("frame", .string "arm")], none, []⟩] }

theorem attach_exact_twins :
    let store : GraphStore Float := ⟨[twins]⟩
    let frame : FrameSource Float := .located (rootOf store (some ⟨0⟩)) .link thirdArm
    let attach (tieBreak : TieBreak) :=
      Binding.attach store ⟨0⟩ frame.name frame.pose frame.reference tieBreak frame.owner
    (((attach .firstInserted).1.graph ⟨0⟩).edges =
        [⟨⟨1⟩, ⟨3⟩, .backward⟩, ⟨⟨3⟩, ⟨1⟩, .forward⟩] ∧
      (Link.load thirdArm (some ⟨0⟩) .firstInserted store).diagnostics = []) ∧
    ((attach .unique).1.graph ⟨0⟩).edges = [] ∧
      (Link.load thirdArm (some ⟨0⟩) .unique store).diagnostics =
        [.referenceShared "link" "arm" "arm" 2] := by
  intro store frame attach
  have known : (⟨0⟩ : GraphId).index < store.graphs.length := by decide
  have count : ((store.graph ⟨0⟩).named frame.reference).length = 2 := by decide +kernel
  obtain ⟨-, -, -, -, joins, -, -, -, -, loads⟩ := attach_exact known frame .firstInserted
  obtain ⟨-, -, -, -, -, -, leaves, -, -, loadsStrictly⟩ := attach_exact known frame .unique
  have isSecond : (store.graph ⟨0⟩).vertices.findIdx? (·.name == frame.reference) = some 1 := by
    decide +kernel
  obtain ⟨first, isFirst, -, -, edges, -, silent⟩ := joins (.inr ⟨by rw [count]; decide, rfl⟩)
  obtain rfl : first = ⟨1⟩ :=
    congrArg VertexId.mk (Option.some.inj (isFirst.symm.trans isSecond))
  obtain ⟨bare, told⟩ := leaves ⟨by rw [count]; decide, rfl⟩
  refine ⟨⟨edges, ?_⟩, bare, ?_⟩
  · rw [(loads thirdArm).1 rfl rfl, silent]
    rfl
  · rw [(loadsStrictly thirdArm).1 rfl rfl, told, count]
    rfl

end Binding

end Kinematics
