import Kinematics.Command.FileTable
import Kinematics.Command.Run
import Kinematics.Proofs.Frame.Embedding
import Kinematics.Proofs.Model.Contents

/-!
# What a clean check promises

A frame that finds its reference joins a component that is there, and any other one starts a
component and is reported.  A document that is checked without a report is therefore all in
one piece, and every query about its frames has an answer.
-/

namespace Kinematics

variable {α : Type} [Scalar α]

namespace FrameGraph

/-- Where a vertex is in another one: at rest in itself, and elsewhere as the payloads say that
are met along a path without repeated vertices. -/
inductive Resolves (graph : FrameGraph α) (source : VertexId) : VertexId → Pose α → Prop where
  | here : Resolves graph source source .identity
  | along {target : VertexId} {path : List Step} {product : Transform α} :
      graph.SimplePath source path target → graph.composePath path = .ok product →
      Resolves graph source target product.rigidInverse.toPose

/-- A graph in one piece. -/
structure Connected (graph : FrameGraph α) : Prop where
  within : graph.EdgesWithin
  single : Nat.card graph.Component = 1

namespace Connected

variable {graph : FrameGraph α} (connected : graph.Connected)

include connected

theorem exists_poseBetween {source target : VertexId} (starts : graph.contains source)
    (ends : graph.contains target) :
    ∃ pose, graph.poseBetween source target = .ok pose ∧ graph.Resolves source target pose := by
  have joined := joined_of_card_component connected.single starts ends
  obtain ⟨pose, found⟩ := joined.exists_poseBetween connected.within starts
  refine ⟨pose, found, ?_⟩
  obtain ⟨-, -, ⟨rfl, rfl⟩ | ⟨-, path, product, isPath, composed, rfl⟩⟩ :=
    poseBetween_eq_ok_iff.mp found
  · exact .here
  · exact .along (simplePath_of_findPath connected.within isPath) composed

theorem exists_poseInFrame {source target : String} (starts : source ∈ graph.names)
    (ends : target ∈ graph.names) :
    ∃ u v pose, graph.vertices.findIdx? (·.name == source) = some u ∧
      graph.vertices.findIdx? (·.name == target) = some v ∧
      graph.poseInFrame source target = .ok pose ∧ graph.Resolves ⟨u⟩ ⟨v⟩ pose := by
  obtain ⟨u, firstSource, startInside⟩ := exists_first_of_mem_names starts
  obtain ⟨v, firstTarget, endInside⟩ := exists_first_of_mem_names ends
  obtain ⟨pose, found, resolves⟩ := connected.exists_poseBetween startInside endInside
  rw [← poseInFrame_eq_poseBetween firstSource firstTarget] at found
  exact ⟨u, v, pose, firstSource, firstTarget, found, resolves⟩

end Connected

end FrameGraph

/-- A record tells where an entity is in a named frame: at rest, if its own frame has the name,
and otherwise at its place in the first vertex of that name. -/
structure PoseRecord.Tells (record : PoseRecord α) (store : GraphStore α) (asked : String)
    (entity : Placed) : Prop where
  kind : record.kind = entity.kind
  name : record.name = entity.frame.name store
  frame : record.frame = asked
  resolved : ∃ pose, record.outcome = .ok pose ∧
    (entity.frame.name store = asked ∧ pose = .identity ∨
      ∃ position,
        (store.graph entity.frame.graph).vertices.findIdx? (·.name == asked) = some position ∧
        (store.graph entity.frame.graph).Resolves entity.frame.vertex ⟨position⟩ pose)

/-- An entity of a graph in one piece has a pose in every frame of the graph. -/
theorem Placed.tells_record {entity : Placed} {store : GraphStore α} {frame : String}
    (attached : entity.frame.attached)
    (connected : (store.graph entity.frame.graph).Connected)
    (inside : (store.graph entity.frame.graph).contains entity.frame.vertex)
    (named : frame ≠ "") (known : frame ∈ (store.graph entity.frame.graph).names) :
    (entity.record store frame).Tells store frame entity := by
  obtain ⟨vertex, found⟩ := Option.isSome_iff_exists.mp inside
  obtain ⟨position, first, present⟩ := FrameGraph.exists_first_of_mem_names known
  obtain ⟨pose, between, resolves⟩ := connected.exists_poseBetween inside present
  have asked : frame.isEmpty = false := by
    simpa using named
  have isName : entity.frame.name store = vertex.name := by
    unfold Binding.name
    rw [found]
    rfl
  refine ⟨rfl, rfl, rfl, ?_⟩
  unfold Placed.record Binding.poseInFrame
  simp only [asked, Bool.false_eq_true, if_false, attached, if_true, found,
    FrameGraph.resolveName_firstInserted, first, between]
  split
  · rename_i same
    exact ⟨_, rfl, .inl ⟨isName.trans same, rfl⟩⟩
  · exact ⟨pose, rfl, .inr ⟨position, rfl, resolves⟩⟩

namespace Model

def frameNames (model : Model α) (store : GraphStore α) : List String :=
  (store.graph model.graph).names

variable {element : Element α} {settings : Settings} {store : GraphStore α}

/-- A loaded document has one component, and another one for every report that a frame is not
connected. -/
theorem card_component_load (isModel : element.kind = "model") :
    Nat.card ((load element settings store).store.graph
        (load element settings store).entity.graph).Component =
      1 + (load element settings store).diagnostics.countP Diagnostic.isUnconnected := by
  have hangs := hangs_graphOf settings (frames settings element)
  have within := (wired_graphOf settings (frames settings element)).edgesWithin
  rw [graphOf_load settings store isModel, hangs.card_component within,
    length_vertices_graphOf, List.range_succ_eq_map, List.countP_cons_of_pos rfl,
    List.countP_map, countP_isUnconnected_load settings store isModel, Nat.add_comm]
  rfl

/-- The root and the entities have names that are in the graph. -/
theorem mem_frameNames (isModel : element.kind = "model") {frame : String}
    (source : frame = (load element settings store).entity.rootFrame
        (load element settings store).store ∨
      ∃ entity ∈ (load element settings store).entity.placed,
        frame = entity.frame.name (load element settings store).store) :
    frame ∈
      (load element settings store).entity.frameNames (load element settings store).store := by
  rcases source with isRoot | ⟨entity, member, isName⟩
  · unfold frameNames
    rw [isRoot, rootFrame_load settings store isModel, graphOf_load settings store isModel,
      names_graphOf]
    exact List.mem_cons_self
  · obtain ⟨-, sameGraph, inside⟩ := frame_of_mem_placed settings store isModel member
    obtain ⟨vertex, found⟩ := Option.isSome_iff_exists.mp inside
    rw [isName]
    unfold Binding.name
    rw [sameGraph, found]
    exact List.mem_map_of_mem (List.mem_of_getElem? found)

/-- A document without a report is in one piece. -/
theorem connected_of_clean (clean : (load element settings store).diagnostics = []) :
    ((load element settings store).store.graph
      (load element settings store).entity.graph).Connected := by
  have isModel := kind_of_clean settings store clean
  constructor
  · rw [graphOf_load settings store isModel]
    exact (wired_graphOf settings (frames settings element)).edgesWithin
  · rw [card_component_load isModel, clean]
    rfl

/-- In a document without a report every entity has a pose in every frame that has a name. -/
theorem tells_record_of_clean (clean : (load element settings store).diagnostics = [])
    {frame : String} (named : frame ≠ "")
    (known : frame ∈
      (load element settings store).entity.frameNames (load element settings store).store)
    {entity : Placed} (isPlaced : entity ∈ (load element settings store).entity.placed) :
    (entity.record (load element settings store).store frame).Tells
      (load element settings store).store frame entity := by
  have isModel := kind_of_clean settings store clean
  obtain ⟨attached, sameGraph, inside⟩ := frame_of_mem_placed settings store isModel isPlaced
  have connected := connected_of_clean clean
  unfold frameNames at known
  rw [← sameGraph] at connected inside known
  exact entity.tells_record attached connected inside named known

end Model

namespace Command

/-- The answer to an action on a table of files. -/
def answerOf (table : FileTable) (settings : Settings) (action : Action) :
    Except CommandError Report :=
  ((act action settings : ExceptT CommandError (StateM FileTable) Report).run.run table).1

/-- The exit code of an action on a table of files. -/
def exitOf (table : FileTable) (settings : Settings) (action : Action) : Nat :=
  exitCode (answerOf table settings action)

/-- An action is carried out, prints some lines, and succeeds. -/
structure Succeeds (table : FileTable) (settings : Settings) (action : Action)
    (lines : List String) : Prop where
  answer : answerOf table settings action = .ok (.ofLines lines true)
  exit : exitOf table settings action = 0

def linesOf (records : List (PoseRecord Float)) (json : Bool) : List String :=
  if json then [(Json.array (records.map PoseRecord.toJson)).render]
  else records.map PoseRecord.tableLine

def lineOf (source target : String) (pose : Pose Float) (json : Bool) : String :=
  if json then pose.toJson.render else s!"{source} in {target}: {pose.tableText}"

/-- The model of a document in a table of files. -/
def modelIn (table : FileTable) (settings : Settings) (document : String) :
    Except CommandError LoadedModel :=
  match table.read document with
  | .error error => .error (.file document (.system error))
  | .ok text =>
    match Element.ofText? text with
    | none => .error (.file document .document)
    | some element => .ok (Model.load (element.map Double.toFloat) settings .empty)

variable {table : FileTable} {settings : Settings} {document : String}

/-- What follows a step that leaves the state sees the same state. -/
theorem run_bind_of_run {σ ε β γ : Type} {first : ExceptT ε (StateM σ) β} {state : σ}
    {answer : Except ε β} (next : β → ExceptT ε (StateM σ) γ) :
    first.run.run state = (answer, state) →
      (first >>= next).run.run state =
        match answer with
        | .error error => (.error error, state)
        | .ok result => (next result).run.run state := by
  intro leaves
  rw [ExceptT.run_bind, StateT.run_bind, leaves]
  cases answer with
  | error error => rfl
  | ok result => rfl

theorem run_readModel :
    (readModel document settings : ExceptT CommandError (StateM FileTable) LoadedModel).run.run
      table = (modelIn table settings document, table) := by
  have read : (liftM (Files.read document : StateM FileTable (Except SystemError String)) :
      ExceptT CommandError (StateM FileTable) _).run.run table =
        (.ok (table.read document), table) := rfl
  unfold readModel modelIn
  rw [run_bind_of_run _ read]
  cases table.read document with
  | error error => rfl
  | ok text =>
      dsimp only
      cases Element.ofText? text with
      | none => rfl
      | some element => rfl

/-- An action that reads a model and answers from it. -/
theorem answerOf_of_reads {action : Action} {answer : LoadedModel → Except CommandError Report}
    {next : LoadedModel → ExceptT CommandError (StateM FileTable) Report}
    (reads : act action settings = readModel document settings >>= next)
    (answers : ∀ loaded, (next loaded).run.run table = (answer loaded, table)) :
    answerOf table settings action = (modelIn table settings document).bind answer := by
  unfold answerOf
  rw [reads, run_bind_of_run _ run_readModel]
  cases modelIn table settings document with
  | error error => rfl
  | ok loaded => exact congrArg Prod.fst (answers loaded)

theorem answerOf_check :
    answerOf table settings (.check document) =
      (modelIn table settings document).bind fun loaded => .ok (checkReport document loaded) :=
  answerOf_of_reads rfl fun _ => rfl

theorem answerOf_poses {frame : Option String} {json : Bool} :
    answerOf table settings (.poses document frame json) =
      (modelIn table settings document).bind fun loaded =>
        .ok (posesReport loaded frame json) :=
  answerOf_of_reads rfl fun _ => rfl

theorem answerOf_pose {source target : String} {json : Bool} :
    answerOf table settings (.pose document source target json) =
      (modelIn table settings document).bind fun loaded =>
        poseReport loaded source target json := by
  apply answerOf_of_reads rfl
  intro loaded
  cases poseReport loaded source target json with
  | error error => rfl
  | ok report => rfl

theorem exists_element_of_modelIn {loaded : LoadedModel}
    (isLoaded : modelIn table settings document = .ok loaded) :
    ∃ element, loaded = Model.load element settings .empty := by
  unfold modelIn at isLoaded
  split at isLoaded
  · cases isLoaded
  · split at isLoaded
    · cases isLoaded
    · cases isLoaded
      exact ⟨_, rfl⟩

/-- A check succeeds exactly on the documents that load without a report. -/
theorem exitOf_check_eq_zero_iff :
    exitOf table settings (.check document) = 0 ↔
      ∃ loaded, modelIn table settings document = .ok loaded ∧ loaded.diagnostics = [] := by
  unfold exitOf
  rw [answerOf_check]
  cases modelIn table settings document with
  | error problem =>
      refine iff_of_false ?_ ?_
      · cases problem with
        | usage | file | pose => exact nofun
      · rintro ⟨loaded, isLoaded, -⟩
        cases isLoaded
  | ok loaded =>
      have clean : (checkReport document loaded).clean = loaded.diagnostics.isEmpty := by
        unfold checkReport
        cases loaded.diagnostics.isEmpty <;> rfl
      simp only [Except.bind, exitCode, clean, Except.ok.injEq, exists_eq_left',
        List.isEmpty_iff, ite_eq_left_iff, one_ne_zero, imp_false, not_not]

theorem Succeeds.of_answerOf {action : Action} {lines : List String}
    (answer : answerOf table settings action = .ok (.ofLines lines true)) :
    Succeeds table settings action lines where
  answer := answer
  exit := by
    unfold exitOf
    rw [answer]
    rfl

/-- A table of poses without errors makes the run succeed. -/
theorem succeeds_poses {loaded : LoadedModel} {frame : Option String} {asked : String}
    (isLoaded : modelIn table settings document = .ok loaded)
    (isAsked : frame.getD (loaded.entity.rootFrame loaded.store) = asked)
    (resolved : ∀ record ∈ loaded.entity.poseRecords loaded.store asked,
      ∃ pose, record.outcome = .ok pose) (json : Bool) :
    Succeeds table settings (.poses document frame json)
      (linesOf (loaded.entity.poseRecords loaded.store asked) json) := by
  have clean : (loaded.entity.poseRecords loaded.store asked).all PoseRecord.isResolved = true := by
    apply List.all_eq_true.mpr
    intro record member
    obtain ⟨pose, outcome⟩ := resolved record member
    unfold PoseRecord.isResolved
    rw [outcome]
  apply Succeeds.of_answerOf
  rw [answerOf_poses, isLoaded]
  simp only [Except.bind, posesReport, isAsked, clean]
  rfl

theorem succeeds_pose {loaded : LoadedModel} {source target : String} {pose : Pose Float}
    (isLoaded : modelIn table settings document = .ok loaded)
    (found : loaded.entity.poseInFrame loaded.store source target = .ok pose) (json : Bool) :
    Succeeds table settings (.pose document source target json)
      [lineOf source target pose json] := by
  have reported : poseReport loaded source target json =
      .ok (.ofLines [lineOf source target pose json] true) := by
    unfold poseReport
    rw [found]
    rfl
  apply Succeeds.of_answerOf
  rw [answerOf_pose, isLoaded]
  exact reported

/-- A loaded document has a vertex for its root and for each entity, and one component more
than there are reports of frames that are not connected.  So for a document that is checked
without a report, with a root that has a name, the table in the frame of the root, or in any
that has the name of the root or of an entity, has a record of every entity with its pose, and
is printed without a failure; and so is the pose of every frame in every other one. -/
theorem check_promises_poses :
    (∀ (α : Type) [Scalar α] (element : Element α) (settings : Settings) (store : GraphStore α),
      element.kind = "model" →
        let loaded := Model.load element settings store
        let graph := loaded.store.graph loaded.entity.graph
        graph.vertices.length =
            1 + loaded.entity.links.length + loaded.entity.joints.length +
              loaded.entity.lights.length ∧
          Nat.card graph.Component =
            1 + loaded.diagnostics.countP fun fault => fault.code == .frameGraphError) ∧
      ∀ (table : FileTable) (settings : Settings) (document : String),
        settings.rootFrame ≠ "" → exitOf table settings (.check document) = 0 →
          ∃ loaded : LoadedModel,
            (readModel document settings :
              ExceptT CommandError (StateM FileTable) LoadedModel).run.run table =
                (.ok loaded, table) ∧
            (∀ frame : Option String,
              (∀ name ∈ frame, name ≠ "" ∧
                (name = settings.rootFrame ∨
                  ∃ entity ∈ loaded.entity.placed, name = entity.frame.name loaded.store)) →
              let asked := frame.getD settings.rootFrame
              let records := loaded.entity.poseRecords loaded.store asked
              List.Forall₂ (fun entity record => record.Tells loaded.store asked entity)
                  loaded.entity.placed records ∧
                ∀ json, Succeeds table settings (.poses document frame json)
                  (linesOf records json)) ∧
            let graph := loaded.store.graph loaded.entity.graph
            ∀ source ∈ graph.names, ∀ target ∈ graph.names,
              ∃ u v pose, graph.vertices.findIdx? (·.name == source) = some u ∧
                graph.vertices.findIdx? (·.name == target) = some v ∧
                graph.Resolves ⟨u⟩ ⟨v⟩ pose ∧
                ∀ json, Succeeds table settings (.pose document source target json)
                  [lineOf source target pose json] := by
  constructor
  · intro α _ element settings store isModel loaded graph
    refine ⟨?_, Model.card_component_load isModel⟩
    have count := Model.length_frames settings store isModel
    simp only [graph, loaded]
    rw [Model.graphOf_load settings store isModel, Model.length_vertices_graphOf, count]
    omega
  · -- Without a report there is one component, and a pose between any two frames in it.
    intro table settings document rootNamed success
    obtain ⟨loaded, isLoaded, clean⟩ := exitOf_check_eq_zero_iff.mp success
    obtain ⟨element, rfl⟩ := exists_element_of_modelIn isLoaded
    have isModel := Model.kind_of_clean settings .empty clean
    have root := Model.rootFrame_load settings .empty isModel
    refine ⟨_, run_readModel.trans (congrArg (·, table) isLoaded), ?_, ?_⟩
    · intro frame isFrame asked records
      have asks : asked ≠ "" ∧ (asked = settings.rootFrame ∨
          ∃ entity ∈ (Model.load element settings .empty).entity.placed,
            asked = entity.frame.name (Model.load element settings .empty).store) := by
        cases frame with
        | none => exact ⟨rootNamed, .inl rfl⟩
        | some name => exact isFrame name rfl
      have known := Model.mem_frameNames isModel (asks.2.imp_left fun same => same.trans root.symm)
      constructor
      · simp only [records]
        rw [Model.poseRecords_eq, List.forall₂_map_right_iff, List.forall₂_same]
        exact fun entity => Model.tells_record_of_clean clean asks.1 known
      · refine succeeds_poses isLoaded (congrArg frame.getD root) ?_
        intro record member
        rw [Model.poseRecords_eq] at member
        obtain ⟨entity, isPlaced, rfl⟩ := List.mem_map.mp member
        obtain ⟨pose, outcome, -⟩ :=
          (Model.tells_record_of_clean clean asks.1 known isPlaced).resolved
        exact ⟨pose, outcome⟩
    · intro graph source starts target ends
      obtain ⟨u, v, pose, firstSource, firstTarget, found, resolves⟩ :=
        (Model.connected_of_clean clean).exists_poseInFrame starts ends
      have answer : Model.poseInFrame _ _ source target = .ok pose :=
        congrArg (Except.mapError PoseError.resolve) found
      exact ⟨u, v, pose, firstSource, firstTarget, resolves, succeeds_pose isLoaded answer⟩

/-- A gate at a post, and a lamp in a frame that there is not. -/
def yard : Element Float :=
  let placedIn (reference : String) : Element Float :=
    ⟨"pose", .ofList [("relative_to", .string reference)], none, []⟩
  { kind := "model"
    attributes := .ofList [("name", .string "yard")]
    value := none
    children :=
      [⟨"link", .ofList [("name", .string "post")], none, []⟩,
        ⟨"link", .ofList [("name", .string "gate")], none, [placedIn "post"]⟩,
        ⟨"light", .ofList [("name", .string "lamp")], none, [placedIn "nowhere"]⟩] }

/-- The text of a document with two links, one in the frame of the other. -/
def cartText : String :=
  "(kind: \"model\", attributes: \x7b\"name\": String(\"cart\")\x7d, children: [" ++
    "(kind: \"link\", attributes: \x7b\"name\": String(\"base\")\x7d)," ++
    "(kind: \"link\", attributes: \x7b\"name\": String(\"arm\")\x7d, children: [" ++
    "(kind: \"pose\", attributes: \x7b\"relative_to\": String(\"base\")\x7d)])])"

def garage : FileTable := ⟨[(⟨.above 0, ["cart"]⟩, cartText)]⟩

theorem read_garage : garage.read "cart" = .ok cartText := by
  have alone : FileTable.parts "cart" = ["cart"] := by
    unfold FileTable.parts String.splitOn
    -- One round for every character, and one for the end.
    rw [String.splitOnAux, String.splitOnAux, String.splitOnAux, String.splitOnAux,
      String.splitOnAux]
    decide +kernel
  unfold FileTable.read FileTable.locate
  rw [alone]
  decide +kernel

theorem exists_modelIn_garage :
    ∃ loaded, modelIn garage .default "cart" = .ok loaded ∧ loaded.diagnostics = [] ∧
      (loaded.store.graph loaded.entity.graph).names = ["__model__", "base", "arm"] ∧
      (loaded.entity.placed.map fun entity => entity.frame.name loaded.store) =
        ["base", "arm"] := by
  have contents : (modelIn garage .default "cart").map (fun loaded =>
      (loaded.diagnostics.length, loaded.entity.frameNames loaded.store,
        loaded.entity.placed.map fun entity => entity.frame.name loaded.store)) =
      .ok (0, ["__model__", "base", "arm"], ["base", "arm"]) := by
    unfold modelIn
    rw [read_garage]
    decide +kernel
  cases isLoaded : modelIn garage .default "cart" with
  | error problem =>
      rw [isLoaded] at contents
      cases contents
  | ok loaded =>
      rw [isLoaded] at contents
      obtain ⟨clean, rest⟩ := Prod.mk.inj (Except.ok.inj contents)
      obtain ⟨names, placed⟩ := Prod.mk.inj rest
      exact ⟨loaded, rfl, List.eq_nil_of_length_eq_zero clean, names, placed⟩

theorem check_promises_poses_garage :
    let yard := Model.load yard .default .empty
    let graph := yard.store.graph yard.entity.graph
    (graph.vertices.length = 4 ∧ Nat.card graph.Component = 2) ∧
    exitOf garage .default (.check "cart") = 0 ∧
      ∃ loaded : LoadedModel,
        (readModel "cart" .default :
          ExceptT CommandError (StateM FileTable) LoadedModel).run.run garage =
            (.ok loaded, garage) ∧
        let records := loaded.entity.poseRecords loaded.store "base"
        records.map PoseRecord.name = ["base", "arm"] ∧
        (∀ json, Succeeds garage .default (.poses "cart" (some "base") json)
          (linesOf records json)) ∧
        ∃ pose, (loaded.store.graph loaded.entity.graph).Resolves ⟨2⟩ ⟨0⟩ pose ∧
          ∀ json, Succeeds garage .default (.pose "cart" "arm" "__model__" json)
            [lineOf "arm" "__model__" pose json] := by
  intro yard graph
  have components := check_promises_poses.1 Float Command.yard .default .empty rfl
  obtain ⟨loaded, isModel, clean, frames, placed⟩ := exists_modelIn_garage
  have checked : exitOf garage .default (.check "cart") = 0 :=
    exitOf_check_eq_zero_iff.mpr ⟨loaded, isModel, clean⟩
  obtain ⟨other, isLoaded, poses, pairs⟩ :=
    check_promises_poses.2 garage .default "cart" (by decide) checked
  rw [run_readModel, isModel] at isLoaded
  obtain rfl : loaded = other := Except.ok.inj (Prod.mk.inj isLoaded).1
  refine ⟨⟨components.1.trans ?_, components.2.trans ?_⟩, checked, loaded, ?_, ?_⟩
  · decide +kernel
  · decide +kernel
  · rw [run_readModel, isModel]
  · have isBase : ∃ entity ∈ loaded.entity.placed, "base" = entity.frame.name loaded.store := by
      have first : "base" ∈ loaded.entity.placed.map fun entity =>
          entity.frame.name loaded.store := by
        rw [placed]
        exact List.mem_cons_self
      obtain ⟨entity, isPlaced, isName⟩ := List.mem_map.mp first
      exact ⟨entity, isPlaced, isName.symm⟩
    obtain ⟨told, printed⟩ := poses (some "base") fun name isName => by
      obtain rfl := Option.some.inj isName
      exact ⟨by decide, .inr isBase⟩
    have recorded : loaded.entity.placed.map (fun entity => entity.frame.name loaded.store) =
        (loaded.entity.poseRecords loaded.store "base").map PoseRecord.name := by
      rw [← List.forall₂_eq_eq_eq, List.forall₂_map_left_iff, List.forall₂_map_right_iff]
      exact told.imp fun _ _ tells => tells.name.symm
    obtain ⟨u, v, pose, isArm, isRoot, resolves, answered⟩ :=
      pairs "arm" (by simp [frames]) "__model__" (by simp [frames])
    rw [← FrameGraph.findIdx?_names, frames] at isArm isRoot
    obtain rfl : 2 = u := Option.some.inj isArm
    obtain rfl : 0 = v := Option.some.inj isRoot
    exact ⟨recorded.symm.trans placed, printed, pose, resolves, answered⟩

end Command

end Kinematics
