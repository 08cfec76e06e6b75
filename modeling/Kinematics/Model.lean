import Kinematics.Entity.Joint
import Kinematics.Entity.Light

/-!
# Models

A model is a whole document: links, joints and lights in one frame graph with an
implicit root.  Links are loaded first, then joints, then lights, each in the order of
the document, so a joint may refer to a link that is written after it.
-/

namespace Kinematics

variable {α : Type} [Scalar α]

/-- Entities loaded one after the other. -/
structure LoadedAll (α ε : Type) where
  store : GraphStore α
  entities : List ε
  diagnostics : List (Diagnostic α)

namespace LoadedAll

variable {ε : Type}

/-- One entity, and those loaded after it. -/
def cons (first : Loaded α ε) (rest : GraphStore α → LoadedAll α ε) : LoadedAll α ε :=
  let rest := rest first.store
  { rest with
    entities := first.entity :: rest.entities
    diagnostics := first.diagnostics ++ rest.diagnostics }

/-- All entities that elements describe. -/
def each (load : Element α → GraphStore α → Loaded α ε) :
    List (Element α) → GraphStore α → LoadedAll α ε
  | [], store => ⟨store, [], []⟩
  | element :: rest, store => cons (load element store) (each load rest)

/-- The entities that elements of one kind describe, except those whose name an earlier
one has already.  Elements without a name are not compared. -/
def distinct (kind : EntityKind) (load : Element α → GraphStore α → Loaded α ε) :
    List String → List (Element α) → GraphStore α → LoadedAll α ε
  | _, [], store => ⟨store, [], []⟩
  | taken, element :: rest, store =>
    match element.name? with
    | none => cons (load element store) (distinct kind load taken rest)
    | some name =>
      if name ∈ taken then
        let rest := distinct kind load taken rest store
        { rest with diagnostics := .nameDuplicate kind name :: rest.diagnostics }
      else
        cons (load element store) (distinct kind load (name :: taken) rest)

end LoadedAll

/-- A loaded document. -/
structure Model (α : Type) where
  name : String
  links : List (Link α)
  joints : List (Joint α)
  lights : List (Light α)
  graph : GraphId
  element : Option (Element α)

namespace Model

/-- A model that has not been loaded, with a graph of its own. -/
def new (store : GraphStore α) : GraphStore α × Model α :=
  let (store, graph) := store.create .empty
  (store, ⟨"", [], [], [], graph, none⟩)

def load (element : Element α) (settings : Settings) (store : GraphStore α) :
    Loaded α (Model α) :=
  if element.kind = "model" then
    let (store, graph) := store.create (.withRoot settings.rootFrame)
    let tieBreak := settings.tieBreak
    let links :=
      LoadedAll.distinct .link (fun child => Link.load child (some graph) tieBreak) []
        (element.elements "link") store
    let joints :=
      LoadedAll.distinct .joint (fun child => Joint.load child (some graph) tieBreak) []
        (element.elements "joint") links.store
    let lights :=
      LoadedAll.each (fun child => Light.load child (some graph) tieBreak)
        (element.elements "light") joints.store
    { store := lights.store
      entity :=
        { name := element.name?.getD "", links := links.entities, joints := joints.entities
          lights := lights.entities, graph, element := some element }
      diagnostics :=
        Joint.reportMissing element.name? (.nameMissing .model) ++ links.diagnostics ++
          joints.diagnostics ++ lights.diagnostics }
  else
    let (store, model) := new store
    ⟨store, { model with element := some element }, [.wrongKind .model]⟩

def linkIndex? (model : Model α) (store : GraphStore α) (name : String) : Option Nat :=
  model.links.findIdx? fun link => link.name store == name

def jointIndex? (model : Model α) (store : GraphStore α) (name : String) : Option Nat :=
  model.joints.findIdx? fun joint => joint.name store == name

/-- The first link that currently has a name. -/
def link? (model : Model α) (store : GraphStore α) (name : String) : Option (Link α) :=
  (model.linkIndex? store name).bind fun index => model.links[index]?

/-- The first joint that currently has a name. -/
def joint? (model : Model α) (store : GraphStore α) (name : String) : Option (Joint α) :=
  (model.jointIndex? store name).bind fun index => model.joints[index]?

def setLink (model : Model α) (index : Nat) (link : Link α) : Model α :=
  { model with links := model.links.set index link }

def setJoint (model : Model α) (index : Nat) (joint : Joint α) : Model α :=
  { model with joints := model.joints.set index joint }

/-- The current name of the root frame, empty if there is none. -/
def rootFrame (model : Model α) (store : GraphStore α) : String :=
  (store.graph model.graph).rootName?.getD ""

def poseInFrame (model : Model α) (store : GraphStore α) (source target : String) :
    Except PoseError (Pose α) :=
  ((store.graph model.graph).poseInFrame source target).mapError .resolve

end Model

end Kinematics
