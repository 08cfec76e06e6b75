import Kinematics.Decimal.Layout
import Kinematics.Frame.Graph

/-!
# Load diagnostics

Loading never stops at a fault in a document.  What it finds is collected in order,
each fault with its cause.
-/

namespace Kinematics

/-- What an element can be loaded as. -/
inductive EntityKind where
  | model
  | link
  | joint
  | axis
  | light
  deriving DecidableEq

namespace EntityKind

/-- The kind in words, which is also the kind of its elements. -/
def label : EntityKind → String
  | model => "model"
  | link => "link"
  | joint => "joint"
  | axis => "axis"
  | light => "light"

end EntityKind

/-- Category of a diagnostic. -/
inductive DiagnosticCode where
  | elementIncorrectType
  | attributeMissing
  | attributeInvalid
  | elementMissing
  | functionArgumentMissing
  | frameGraphError
  | reservedName
  | duplicateName
  deriving DecidableEq

namespace DiagnosticCode

def all : List DiagnosticCode :=
  [elementIncorrectType, attributeMissing, attributeInvalid, elementMissing,
    functionArgumentMissing, frameGraphError, reservedName, duplicateName]

def label : DiagnosticCode → String
  | elementIncorrectType => "ElementIncorrectType"
  | attributeMissing => "AttributeMissing"
  | attributeInvalid => "AttributeInvalid"
  | elementMissing => "ElementMissing"
  | functionArgumentMissing => "FunctionArgumentMissing"
  | frameGraphError => "FrameGraphError"
  | reservedName => "ReservedName"
  | duplicateName => "DuplicateName"

/-- Whether nothing else of the element is loaded. -/
def isFatal (code : DiagnosticCode) : Bool :=
  code == elementIncorrectType

end DiagnosticCode

/-- One fault found while loading. -/
inductive Diagnostic (α : Type) where
  | wrongKind (expected : EntityKind)
  | nameMissing (kind : EntityKind)
  | nameReserved (kind : EntityKind) (name : String)
  | nameDuplicate (kind : EntityKind) (name : String)
  | parentMissing
  | childMissing
  | jointTypeMissing
  | jointTypeInvalid (text : String) (valid : List String)
  | axisMissing
  | axisInvalid (xyz : Vec3 α)
  | lightTypeInvalid (text : String)
  | rangeMissing
  | directionMissing (typeText : String)
  | spotIncomplete (missing : String)
  | graphMissing
  | referenceUnknown (owner name reference : String)
  | referenceShared (owner name reference : String) (count : Nat)
  | referenceRefused (owner name reference : String) (error : GraphError)

namespace Diagnostic

def code {α : Type} : Diagnostic α → DiagnosticCode
  | wrongKind _ => .elementIncorrectType
  | nameMissing _ | jointTypeMissing => .attributeMissing
  | nameReserved _ _ => .reservedName
  | nameDuplicate _ _ => .duplicateName
  | parentMissing | childMissing | axisMissing | rangeMissing | directionMissing _
  | spotIncomplete _ => .elementMissing
  | jointTypeInvalid _ _ | axisInvalid _ | lightTypeInvalid _ => .attributeInvalid
  | graphMissing => .functionArgumentMissing
  | referenceUnknown _ _ _ | referenceShared _ _ _ _ | referenceRefused _ _ _ _ =>
    .frameGraphError

def vectorText (vector : Vec3 Float) : String :=
  "[" ++ ", ".intercalate (vector.toList.map Layout.message.renderFloat) ++ "]"

/-- What a loader calls the entity that it expects. -/
def expectedName : EntityKind → String
  | .model => "Model"
  | .link => "Link"
  | .joint => "Joint"
  | .axis => "JointAxis"
  | .light => "Light"

/-- The elements that a loader expects, with the article for them. -/
def expectedElements : EntityKind → String
  | .model => "a <model>"
  | .link => "a <link>"
  | .joint => "a <joint>"
  | .axis => "an <axis> or <axis2>"
  | .light => "a <light>"

def message : Diagnostic Float → String
  | wrongKind expected =>
    s!"Attempting to load a {expectedName expected}, but the provided element is not " ++
      s!"{expectedElements expected}."
  | nameMissing kind => s!"A {kind.label} name is required, but the name is not set."
  | nameReserved kind name => s!"The supplied {kind.label} name [{name}] is reserved."
  | nameDuplicate kind name => s!"A {kind.label} with name [{name}] already exists."
  | parentMissing => "The parent element is missing."
  | childMissing => "The child element is missing."
  | jointTypeMissing => "A joint type is required, but is not set."
  | jointTypeInvalid text valid =>
    s!"Joint type of {text} is invalid. Valid joint types are: " ++ ", ".intercalate valid ++ "."
  | axisMissing => "The xyz element in joint axis is required"
  | axisInvalid xyz => s!"The xyz value {vectorText xyz} of a joint axis has zero length."
  | lightTypeInvalid text => s!"Invalid light type with a value of [{text}]."
  | rangeMissing => "An <attenuation> requires a <range>."
  | directionMissing typeText => s!"A <direction> is required for a {typeText} light."
  | spotIncomplete missing => s!"A spot light requires {missing}."
  | graphMissing => "A frame graph is required to compute pose information."
  | referenceUnknown owner name reference =>
    s!"The {owner} [{name}] references frame [{reference}], which is not in the frame graph."
  | referenceShared owner name reference count =>
    s!"The {owner} [{name}] references frame [{reference}], which is shared by {count} frames."
  | referenceRefused owner name reference error =>
    s!"Unable to connect {owner} [{name}] to frame [{reference}]: {error.message}"

/-- The fault with its category in front. -/
def render (diagnostic : Diagnostic Float) : String :=
  s!"[{diagnostic.code.label}] {diagnostic.message}"

end Diagnostic

end Kinematics
