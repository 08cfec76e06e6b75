import Kinematics.Decimal.Binary
import Kinematics.Decimal.Rounding
import Kinematics.Decimal.Shortest
import Kinematics.Decimal.Word
import Kinematics.Decimal.Layout
import Kinematics.Scalar
import Kinematics.Geometry.Vec3
import Kinematics.Geometry.Quaternion
import Kinematics.Geometry.Pose
import Kinematics.Geometry.Transform
import Kinematics.Frame.Edge
import Kinematics.Frame.Graph
import Kinematics.Frame.Keyed
import Kinematics.Frame.Path
import Kinematics.Frame.Query
import Kinematics.Frame.Store
import Kinematics.Text.CodeRange
import Kinematics.Text.Identifier
import Kinematics.Text.Printable
import Kinematics.Text.Reader
import Kinematics.Text.Quoted
import Kinematics.Text.Number
import Kinematics.Document.Dialect
import Kinematics.Document.Skip
import Kinematics.Document.Value
import Kinematics.Document.Element
import Kinematics.Document.Read
import Kinematics.Document.Write
import Kinematics.Settings
import Kinematics.Entity.Diagnostic
import Kinematics.Entity.Axis
import Kinematics.Entity.Binding
import Kinematics.Entity.Link
import Kinematics.Entity.Joint
import Kinematics.Entity.Light
import Kinematics.Entity.Setting
import Kinematics.Model
import Kinematics.Scene.Member
import Kinematics.Scene.Basic
import Kinematics.Scene.Operation
import Kinematics.Scene.Action
import Kinematics.Report.Json
import Kinematics.Report.PoseTable
import Kinematics.Report.PoseJson
import Kinematics.Command.Argument
import Kinematics.Command.Files
import Kinematics.Command.FileTable
import Kinematics.Command.Invocation
import Kinematics.Command.Help
import Kinematics.Command.Run
import Kinematics.Main
import Kinematics.Proofs.Decimal.Order
import Kinematics.Proofs.Decimal.Rounding
import Kinematics.Proofs.Decimal.Nearest
import Kinematics.Proofs.Decimal.Shortest
import Kinematics.Proofs.Decimal.Words
import Kinematics.Proofs.Geometry.Exact
import Kinematics.Proofs.Geometry.Rigid
import Kinematics.Proofs.Geometry.Decomposition
import Kinematics.Proofs.Geometry.Angles
import Kinematics.Proofs.Geometry.Division
import Kinematics.Proofs.Geometry.Group
import Kinematics.Proofs.Geometry.Turns
import Kinematics.Proofs.Geometry.UnitRotations
import Kinematics.Proofs.Frame.Rounds
import Kinematics.Proofs.Frame.Store
import Kinematics.Proofs.Frame.Walk
import Kinematics.Proofs.Frame.PathOrder
import Kinematics.Proofs.Frame.Reachable
import Kinematics.Proofs.Frame.Integrity
import Kinematics.Proofs.Frame.Naming
import Kinematics.Proofs.Frame.Extension
import Kinematics.Proofs.Frame.Positions
import Kinematics.Proofs.Frame.Search
import Kinematics.Proofs.Frame.Unwinding
import Kinematics.Proofs.Frame.EarliestPath
import Kinematics.Proofs.Frame.Composition
import Kinematics.Proofs.Frame.Forest
import Kinematics.Proofs.Frame.Growth
import Kinematics.Proofs.Frame.Incidence
import Kinematics.Proofs.Frame.Lineage
import Kinematics.Proofs.Frame.Components
import Kinematics.Proofs.Frame.Embedding
import Kinematics.Proofs.Frame.Climbing
import Kinematics.Proofs.Frame.Descendants
import Kinematics.Proofs.Frame.Insertion
import Kinematics.Proofs.Frame.Outcomes
import Kinematics.Proofs.Frame.Products
import Kinematics.Proofs.Frame.Holonomy
import Kinematics.Proofs.Frame.Renaming
import Kinematics.Proofs.Frame.SearchTree
import Kinematics.Proofs.Frame.Subforest
import Kinematics.Proofs.Frame.Wiring
import Kinematics.Proofs.Text.Reading
import Kinematics.Proofs.Text.Number
import Kinematics.Proofs.Text.Quoted
import Kinematics.Proofs.Document.Reading
import Kinematics.Proofs.Document.Repeats
import Kinematics.Proofs.Document.RoundTrip
import Kinematics.Proofs.Document.NestingLimit
import Kinematics.Proofs.Document.Settings
import Kinematics.Proofs.Entity.Loading
import Kinematics.Proofs.Entity.PoseFrame
import Kinematics.Proofs.Entity.Reports
import Kinematics.Proofs.Entity.Attachment
import Kinematics.Proofs.Model.Frames
import Kinematics.Proofs.Model.Loading
import Kinematics.Proofs.Model.Editing
import Kinematics.Proofs.Model.Entities
import Kinematics.Proofs.Model.Contents
import Kinematics.Proofs.Model.Acceptance
import Kinematics.Proofs.Model.Children
import Kinematics.Proofs.Model.Alike
import Kinematics.Proofs.Model.Deletion
import Kinematics.Proofs.Model.EntityQuery
import Kinematics.Proofs.Model.Query
import Kinematics.Proofs.Model.Strictness
import Kinematics.Proofs.Scene.Forest
import Kinematics.Proofs.Scene.Frames
import Kinematics.Proofs.Scene.Members
import Kinematics.Proofs.Scene.Relocation
import Kinematics.Proofs.Scene.Isolation
import Kinematics.Proofs.Scene.Motion
import Kinematics.Proofs.Scene.Readback
import Kinematics.Proofs.Scene.Reload
import Kinematics.Proofs.Scene.Properties
import Kinematics.Proofs.Scene.Axes
import Kinematics.Proofs.Scene.Photometry
import Kinematics.Proofs.Scene.Session
import Kinematics.Proofs.Report.PoseTable
import Kinematics.Proofs.Command.CleanCheck
