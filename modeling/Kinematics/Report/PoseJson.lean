import Kinematics.Report.Json
import Kinematics.Report.PoseTable

/-!
# Poses as JSON

A single pose is told by its position and rotation, the record of an entity by its
position and angles, or by the reason why it has no pose.
-/

namespace Kinematics

def Json.numbers (values : List Float) : Json :=
  .array (values.map .number)

/-- A pose: its position, and its rotation with the scalar part last. -/
def Pose.toJson (pose : Pose Float) : Json :=
  .object
    [("position", .numbers pose.position.toList), ("rotation", .numbers pose.rotation.toList)]

/-- The pose of an entity, or why there is none. -/
def PoseRecord.toJson (record : PoseRecord Float) : Json :=
  let outcome :=
    match record.outcome with
    | .ok pose =>
      [("position", Json.numbers pose.position.toList),
        ("rpy", Json.numbers pose.rollPitchYaw.toList)]
    | .error error => [("error", Json.string error.message)]
  .object
    ([("kind", .string record.kind.label), ("name", .string record.name),
      ("frame", .string record.frame)] ++ outcome)

end Kinematics
