import Kinematics.Entity.Axis
import Kinematics.Entity.Light

/-!
# Settings of lights and axes

What can be set on a light or an axis after it has been loaded, one value at a time.
The values of a light go through the same bounds as those that are loaded.
-/

namespace Kinematics

/-- One thing to set on a light. -/
inductive LightSetting (α : Type) where
  | type (type : LightType)
  | castShadows (cast : Bool)
  | diffuse (color : Color)
  | specular (color : Color)
  | range (value : α)
  | linear (value : α)
  | constant (value : α)
  | quadratic (value : α)
  | direction (xyz : Vec3 α)
  | innerAngle (value : α)
  | outerAngle (value : α)
  | falloff (value : α)

/-- One thing to set on an axis, besides its direction. -/
inductive AxisSetting (α : Type) where
  | useParentModelFrame (use : Bool)
  | lower (value : α)
  | upper (value : α)
  | effort (value : α)
  | velocity (value : α)
  | damping (value : α)
  | friction (value : α)
  | springReference (value : α)
  | springStiffness (value : α)

variable {α : Type} [Scalar α]

def Light.set (light : Light α) : LightSetting α → Light α
  | .type type => light.setType type
  | .castShadows cast => { light with castShadows := cast }
  | .diffuse color => { light with diffuse := color }
  | .specular color => { light with specular := color }
  | .range value => { light with attenuation := light.attenuation.setRange value }
  | .linear value => { light with attenuation := light.attenuation.setLinear value }
  | .constant value => { light with attenuation := light.attenuation.setConstant value }
  | .quadratic value => { light with attenuation := light.attenuation.setQuadratic value }
  | .direction xyz => { light with direction := xyz }
  | .innerAngle value => { light with spot := light.spot.setInnerAngle value }
  | .outerAngle value => { light with spot := light.spot.setOuterAngle value }
  | .falloff value => { light with spot := light.spot.setFalloff value }

/-- An axis with one thing set.  Limits and dynamics are not checked. -/
def Axis.set {α : Type} (axis : Axis α) : AxisSetting α → Axis α
  | .useParentModelFrame use => { axis with useParentModelFrame := use }
  | .lower value => { axis with limit.lower := value }
  | .upper value => { axis with limit.upper := value }
  | .effort value => { axis with limit.effort := value }
  | .velocity value => { axis with limit.velocity := value }
  | .damping value => { axis with dynamics.damping := value }
  | .friction value => { axis with dynamics.friction := value }
  | .springReference value => { axis with dynamics.springReference := value }
  | .springStiffness value => { axis with dynamics.springStiffness := value }

end Kinematics
