import Kinematics.Proofs.Decimal.Order
import Kinematics.Proofs.Scene.Properties

/-!
# Photometric values of lights

Seven numbers say how a light fades and how wide its cone is.  Wherever one is given, by an
element or by a setting, it is brought into its bounds first.  Five of them are never negative,
whatever numbers were given.  The two factors are in the unit interval exactly if what was given
last is a number: what is not a number goes through these bounds unchanged.
-/

namespace Kinematics

namespace Light

/-- The numbers that say how far and how wide a light shines. -/
inductive Quantity where
  | range
  | linear
  | constant
  | quadratic
  | innerAngle
  | outerAngle
  | falloff

/-- One thing that happens to a light, or to the graphs while it stays as it is. -/
inductive Event (α : Type) where
  | load (element : Element α) (graph : Option GraphId) (tieBreak : TieBreak)
  | rename (name : String)
  | move (pose : Pose α)
  | poseFrame (frame : String)
  | set (setting : LightSetting α)
  | elsewhere (store : GraphStore α)

/-- The graphs and the light after an event. -/
def after {α : Type} [Scalar α] (state : GraphStore α × Light α) :
    Event α → GraphStore α × Light α
  | .load element graph tieBreak =>
    let loaded := load element graph tieBreak state.1
    (loaded.store, loaded.entity)
  | .rename name => (state.2.setName state.1 name, state.2)
  | .move pose => state.2.setPose state.1 pose
  | .poseFrame frame => (state.1, (state.2.setPoseFrame frame).1)
  | .set setting => (state.1, state.2.set setting)
  | .elsewhere store => (store, state.2)

namespace Quantity

def isFactor : Quantity → Bool
  | linear | constant => true
  | _ => false

/-- The bounds of a quantity: factors are in the unit interval, others are not negative. -/
def bound (quantity : Quantity) (number : Float) : Float :=
  if quantity.isFactor then Scalar.clampUnit number else Scalar.positivePart number

/-- Whether a number is one that a light can have for a quantity. -/
def Admits (quantity : Quantity) (number : Float) : Prop :=
  if quantity.isFactor then InUnitInterval number ∨ number.isNaN else (0.0 : Float) ≤ number

def value (light : Light Float) : Quantity → Float
  | range => light.attenuation.range
  | linear => light.attenuation.linear
  | constant => light.attenuation.constant
  | quadratic => light.attenuation.quadratic
  | innerAngle => light.spot.innerAngle
  | outerAngle => light.spot.outerAngle
  | falloff => light.spot.falloff

def initial : Quantity → Float
  | range => 10.0
  | linear | constant => 1.0
  | _ => 0.0

def name : Quantity → String
  | range => "range"
  | linear => "linear"
  | constant => "constant"
  | quadratic => "quadratic"
  | innerAngle => "inner_angle"
  | outerAngle => "outer_angle"
  | falloff => "falloff"

/-- The child of a light that states a quantity. -/
def part? (element : Element Float) : Quantity → Option (Element Float)
  | range | linear | constant | quadratic => element.first? "attenuation"
  | innerAngle | outerAngle | falloff => spotElement? element

/-- What an element gives for a quantity, if it is one of a light that states it. -/
def stated (element : Element Float) (quantity : Quantity) : Float :=
  let part := if element.kind = "light" then quantity.part? element else none
  (part.bind fun part => part.read? Value.toDouble? quantity.name).getD quantity.initial

/-- What a setting gives for a quantity, if it is about that one. -/
def assigned? : Quantity → LightSetting Float → Option Float
  | range, .range number | linear, .linear number | constant, .constant number
  | quadratic, .quadratic number | innerAngle, .innerAngle number
  | outerAngle, .outerAngle number | falloff, .falloff number => some number
  | _, _ => none

/-- What an event gives for a quantity. -/
def given? (quantity : Quantity) : Event Float → Option Float
  | .load element _ _ => some (quantity.stated element)
  | .set setting => quantity.assigned? setting
  | _ => none

/-- What events have given for a quantity last. -/
def givenLast (quantity : Quantity) (events : List (Event Float)) : Float :=
  events.foldl (fun number event => (quantity.given? event).getD number) quantity.initial

theorem bound_initial (quantity : Quantity) :
    quantity.bound quantity.initial = quantity.initial := by
  cases quantity <;> rfl

theorem admits_bound (quantity : Quantity) (number : Float) :
    quantity.Admits (quantity.bound number) := by
  unfold Admits bound
  split
  · cases undefined : number.isNaN with
    | true =>
        right
        rwa [clampUnit_of_isNaN undefined]
    | false => exact .inl (inUnitInterval_clampUnit_iff.mpr undefined)
  · exact nonneg_positivePart number

theorem value_default (frame : Binding) (quantity : Quantity) :
    quantity.value (Light.default frame) = quantity.initial := by
  cases quantity <;> rfl

theorem value_congr {light other : Light Float}
    (attenuation : light.attenuation = other.attenuation) (spot : light.spot = other.spot)
    (quantity : Quantity) :
    quantity.value light = quantity.value other := by
  cases quantity <;> simp only [value, attenuation, spot]

theorem value_load (element : Element Float) (graph : Option GraphId) (tieBreak : TieBreak)
    (store : GraphStore Float) (quantity : Quantity) :
    quantity.value (load element graph tieBreak store).entity =
      quantity.bound (quantity.stated element) := by
  by_cases isLight : element.kind = "light"
  · simp only [load, if_pos isLight, stated]
    cases quantity with
    | range | linear | constant | quadratic =>
        simp only [value, ofElement, part?]
        cases element.first? "attenuation" <;> rfl
    | innerAngle | outerAngle | falloff =>
        simp only [value, ofElement, part?]
        cases spotElement? element <;> rfl
  · simp only [load, if_neg isLight, stated]
    exact (quantity.value_default (new store).2.frame).trans quantity.bound_initial.symm

theorem value_setPose (light : Light Float) (store : GraphStore Float) (pose : Pose Float)
    (quantity : Quantity) : quantity.value (light.setPose store pose).2 = quantity.value light :=
  value_congr rfl rfl quantity

theorem value_setPoseFrame (light : Light Float) (frame : String) (quantity : Quantity) :
    quantity.value (light.setPoseFrame frame).1 = quantity.value light := by
  unfold setPoseFrame
  split
  · rfl
  · exact value_congr rfl rfl quantity

theorem value_set (light : Light Float) (setting : LightSetting Float) (quantity : Quantity) :
    quantity.value (light.set setting) =
      ((quantity.assigned? setting).map quantity.bound).getD (quantity.value light) := by
  cases quantity <;> cases setting <;> rfl

/-- An event puts what it gives for a quantity within its bounds, and leaves alone what it gives
nothing for. -/
theorem value_after (state : GraphStore Float × Light Float) (event : Event Float)
    (quantity : Quantity) :
    quantity.value (after state event).2 =
      ((quantity.given? event).map quantity.bound).getD (quantity.value state.2) := by
  cases event with
  | load element graph tieBreak => exact quantity.value_load element graph tieBreak state.1
  | rename name => rfl
  | move pose => exact quantity.value_setPose state.2 state.1 pose
  | poseFrame frame => exact quantity.value_setPoseFrame state.2 frame
  | set setting => exact quantity.value_set state.2 setting
  | elsewhere store => rfl

/-- A quantity is what was given for it last, within its bounds. -/
theorem value_foldl (store : GraphStore Float) (events : List (Event Float))
    (quantity : Quantity) :
    quantity.value (events.foldl after (new store)).2 =
      quantity.bound (quantity.givenLast events) := by
  unfold givenLast
  -- The number that was given so far is general; only the start is that of a new light.
  have start : quantity.value (new store).2 = quantity.bound quantity.initial :=
    (quantity.value_default _).trans quantity.bound_initial.symm
  generalize new store = state at start
  generalize quantity.initial = number at start
  induction events generalizing state number with
  | nil => exact start
  | cons event rest induction =>
      refine induction (after state event) _ ?_
      rw [value_after, start]
      exact Option.getD_map quantity.bound number (quantity.given? event)

end Quantity

/-- A light whose quantities are within bounds, except for factors that are not numbers. -/
structure Bounded (light : Light Float) : Prop where
  range : (0.0 : Float) ≤ light.attenuation.range
  linear : InUnitInterval light.attenuation.linear ∨ light.attenuation.linear.isNaN
  constant : InUnitInterval light.attenuation.constant ∨ light.attenuation.constant.isNaN
  quadratic : (0.0 : Float) ≤ light.attenuation.quadratic
  innerAngle : (0.0 : Float) ≤ light.spot.innerAngle
  outerAngle : (0.0 : Float) ≤ light.spot.outerAngle
  falloff : (0.0 : Float) ≤ light.spot.falloff

theorem bounded_iff {light : Light Float} :
    light.Bounded ↔ ∀ quantity : Quantity, quantity.Admits (quantity.value light) where
  mp bounded quantity := by
    cases quantity with
    | range => exact bounded.range
    | linear => exact bounded.linear
    | constant => exact bounded.constant
    | quadratic => exact bounded.quadratic
    | innerAngle => exact bounded.innerAngle
    | outerAngle => exact bounded.outerAngle
    | falloff => exact bounded.falloff
  mpr admitted :=
    { range := admitted .range
      linear := admitted .linear
      constant := admitted .constant
      quadratic := admitted .quadratic
      innerAngle := admitted .innerAngle
      outerAngle := admitted .outerAngle
      falloff := admitted .falloff }

section Changes

variable {light : Light Float}

theorem bounded_default (frame : Binding) : (Light.default frame : Light Float).Bounded :=
  bounded_iff.mpr fun quantity => by
    rw [quantity.value_default, ← quantity.bound_initial]
    exact quantity.admits_bound _

theorem bounded_load (element : Element Float) (graph : Option GraphId) (tieBreak : TieBreak)
    (store : GraphStore Float) : (load element graph tieBreak store).entity.Bounded :=
  bounded_iff.mpr fun quantity => by
    rw [quantity.value_load]
    exact quantity.admits_bound _

theorem Bounded.setPose (bounded : light.Bounded) (store : GraphStore Float) (pose : Pose Float) :
    (light.setPose store pose).2.Bounded :=
  bounded_iff.mpr fun quantity => by
    rw [quantity.value_setPose]
    exact bounded_iff.mp bounded quantity

theorem Bounded.setPoseFrame (bounded : light.Bounded) (frame : String) :
    (light.setPoseFrame frame).1.Bounded :=
  bounded_iff.mpr fun quantity => by
    rw [quantity.value_setPoseFrame]
    exact bounded_iff.mp bounded quantity

theorem Bounded.set (bounded : light.Bounded) (setting : LightSetting Float) :
    (light.set setting).Bounded :=
  bounded_iff.mpr fun quantity => by
    rw [quantity.value_set]
    cases quantity.assigned? setting with
    | none => exact bounded_iff.mp bounded quantity
    | some number => exact quantity.admits_bound number

end Changes

/-- Whatever happens to a light, its range, its quadratic factor and its cone are not negative.
Its linear and its constant factor are in the unit interval exactly if what an element or a
setting gave for them last is a number. -/
theorem quantities_bounded (store : GraphStore Float) (events : List (Event Float)) :
    let light := (events.foldl after (new store)).2
    light.Bounded ∧
      (∀ quantity : Quantity, quantity.value light = quantity.bound (quantity.givenLast events)) ∧
      (InUnitInterval light.attenuation.linear ↔
        (Quantity.linear.givenLast events).isNaN = false) ∧
      (InUnitInterval light.attenuation.constant ↔
        (Quantity.constant.givenLast events).isNaN = false) := by
  intro light
  have values := Quantity.value_foldl store events
  have linear : light.attenuation.linear = Scalar.clampUnit (Quantity.linear.givenLast events) :=
    values .linear
  have constant :
      light.attenuation.constant = Scalar.clampUnit (Quantity.constant.givenLast events) :=
    values .constant
  refine ⟨bounded_iff.mpr fun quantity => ?_, values, ?_, ?_⟩
  · rw [values]
    exact quantity.admits_bound _
  · rw [linear]
    exact inUnitInterval_clampUnit_iff
  · rw [constant]
    exact inUnitInterval_clampUnit_iff

/-- A lamp whose linear factor is stated as one that is not a number has that factor. -/
theorem linear_not_inUnitInterval_lamp :
    let attenuation : Element Float :=
      ⟨"attenuation", .ofList [("range", .double 10.0), ("linear", .double (0.0 / 0.0))], none, []⟩
    let lamp : Element Float := ⟨"light", .ofList [("name", .string "lamp")], none, [attenuation]⟩
    let loaded := ([.load lamp none .unique].foldl after (new .empty)).2
    ¬InUnitInterval loaded.attenuation.linear := by
  intro attenuation lamp loaded inside
  have undefined : loaded.attenuation.linear.isNaN = true := by decide
  cases undefined.symm.trans (isNaN_of_float_le inside.1).2

end Light

namespace Member

/-- A member is bounded if it is a light that is, or no light. -/
def BoundedLight : Member Float → Prop
  | light entity => entity.Bounded
  | _ => True

theorem lasting_boundedLight : Lasting BoundedLight where
  new store kind := by
    cases kind with
    | light => exact Light.bounded_default _
    | link | joint | axis | binding | model => trivial
  load {member} source store bounded := by
    cases member with
    | light => exact Light.bounded_load source.element source.graph source.tieBreak store
    | link | joint | axis | binding | model => trivial
  move {member} store pose bounded := by
    cases member with
    | light entity => exact Light.Bounded.setPose bounded store pose
    | link | joint | axis | binding | model => trivial
  tell {member} detail bounded := by
    cases member with
    | light entity =>
        cases detail with
        | poseFrame frame => exact Light.Bounded.setPoseFrame bounded frame
        | light setting => exact Light.Bounded.set bounded setting
        | jointType | parent | child => exact bounded
    | link | joint | axis | binding | model => cases detail <;> trivial
  set {member} setting bounded := by
    cases member with
    | light entity => exact bounded
    | link | joint | axis | binding | model => trivial
  turn {member} xyz bounded := by
    cases member with
    | light entity => exact bounded
    | link | joint | axis | binding | model => trivial

end Member

/-- The lights of a scene are bounded, also those inside its models. -/
theorem Scene.lights_bounded (graph : FrameGraph Float) (operations : List (Operation Float)) :
    ((ofGraph graph).run operations).Throughout Member.BoundedLight :=
  throughout_run Member.lasting_boundedLight graph operations

end Kinematics
