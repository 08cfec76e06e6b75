import Kinematics.Proofs.Decimal.Order
import Kinematics.Proofs.Model.Contents

/-!
# Which documents load without a report

A document is accepted if its elements state what they have to, names are distinct where
they have to be, and every frame finds its reference among the frames before it.  These are
conditions on the document and the settings alone; they hold exactly if nothing is
reported.
-/

namespace Kinematics

variable {α : Type} [Scalar α]

/-- A vector that an axis can point along.  Its length is finite and long enough. -/
structure Axis.IsDirection (xyz : Vec3 α) : Prop where
  finite : Scalar.isFinite xyz.length = true
  long : ¬xyz.length < Axis.leastLength

/-- What an element of a link has to state. -/
structure Link.Accepted (element : Element α) : Prop where
  name : ∃ name, element.name? = some name ∧ isReservedName name = false

/-- What an element of a joint has to state. -/
structure Joint.Accepted (element : Element α) : Prop where
  name : element.name?.isSome
  parent : (element.read? Value.toString? "parent").isSome
  child : (element.read? Value.toString? "child").isSome
  type : ∃ text, element.read? Value.toString? "type" = some text ∧
    text.map Char.toLower ∈ JointType.valid.map JointType.text
  axes : ∀ kind ∈ ["axis", "axis2"], ∀ axis, element.first? kind = some axis →
    ∃ xyz, axis.read? Value.toVec3? "xyz" = some xyz ∧ Axis.IsDirection xyz

/-- What an element of a light has to state. -/
structure Light.Accepted (element : Element α) : Prop where
  name : ∃ name, element.name? = some name ∧ isReservedName name = false
  type : ∀ text, element.read? Value.toString? "type" = some text →
    text ∈ ["point", "spot", "directional"]
  range : ∀ attenuation, element.first? "attenuation" = some attenuation →
    (attenuation.read? Value.toDouble? "range").isSome
  direction : ∀ text, element.read? Value.toString? "type" = some text →
    text ∈ ["spot", "directional"] → (element.read? Value.toVec3? "direction").isSome
  cone : element.read? Value.toString? "type" = some "spot" →
    ∀ spot, element.first? "spot" = some spot →
      ∀ part ∈ ["inner_angle", "outer_angle", "falloff"],
        (spot.read? Value.toDouble? part).isSome

/-- Whether a reference stands for one of the names before it. -/
def Settings.Finds (settings : Settings) (names : List String) (reference : String) : Prop :=
  if settings.strictReferences then names.count reference = 1 else reference ∈ names

namespace Model

/-- The frames that the links, joints and lights of a document describe, in order. -/
def described (settings : Settings) (element : Element α) : List (FrameSource α) :=
  (element.elements "link").map (.located settings.rootFrame .link) ++
    (element.elements "joint").map .ofJoint ++
    (element.elements "light").map (.located settings.rootFrame .light)

/-- A document that has nothing to report. -/
structure Accepted (settings : Settings) (element : Element α) : Prop where
  kind : element.kind = "model"
  name : element.name?.isSome
  links : ∀ child ∈ element.elements "link", Link.Accepted child
  linkNames : ((element.elements "link").filterMap Element.name?).Nodup
  joints : ∀ child ∈ element.elements "joint", Joint.Accepted child
  jointNames : ((element.elements "joint").filterMap Element.name?).Nodup
  lights : ∀ child ∈ element.elements "light", Light.Accepted child
  references : ∀ before frame after, described settings element = before ++ frame :: after →
    settings.Finds (settings.rootFrame :: before.map FrameSource.name) frame.reference

end Model

/-- In binary numbers the length of a direction is finite and at least the least one. -/
theorem Axis.isDirection_iff {xyz : Vec3 Float} :
    IsDirection xyz ↔ xyz.length.isFinite = true ∧ (1e-12 : Float) ≤ xyz.length := by
  have least : (1e-12 : Float).isNaN = false := by rfl
  constructor
  · intro direction
    exact ⟨direction.finite,
      (float_not_lt_iff_le (isNaN_of_isFinite direction.finite) least).mp direction.long⟩
  · rintro ⟨finite, long⟩
    exact ⟨finite, (float_not_lt_iff_le (isNaN_of_isFinite finite) least).mpr long⟩

section Faults

variable {element : Element α}

omit [Scalar α] in
theorem nameReport_eq_nil {kind : EntityKind} {name : Option String} :
    (nameReport kind name : List (Diagnostic α)) = [] ↔
      ∃ text, name = some text ∧ isReservedName text = false := by
  unfold nameReport
  cases name with
  | none => simp
  | some text => simp

omit [Scalar α] in
theorem Link.faults_eq_nil : Link.faults element = [] ↔ Link.Accepted element :=
  nameReport_eq_nil.trans ⟨fun name => ⟨name⟩, fun accepted => accepted.name⟩

omit [Scalar α] in
theorem Joint.reportMissing_eq_nil {β : Type} {value : Option β} {fault : Diagnostic α} :
    Joint.reportMissing value fault = [] ↔ value.isSome := by
  cases value with
  | none => exact iff_of_false (List.cons_ne_nil _ _) Bool.false_ne_true
  | some text => exact iff_of_true rfl rfl

theorem Axis.withDirection?_eq_none (axis : Axis α) (xyz : Vec3 α) :
    axis.withDirection? xyz = none ↔ ¬IsDirection xyz := by
  have parts : IsDirection xyz ↔ Scalar.isFinite xyz.length ∧ ¬xyz.length < leastLength :=
    ⟨fun direction => ⟨direction.finite, direction.long⟩, fun ⟨finite, long⟩ => ⟨finite, long⟩⟩
  unfold withDirection?
  simp only [parts, ite_eq_right_iff, reduceCtorEq, imp_false]

theorem Axis.loadDirection_eq_nil {axis : Axis α} :
    (axis.loadDirection element).2 = [] ↔
      ∃ xyz, element.read? Value.toVec3? "xyz" = some xyz ∧ IsDirection xyz := by
  unfold loadDirection
  cases element.read? Value.toVec3? "xyz" with
  | none => simp
  | some xyz =>
      have undirected := withDirection?_eq_none axis xyz
      cases turned : axis.withDirection? xyz with
      | none => simpa [turned] using undirected.mp turned
      | some directed =>
          rw [turned] at undirected
          simpa [turned] using undirected

theorem Axis.load_eq_nil (axis : Axis α) (isAxis : element.kind ∈ elementKinds) :
    (axis.load element).2 = [] ↔
      ∃ xyz, element.read? Value.toVec3? "xyz" = some xyz ∧ IsDirection xyz := by
  unfold load
  rw [if_pos isAxis]
  exact loadDirection_eq_nil

theorem Joint.loadAxis_eq_nil {kind : String} (isAxis : kind ∈ Axis.elementKinds) :
    (Joint.loadAxis element kind).2 = [] ↔
      ∀ axis, element.first? kind = some axis →
        ∃ xyz, axis.read? Value.toVec3? "xyz" = some xyz ∧ Axis.IsDirection xyz := by
  unfold loadAxis
  cases found : element.first? kind with
  | none => simp
  | some child =>
      have isKind : child.kind = kind := by
        simpa using List.find?_some found
      have hasAxis : child.kind ∈ Axis.elementKinds := isKind ▸ isAxis
      have loaded := Axis.load_eq_nil Axis.default hasAxis
      simpa using loaded

omit [Scalar α] in
theorem Joint.loadType_eq_nil :
    (Joint.loadType element).2 = [] ↔
      ∃ text, element.read? Value.toString? "type" = some text ∧
        text.map Char.toLower ∈ JointType.valid.map JointType.text := by
  unfold loadType
  cases element.read? Value.toString? "type" with
  | none => simp
  | some text =>
      have known : (JointType.ofText? text).isSome ↔
          text.map Char.toLower ∈ JointType.valid.map JointType.text := by
        unfold JointType.ofText?
        rw [List.find?_isSome]
        simp
      cases found : JointType.ofText? text with
      | none => simpa [found] using known
      | some type => simpa [found] using known

theorem Joint.faults_eq_nil : Joint.faults element = [] ↔ Joint.Accepted element := by
  unfold Joint.faults
  simp only [List.append_eq_nil_iff, reportMissing_eq_nil, loadType_eq_nil,
    loadAxis_eq_nil (show "axis" ∈ Axis.elementKinds by decide),
    loadAxis_eq_nil (show "axis2" ∈ Axis.elementKinds by decide)]
  constructor
  · rintro ⟨⟨⟨⟨⟨name, parent⟩, child⟩, axis⟩, axis2⟩, type⟩
    refine ⟨name, parent, child, type, ?_⟩
    intro kind member
    simp only [List.mem_cons, List.not_mem_nil, or_false] at member
    rcases member with rfl | rfl
    · exact axis
    · exact axis2
  · intro accepted
    exact ⟨⟨⟨⟨⟨accepted.name, accepted.parent⟩, accepted.child⟩,
      accepted.axes "axis" (by decide)⟩, accepted.axes "axis2" (by decide)⟩, accepted.type⟩

theorem LightType.ofText?_eq_some (text : String) (type : LightType) :
    ofText? text = some type ↔ type ∈ valid ∧ type.text = text := by
  constructor
  · intro found
    exact ⟨List.mem_of_find?_eq_some found, by simpa using List.find?_some found⟩
  · rintro ⟨isValid, rfl⟩
    revert type
    decide

theorem LightType.ofText?_eq_none (text : String) :
    ofText? text = none ↔ text ∉ ["point", "spot", "directional"] := by
  rw [ofText?, List.find?_eq_none]
  simp [valid, LightType.text, eq_comm (b := text)]

omit [Scalar α] in
/-- A light has a type exactly if its element states it, or states none and it is the usual
one. -/
theorem Light.typeOf_eq {type : LightType} (isValid : type ∈ LightType.valid) :
    typeOf element = type ↔ typeText element = type.text := by
  have named := LightType.ofText?_eq_some (typeText element) type
  unfold typeOf
  constructor
  · intro isType
    cases found : LightType.ofText? (typeText element) with
    | none =>
        rw [found] at isType
        subst isType
        exact absurd isValid (by decide)
    | some other =>
        rw [found] at isType named
        exact (named.mp (congrArg some isType)).2.symm
  · intro stated
    rw [named.mpr ⟨isValid, stated.symm⟩]
    rfl

omit [Scalar α] in
/-- A type other than the usual one has to be stated. -/
theorem Light.typeText_eq {text : String} (unusual : text ≠ "point") :
    typeText element = text ↔ element.read? Value.toString? "type" = some text := by
  unfold typeText Element.readD
  cases element.read? Value.toString? "type" with
  | none => exact iff_of_false unusual.symm nofun
  | some stated => simp

omit [Scalar α] in
theorem Light.typeOf_eq_spot :
    typeOf element = .spot ↔ element.read? Value.toString? "type" = some "spot" :=
  (typeOf_eq (by decide)).trans (typeText_eq (by decide))

omit [Scalar α] in
theorem Light.typeOf_eq_directional :
    typeOf element = .directional ↔
      element.read? Value.toString? "type" = some "directional" :=
  (typeOf_eq (by decide)).trans (typeText_eq (by decide))

omit [Scalar α] in
theorem Light.typeReport_eq_nil :
    typeReport element = [] ↔ ∀ text, element.read? Value.toString? "type" = some text →
      text ∈ ["point", "spot", "directional"] := by
  have unknown := LightType.ofText?_eq_none (typeText element)
  unfold typeReport
  rw [ite_eq_right_iff, Option.isNone_iff_eq_none, unknown]
  simp only [List.cons_ne_nil, imp_false, Decidable.not_not]
  unfold typeText Element.readD
  cases element.read? Value.toString? "type" with
  | none => simp [LightType.text]
  | some text => simp

theorem Light.attenuationReport_eq_nil :
    attenuationReport element = [] ↔
      ∀ attenuation, element.first? "attenuation" = some attenuation →
        (attenuation.read? Value.toDouble? "range").isSome := by
  unfold attenuationReport
  cases element.first? "attenuation" with
  | none => simp
  | some attenuation => simp [Option.isSome_iff_ne_none]

omit [Scalar α] in
theorem Light.directionReport_eq_nil :
    directionReport element = [] ↔
      ∀ text, element.read? Value.toString? "type" = some text →
        text ∈ ["spot", "directional"] →
          (element.read? Value.toVec3? "direction").isSome := by
  have needed : (typeOf element).needsDirection = true ↔
      element.read? Value.toString? "type" = some "spot" ∨
        element.read? Value.toString? "type" = some "directional" := by
    rw [← typeOf_eq_spot, ← typeOf_eq_directional, LightType.needsDirection, Bool.or_eq_true,
      beq_iff_eq, beq_iff_eq]
  unfold directionReport
  rw [ite_eq_right_iff, Bool.and_eq_true, needed]
  cases element.read? Value.toString? "type" with
  | none => simp
  | some text => simp [Option.isSome_iff_ne_none]

theorem SpotCone.reportOf_eq_nil (element : Element α) :
    reportOf element = [] ↔
      ∀ part ∈ ["inner_angle", "outer_angle", "falloff"],
        (element.read? Value.toDouble? part).isSome := by
  simp [reportOf, required, Option.isSome_iff_ne_none]

theorem Light.coneReport_eq_nil :
    ((spotElement? element).map SpotCone.reportOf).getD [] = [] ↔
      (element.read? Value.toString? "type" = some "spot" →
        ∀ spot, element.first? "spot" = some spot →
          ∀ part ∈ ["inner_angle", "outer_angle", "falloff"],
            (spot.read? Value.toDouble? part).isSome) := by
  unfold spotElement?
  by_cases isSpot : typeOf element = .spot
  · rw [if_pos isSpot, imp_iff_right (typeOf_eq_spot.mp isSpot)]
    cases element.first? "spot" with
    | none => simp
    | some spot =>
        have complete := SpotCone.reportOf_eq_nil spot
        simpa using complete
  · rw [if_neg isSpot]
    exact iff_of_true rfl fun stated => absurd (typeOf_eq_spot.mpr stated) isSpot

theorem Light.faults_eq_nil : Light.faults element = [] ↔ Light.Accepted element := by
  unfold Light.faults
  simp only [List.append_eq_nil_iff, typeReport_eq_nil, nameReport_eq_nil,
    attenuationReport_eq_nil, directionReport_eq_nil, coneReport_eq_nil]
  constructor
  · rintro ⟨⟨⟨⟨type, name⟩, range⟩, direction⟩, cone⟩
    exact ⟨name, type, range, direction, cone⟩
  · intro accepted
    exact ⟨⟨⟨⟨accepted.type, accepted.name⟩, accepted.range⟩, accepted.direction⟩,
      accepted.cone⟩

end Faults

section References

omit [Scalar α]

variable {settings : Settings}

theorem Settings.finds_iff {names : List String} {reference : String} :
    settings.Finds names reference ↔ (settings.tieBreak.resolve names reference).isSome := by
  have known : (names.findIdx? (· == reference)).isSome ↔ reference ∈ names := by
    rw [List.findIdx?_isSome]
    simp
  unfold Settings.Finds Settings.tieBreak
  cases settings.strictReferences with
  | false => exact known.symm
  | true =>
      simp only [if_true, TieBreak.resolve]
      by_cases single : names.count reference = 1
      · have member : reference ∈ names := by
          apply List.count_pos_iff.mp
          omega
        simpa [single] using known.mpr member
      · simp [single]

namespace Model

theorem parent_append_cons (settings : Settings) (before after : List (FrameSource α))
    (frame : FrameSource α) :
    parent settings (before ++ frame :: after) ⟨before.length + 1⟩ =
      (settings.tieBreak.resolve (settings.rootFrame :: before.map FrameSource.name)
        frame.reference).map VertexId.mk := by
  unfold parent
  simp

/-- All frames hang from others exactly if every one finds its reference among the frames
before it. -/
theorem unhung_eq_zero {frames : List (FrameSource α)} :
    unhung settings frames = 0 ↔
      ∀ before frame after, frames = before ++ frame :: after →
        settings.Finds (settings.rootFrame :: before.map FrameSource.name) frame.reference := by
  unfold unhung
  rw [List.countP_eq_zero]
  constructor
  · intro hung before frame after same
    subst same
    have inside : before.length ∈ List.range (before ++ frame :: after).length := by
      simp
    have reference := hung before.length inside
    rw [parent_append_cons, Option.isNone_map] at reference
    rw [Settings.finds_iff]
    simpa [Option.isSome_iff_ne_none] using reference
  · intro finds index member
    have inside : index < frames.length := List.mem_range.mp member
    have split : frames = frames.take index ++ frames[index] :: frames.drop (index + 1) := by
      rw [← List.drop_eq_getElem_cons inside, List.take_append_drop]
    have found := Settings.finds_iff.mp (finds _ _ _ split)
    have hung := parent_append_cons settings (frames.take index) (frames.drop (index + 1))
      frames[index]
    rw [← split, List.length_take_of_le (Nat.le_of_lt inside)] at hung
    rw [hung, Option.isNone_map]
    simpa [Option.isSome_iff_ne_none] using found

end Model

end References

namespace Model

theorem frames_eq_described {element : Element α}
    (linkNames : ((element.elements "link").filterMap Element.name?).Nodup)
    (jointNames : ((element.elements "joint").filterMap Element.name?).Nodup) :
    frames settings element = described settings element := by
  unfold frames described
  rw [Element.firstOfEachName_eq_self (Element.distinctNames_nil.mpr linkNames),
    Element.firstOfEachName_eq_self (Element.distinctNames_nil.mpr jointNames)]

/-- A document loads without a report exactly if it is accepted. -/
theorem diagnostics_eq_nil_iff_accepted (element : Element α) (settings : Settings)
    (store : GraphStore α) :
    (load element settings store).diagnostics = [] ↔ Accepted settings element := by
  by_cases isModel : element.kind = "model"
  · rw [diagnostics_load_eq_nil settings store isModel]
    simp only [Link.faults_eq_nil, Joint.faults_eq_nil, Light.faults_eq_nil, unhung_eq_zero]
    constructor
    · rintro ⟨name, ⟨linkNames, links⟩, ⟨jointNames, joints⟩, lights, references⟩
      rw [frames_eq_described linkNames jointNames] at references
      exact ⟨isModel, name, links, linkNames, joints, jointNames, lights, references⟩
    · intro accepted
      have references := accepted.references
      rw [← frames_eq_described accepted.linkNames accepted.jointNames] at references
      exact ⟨accepted.name, ⟨accepted.linkNames, accepted.links⟩,
        ⟨accepted.jointNames, accepted.joints⟩, accepted.lights, references⟩
  · rw [diagnostics_load_of_ne settings store isModel]
    exact iff_of_false (List.cons_ne_nil _ _) fun accepted => isModel accepted.kind

end Model

end Kinematics
