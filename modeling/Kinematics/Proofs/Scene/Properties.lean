import Kinematics.Proofs.Scene.Isolation
import Kinematics.Proofs.Scene.Reload

/-!
# Properties that entities keep

An operation makes, copies or changes one entity at a time, and a model makes its links,
joints and lights as if each was loaded alone.  So a property that unloaded entities have, and
that nothing done to an entity takes away, is one of all entities of every scene that
operations lead to.
-/

namespace Kinematics

variable {α : Type}

namespace LoadedAll

variable {ε : Type} {load : Element α → GraphStore α → Loaded α ε} {entity : ε}

theorem exists_load_of_mem_each {elements : List (Element α)} {store : GraphStore α}
    (isLoaded : entity ∈ (each load elements store).entities) :
    ∃ element store, entity = (load element store).entity := by
  induction elements generalizing store with
  | nil => cases isLoaded
  | cons element rest induction =>
      rcases List.mem_cons.mp isLoaded with rfl | later
      · exact ⟨element, store, rfl⟩
      · exact induction later

theorem exists_load_of_mem_distinct {kind : EntityKind} {taken : List String}
    {elements : List (Element α)} {store : GraphStore α}
    (isLoaded : entity ∈ (distinct kind load taken elements store).entities) :
    ∃ element store, entity = (load element store).entity := by
  rw [entities_distinct] at isLoaded
  exact exists_load_of_mem_each isLoaded

end LoadedAll

namespace Member

/-- The entities of a member: those inside a model, and any other member itself. -/
def entities : Member α → List (Member α)
  | model entity => entity.members
  | other => [other]

/-- All entities of a member have a property. -/
def Throughout (holds : Member α → Prop) (member : Member α) : Prop :=
  ∀ entity ∈ member.entities, holds entity

theorem throughout_iff {holds : Member α → Prop} {member : Member α}
    (alone : member.kind ≠ .model) : member.Throughout holds ↔ holds member := by
  cases member with
  | model => contradiction
  | link | joint | light | axis | binding => simp [Throughout, entities]

theorem throughout_model {holds : Member α → Prop} {entity : Model α} :
    (model entity).Throughout holds ↔
      (∀ link ∈ entity.links, holds (.link link)) ∧
        (∀ joint ∈ entity.joints, holds (.joint joint)) ∧
        ∀ light ∈ entity.lights, holds (.light light) := by
  simp only [Throughout, entities, Model.members, List.mem_append, or_imp, forall_and, and_assoc,
    List.forall_mem_map]

theorem throughout_of_members_nil {holds : Member α → Prop} {entity : Model α}
    (empty : entity.members = []) : (model entity).Throughout holds := by
  intro member inside
  rw [entities, empty] at inside
  cases inside

namespace Throughout

variable {holds : Member α → Prop} {entity : Model α} (before : (model entity).Throughout holds)

include before

theorem setLink {link : Link α} (holdsOf : (Member.link link).Throughout holds) (index : Nat) :
    (model (entity.setLink index link)).Throughout holds := by
  obtain ⟨links, others⟩ := throughout_model.mp before
  refine throughout_model.mpr ⟨fun other isLink => ?_, others⟩
  rcases List.mem_or_eq_of_mem_set isLink with old | rfl
  · exact links other old
  · exact holdsOf _ List.mem_cons_self

theorem setJoint {joint : Joint α} (holdsOf : (Member.joint joint).Throughout holds)
    (index : Nat) : (model (entity.setJoint index joint)).Throughout holds := by
  obtain ⟨links, joints, lights⟩ := throughout_model.mp before
  refine throughout_model.mpr ⟨links, fun other isJoint => ?_, lights⟩
  rcases List.mem_or_eq_of_mem_set isJoint with old | rfl
  · exact joints other old
  · exact holdsOf _ List.mem_cons_self

end Throughout

variable [Scalar α]

theorem kind_new (store : GraphStore α) (kind : MemberKind) :
    (Member.new store kind).2.kind = kind := by
  cases kind <;> rfl

theorem kind_setPose (member : Member α) (store : GraphStore α) (pose : Pose α) :
    (member.setPose store pose).2.kind = member.kind := by
  cases member <;> rfl

theorem kind_tell (member : Member α) (detail : Detail α) :
    (member.tell detail).kind = member.kind := by
  cases detail <;> cases member <;> rfl

omit [Scalar α] in
theorem kind_set (member : Member α) (setting : AxisSetting α) :
    (member.set setting).kind = member.kind := by
  cases member <;> rfl

theorem kind_turn (member : Member α) (xyz : Vec3 α) : (member.turn xyz).kind = member.kind := by
  cases member <;> rfl

/-- Entities that have not been loaded have a property, and nothing that is done to an entity
takes it away. -/
structure Lasting (holds : Member α → Prop) : Prop where
  new : ∀ store kind, holds (new store kind).2
  load : ∀ {member} source store, holds member → holds (member.load source store).entity
  move : ∀ {member} store pose, holds member → holds (member.setPose store pose).2
  tell : ∀ {member} detail, holds member → holds (member.tell detail)
  set : ∀ {member} setting, holds member → holds (member.set setting)
  turn : ∀ {member} xyz, holds member → holds (member.turn xyz)

namespace Lasting

variable {holds : Member α → Prop} {member : Member α}

omit [Scalar α] in
/-- What is done to a single entity does not concern models. -/
theorem throughout_of_entity {change : Member α → Member α}
    (keeps : ∀ {member}, holds member → holds (change member))
    (sameKind : (change member).kind = member.kind)
    (models : ∀ entity, change (model entity) = model entity) (before : member.Throughout holds) :
    (change member).Throughout holds := by
  by_cases isModel : member.kind = .model
  · cases member <;> cases isModel
    rwa [models]
  · rw [throughout_iff (sameKind ▸ isModel)]
    exact keeps ((throughout_iff isModel).mp before)

variable (lasting : Lasting holds)

include lasting

theorem throughout_new (store : GraphStore α) (kind : MemberKind) :
    (Member.new store kind).2.Throughout holds := by
  by_cases isModel : kind = .model
  · subst isModel
    exact throughout_of_members_nil rfl
  · rw [throughout_iff ((kind_new store kind).symm ▸ isModel)]
    exact lasting.new store kind

section Loaded

variable (element : Element α) (graph : Option GraphId) (tieBreak : TieBreak)
  (store : GraphStore α)

theorem loadLink : holds (.link (Link.load element graph tieBreak store).entity) := by
  have new : holds (.link (Link.new store).2) := lasting.new store .link
  exact lasting.load ⟨element, graph, tieBreak, .default, .unloaded⟩ store new

theorem loadJoint : holds (.joint (Joint.load element graph tieBreak store).entity) := by
  have new : holds (.joint (Joint.new store).2) := lasting.new store .joint
  exact lasting.load ⟨element, graph, tieBreak, .default, .unloaded⟩ store new

theorem loadLight : holds (.light (Light.load element graph tieBreak store).entity) := by
  have new : holds (.light (Light.new store).2) := lasting.new store .light
  exact lasting.load ⟨element, graph, tieBreak, .default, .unloaded⟩ store new

end Loaded

/-- The entities of a loaded model are loaded as any others. -/
theorem throughout_loadModel (element : Element α) (settings : Settings) (store : GraphStore α) :
    (model (Model.load element settings store).entity).Throughout holds := by
  rw [throughout_model]
  unfold Model.load
  split
  · refine ⟨fun link isLink => ?_, fun joint isJoint => ?_, fun light isLight => ?_⟩
    · obtain ⟨child, store, rfl⟩ := LoadedAll.exists_load_of_mem_distinct isLink
      exact lasting.loadLink child _ _ store
    · obtain ⟨child, store, rfl⟩ := LoadedAll.exists_load_of_mem_distinct isJoint
      exact lasting.loadJoint child _ _ store
    · obtain ⟨child, store, rfl⟩ := LoadedAll.exists_load_of_mem_each isLight
      exact lasting.loadLight child _ _ store
  · exact throughout_model.mp (throughout_of_members_nil rfl)

theorem throughout_load (before : member.Throughout holds) (source : MemberSource α)
    (store : GraphStore α) : (member.load source store).entity.Throughout holds := by
  cases member with
  | model entity => exact lasting.throughout_loadModel source.element source.settings store
  | link | joint | light | axis | binding =>
      have kept := lasting.load source store ((throughout_iff (by rintro ⟨⟩)).mp before)
      exact (throughout_iff (by rintro ⟨⟩)).mpr kept

end Lasting

end Member

namespace Scene

/-- All entities of a scene have a property. -/
def Throughout (holds : Member α → Prop) (scene : Scene α) : Prop :=
  ∀ name member, scene.member? name = some member → member.Throughout holds

namespace Throughout

variable {holds : Member α → Prop} {scene : Scene α} (before : scene.Throughout holds)

include before

theorem memberAt? {place : Place} {member : Member α}
    (isMember : scene.memberAt? place = some member) : member.Throughout holds := by
  cases place with
  | named name => exact before name member isMember
  | linkOf name index =>
      obtain ⟨model, isModel, link, isLink, rfl⟩ := memberAt?_linkOf.mp isMember
      have inside : .link link ∈ model.members := by
        simp [Model.members, List.mem_of_getElem? isLink]
      rw [Member.throughout_iff (by rintro ⟨⟩)]
      exact before name _ (model?_eq_some.mp isModel) _ inside
  | jointOf name index =>
      obtain ⟨model, isModel, joint, isJoint, rfl⟩ := memberAt?_jointOf.mp isMember
      have inside : .joint joint ∈ model.members := by
        simp [Model.members, List.mem_of_getElem? isJoint]
      rw [Member.throughout_iff (by rintro ⟨⟩)]
      exact before name _ (model?_eq_some.mp isModel) _ inside

theorem withStore (store : GraphStore α) :
    ({ scene with store } : Scene α).Throughout holds :=
  before

theorem putMember (name : String) {member : Member α} (holdsOf : member.Throughout holds) :
    (scene.putMember name member).Throughout holds := by
  intro other present isMember
  rw [member?_putMember] at isMember
  split at isMember
  · obtain rfl := Option.some.inj isMember
    exact holdsOf
  · exact before other present isMember

theorem putMemberAt (place : Place) {member : Member α} (holdsOf : member.Throughout holds) :
    (scene.putMemberAt place member).Throughout holds := by
  cases place with
  | named name => exact before.putMember name holdsOf
  | linkOf name index =>
      cases member with
      | link link =>
          simp only [Scene.putMemberAt]
          cases isModel : scene.model? name with
          | none => exact before
          | some model =>
              have others := before name _ (model?_eq_some.mp isModel)
              exact before.putMember name (others.setLink holdsOf index)
      | joint | light | axis | binding | model => exact before
  | jointOf name index =>
      cases member with
      | joint joint =>
          simp only [Scene.putMemberAt]
          cases isModel : scene.model? name with
          | none => exact before
          | some model =>
              have others := before name _ (model?_eq_some.mp isModel)
              exact before.putMember name (others.setJoint holdsOf index)
      | link | light | axis | binding | model => exact before

end Throughout

variable [Scalar α] {holds : Member α → Prop} (lasting : Member.Lasting holds)

include lasting

/-- An operation takes the property away from no entity. -/
theorem Throughout.operate {scene : Scene α} (before : scene.Throughout holds)
    (operation : Operation α) : (scene.operate operation).1.Throughout holds := by
  have altered {place : Place} {change : Member α → Member α}
      (keeps : ∀ {member}, holds member → holds (change member))
      (sameKind : ∀ member, (change member).kind = member.kind)
      (models : ∀ entity, change (.model entity) = .model entity) :
      (scene.alter place change).Throughout holds := by
    unfold alter
    cases isMember : scene.memberAt? place with
    | none => exact before
    | some member =>
        have kept := before.memberAt? isMember
        exact before.putMemberAt place
          (Member.Lasting.throughout_of_entity keeps (sameKind member) models kept)
  cases operation with
  | create name kind =>
      have made := lasting.throughout_new scene.store kind
      exact (before.withStore _).putMember name made
  | copy source target =>
      simp only [Scene.operate, copyAt]
      cases isMember : scene.memberAt? source with
      | none => exact before
      | some member => exact before.putMember target (before.memberAt? isMember)
  | load place source =>
      simp only [Scene.operate, loadAt]
      cases isMember : scene.memberAt? place with
      | none => exact before
      | some member =>
          have loaded := lasting.throughout_load (before.memberAt? isMember) source scene.store
          exact (before.withStore _).putMemberAt place loaded
  | rename place frame =>
      simp only [Scene.operate, setName]
      cases scene.memberAt? place with
      | none => exact before
      | some member => exact before.withStore _
  | move place pose =>
      simp only [Scene.operate, setPose]
      cases isMember : scene.memberAt? place with
      | none => exact before
      | some member =>
          have moved := Member.Lasting.throughout_of_entity (lasting.move scene.store pose)
            (member.kind_setPose scene.store pose) (fun _ => rfl) (before.memberAt? isMember)
          exact (before.withStore _).putMemberAt place moved
  | tell place detail =>
      exact altered (lasting.tell detail) (Member.kind_tell · detail) fun _ => by
        cases detail <;> rfl
  | set place setting =>
      exact altered (lasting.set setting) (Member.kind_set · setting) fun _ => rfl
  | turn place xyz => exact altered (lasting.turn xyz) (Member.kind_turn · xyz) fun _ => rfl

/-- Whatever is done to the members of a scene that starts without any, all entities in it have
the property. -/
theorem throughout_run (graph : FrameGraph α) (operations : List (Operation α)) :
    ((ofGraph graph).run operations).Throughout holds := by
  have start : (ofGraph graph).Throughout holds := by
    intro name member isMember
    have absent : (ofGraph graph).member? name = none := rfl
    rw [absent] at isMember
    cases isMember
  unfold run
  generalize ofGraph graph = scene at start
  induction operations generalizing scene with
  | nil => exact start
  | cons operation rest induction => exact induction _ (start.operate lasting operation)

end Scene

end Kinematics
