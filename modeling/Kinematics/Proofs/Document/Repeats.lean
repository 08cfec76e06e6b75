import Kinematics.Document.Element

/-!
# Repeated names among children

A link or a joint repeats the name of an earlier element of its kind, and is left out when
its document is loaded.  Leaving out the repetitions does not depend on how kinds are
interleaved, and leaves nothing that repeats a name.
-/

namespace Kinematics

namespace Element

variable {α : Type}

/-- A link or a joint has the name of an earlier element of its kind. -/
def Repeats (earlier : List (Element α)) (child : Element α) : Prop :=
  (child.kind = "link" ∨ child.kind = "joint") ∧ child.name?.isSome ∧
    ∃ other ∈ earlier, other.kind = child.kind ∧ other.name? = child.name?

instance (earlier : List (Element α)) (child : Element α) : Decidable (child.Repeats earlier) :=
  inferInstanceAs (Decidable (_ ∧ _ ∧ ∃ other ∈ earlier, _))

/-- The elements that repeat a name, or those that repeat none, after some earlier ones. -/
def sift (repeating : Bool) : List (Element α) → List (Element α) → List (Element α)
  | _, [] => []
  | earlier, child :: rest =>
    if decide (child.Repeats earlier) = repeating then
      child :: sift repeating (earlier ++ [child]) rest
    else sift repeating (earlier ++ [child]) rest

def unrepeated : List (Element α) → List (Element α) → List (Element α) :=
  sift false

def repeated : List (Element α) → List (Element α) → List (Element α) :=
  sift true

/-- A child describes a link, a joint or a light. -/
def IsBody (child : Element α) : Prop :=
  child.kind = "link" ∨ child.kind = "joint" ∨ child.kind = "light"

/-- The children that a document is loaded from, in the order of loading. -/
def loadOrder (children : List (Element α)) : List (Element α) :=
  children.filter (·.kind == "link") ++ children.filter (·.kind == "joint") ++
    children.filter (·.kind == "light")

section Repeats

variable {child : Element α}

theorem repeats_append {first second : List (Element α)} :
    child.Repeats (first ++ second) ↔ child.Repeats first ∨ child.Repeats second := by
  unfold Repeats
  simp only [List.mem_append, or_and_right, exists_or, and_or_left]

theorem Repeats.mono {few many : List (Element α)} (subset : few ⊆ many)
    (repeats : child.Repeats few) : child.Repeats many := by
  obtain ⟨isBody, named, other, member, same⟩ := repeats
  exact ⟨isBody, named, other, subset member, same⟩

theorem repeats_insert {alone : Element α} (unique : ¬child.Repeats [alone])
    (before between : List (Element α)) :
    child.Repeats (before ++ alone :: between) ↔ child.Repeats (before ++ between) := by
  rw [← List.singleton_append, repeats_append, repeats_append, repeats_append]
  simp only [unique, false_or]

/-- Only elements of its own kind decide whether an element repeats a name. -/
theorem repeats_filter {kind : String} (isKind : child.kind = kind) (earlier : List (Element α)) :
    child.Repeats (earlier.filter (·.kind == kind)) ↔ child.Repeats earlier := by
  constructor
  · exact Repeats.mono List.filter_sublist.subset
  · rintro ⟨isBody, named, other, member, sameKind, sameName⟩
    have kept : other ∈ earlier.filter (·.kind == kind) :=
      List.mem_filter.mpr ⟨member, beq_iff_eq.mpr (sameKind.trans isKind)⟩
    exact ⟨isBody, named, other, kept, sameKind, sameName⟩

end Repeats

section Sift

variable (repeating : Bool) (earlier children : List (Element α))

theorem sift_sublist : (sift repeating earlier children).Sublist children := by
  induction children generalizing earlier with
  | nil => exact .slnil
  | cons child rest induction =>
      unfold sift
      split
      · exact (induction _).cons_cons child
      · exact (induction _).cons child

theorem sift_append (later : List (Element α)) :
    sift repeating earlier (children ++ later) =
      sift repeating earlier children ++ sift repeating (earlier ++ children) later := by
  induction children generalizing earlier with
  | nil =>
      rw [List.append_nil]
      rfl
  | cons child rest induction =>
      have further := induction (earlier ++ [child])
      rw [List.append_assoc] at further
      rw [List.cons_append, sift, sift]
      split
      · exact congrArg (List.cons child) further
      · exact further

/-- Repetitions can be told kind by kind. -/
theorem filter_sift (kind : String) :
    (sift repeating earlier children).filter (·.kind == kind) =
      sift repeating (earlier.filter (·.kind == kind)) (children.filter (·.kind == kind)) := by
  induction children generalizing earlier with
  | nil => rfl
  | cons child rest induction =>
      -- A child of the kind is passed on both sides, and another one on neither.
      have further := induction (earlier ++ [child])
      rw [List.filter_append] at further
      by_cases isKind : child.kind = kind
      · have kept (others : List (Element α)) :
            (child :: others).filter (·.kind == kind) = child :: others.filter (·.kind == kind) :=
          List.filter_cons_of_pos (beq_iff_eq.mpr isKind)
        rw [kept, List.filter_nil] at further
        rw [kept, sift, sift]
        simp only [repeats_filter isKind]
        split
        · rw [kept, further]
        · exact further
      · have dropped (others : List (Element α)) :
            (child :: others).filter (·.kind == kind) = others.filter (·.kind == kind) :=
          List.filter_cons_of_neg fun same => isKind (beq_iff_eq.mp same)
        rw [dropped, List.filter_nil, List.append_nil] at further
        rw [dropped, sift]
        split
        · rw [dropped, further]
        · exact further

/-- Elements of other kinds before the elements of one kind change nothing. -/
theorem sift_filter {kind : String} (others : earlier.filter (·.kind == kind) = []) :
    sift repeating earlier (children.filter (·.kind == kind)) =
      (sift repeating [] children).filter (·.kind == kind) := by
  have kinds : (sift repeating earlier (children.filter (·.kind == kind))).filter
      (·.kind == kind) = sift repeating earlier (children.filter (·.kind == kind)) := by
    apply List.filter_eq_self.mpr
    intro child member
    exact (List.mem_filter.mp ((sift_sublist _ _ _).subset member)).2
  rw [← kinds, filter_sift, filter_sift, others, List.filter_filter, List.filter_nil]
  simp only [Bool.and_self]

end Sift

section Unrepeated

variable {earlier : List (Element α)} {child : Element α} (children : List (Element α))

theorem unrepeated_cons_of_new (new : ¬child.Repeats earlier) :
    unrepeated earlier (child :: children) = child :: unrepeated (earlier ++ [child]) children := by
  unfold unrepeated
  rw [sift, if_pos (decide_eq_false new)]

theorem unrepeated_cons_of_repeats (repeats : child.Repeats earlier) :
    unrepeated earlier (child :: children) = unrepeated (earlier ++ [child]) children := by
  unfold unrepeated
  rw [sift, if_neg (by simp [repeats])]

theorem repeated_cons_of_new (new : ¬child.Repeats earlier) :
    repeated earlier (child :: children) = repeated (earlier ++ [child]) children := by
  unfold repeated
  rw [sift, if_neg (by simp [new])]

theorem repeated_cons_of_repeats (repeats : child.Repeats earlier) :
    repeated earlier (child :: children) = child :: repeated (earlier ++ [child]) children := by
  unfold repeated
  rw [sift, if_pos (decide_eq_true repeats)]

theorem unrepeated_append (earlier first second : List (Element α)) :
    unrepeated earlier (first ++ second) =
      unrepeated earlier first ++ unrepeated (earlier ++ first) second :=
  sift_append false earlier first second

theorem unrepeated_snoc_of_new (new : ¬child.Repeats earlier) :
    unrepeated [] (earlier ++ [child]) = unrepeated [] earlier ++ [child] := by
  rw [unrepeated_append, List.nil_append, unrepeated_cons_of_new [] new]
  rfl

theorem unrepeated_snoc_of_repeats (repeats : child.Repeats earlier) :
    unrepeated [] (earlier ++ [child]) = unrepeated [] earlier := by
  rw [unrepeated_append, List.nil_append, unrepeated_cons_of_repeats [] repeats]
  exact List.append_nil _

/-- An element whose name no later one repeats does not show in what is left of those. -/
theorem unrepeated_insert {alone : Element α} {children : List (Element α)}
    (unique : ∀ child ∈ children, ¬child.Repeats [alone]) (before between : List (Element α)) :
    unrepeated (before ++ alone :: between) children = unrepeated (before ++ between) children := by
  induction children generalizing between with
  | nil => rfl
  | cons child rest induction =>
      have later := induction (fun other member => unique other (List.mem_cons_of_mem _ member))
        (between ++ [child])
      have repeats_iff := repeats_insert (unique child List.mem_cons_self) before between
      -- What is passed goes to the end of `between`, so the two lists stay one element apart.
      rw [← List.append_assoc, ← List.cons_append, ← List.append_assoc] at later
      by_cases repeats : child.Repeats (before ++ between)
      · rw [unrepeated_cons_of_repeats rest repeats,
          unrepeated_cons_of_repeats rest (repeats_iff.mpr repeats)]
        exact later
      · have alsoNew : ¬child.Repeats (before ++ alone :: between) := fun repeated =>
          repeats (repeats_iff.mp repeated)
        rw [unrepeated_cons_of_new rest repeats, unrepeated_cons_of_new rest alsoNew]
        exact congrArg (List.cons child) later

theorem unrepeated_sublist (earlier : List (Element α)) :
    (unrepeated earlier children).Sublist children :=
  sift_sublist false earlier children

theorem length_unrepeated_add_length_repeated (earlier : List (Element α)) :
    (unrepeated earlier children).length + (repeated earlier children).length =
      children.length := by
  induction children generalizing earlier with
  | nil => rfl
  | cons child rest induction =>
      have later := induction (earlier ++ [child])
      by_cases repeats : child.Repeats earlier
      · rw [unrepeated_cons_of_repeats rest repeats, repeated_cons_of_repeats rest repeats,
          List.length_cons, List.length_cons]
        omega
      · rw [unrepeated_cons_of_new rest repeats, repeated_cons_of_new rest repeats,
          List.length_cons, List.length_cons]
        omega

/-- What is left repeats no earlier name. -/
theorem not_repeats_of_mem_unrepeated (earlier : List (Element α)) :
    ∀ child ∈ unrepeated earlier children, ¬child.Repeats earlier := by
  induction children generalizing earlier with
  | nil => exact fun _ member => absurd member List.not_mem_nil
  | cons child rest induction =>
      intro other member repeats
      have further : other ∉ unrepeated (earlier ++ [child]) rest := fun later =>
        induction _ other later (repeats.mono (List.subset_append_left earlier [child]))
      by_cases firstRepeats : child.Repeats earlier
      · rw [unrepeated_cons_of_repeats rest firstRepeats] at member
        exact further member
      · rw [unrepeated_cons_of_new rest firstRepeats] at member
        rcases List.mem_cons.mp member with rfl | later
        · exact firstRepeats repeats
        · exact further later

/-- Of two elements that are left, the later one does not repeat the name of the other. -/
theorem pairwise_unrepeated (earlier : List (Element α)) :
    (unrepeated earlier children).Pairwise fun first second => ¬second.Repeats [first] := by
  induction children generalizing earlier with
  | nil => exact .nil
  | cons child rest induction =>
      by_cases firstRepeats : child.Repeats earlier
      · rw [unrepeated_cons_of_repeats rest firstRepeats]
        exact induction _
      · rw [unrepeated_cons_of_new rest firstRepeats]
        refine .cons ?_ (induction _)
        intro other member repeats
        exact not_repeats_of_mem_unrepeated rest _ other member
          (repeats.mono (List.subset_append_right earlier [child]))

/-- Of elements of one kind, those that are left and have names have distinct ones. -/
theorem nodup_names_unrepeated {kind : String} (isBodyKind : kind = "link" ∨ kind = "joint")
    {children : List (Element α)} (kinds : ∀ child ∈ children, child.kind = kind)
    (earlier : List (Element α)) : ((unrepeated earlier children).filterMap name?).Nodup := by
  apply List.pairwise_filterMap.mpr
  apply (pairwise_unrepeated children earlier).imp_of_mem
  intro first second firstMember secondMember new firstName named secondName alsoNamed same
  -- With the same name the later of the two would repeat the name of the other.
  have subset := (unrepeated_sublist children earlier).subset
  have firstKind := kinds first (subset firstMember)
  have secondKind := kinds second (subset secondMember)
  refine new ⟨secondKind ▸ isBodyKind, Option.isSome_of_eq_some alsoNamed, first,
    List.mem_singleton_self first, firstKind.trans secondKind.symm, ?_⟩
  rw [named, alsoNamed, same]

/-- Elements of other kinds may share names. -/
theorem unrepeated_eq_self {children : List (Element α)}
    (others : ∀ child ∈ children, ¬(child.kind = "link" ∨ child.kind = "joint"))
    (earlier : List (Element α)) : unrepeated earlier children = children := by
  induction children generalizing earlier with
  | nil => rfl
  | cons child rest induction =>
      have new : ¬child.Repeats earlier := fun repeats =>
        others child List.mem_cons_self repeats.1
      rw [unrepeated_cons_of_new rest new,
        induction fun other member => others other (List.mem_cons_of_mem _ member)]

/-- Without repetitions there is nothing more to leave out. -/
theorem unrepeated_unrepeated {few : List (Element α)} (subset : few ⊆ earlier) :
    unrepeated few (unrepeated earlier children) = unrepeated earlier children := by
  induction children generalizing earlier few with
  | nil => rfl
  | cons child rest induction =>
      by_cases repeats : child.Repeats earlier
      · rw [unrepeated_cons_of_repeats rest repeats]
        exact induction (List.subset_append_of_subset_left [child] subset)
      · have newAmongFew : ¬child.Repeats few := fun repeatsFew =>
          repeats (repeatsFew.mono subset)
        rw [unrepeated_cons_of_new rest repeats, unrepeated_cons_of_new _ newAmongFew,
          induction (List.append_subset.mpr
            ⟨List.subset_append_of_subset_left [child] subset, List.subset_append_right _ _⟩)]

end Unrepeated

section LoadOrder

variable (children : List (Element α))

theorem filter_filter_of_ne {first second : String} (different : first ≠ second) :
    (children.filter (·.kind == first)).filter (·.kind == second) = [] := by
  apply List.filter_eq_nil_iff.mpr
  intro child member isSecond
  have isFirst := beq_iff_eq.mp (List.mem_filter.mp member).2
  exact different (isFirst.symm.trans (beq_iff_eq.mp isSecond))

theorem no_joint_among_links :
    (children.filter (·.kind == "link")).filter (·.kind == "joint") = [] :=
  filter_filter_of_ne children (by decide)

theorem no_light_among_bodies :
    (children.filter (·.kind == "link") ++ children.filter (·.kind == "joint")).filter
      (·.kind == "light") = [] := by
  rw [List.filter_append, filter_filter_of_ne children (by decide),
    filter_filter_of_ne children (by decide), List.append_nil]

/-- Whether repetitions are told before or after the children are put in order is the
same. -/
theorem sift_loadOrder (repeating : Bool) :
    sift repeating [] (loadOrder children) = loadOrder (sift repeating [] children) := by
  unfold loadOrder
  rw [sift_append, sift_append, List.nil_append, List.nil_append,
    sift_filter repeating [] children rfl,
    sift_filter repeating _ children (no_joint_among_links children),
    sift_filter repeating _ children (no_light_among_bodies children)]

variable {children} in
theorem mem_loadOrder {child : Element α} :
    child ∈ loadOrder children ↔ child ∈ children ∧ child.IsBody := by
  unfold loadOrder IsBody
  simp only [List.mem_append, List.mem_filter, beq_iff_eq, and_or_left, or_assoc]

/-- A child that is loaded has its place in the order, and the others keep theirs. -/
theorem loadOrder_insert {child : Element α} (isBody : child.IsBody)
    (before after : List (Element α)) :
    ∃ first last, loadOrder (before ++ child :: after) = first ++ child :: last ∧
      loadOrder (before ++ after) = first ++ last := by
  unfold loadOrder
  rcases isBody with isLink | isJoint | isLight
  · refine ⟨before.filter (·.kind == "link"), after.filter (·.kind == "link") ++
      (before ++ after).filter (·.kind == "joint") ++
      (before ++ after).filter (·.kind == "light"), ?_, ?_⟩
    · simp [isLink]
    · simp
  · refine ⟨(before ++ after).filter (·.kind == "link") ++ before.filter (·.kind == "joint"),
      after.filter (·.kind == "joint") ++ (before ++ after).filter (·.kind == "light"), ?_, ?_⟩
    · simp [isJoint]
    · simp
  · refine ⟨(before ++ after).filter (·.kind == "link") ++
      (before ++ after).filter (·.kind == "joint") ++ before.filter (·.kind == "light"),
      after.filter (·.kind == "light"), ?_, ?_⟩
    · simp [isLight]
    · simp

end LoadOrder

end Element

end Kinematics
