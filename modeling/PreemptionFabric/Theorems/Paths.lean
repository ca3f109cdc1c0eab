import PreemptionFabric.Lifecycle
import PreemptionFabric.Lib.Path

/-! The order that the edge table enforces by itself, over every sequence of states that follows it. A resume passes
    through its revalidation. A release passes through quiescence, except on the paths that take the edge from
    ASSESSING to CAPTURE_REQUIRED. -/

namespace PreemptionFabric
open LifecycleStateMachine

/-- Each state of the sequence is allowed after the one before it. -/
def IsPath (path : List LifecycleState) : Prop := path.IsChain fun a b => isAllowed a b = true

namespace LifecycleState

/-- The states from RELEASE_PENDING to PREEMPTED. -/
def isReleaseStage : LifecycleState → Bool
  | .releasePending | .releasing | .resourcesReleased | .preempted => true
  | _ => false

/-- The states of the main path after QUIESCED. -/
def isPastQuiescence : LifecycleState → Bool
  | .captureRequired | .capturingState | .stateDurable | .releasePending | .releasing | .resourcesReleased | .preempted
  | .resumePending | .revalidating | .restoring | .resumeReady | .resuming | .resumed => true
  | _ => false

/-- The states of the main path after REVALIDATING. -/
def isPastRevalidation : LifecycleState → Bool
  | .restoring | .resumeReady | .resuming | .resumed => true
  | _ => false

end LifecycleState

/-- Every release stage of the sequence comes after QUIESCING and QUIESCED. -/
def QuiescesBeforeRelease (path : List LifecycleState) : Prop :=
  ∀ before l after, path = before ++ l :: after → l.isReleaseStage = true → .quiescing ∈ before ∧ .quiesced ∈ before

/-- The sequence takes the edge from ASSESSING to CAPTURE_REQUIRED. -/
def SkipsQuiescence (path : List LifecycleState) : Prop := [.assessing, .captureRequired] <:+: path

section
variable {a b l start : LifecycleState} {path before after : List LifecycleState}

theorem forall_allowed {p : LifecycleState → LifecycleState → Prop} (edges : ∀ a, ∀ b ∈ frontier a, p a b)
    (a b : LifecycleState) (edge : isAllowed a b = true) : p a b := edges a b (List.contains_iff_mem.mp edge)

/-! ### Resume -/

/-- RESUMED is reached from PREEMPTED only through RESUME_PENDING, REVALIDATING and RESUMING. -/
theorem resumed_after_revalidation (legal : IsPath (.preempted :: path))
    (split : .preempted :: path = before ++ .resumed :: after) :
    .resumePending ∈ before ∧ .revalidating ∈ before ∧ .resuming ∈ before := by
  have resuming : .resuming ∈ before := by
    refine Path.gate_mem (p := (· = .resumed)) (forall_allowed fun a => ?_) legal (by decide) split rfl
    cases a <;> decide
  have revalidating : .revalidating ∈ before := by
    refine Path.gate_mem (p := (·.isPastRevalidation = true)) (forall_allowed fun a => ?_) legal (by decide) split rfl
    cases a <;> decide
  obtain ⟨earlier, between, earlierSplit⟩ := List.append_of_mem revalidating
  have pending : .resumePending ∈ earlier := by
    rw [earlierSplit, List.append_assoc] at split
    refine Path.gate_mem (p := (· = .revalidating)) (forall_allowed fun a => ?_) legal (by decide) split rfl
    cases a <;> decide
  rw [earlierSplit]
  exact ⟨List.mem_append_left _ pending, List.mem_append_right _ List.mem_cons_self, earlierSplit ▸ resuming⟩

/-! ### Release -/

theorem isPastQuiescence_of_isReleaseStage (stage : l.isReleaseStage = true) : l.isPastQuiescence = true := by
  revert stage
  cases l <;> decide

/-- Without the edge past quiescence, the states after quiescence are reached through it. -/
theorem quiesced_before (legal : IsPath (.requested :: path)) (through : ¬SkipsQuiescence (.requested :: path))
    (split : .requested :: path = before ++ l :: after) (past : l.isPastQuiescence = true) :
    .quiescing ∈ before ∧ .quiesced ∈ before := by
  have legal' : (.requested :: path).IsChain fun a b =>
      isAllowed a b = true ∧ ¬(a = .assessing ∧ b = .captureRequired) := by
    rw [IsPath, List.isChain_iff_forall_rel_of_append_cons_cons] at legal
    rw [List.isChain_iff_forall_rel_of_append_cons_cons]
    intro a b earlier later edge
    refine ⟨legal edge, ?_⟩
    rintro ⟨rfl, rfl⟩
    exact through ⟨earlier, later, by simpa using edge.symm⟩
  have quiesced : .quiesced ∈ before := by
    have entered : ∀ a, ∀ b ∈ frontier a, ¬(a = .assessing ∧ b = .captureRequired) → b.isPastQuiescence = true →
        a.isPastQuiescence = true ∨ a = .quiesced := by
      intro a
      cases a <;> decide
    exact Path.gate_mem (p := (·.isPastQuiescence = true))
      (fun a b edge => forall_allowed entered a b edge.1 edge.2) legal' (by decide) split past
  obtain ⟨earlier, between, rfl⟩ := List.append_of_mem quiesced
  have quiescing : .quiescing ∈ earlier := by
    rw [List.append_assoc] at split
    refine Path.gate_mem (p := (· = .quiesced)) (forall_allowed fun a => ?_) legal (by decide) split rfl
    cases a <;> decide
  exact ⟨List.mem_append_left _ quiescing, quiesced⟩

/-- What follows the edge past quiescence, and what follows QUIESCED, comes after quiescence or is an end. -/
theorem past_after (legal : IsPath (a :: after)) (past : a = .captureRequired ∨ a = .quiesced) :
    ∀ b ∈ after, b.isPastQuiescence = true ∨ frontier b = [] := by
  refine Path.forall_after (forall_allowed fun a => ?_) (fun b edge => ?_) legal
  · cases a <;> decide
  · have leaves : ∀ a, ∀ b ∈ frontier a, (a = .captureRequired ∨ a = .quiesced) →
        b.isPastQuiescence = true ∨ frontier b = [] := by
      intro a
      cases a <;> decide
    exact forall_allowed leaves a b edge past

/-- A path that takes the edge past quiescence is never quiesced. -/
theorem not_quiesced_of_skips (legal : IsPath path) (skips : SkipsQuiescence path) : .quiesced ∉ path := by
  obtain ⟨earlier, later, rfl⟩ := skips
  rw [List.append_assoc] at legal ⊢
  intro member
  rcases List.mem_append.mp member with first | second
  · -- ASSESSING would follow QUIESCED.
    obtain ⟨before, between, rfl⟩ := List.append_of_mem first
    rw [List.append_assoc] at legal
    have assessing := past_after legal.right_of_append (.inr rfl) .assessing (by simp)
    exact absurd assessing (by decide)
  · -- QUIESCED would follow CAPTURE_REQUIRED.
    have follows : .quiesced ∈ later := by simpa using second
    have captured : IsPath (.captureRequired :: later) := (List.isChain_cons_cons.mp legal.right_of_append).2
    have quiesced := past_after captured (.inl rfl) .quiesced follows
    exact absurd quiesced (by decide)

end

/-- A path of the edge table from REQUESTED passes through QUIESCING and QUIESCED before every release stage, unless
    it takes the edge from ASSESSING to CAPTURE_REQUIRED and reaches a release stage. -/
theorem quiesces_before_release_iff (path : List LifecycleState) (legal : IsPath (.requested :: path)) :
    QuiescesBeforeRelease (.requested :: path) ↔
      ¬(SkipsQuiescence (.requested :: path) ∧ ∃ l ∈ path, l.isReleaseStage = true) := by
  constructor
  · rintro quiesces ⟨skips, l, member, stage⟩
    obtain ⟨before, after, split⟩ := List.append_of_mem (List.mem_cons_of_mem .requested member)
    obtain ⟨_, quiesced⟩ := quiesces before l after split stage
    refine not_quiesced_of_skips legal skips ?_
    rw [split]
    exact List.mem_append_left _ quiesced
  · intro through before l after split stage
    have member : l ∈ .requested :: path := by simp [split]
    have reached : l ∈ path := by
      rcases List.mem_cons.mp member with rfl | later
      · cases stage
      · exact later
    refine quiesced_before legal (fun skips => ?_) split (isPastQuiescence_of_isReleaseStage stage)
    exact through ⟨skips, l, reached, stage⟩

theorem quiesces_before_release_main :
    QuiescesBeforeRelease [.requested, .validatingAuthority, .assessing, .quiescing, .quiesced, .releasePending] := by
  refine (quiesces_before_release_iff _ (by unfold IsPath; decide)).mpr ?_
  rintro ⟨skips, _⟩
  revert skips
  unfold SkipsQuiescence
  decide

/-- The table lets a request be assessed, captured and released without quiescence. -/
theorem release_without_quiescence :
    IsPath [.requested, .validatingAuthority, .assessing, .captureRequired, .capturingState, .stateDurable,
      .releasePending, .releasing, .resourcesReleased] ∧
    ¬QuiescesBeforeRelease [.requested, .validatingAuthority, .assessing, .captureRequired, .capturingState,
      .stateDurable, .releasePending, .releasing, .resourcesReleased] := by
  refine ⟨by unfold IsPath; decide, fun quiesces => ?_⟩
  obtain ⟨quiescing, _⟩ := quiesces [.requested, .validatingAuthority, .assessing, .captureRequired, .capturingState,
    .stateDurable, .releasePending, .releasing] .resourcesReleased [] rfl rfl
  revert quiescing
  decide

end PreemptionFabric
