import PreemptionFabric.Theorems.Resume
import PreemptionFabric.Theorems.Saving

/-! What the runtime says about a resume, and what the resume then does. `resumes_iff` settles when the steps that
    remain of a resume end in RESUMED; the explanation of the blockers, the compatibility of a destination and the
    revalidation decide the same question by code of their own, and are compared with it. -/

namespace PreemptionFabric

/-! ### The steps that remain -/

/-- The operations of a resume that are still to come. -/
def LifecycleState.remainingResume : LifecycleState → List Op
  | .preempted => [.requestResume, .revalidate, .restore, .confirmResumed]
  | .resumePending | .revalidating => [.revalidate, .restore, .confirmResumed]
  | .restoring => [.restore, .confirmResumed]
  | .resumeReady | .resuming => [.confirmResumed]
  | _ => []

/-- The operations that remain of the resume, over the adapters as they are, end in RESUMED. -/
def Resumes (s : System) : Prop := (run s s.lifecycle.remainingResume).lifecycle = .resumed

section
variable {s : System}

theorem restore_early (early : s.lifecycle ≠ .restoring) : (step s .restore).2 = s := by
  rcases step_cases s .restore with moved | ⟨same, _⟩
  · exact absurd moved.restores early
  · exact same

theorem confirmResumed_early (early : ¬(s.lifecycle = .resumeReady ∨ s.lifecycle = .resuming)) :
    (step s .confirmResumed).2 = s := by
  rcases step_cases s .confirmResumed with moved | ⟨same, _⟩
  · exact absurd moved.confirm.1 early
  · exact same

theorem run_confirm (ready : s.lifecycle = .resumeReady ∨ s.lifecycle = .resuming) :
    (run s [.confirmResumed]).lifecycle = .resumed := by
  rw [run_cons, run_nil, confirmResumed_ready ready]
  rfl

/-- From a lifecycle in which neither has an effect, `restore` and `confirm_resumed` change nothing. -/
theorem run_restore_early (restoring : s.lifecycle ≠ .restoring)
    (ready : ¬(s.lifecycle = .resumeReady ∨ s.lifecycle = .resuming)) : run s [.restore, .confirmResumed] = s := by
  rw [run_cons, restore_early restoring, run_cons, confirmResumed_early ready, run_nil]

theorem run_restore_iff (before : s.lifecycle = .restoring) :
    (run s [.restore, .confirmResumed]).lifecycle = .resumed ↔ checkpointRejected s.rt s.ad = false := by
  refine ⟨fun resumed => ?_, run_restore_confirm before⟩
  cases rejected : checkpointRejected s.rt s.ad with
  | false => rfl
  | true =>
    have failed : run s [.restore, .confirmResumed] = s.withLifecycle .failed := by
      rw [run_cons, restore_rejected before rejected, run_cons, run_nil]
      exact confirmResumed_early (by simp)
    rw [failed] at resumed
    cases resumed

theorem run_revalidate_iff (before : s.lifecycle = .resumePending ∨ s.lifecycle = .revalidating) :
    (run s [.revalidate, .restore, .confirmResumed]).lifecycle = .resumed ↔
      checkpointRejected s.rt s.ad = false ∧ dependencyBlocks s.ad s.rt.executionId = false := by
  rw [run_cons, revalidate_due before]
  split_ifs with rejected blocked
  · have failed : run (s.withLifecycle .failed) [.restore, .confirmResumed] = s.withLifecycle .failed :=
      run_restore_early (by simp) (by simp)
    simp [failed, rejected]
  · have waiting : run (s.withLifecycle .revalidating) [.restore, .confirmResumed] = s.withLifecycle .revalidating :=
      run_restore_early (by simp) (by simp)
    simp [waiting, blocked]
  · have current : checkpointRejected s.rt s.ad = false := Bool.eq_false_iff.mpr rejected
    have free : dependencyBlocks s.ad s.rt.executionId = false := Bool.eq_false_iff.mpr blocked
    exact iff_of_true (run_restore_confirm rfl current) ⟨current, free⟩

theorem run_resume_iff (before : s.lifecycle = .preempted) :
    (run s [.requestResume, .revalidate, .restore, .confirmResumed]).lifecycle = .resumed ↔
      checkpointRejected s.rt s.ad = false ∧ dependencyBlocks s.ad s.rt.executionId = false := by
  rw [run_cons, requestResume_due before]
  exact run_revalidate_iff (s := s.resumePending) (.inl rfl)

/-! ### The compatibility of a destination -/

/-- What `evaluate_migration_destination` looks at before it finds a destination compatible. -/
structure FindsCompatible (s : System) (dst : DeviceCapability) : Prop where
  preempted : s.rt.machine.isPreemptedDurable = true
  durable : s.rt.stateDurable = true
  reference : s.rt.checkpointRef.isValid = true
  generation : s.rt.checkpointGeneration.isValid = true
  capabilityCurrent : s.ad.capabilityGenerationCurrent dst = true
  capability : s.ad.capabilityIsCompatible dst = true
  dependency : dependencyBlocks s.ad s.rt.executionId = false
  contract : s.ad.contractGen.isValid = true

theorem compatible_iff (dst : DeviceCapability) :
    (s.evaluateMigrationDestination dst).outcome = .compatible ↔ FindsCompatible s dst := by
  constructor
  · intro compatible
    unfold System.evaluateMigrationDestination at compatible
    split_ifs at compatible with state checkpoint current capability dependency contract
    simp only [Bool.or_eq_true, Bool.not_eq_true', not_or, Bool.not_eq_false] at state checkpoint
    simp only [Bool.not_eq_true', Bool.not_eq_false] at current capability contract
    exact ⟨state.1, state.2, checkpoint.1, checkpoint.2, current, capability, Bool.eq_false_iff.mpr dependency, contract⟩
  · rintro ⟨preempted, durable, reference, generation, current, capability, dependency, contract⟩
    have valid : (s.ad.currentContract s.rt.executionId).generation.isValid = true := contract
    simp [System.evaluateMigrationDestination, preempted, durable, reference, generation, current, capability,
      dependency, valid]

/-- The checkpoint that the runtime refers to is the one that the checkpoint fabric holds current. -/
def HoldsCheckpoint (s : System) : Prop :=
  s.ad.checkpointValid = true ∧ s.rt.checkpointGeneration = s.ad.currentCheckpointGen

theorem checkpointRejected_iff (reference : s.rt.checkpointRef.isValid = true) :
    checkpointRejected s.rt s.ad = false ↔ HoldsCheckpoint s := by
  simp [checkpointRejected, ReferenceAdapters.validateCheckpoint, HoldsCheckpoint, reference]

end

/-- The execution on a destination that is found compatible can be resumed exactly when it is not resumed already, and
    the checkpoint is held current or has been restored. -/
theorem compatible_resumes_iff (s : System) (dst : DeviceCapability)
    (compatible : (s.evaluateMigrationDestination dst).outcome = .compatible) :
    s.lifecycle ≠ .resumed ∧ Resumes s ↔
      s.lifecycle ≠ .resumed ∧ (s.lifecycle = .resumeReady ∨ s.lifecycle = .resuming ∨ HoldsCheckpoint s) := by
  have found := (compatible_iff dst).mp compatible
  have preempted : LifecycleStateMachine.isPreemptedDurable ⟨s.lifecycle⟩ = true := found.preempted
  rw [← checkpointRejected_iff found.reference]
  cases stage : s.lifecycle with
  | preempted => simp [Resumes, stage, LifecycleState.remainingResume, run_resume_iff stage, found.dependency]
  | resumePending =>
    simp [Resumes, stage, LifecycleState.remainingResume, run_revalidate_iff (.inl stage), found.dependency]
  | revalidating =>
    simp [Resumes, stage, LifecycleState.remainingResume, run_revalidate_iff (.inr stage), found.dependency]
  | restoring => simp [Resumes, stage, LifecycleState.remainingResume, run_restore_iff stage]
  | resumeReady => simp [Resumes, stage, LifecycleState.remainingResume, run_confirm (.inl stage)]
  | resuming => simp [Resumes, stage, LifecycleState.remainingResume, run_confirm (.inr stage)]
  | resumed => simp
  | _ =>
    rw [stage] at preempted
    cases preempted

/-- An execution with a resource contract, preempted after a capture. -/
def migratableOps : List Op :=
  .adapter (.setContract ⟨2⟩ ⟨1⟩ [⟨.deviceMemory, 100⟩]) :: requestOps true ++ captureOps ++ releaseOps ++
    [.commitPreempted]

def restoringDestination : DeviceCapability := { supportsStateRestore := true }

theorem compatible_resumes_migratable :
    (systemAfter migratableOps).lifecycle ≠ .resumed ∧ Resumes (systemAfter migratableOps) := by
  refine (compatible_resumes_iff _ restoringDestination (by decide +kernel)).mpr ⟨by decide +kernel, ?_⟩
  exact .inr (.inr ⟨by decide +kernel, by decide +kernel⟩)

/-- A destination is found compatible when the checkpoint has been superseded, though the resume then fails, and when
    the execution is resumed already. -/
theorem superseded_checkpoint_compatible :
    let superseded := systemAfter (migratableOps ++ [.adapter (.setCurrentCheckpointGeneration ⟨2⟩)])
    let resumed := systemAfter (migratableOps ++ [.requestResume, .revalidate, .restore, .confirmResumed])
    (superseded.evaluateMigrationDestination restoringDestination).outcome = .compatible ∧
      superseded.lifecycle = .preempted ∧ ¬Resumes superseded ∧
      (resumed.evaluateMigrationDestination restoringDestination).outcome = .compatible ∧
      resumed.lifecycle = .resumed := by
  refine ⟨by decide +kernel, by decide +kernel, ?_, by decide +kernel, by decide +kernel⟩
  unfold Resumes
  decide +kernel

/-! ### The explanation of the blockers -/

def resumeEligible : List ExplainEntry := [⟨"resume_eligible", "resume is eligible", .derived⟩]

/-- The explanation calls the resume eligible exactly when the resume ends in RESUMED, and what it lists as a blocker
    blocks: over any adapters over which the runtime lists it, the resume does not end in RESUMED. -/
structure ExplainsResume (s : System) : Prop where
  eligible : s.explainResumeBlockers = resumeEligible ↔ Resumes s
  blocks : ∀ entry ∈ s.explainResumeBlockers, entry ∉ resumeEligible →
    ∀ ad, entry ∈ System.explainResumeBlockers ⟨s.rt, ad⟩ → ¬Resumes ⟨s.rt, ad⟩

/-- The blockers that are listed for the runtime alone, whatever its adapters. -/
def PreemptionRuntime.ownBlockers (rt : PreemptionRuntime) : List ExplainEntry :=
  (if !rt.stateDurable then [⟨"resume_blocked_state", "no durable state boundary", .derived⟩] else []) ++
  (if !rt.resourcesReleased then [⟨"resume_blocked_resource", "resources not released", .derived⟩] else []) ++
  (if !rt.checkpointRef.isValid then
    [⟨"resume_blocked_state_missing", "no checkpoint reference", .derived⟩] else [])

/-- The blockers that are listed for what the adapters hold. -/
def System.adapterBlockers (s : System) : List ExplainEntry :=
  (if checkpointRejected s.rt s.ad then
    [⟨"resume_blocked_state_stale", "checkpoint generation is stale", .real⟩] else []) ++
  explainDependency s.ad s.rt.executionId

section
variable {s : System}

theorem explain_durable (durable : s.rt.machine.isPreemptedDurable = true) :
    s.explainResumeBlockers =
      if (s.rt.ownBlockers ++ s.adapterBlockers).isEmpty then resumeEligible
      else s.rt.ownBlockers ++ s.adapterBlockers := by
  unfold System.explainResumeBlockers PreemptionRuntime.ownBlockers System.adapterBlockers
  simp only [durable, Bool.not_true, Bool.and_false, Bool.false_eq_true, if_false, List.append_assoc]
  rfl

theorem explainDependency_eq_nil (ad : ReferenceAdapters) (e : ExecutionId) :
    System.explainDependency ad e = [] ↔ dependencyBlocks ad e = false := by
  unfold System.explainDependency dependencyBlocks
  cases (ad.resumeDependencies e).status <;> simp

theorem adapterBlockers_eq_nil :
    s.adapterBlockers = [] ↔
      checkpointRejected s.rt s.ad = false ∧ dependencyBlocks s.ad s.rt.executionId = false := by
  rw [System.adapterBlockers, List.append_eq_nil_iff, explainDependency_eq_nil]
  cases checkpointRejected s.rt s.ad <;> simp

theorem ownBlockers_eq_nil {rt : PreemptionRuntime} :
    rt.ownBlockers = [] ↔
      rt.stateDurable = true ∧ rt.resourcesReleased = true ∧ rt.checkpointRef.isValid = true := by
  simp [PreemptionRuntime.ownBlockers]

theorem resumes_preempted_iff (preempted : s.lifecycle = .preempted) : Resumes s ↔ s.adapterBlockers = [] := by
  rw [Resumes, preempted, adapterBlockers_eq_nil]
  exact run_resume_iff preempted

/-- Adapters that stand in the way of no resume of the runtime. -/
def System.unblocked (s : System) : System :=
  { s with ad := { s.ad with
    checkpointValid := true, currentCheckpointGen := s.rt.checkpointGeneration, resumeDep := { status := .current } } }

theorem unblocked_adapterBlockers (s : System) : s.unblocked.adapterBlockers = [] := by
  rw [adapterBlockers_eq_nil]
  refine ⟨?_, rfl⟩
  simp [System.unblocked, checkpointRejected, ReferenceAdapters.validateCheckpoint]

theorem eq_of_mem_ite {c : Prop} [Decidable c] {x entry : ExplainEntry} (listed : entry ∈ if c then [x] else []) :
    entry = x := by
  split at listed
  · exact List.mem_singleton.mp listed
  · cases listed

theorem not_mem_resumeEligible {entry : ExplainEntry} (listed : entry ∈ s.rt.ownBlockers ++ s.adapterBlockers) :
    entry ∉ resumeEligible := by
  simp only [PreemptionRuntime.ownBlockers, System.adapterBlockers, List.mem_append, or_assoc] at listed
  rcases listed with listed | listed | listed | listed | listed
  · rw [eq_of_mem_ite listed]
    decide
  · rw [eq_of_mem_ite listed]
    decide
  · rw [eq_of_mem_ite listed]
    decide
  · rw [eq_of_mem_ite listed]
    decide
  · unfold System.explainDependency at listed
    split at listed
    · rw [List.mem_singleton.mp listed]
      decide
    · rw [List.mem_singleton.mp listed]
      decide
    · cases listed

theorem mem_explain (durable : s.rt.machine.isPreemptedDurable = true) {entry : ExplainEntry}
    (listed : entry ∈ s.rt.ownBlockers) : entry ∈ s.explainResumeBlockers := by
  have member : entry ∈ s.rt.ownBlockers ++ s.adapterBlockers := List.mem_append_left _ listed
  rw [explain_durable durable, if_neg (by simpa using List.ne_nil_of_mem member)]
  exact member

/-- The explanation is that the resume is eligible exactly when no blocker is found. -/
theorem eligible_iff :
    s.explainResumeBlockers = resumeEligible ↔
      s.rt.machine.isPreemptedDurable = true ∧ s.rt.ownBlockers = [] ∧ s.adapterBlockers = [] := by
  cases durable : s.rt.machine.isPreemptedDurable with
  | false =>
    have early : s.lifecycle ≠ .preempted := by
      intro preempted
      have same : s.rt.machine = ⟨.preempted⟩ := congrArg LifecycleStateMachine.mk preempted
      rw [same] at durable
      cases durable
    refine iff_of_false (fun same => ?_) (by simp)
    rw [System.explainResumeBlockers, if_pos (by simp [early, durable])] at same
    exact absurd same (by decide)
  | true =>
    rw [explain_durable durable, ← List.append_eq_nil_iff]
    cases blockers : s.rt.ownBlockers ++ s.adapterBlockers with
    | nil => simp
    | cons entry rest =>
      have other : entry ∉ resumeEligible := not_mem_resumeEligible (s := s) (by simp [blockers])
      refine iff_of_false (fun same => ?_) (by simp)
      have same : entry :: rest = resumeEligible := same
      rw [← same] at other
      exact other List.mem_cons_self

end

/-- In PREEMPTED, the explanation of the blockers is truthful exactly when the state is durable, the resources are
    released and the preemption took a checkpoint. -/
theorem explains_resume_iff (s : System) (preempted : s.lifecycle = .preempted) :
    ExplainsResume s ↔
      s.rt.stateDurable = true ∧ s.rt.resourcesReleased = true ∧ s.rt.checkpointRef.isValid = true := by
  have durable : s.rt.machine.isPreemptedDurable = true := by
    have same : s.rt.machine = ⟨.preempted⟩ := congrArg LifecycleStateMachine.mk preempted
    rw [same]
    rfl
  rw [← ownBlockers_eq_nil]
  constructor
  · intro explains
    by_contra blocked
    obtain ⟨entry, listed⟩ := List.exists_mem_of_ne_nil _ blocked
    -- The entry is listed over any adapters, also over those over which the resume succeeds.
    have resumes : Resumes s.unblocked :=
      (resumes_preempted_iff (s := s.unblocked) preempted).mpr (unblocked_adapterBlockers s)
    exact explains.blocks entry (mem_explain durable listed) (not_mem_resumeEligible (List.mem_append_left _ listed))
      s.unblocked.ad (mem_explain (s := s.unblocked) durable listed) resumes
  · intro own
    have eligible (ad : ReferenceAdapters) :
        System.explainResumeBlockers ⟨s.rt, ad⟩ = resumeEligible ↔ Resumes ⟨s.rt, ad⟩ := by
      rw [eligible_iff, resumes_preempted_iff (s := ⟨s.rt, ad⟩) preempted]
      exact ⟨fun free => free.2.2, fun free => ⟨durable, own, free⟩⟩
    refine ⟨eligible s.ad, fun entry _ other ad listed resumes => ?_⟩
    rw [(eligible ad).mpr resumes] at listed
    exact other listed

theorem explains_resume_captured : ExplainsResume preemptedSystem :=
  (explains_resume_iff preemptedSystem (by decide +kernel)).mpr
    ⟨by decide +kernel, by decide +kernel, by decide +kernel⟩

/-- A preemption that needs no capture lists the missing checkpoint as a blocker, and resumes. -/
theorem missing_checkpoint_does_not_block :
    let s := systemAfter (requestOps false ++ captureOps.take 3 ++ releaseOps ++ [.commitPreempted])
    s.lifecycle = .preempted ∧ s.explainResumeBlockers ≠ resumeEligible ∧ Resumes s ∧ ¬ExplainsResume s := by
  intro s
  have listed : s.explainResumeBlockers ≠ resumeEligible := by decide +kernel
  have resumes : Resumes s := by
    unfold Resumes
    decide +kernel
  exact ⟨by decide +kernel, listed, resumes, fun explains => listed (explains.eligible.mpr resumes)⟩

/-! ### Dependencies that are not current -/

/-- None of the three says yes to a resume: the revalidation does not let it go on, no destination is compatible and
    the explanation is not that it is eligible. -/
structure WithholdsResume (s : System) : Prop where
  revalidation : s.lifecycle ≠ .restoring → (step s .revalidate).2.lifecycle ≠ .restoring
  migration : ∀ dst, (s.evaluateMigrationDestination dst).outcome ≠ .compatible
  explanation : s.explainResumeBlockers ≠ resumeEligible

/-- A revalidation would go on, apart from the dependency. -/
def RevalidatesOtherwise (s : System) : Prop :=
  (s.lifecycle = .resumePending ∨ s.lifecycle = .revalidating) ∧ checkpointRejected s.rt s.ad = false

/-- Some destination would be compatible, apart from the dependency. -/
def MigratesOtherwise (s : System) : Prop :=
  s.rt.machine.isPreemptedDurable = true ∧ s.rt.stateDurable = true ∧ s.rt.checkpointRef.isValid = true ∧
    s.rt.checkpointGeneration.isValid = true ∧ s.ad.contractGen.isValid = true ∧ s.ad.forceStaleCapability = false ∧
    s.ad.forceIncompatible = false

/-- The resume would be explained as eligible, apart from the dependency. -/
def EligibleOtherwise (s : System) : Prop :=
  s.rt.machine.isPreemptedDurable = true ∧ s.rt.stateDurable = true ∧ s.rt.resourcesReleased = true ∧
    s.rt.checkpointRef.isValid = true ∧ checkpointRejected s.rt s.ad = false

section
variable {s : System}

theorem revalidation_goes_on_iff :
    s.lifecycle ≠ .restoring ∧ (step s .revalidate).2.lifecycle = .restoring ↔
      dependencyBlocks s.ad s.rt.executionId = false ∧ RevalidatesOtherwise s := by
  by_cases before : s.lifecycle = .resumePending ∨ s.lifecycle = .revalidating
  · have away : s.lifecycle ≠ .restoring := System.of_either (· ≠ .restoring) before nofun nofun
    rw [revalidate_due before]
    split_ifs with rejected blocked
    · simp [RevalidatesOtherwise, rejected]
    · simp [blocked]
    · simp [RevalidatesOtherwise, away, before, rejected, blocked]
  · have same : (step s .revalidate).2 = s := by
      rcases step_cases s .revalidate with moved | ⟨same, _⟩
      · exact absurd moved.revalidates before
      · exact same
    rw [same]
    exact iff_of_false (fun both => both.1 both.2) (fun goesOn => before goesOn.2.1)

/-- The destination that offers just what is asked for. -/
def ReferenceAdapters.fittingDestination (ad : ReferenceAdapters) : DeviceCapability :=
  { ad.requiredCapability with
    capabilityGeneration := ad.currentCapability.capabilityGeneration, supportsStateRestore := true }

theorem exists_compatible_iff :
    (∃ dst, (s.evaluateMigrationDestination dst).outcome = .compatible) ↔
      dependencyBlocks s.ad s.rt.executionId = false ∧ MigratesOtherwise s := by
  simp only [compatible_iff]
  constructor
  · rintro ⟨dst, found⟩
    have current := found.capabilityCurrent
    have capable := found.capability
    rw [ReferenceAdapters.capabilityGenerationCurrent] at current
    rw [ReferenceAdapters.capabilityIsCompatible] at capable
    refine ⟨found.dependency, found.preempted, found.durable, found.reference, found.generation, found.contract, ?_, ?_⟩
    · by_contra forced
      simp [forced] at current
    · by_contra forced
      simp [forced] at capable
  · rintro ⟨dependency, preempted, durable, reference, generation, contract, current, capable⟩
    refine ⟨s.ad.fittingDestination, preempted, durable, reference, generation, ?_, ?_, dependency, contract⟩
    · simp [ReferenceAdapters.capabilityGenerationCurrent, ReferenceAdapters.fittingDestination, current]
    · simp [ReferenceAdapters.capabilityIsCompatible, ReferenceAdapters.fittingDestination, capable]

theorem eligible_otherwise_iff :
    s.explainResumeBlockers = resumeEligible ↔
      dependencyBlocks s.ad s.rt.executionId = false ∧ EligibleOtherwise s := by
  rw [eligible_iff, ownBlockers_eq_nil, adapterBlockers_eq_nil]
  unfold EligibleOtherwise
  tauto

theorem withholds_iff :
    WithholdsResume s ↔
      dependencyBlocks s.ad s.rt.executionId = true ∨
        ¬RevalidatesOtherwise s ∧ ¬MigratesOtherwise s ∧ ¬EligibleOtherwise s := by
  have parts : WithholdsResume s ↔
      ¬(s.lifecycle ≠ .restoring ∧ (step s .revalidate).2.lifecycle = .restoring) ∧
        ¬(∃ dst, (s.evaluateMigrationDestination dst).outcome = .compatible) ∧
        ¬s.explainResumeBlockers = resumeEligible := by
    constructor
    · rintro ⟨revalidation, migration, explanation⟩
      exact ⟨fun both => revalidation both.1 both.2, not_exists.mpr migration, explanation⟩
    · rintro ⟨revalidation, migration, explanation⟩
      exact ⟨fun away goesOn => revalidation ⟨away, goesOn⟩, not_exists.mp migration, explanation⟩
  rw [parts, revalidation_goes_on_iff, exists_compatible_iff, eligible_otherwise_iff]
  cases dependencyBlocks s.ad s.rt.executionId <;> simp

end

/-- The dependency is not current. A resume is withheld by all three exactly when the dependency is stale or missing,
    or none of the three would say yes apart from the dependency: an unknown one is not asked about. -/
theorem withholds_resume_iff (s : System) (other : (s.ad.resumeDependencies s.rt.executionId).status ≠ .current) :
    WithholdsResume s ↔
      (s.ad.resumeDependencies s.rt.executionId).status ≠ .unknown ∨
        ¬RevalidatesOtherwise s ∧ ¬MigratesOtherwise s ∧ ¬EligibleOtherwise s := by
  have listed : dependencyBlocks s.ad s.rt.executionId = true ↔
      (s.ad.resumeDependencies s.rt.executionId).status ≠ .unknown := by
    revert other
    unfold dependencyBlocks
    cases (s.ad.resumeDependencies s.rt.executionId).status <;> simp
  rw [withholds_iff, listed]

theorem withholds_resume_stale :
    WithholdsResume (systemAfter (migratableOps ++ [.adapter (.setResumeDependency { status := .stale })])) :=
  (withholds_resume_iff _ (by decide +kernel)).mpr (.inl (by decide +kernel))

/-- Nothing is known of the dependency: a preempted execution is compatible with a destination and eligible, and its
    revalidation goes on. -/
theorem unknown_dependency_permits_resume :
    let s := systemAfter migratableOps
    (s.ad.resumeDependencies s.rt.executionId).status = .unknown ∧
      (s.evaluateMigrationDestination restoringDestination).outcome = .compatible ∧
      s.explainResumeBlockers = resumeEligible ∧
      (run s [.requestResume, .revalidate]).lifecycle = .restoring ∧ ¬WithholdsResume s := by
  intro s
  have compatible : (s.evaluateMigrationDestination restoringDestination).outcome = .compatible := by decide +kernel
  exact ⟨by decide +kernel, compatible, by decide +kernel, by decide +kernel,
    fun withholds => withholds.migration restoringDestination compatible⟩

end PreemptionFabric
