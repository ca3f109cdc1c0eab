import PreemptionFabric.Theorems.Boundary
import PreemptionFabric.Theorems.Release
import PreemptionFabric.Theorems.Reports

/-! Driving a preemption. Each operation of a preemption acts in its own stage and changes nothing in any other, so a
    driver that makes all the calls without looking at what they return ends in a lifecycle that can be read off the
    state it starts from. -/

namespace PreemptionFabric
open PreemptionFabric.Action

/-! ### Stages -/

/-- The lifecycles in which an operation can act. Those of a preemption and of a resume have their own stages. -/
def Op.actsIn : Op → LifecycleState → Bool
  | .beginQuiesce, l => l = .safePointReached || l = .assessing || l = .deferred
  | .reportQuiesced _, l => l = .quiescing
  | .requestStateCapture, l => l = .quiesced
  | .reportStateCaptured _, l => l = .capturingState
  | .requestRelease, l => l = .stateDurable || l = .releasePending
  | .reportReleased, l => l = .releasing
  | .commitPreempted, l => l = .resourcesReleased
  | .requestResume, l => l = .preempted
  | .revalidate, l => l = .resumePending || l = .revalidating
  | .restore, l => l = .restoring
  | .confirmResumed, l => l = .resumeReady || l = .resuming
  | _, _ => true

section Operations
variable {s : System} {op : Op}

theorem Move.actsIn {r : Returned} {t : System} (moved : Move s op r t) : op.actsIn s.lifecycle = true := by
  cases moved with
  | quiesce boundary =>
    rcases boundary with before | ⟨before, _⟩
    · simp [Op.actsIn, before]
    · simp [Op.actsIn, before]
  | defer before between => rcases before with before | before <;> simp [Op.actsIn, before]
  | quiesced boot before full all => simp [Op.actsIn, before]
  | captureSkipped before needless => simp [Op.actsIn, before]
  | captureStarted before needed => simp [Op.actsIn, before]
  | captured before success completed valid => simp [Op.actsIn, before]
  | captureFailed before => simp [Op.actsIn, before]
  | releaseRequested before durable => rcases before with before | before <;> simp [Op.actsIn, before]
  | released before free => simp [Op.actsIn, before]
  | committed before quiesced durable released => simp [Op.actsIn, before]
  | resumeRequested before => simp [Op.actsIn, before]
  | revalidateFailed before rejected => rcases before with before | before <;> simp [Op.actsIn, before]
  | revalidateBlocked before current blocked => rcases before with before | before <;> simp [Op.actsIn, before]
  | revalidated before current free => rcases before with before | before <;> simp [Op.actsIn, before]
  | restoreFailed before rejected => simp [Op.actsIn, before]
  | restored before current => simp [Op.actsIn, before]
  | resumed before => rcases before with before | before <;> simp [Op.actsIn, before]
  | loaded ret image =>
    cases op with
    | restoreState st => rfl
    | restoreBytes bytes => rfl
    | load file => rfl
    | _ => cases image
  | _ => rfl

/-- An operation that is called outside of its stages changes nothing. -/
theorem step_idle (other : op.actsIn s.lifecycle = false) : (step s op).2 = s := by
  rcases step_cases s op with moved | ⟨same, _⟩
  · rw [moved.actsIn] at other
    cases other
  · exact same

theorem run_of_step {t : System} (left : (step s op).2 = t) (ops : List Op) : run s (op :: ops) = run t ops := by
  rw [run_cons, left]

/-- Only an unknown safe point and the missing edge from DEFERRED make a step throw. -/
theorem step_ok (s : System) (op : Op) (known : ¬op.MissesSafePoint s) (edge : ¬op.MissesEdge s) :
    ∃ ret, (step s op).1 = .ok ret := by
  cases returned : (step s op).1 with
  | ok ret => exact ⟨ret, rfl⟩
  | error thrown =>
    rcases (step_throws_iff s op).mp ⟨thrown, returned⟩ with unknown | missing
    · exact absurd unknown known
    · exact absurd missing edge

/-! ### What the operations leave -/

theorem beginQuiesce_boundary (before : s.lifecycle = .safePointReached ∨ s.lifecycle = .assessing)
    (boundary : s.lifecycle = .safePointReached ∨ s.rt.atValidSafePoint = true) :
    (step s .beginQuiesce).2 = s.withLifecycle .quiescing := by
  simp only [step, as_eq, beginQuiesce, runOn_bind, runOn_lifecycle, runOn_getRuntime, runOn_ite, runOn_finish]
  rcases before with reached | assessing
  · rw [if_pos reached, runOn_transition_of reached rfl]
  · have valid : s.rt.atValidSafePoint = true := boundary.resolve_left (by simp [assessing])
    rw [if_neg (by simp [assessing]), if_pos (.inl assessing), if_pos valid, runOn_transition_of assessing rfl]

theorem beginQuiesce_between (before : s.lifecycle = .assessing) (between : ¬s.rt.atValidSafePoint = true) :
    (step s .beginQuiesce).2 = s.withLifecycle .waitingForSafePoint := by
  simp only [step, as_eq, beginQuiesce, runOn_bind, runOn_lifecycle, runOn_getRuntime, runOn_ite, runOn_finish]
  rw [if_neg (by simp [before]), if_pos (.inl before), if_neg between, runOn_transition_of before rfl]

/-- The report comes from the current worker, and nothing is active. -/
def System.quiescesUnder (s : System) (report : QuiescenceReport) : Bool :=
  report.workerBootId = s.rt.workerBoot && report.fullyQuiesced && isQuiescedAll s.ad

theorem quiescesUnder_iff {report : QuiescenceReport} :
    s.quiescesUnder report = true ↔
      report.workerBootId = s.rt.workerBoot ∧ report.fullyQuiesced = true ∧ isQuiescedAll s.ad = true := by
  simp [System.quiescesUnder, and_assoc]

theorem reportQuiesced_due (before : s.lifecycle = .quiescing) (report : QuiescenceReport) :
    (step s (.reportQuiesced report)).2 = if s.quiescesUnder report = true then s.quiescedBy report else s := by
  rcases step_cases s (.reportQuiesced report) with moved | ⟨same, refused⟩
  · generalize (step s (.reportQuiesced report)).1 = r, (step s (.reportQuiesced report)).2 = t at moved
    cases moved with
    | quiesced boot before full all => rw [if_pos (quiescesUnder_iff.mpr ⟨boot, full, all⟩)]
    | loaded ret image => cases image
  · rw [same]
    split_ifs with holds
    · obtain ⟨boot, full, all⟩ := quiescesUnder_iff.mp holds
      refine absurd ?_ refused
      simp only [step, as_eq, reportQuiesced, runOn_bind, runOn_lifecycle, runOn_getRuntime, runOn_getAdapters,
        runOn_ite, runOn_pure]
      rw [if_neg (not_not_intro boot), if_neg (not_not_intro before), if_neg (by simp [full, all]),
        runOn_transition_of before rfl]
      exact ⟨_, rfl, rfl⟩
    · rfl

theorem requestStateCapture_skipped (before : s.lifecycle = .quiesced) (needless : s.rt.captureRequired = false) :
    (step s .requestStateCapture).2 = s.captureSkipped := by
  simp only [step, as_eq, requestStateCapture, runOn_bind, runOn_lifecycle, runOn_getRuntime, runOn_ite]
  rw [if_neg (not_not_intro before), if_pos (by simp [needless]), runOn_transition_of before rfl]
  rfl

theorem commitPreempted_due (before : s.lifecycle = .resourcesReleased) (quiesced : s.rt.quiesced = true)
    (durable : s.rt.stateDurable = true) (released : s.rt.resourcesReleased = true) :
    (step s .commitPreempted).1.HasOutcome .safePreemptionCompleted ∧ (step s .commitPreempted).2 = s.committed := by
  simp only [step, as_eq, commitPreempted, runOn_bind, runOn_lifecycle, runOn_getRuntime, runOn_ite, runOn_pure]
  rw [if_neg (not_not_intro before), if_neg (by simp [quiesced, durable, released]), runOn_transition_of before rfl]
  exact ⟨⟨_, rfl, rfl⟩, rfl⟩

end Operations

/-! ### A preemption driven to its end -/

/-- The calls of a driver, with the reports that it makes. -/
def preemptionOps (report : QuiescenceReport) (result : CaptureResult) : List Op :=
  [.beginQuiesce, .reportQuiesced report, .requestStateCapture, .reportStateCaptured result, .requestRelease,
    .reportReleased, .commitPreempted]

section Preemption
variable {s : System} {report : QuiescenceReport} {result : CaptureResult}

/-- No capture is needed, or the reported one is complete and valid. -/
def System.preservedBy (s : System) (result : CaptureResult) : Bool :=
  !s.rt.captureRequired || result.success && result.completed &&
    s.ad.validateCheckpoint result.checkpointRef result.checkpointGeneration

/-- The contract is that of the execution, or nothing is reserved under it. -/
def System.releasable (s : System) : Bool :=
  s.ad.contractExecution = s.rt.executionId || !hasReservedLease s.ad s.rt.executionId

theorem hasReservedLease_releaseLeases (s : System) :
    hasReservedLease (releaseLeases s.ad s.rt.executionId) s.rt.executionId = !s.releasable := by
  by_cases own : s.ad.contractExecution = s.rt.executionId
  · rw [System.releasable, decide_eq_true own, Bool.true_or]
    exact hasReservedLease_eq_false.mpr fun c => (releaseLeases_own own.symm c).1
  · rw [System.releasable, decide_eq_false own, Bool.false_or, Bool.not_not, releaseLeases_foreign (Ne.symm own)]

theorem run_release (before : s.lifecycle = .stateDurable ∨ s.lifecycle = .releasePending)
    (durable : s.rt.stateDurable = true) (quiesced : s.rt.quiesced = true) :
    (run s [.requestRelease, .reportReleased, .commitPreempted]).lifecycle =
      if s.releasable = true then .preempted else .releasing := by
  have requested : (step s .requestRelease).2 = s.releaseRequested := by rw [requestRelease_due before durable]
  have reserved : hasReservedLease s.releaseRequested.ad s.releaseRequested.rt.executionId = !s.releasable :=
    hasReservedLease_releaseLeases s
  rw [run_of_step requested]
  cases releasable : s.releasable with
  | true =>
    have released : (step s.releaseRequested .reportReleased).2 = s.releaseRequested.resourcesReleased := by
      rw [reportReleased_due rfl, if_neg (by simp [reserved, releasable])]
    have committed := commitPreempted_due (s := s.releaseRequested.resourcesReleased) rfl quiesced durable rfl
    rw [run_of_step released, run_of_step committed.2, if_pos rfl]
    rfl
  | false =>
    have held : (step s.releaseRequested .reportReleased).2 = s.releaseRequested := by
      rw [reportReleased_due rfl, if_pos (by simp [reserved, releasable])]
    have idle : (step s.releaseRequested .commitPreempted).2 = s.releaseRequested := step_idle rfl
    rw [run_of_step held, run_of_step idle, if_neg (by simp)]
    rfl

theorem run_preservation (before : s.lifecycle = .quiesced) (quiesced : s.rt.quiesced = true) :
    (run s [.requestStateCapture, .reportStateCaptured result, .requestRelease, .reportReleased,
      .commitPreempted]).lifecycle =
      if s.preservedBy result = true then if s.releasable = true then .preempted else .releasing else .failed := by
  cases needed : s.rt.captureRequired with
  | false =>
    have preserved : s.preservedBy result = true := by simp [System.preservedBy, needed]
    have idle : (step s.captureSkipped (.reportStateCaptured result)).2 = s.captureSkipped := step_idle rfl
    rw [run_of_step (requestStateCapture_skipped before needed), run_of_step idle, if_pos preserved]
    exact run_release (s := s.captureSkipped) (.inr rfl) rfl quiesced
  | true =>
    have started : (step s .requestStateCapture).2 = s.captureStarted := by
      rw [requestStateCapture_needed before needed]
    have accepted : ((result.success = true ∧ result.completed = true) ∧
        s.captureStarted.ad.validateCheckpoint result.checkpointRef result.checkpointGeneration = true) ↔
        s.preservedBy result = true := by
      have same : s.captureStarted.ad.validateCheckpoint result.checkpointRef result.checkpointGeneration =
          s.ad.validateCheckpoint result.checkpointRef result.checkpointGeneration := rfl
      simp [System.preservedBy, needed, same]
    have reported := reportStateCaptured_due (s := s.captureStarted) rfl result
    rw [run_of_step started]
    by_cases preserved : s.preservedBy result = true
    · rw [if_pos (accepted.mpr preserved)] at reported
      rw [run_of_step reported, if_pos preserved]
      exact run_release (s := s.captureStarted.captured result) (.inl rfl) rfl quiesced
    · rw [if_neg (mt accepted.mp preserved)] at reported
      rw [run_of_step reported, if_neg preserved]
      -- Nothing leads out of FAILED.
      rw [run_of_step (step_idle rfl), run_of_step (step_idle rfl), run_of_step (step_idle rfl)]
      rfl

/-- A driver that makes the calls one after the other ends where the first thing is missing: at the boundary, with
    the quiescence, with the capture or with the release. -/
theorem run_preemption (s : System) (report : QuiescenceReport) (result : CaptureResult)
    (before : s.lifecycle = .safePointReached ∨ s.lifecycle = .assessing) :
    (run s (preemptionOps report result)).lifecycle =
      if s.lifecycle = .assessing ∧ s.rt.atValidSafePoint = false then .waitingForSafePoint
      else if s.quiescesUnder report = false then .quiescing
      else if s.preservedBy result = false then .failed
      else if s.releasable = false then .releasing
      else .preempted := by
  by_cases between : s.lifecycle = .assessing ∧ s.rt.atValidSafePoint = false
  · rw [if_pos between, preemptionOps,
      run_of_step (beginQuiesce_between between.1 (by simp [between.2])), run_of_step (step_idle rfl),
      run_of_step (step_idle rfl), run_of_step (step_idle rfl), run_of_step (step_idle rfl),
      run_of_step (step_idle rfl), run_of_step (step_idle rfl)]
    rfl
  · have boundary : s.lifecycle = .safePointReached ∨ s.rt.atValidSafePoint = true := by
      rcases before with reached | assessing
      · exact .inl reached
      · exact .inr (Bool.not_eq_false _ ▸ fun invalid => between ⟨assessing, invalid⟩)
    have reported := reportQuiesced_due (s := s.withLifecycle .quiescing) rfl report
    have same : (s.withLifecycle .quiescing).quiescesUnder report = s.quiescesUnder report := rfl
    rw [same] at reported
    rw [if_neg between, preemptionOps, run_of_step (beginQuiesce_boundary before boundary)]
    cases quiet : s.quiescesUnder report with
    | false =>
      rw [quiet, if_neg Bool.false_ne_true] at reported
      rw [run_of_step reported, if_pos rfl, run_of_step (step_idle rfl), run_of_step (step_idle rfl),
        run_of_step (step_idle rfl), run_of_step (step_idle rfl), run_of_step (step_idle rfl)]
      rfl
    | true =>
      have kept : ((s.withLifecycle .quiescing).quiescedBy report).preservedBy result = s.preservedBy result := rfl
      have contract : ((s.withLifecycle .quiescing).quiescedBy report).releasable = s.releasable := rfl
      rw [quiet, if_pos rfl] at reported
      rw [run_of_step reported, run_preservation rfl rfl, kept, contract]
      cases s.preservedBy result <;> cases s.releasable <;> rfl

/-- Between two boundaries nothing is assessed as preemptible at once. -/
theorem assess_between (before : s.lifecycle = .assessing) (between : s.rt.atValidSafePoint = false) :
    (s.rt.assess s.ad).preemptibility = .preemptibleAtSafePoint ∨
      (s.rt.assess s.ad).preemptibility = .unknown := by
  have none : s.rt.currentSafePoint.filter (·.state = .valid) = none := by
    rw [Option.filter_eq_none_iff]
    intro sp current valid
    rw [atValidSafePoint_iff.mpr ⟨sp, current, of_decide_eq_true valid⟩] at between
    cases between
  unfold PreemptionRuntime.assess
  simp only [none]
  cases s.rt.safePoints.toList with
  | cons first rest => exact .inl rfl
  | nil =>
    have other : ¬(s.rt.machine.state = .quiesced || s.rt.machine.state = .stateDurable ||
        s.rt.machine.state = .releasePending) = true := by
      rw [System.lifecycle] at before
      simp [before]
    simp only [if_neg other]
    exact .inr trivial

/-- The reported capture is complete and valid. -/
def System.acceptsCapture (s : System) (result : CaptureResult) : Bool :=
  result.success && result.completed && s.ad.validateCheckpoint result.checkpointRef result.checkpointGeneration

/-- The assessment of a request tells where a driver ends that makes all the calls: work that is preemptible now needs
    no capture, work that is preemptible after a state capture fails on one that is not accepted, and all other work
    waits for its boundary. -/
theorem assessment_predicts (s : System) (report : QuiescenceReport) (result : CaptureResult)
    (before : s.lifecycle = .assessing) :
    (run s (preemptionOps report result)).lifecycle =
      match (s.rt.assess s.ad).preemptibility with
      | .preemptibleNow =>
        if s.quiescesUnder report = false then .quiescing
        else if s.releasable = false then .releasing
        else .preempted
      | .preemptibleAfterStateCapture =>
        if s.quiescesUnder report = false then .quiescing
        else if s.acceptsCapture result = false then .failed
        else if s.releasable = false then .releasing
        else .preempted
      | _ => .waitingForSafePoint := by
  rw [run_preemption s report result (.inr before)]
  cases boundary : s.rt.atValidSafePoint with
  | false =>
    rw [if_pos ⟨before, rfl⟩]
    rcases assess_between before boundary with deferred | unknown
    · rw [deferred]
    · rw [unknown]
  | true =>
    obtain ⟨sp, current, valid⟩ := atValidSafePoint_iff.mp boundary
    have needs : s.rt.captureRequired = sp.stateCaptureRequired := by rw [PreemptionRuntime.captureRequired, current]
    rw [if_neg fun between => Bool.false_ne_true between.2.symm, assess_valid current valid, System.preservedBy, needs]
    cases sp.stateCaptureRequired with
    | true => rfl
    | false => rfl

/-- An assessed request at its boundary, with a quiescence of its worker and a complete capture. -/
theorem assessment_predicts_captured :
    (run (run (.construct ⟨1⟩ ⟨1⟩ quietAdapters) (requestOps true))
      (preemptionOps { workerBootId := ⟨5⟩, fullyQuiesced := true }
        { completed := true, success := true, checkpointRef := ⟨1⟩, checkpointGeneration := ⟨1⟩ })).lifecycle =
      .preempted := by
  rw [assessment_predicts _ _ _ (by decide +kernel)]
  decide +kernel

end Preemption

end PreemptionFabric
