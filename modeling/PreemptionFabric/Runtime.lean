import PreemptionFabric.Lifecycle
import PreemptionFabric.Store

/-! The runtime of a single execution scope (`runtime.hpp`, `runtime.cpp`). An operation is an `Action`: it
    runs atomically on the runtime together with its adapters, returns or throws, and keeps what it wrote
    before a throw. -/

namespace PreemptionFabric

/-- The members of `PreemptionRuntime`, with their initialisers; the adapters are kept beside it. -/
structure PreemptionRuntime where
  epoch : CoordinatorEpoch
  policyGeneration : PolicyGeneration
  workloadId : WorkloadId := {}
  workloadGeneration : WorkloadGeneration := {}
  executionId : ExecutionId := {}
  executionGeneration : ExecutionGeneration := {}
  attemptId : AttemptId := {}
  attemptGeneration : AttemptGeneration := {}
  workerId : WorkerId := {}
  workerBoot : WorkerBootId := {}
  fencedWorkerBoot : WorkerBootId := {}
  machine : LifecycleStateMachine := {}
  activeRequest : Option PreemptionRequest := none
  authoritativeRequestGeneration : PreemptionRequestGeneration := {}
  safePoints : Std.ExtTreeMap SafePointId SafePoint compare := ∅
  currentSafePoint : Option SafePoint := none
  currentPosition : UInt64 := 0
  durablePosition : UInt64 := 0
  progressGeneration : ProgressGeneration := {}
  durableProgressGeneration : ProgressGeneration := {}
  quiesced : Bool := false
  quiescenceGeneration : QuiescenceGeneration := {}
  stateDurable : Bool := false
  stateCaptureGeneration : StateCaptureGeneration := {}
  checkpointRef : CheckpointRef := {}
  checkpointGeneration : CheckpointGeneration := {}
  resourcesReleased : Bool := false
  releaseGeneration : ReleaseGeneration := {}
  resumeGeneration : ResumeGeneration := {}
  resumed : Bool := false
  history : List PersistentSuperseded := []
  priorityGeneration : PriorityGeneration := {}

structure System where
  rt : PreemptionRuntime
  ad : ReferenceAdapters

/-- A newly constructed runtime over adapters in any state. -/
def System.construct (epoch : CoordinatorEpoch) (policy : PolicyGeneration) (ad : ReferenceAdapters) : System :=
  ⟨{ epoch := epoch, policyGeneration := policy }, ad⟩

def System.lifecycle (s : System) : LifecycleState := s.rt.machine.state

abbrev Action (α : Type) := ExceptT PreemptionError (StateM System) α

namespace Action

def runOn {α : Type} (a : Action α) (s : System) : Except PreemptionError α × System := a s

def getRuntime : Action PreemptionRuntime := fun s => (.ok s.rt, s)

def getAdapters : Action ReferenceAdapters := fun s => (.ok s.ad, s)

def setRuntime (f : PreemptionRuntime → PreemptionRuntime) : Action Unit := fun s => (.ok (), { s with rt := f s.rt })

def setAdapters (ad : ReferenceAdapters) : Action Unit := fun s => (.ok (), { s with ad })

def lifecycle : Action LifecycleState := fun s => (.ok s.lifecycle, s)

/-- `machine_.transition(target)` -/
def transition (target : LifecycleState) : Action Unit := fun s =>
  match s.rt.machine.transition target with
  | .ok machine => (.ok (), { s with rt := { s.rt with machine } })
  | .error e => (.error e, s)

def reset (target : LifecycleState) : Action Unit :=
  setRuntime fun rt => { rt with machine := rt.machine.reset target }

end Action

open PreemptionFabric.Action

/-! ### Execution, safe points and progress -/

def startExecution (w : WorkloadId) (wg : WorkloadGeneration) (e : ExecutionId) (eg : ExecutionGeneration)
    (a : AttemptId) (ag : AttemptGeneration) (worker : WorkerId) (boot : WorkerBootId) : Action Unit := do
  setRuntime fun rt => { rt with
    workloadId := w, workloadGeneration := wg, executionId := e, executionGeneration := eg, attemptId := a
    attemptGeneration := ag, workerId := worker, workerBoot := boot }
  reset .invalid
  setRuntime fun rt => { rt with activeRequest := none, executionGeneration := eg }
  let rt ← getRuntime
  let ad ← getAdapters
  setAdapters (ad.setAuthoritative e a eg ag rt.epoch boot)

def declareSafePoint (sp : SafePoint) : Action SafePointId := do
  let copy := { sp with state := .declared }
  setRuntime fun rt => { rt with safePoints := rt.safePoints.insert copy.id copy }
  return copy.id

def unknownSafePoint : PreemptionError := ⟨"unknown_safe_point", "unknown safe point"⟩

def reachSafePoint (id : SafePointId) (position : UInt64) (captureRequired : Bool) : Action Unit := do
  let rt ← getRuntime
  match rt.safePoints[id]? with
  | none => throw unknownSafePoint
  | some sp =>
    let sp := { sp with state := .valid, progressPosition := position, stateCaptureRequired := captureRequired }
    setRuntime fun rt => { rt with
      safePoints := rt.safePoints.insert id sp
      currentSafePoint := some sp
      currentPosition := max rt.currentPosition position }
    if (← lifecycle) = .waitingForSafePoint then
      transition .safePointReached

def publishProgress (position : UInt64) (kind : ProgressKind) : Action Bool := do
  let rt ← getRuntime
  let auth := (← getAdapters).currentAttemptAuthority rt.executionId rt.attemptId
  if !auth.authoritative || auth.workerBootId ≠ rt.workerBoot then
    return false
  -- progress never moves backward in-generation
  if position < rt.durablePosition then
    return false
  setRuntime fun rt => { rt with
    currentPosition := max rt.currentPosition position
    progressGeneration := rt.progressGeneration.next }
  if kind = .durable then
    setRuntime fun rt =>
      if rt.durablePosition ≤ position then
        { rt with durablePosition := position, durableProgressGeneration := rt.progressGeneration }
      else
        rt
  return true

/-! ### Requests and assessment -/

namespace PreemptionRuntime

def validateAuthority (rt : PreemptionRuntime) (req : PreemptionRequest) : Bool :=
  req.coordinatorEpoch = rt.epoch &&
    (req.executionId = rt.executionId && req.attemptId = rt.attemptId) &&
    req.executionGeneration = rt.executionGeneration &&
    req.attemptGeneration = rt.attemptGeneration &&
    -- A coordinator-originated request may carry a default (unknown) boot id.
    !(req.workerBootId.isValid && req.workerBootId ≠ rt.workerBoot)

def requestMatchesCurrent (rt : PreemptionRuntime) (req : PreemptionRequest) : Bool :=
  match rt.activeRequest with
  | none => false
  | some active => active.id = req.id && active.generation = req.generation

/-- `current_safe_point_ && current_safe_point_->state == kValid` -/
def atValidSafePoint (rt : PreemptionRuntime) : Bool :=
  match rt.currentSafePoint with
  | none => false
  | some sp => sp.state = .valid

/-- `current_safe_point_ && current_safe_point_->state_capture_required` -/
def captureRequired (rt : PreemptionRuntime) : Bool :=
  match rt.currentSafePoint with
  | none => false
  | some sp => sp.stateCaptureRequired

/-- `assess`, on a runtime and its adapters. -/
def assess (rt : PreemptionRuntime) (ad : ReferenceAdapters) : PreemptionAssessment :=
  let plan : PreemptionPlan := {
    executionId := rt.executionId
    attemptId := rt.attemptId
    workloadId := rt.workloadId
    workloadGeneration := rt.workloadGeneration
    lastDurableProgress := rt.durablePosition
    currentPosition := rt.currentPosition
    maxRollback := if rt.durablePosition < rt.currentPosition then rt.currentPosition - rt.durablePosition else 0
    -- `release_before_preempted` is true by default and set only to true.
    resourcesToRelease := (ad.currentContract rt.executionId).leases.map (·.resource) }
  match rt.currentSafePoint.filter (·.state = .valid), rt.safePoints.toList with
  | some sp, _ =>
    if sp.stateCaptureRequired then
      { preemptibility := .preemptibleAfterStateCapture
        plan := { plan with
          preservationMode := .capture, stateToPreserveBytes := 1024, nextSafePoint := sp.id
          costToNextSafePoint := 0 } }
    else
      { preemptibility := .preemptibleNow
        plan := { plan with
          preservationMode := .alreadyDurable, nextSafePoint := sp.id, costToNextSafePoint := 0 } }
  | none, (first, _) :: _ =>
    { preemptibility := .preemptibleAtSafePoint
      plan := { plan with preservationMode := .capture, nextSafePoint := first, costToNextSafePoint := 1 }
      why := [⟨"DEFER_TO_SAFE_POINT", "work is between safe point boundaries", .derived⟩] }
  | none, [] =>
    if rt.machine.state = .quiesced || rt.machine.state = .stateDurable || rt.machine.state = .releasePending then
      { preemptibility := .preemptibleNow, plan := { plan with preservationMode := .capture } }
    else
      { preemptibility := .unknown
        plan := { plan with preservationMode := .unknown }
        why := [⟨"UNKNOWN", "no valid safe point or durable boundary evidence", .derived⟩] }

end PreemptionRuntime

def requestPreemption (req : PreemptionRequest) : Action RequestAdmission := do
  let rt ← getRuntime
  if !req.id.isValid || !req.generation.isValid then
    return { code := .rejectedInvalid }
  if !rt.validateAuthority req then
    return { code := .rejectedStale }
  if rt.activeRequest.isSome then
    if rt.requestMatchesCurrent req then
      return { code := .idempotentDuplicate, requestId := req.id, generation := req.generation }
    return { code := .conflictingDuplicate }
  setRuntime fun rt => { rt with activeRequest := some req, authoritativeRequestGeneration := req.generation }
  reset .requested
  transition .validatingAuthority
  transition .assessing
  return { code := .accepted, requestId := req.id, generation := req.generation }

/-! ### Preemption -/

/-- A result that reports the lifecycle as it is now. -/
def finish (outcome : PreemptionOutcome) (evidence : List ExplainEntry) : Action PreemptionResult := do
  return { outcome, lifecycle := ← lifecycle, evidence }

def beginQuiesce : Action PreemptionResult := do
  let s ← lifecycle
  if s = .safePointReached then
    transition .quiescing
    finish .safePreemptionCompleted []
  else if s = .assessing ∨ s = .deferred then
    -- Quiescence is legal only at a valid boundary.
    if (← getRuntime).atValidSafePoint then
      transition .quiescing
      finish .safePreemptionCompleted []
    else
      transition .waitingForSafePoint
      finish .deferToSafePoint [⟨"defer_to_safe_point", "work is between safe point boundaries", .derived⟩]
  else if s = .waitingForSafePoint then
    finish .deferToSafePoint [⟨"defer_to_safe_point", "waiting for the next valid safe point", .derived⟩]
  else if s = .quiescing then
    finish .safePreemptionCompleted []
  else
    finish .cannotPreemptSafely [⟨"cannot_preempt", "no safe boundary reached", .derived⟩]

def isQuiescedAll (ad : ReferenceAdapters) : Bool := ReferenceAdapters.categories.all ad.isQuiesced

def reportQuiesced (report : QuiescenceReport) : Action PreemptionResult := do
  let l ← lifecycle
  let rt ← getRuntime
  -- Quiescence evidence must come from the current worker incarnation.
  if report.workerBootId ≠ rt.workerBoot then
    return ⟨.preemptionFailed, l, [⟨"stale_quiescence", "quiescence evidence from stale worker boot", .derived⟩]⟩
  if l ≠ .quiescing then
    return ⟨.cannotPreemptSafely, l, [⟨"not_quiescing", "quiescence reported outside QUIESCING", .derived⟩]⟩
  if !report.fullyQuiesced || !isQuiescedAll (← getAdapters) then
    return ⟨.cannotPreemptSafely, l, [⟨"not_quiesced", "required activity is not quiesced", .derived⟩]⟩
  transition .quiesced
  setRuntime fun rt => { rt with quiesced := true, quiescenceGeneration := report.generation }
  finish .safePreemptionCompleted []

def requestStateCapture : Action PreemptionResult := do
  let l ← lifecycle
  if l ≠ .quiesced then
    return ⟨.cannotPreemptSafely, l, [⟨"not_quiesced", "state capture requires quiescence", .derived⟩]⟩
  let rt ← getRuntime
  if !rt.captureRequired then
    -- No capture needed: already durable or recomputable.
    transition .releasePending
    setRuntime fun rt => { rt with stateDurable := true }
    finish .stateCaptureRequired []
  else
    transition .captureRequired
    transition .capturingState
    let expected := rt.checkpointGeneration.next
    let (_, ad) := (← getAdapters).requestCapture {
      required := true
      expectedGeneration := expected
      captureGeneration := ⟨expected.value⟩
      executionGeneration := rt.executionGeneration
      attemptGeneration := rt.attemptGeneration }
    setAdapters ad
    finish .stateCaptureRequired []

def reportStateCaptured (result : CaptureResult) : Action PreemptionResult := do
  let l ← lifecycle
  if l ≠ .capturingState then
    return ⟨.cannotPreemptSafely, l,
      [⟨"not_capturing", "state capture reported outside CAPTURING_STATE", .derived⟩]⟩
  if !result.success || !result.completed then
    -- Capture failure must never produce STATE_DURABLE.
    transition .failed
    finish .preemptionFailed [⟨"capture_failed", "state capture did not complete", .real⟩]
  else if !(← getAdapters).validateCheckpoint result.checkpointRef result.checkpointGeneration then
    transition .failed
    finish .preemptionFailed [⟨"stale_checkpoint", "capture generation is not authoritative", .real⟩]
  else
    transition .stateDurable
    setRuntime fun rt => { rt with
      stateDurable := true
      stateCaptureGeneration := result.captureGeneration
      checkpointRef := result.checkpointRef
      checkpointGeneration := result.checkpointGeneration }
    finish .safePreemptionCompleted []

/-- Ask the broker to release each lease of the current contract; the single results are ignored. -/
def releaseLeases (ad : ReferenceAdapters) (e : ExecutionId) : ReferenceAdapters :=
  let contract := ad.currentContract e
  contract.leases.foldl (fun ad lease => (ad.requestRelease e lease.resource lease.units contract.generation).2) ad

def requestRelease : Action PreemptionResult := do
  let l ← lifecycle
  let rt ← getRuntime
  if l ≠ .stateDurable ∧ l ≠ .releasePending then
    return ⟨.cannotPreemptSafely, l,
      [⟨"release_requires_durable_state", "release requires durable state", .derived⟩]⟩
  if !rt.stateDurable then
    return ⟨.preemptionFailed, l, [⟨"not_durable", "cannot release before durable state", .derived⟩]⟩
  if l = .stateDurable then
    transition .releasePending
  transition .releasing
  setAdapters (releaseLeases (← getAdapters) rt.executionId)
  finish .safePreemptionCompleted []

/-- Some lease of the current contract is not fully released. -/
def hasReservedLease (ad : ReferenceAdapters) (e : ExecutionId) : Bool :=
  (ad.currentContract e).leases.any fun lease => ad.reserved lease.resource != 0

def reportReleased : Action PreemptionResult := do
  let l ← lifecycle
  if l ≠ .releasing then
    return ⟨.cannotPreemptSafely, l, [⟨"not_releasing", "release report outside RELEASING", .derived⟩]⟩
  if hasReservedLease (← getAdapters) (← getRuntime).executionId then
    finish .preemptionFailed [⟨"resources_not_released", "release obligations not fully satisfied", .derived⟩]
  else
    transition .resourcesReleased
    setRuntime fun rt => { rt with resourcesReleased := true }
    finish .safePreemptionCompleted []

def commitPreempted : Action PreemptionResult := do
  let l ← lifecycle
  let rt ← getRuntime
  if l ≠ .resourcesReleased then
    return ⟨.cannotPreemptSafely, l, [⟨"not_released", "PREEMPTED requires resources released", .derived⟩]⟩
  if !rt.quiesced || !rt.stateDurable || !rt.resourcesReleased then
    return ⟨.preemptionFailed, l,
      [⟨"missing_boundary", "quiescence/durability/release not all satisfied", .derived⟩]⟩
  transition .preempted
  setRuntime fun rt => { rt with fencedWorkerBoot := rt.workerBoot }
  setAdapters ((← getAdapters).fenceAttempt rt.executionId rt.attemptId rt.executionGeneration).2
  finish .safePreemptionCompleted
    [⟨"preempted", "execution stopped at a valid boundary with durable state and released resources", .real⟩]

/-! ### Resume -/

def requestResume : Action ResumeEligibility := do
  let rt ← getRuntime
  if (← lifecycle) ≠ .preempted then
    return ⟨.resumeNotAllowed, rt.resumeGeneration,
      [⟨"not_preempted", "resume requires a durable PREEMPTED state", .derived⟩]⟩
  -- Fresh resume authority is mandatory.
  transition .resumePending
  setRuntime fun rt => { rt with resumeGeneration := rt.resumeGeneration.next }
  return ⟨.resumeRevalidationRequired, (← getRuntime).resumeGeneration,
    [⟨"revalidation_required", "resume eligibility must be recomputed under current authority", .derived⟩]⟩

/-- `checkpoint_ref_.is_valid() && !validate_checkpoint(checkpoint_ref_, checkpoint_generation_)` -/
def checkpointRejected (rt : PreemptionRuntime) (ad : ReferenceAdapters) : Bool :=
  rt.checkpointRef.isValid && !ad.validateCheckpoint rt.checkpointRef rt.checkpointGeneration

def dependencyBlocks (ad : ReferenceAdapters) (e : ExecutionId) : Bool :=
  (ad.resumeDependencies e).status = .stale || (ad.resumeDependencies e).status = .missing

def revalidate : Action PreemptionResult := do
  let l ← lifecycle
  let rt ← getRuntime
  let ad ← getAdapters
  if l ≠ .resumePending ∧ l ≠ .revalidating then
    return ⟨.cannotPreemptSafely, l, [⟨"not_revalidating", "revalidation requires RESUME_PENDING", .derived⟩]⟩
  if l = .resumePending then
    transition .revalidating
  if checkpointRejected rt ad then
    transition .failed
    -- The result keeps the lifecycle read on entry.
    return ⟨.preemptionFailed, l, [⟨"stale_checkpoint", "checkpoint generation is no longer current", .real⟩]⟩
  if dependencyBlocks ad rt.executionId then
    -- Resume is blocked, not failed: the durable preempted state remains intact.
    finish .cannotPreemptSafely
      [⟨"resume_blocked_dependency", "resume dependency is stale or missing", .derived⟩]
  else
    transition .restoring
    finish .safePreemptionCompleted []

/-- `PreemptionRuntime::restore()` -/
def restore : Action PreemptionResult := do
  let l ← lifecycle
  let rt ← getRuntime
  if l ≠ .restoring then
    return ⟨.cannotPreemptSafely, l, [⟨"not_restoring", "restore requires RESTORING", .derived⟩]⟩
  if rt.checkpointRef.isValid && !(← getAdapters).restore rt.checkpointRef rt.checkpointGeneration then
    transition .failed
    -- The result keeps the lifecycle read on entry.
    return ⟨.preemptionFailed, l, [⟨"restore_failed", "restore did not complete", .real⟩]⟩
  transition .resumeReady
  finish .safePreemptionCompleted []

def confirmResumed : Action PreemptionResult := do
  let l ← lifecycle
  let rt ← getRuntime
  if l ≠ .resumeReady ∧ l ≠ .resuming then
    return ⟨.cannotPreemptSafely, l,
      [⟨"not_resume_ready", "resume confirmation requires RESUME_READY", .derived⟩]⟩
  -- Grant fresh attempt authority before RESUMED.
  let (fresh, ad) := (← getAdapters).grantFreshAttemptAuthority rt.executionId rt.attemptId
    rt.executionGeneration rt.workerBoot
  setAdapters ad
  if !fresh.authoritative then
    return ⟨.preemptionFailed, l,
      [⟨"no_fresh_authority", "could not obtain fresh attempt authority", .derived⟩]⟩
  if l = .resumeReady then
    transition .resuming
  transition .resumed
  setRuntime fun rt => { rt with resumed := true }
  finish .safePreemptionCompleted []

/-! ### Cancellation, completion and incarnations -/

def cancel : Action Unit := do
  let rt ← getRuntime
  if rt.machine.state = .resumed then
    return
  if rt.machine.isTerminal && rt.machine.state ≠ .cancelled then
    return
  if !rt.machine.isTerminal then
    reset .cancelled
    match rt.activeRequest with
    | none => return
    | some req =>
      setRuntime fun rt => { rt with history := rt.history ++ [⟨req.id, req.generation, .cancelled⟩] }

def complete : Action Unit := do
  let rt ← getRuntime
  let s := rt.machine.state
  if s = .resumed ∨ s = .cancelled ∨ s = .resumePending ∨ s = .revalidating ∨ s = .restoring ∨
      s = .resumeReady ∨ s = .resuming then
    -- Completion cannot compete with an in-progress or completed preemption.
    return
  if !rt.machine.isTerminal then
    reset .aborted

def setPriorityGeneration (g : PriorityGeneration) : Action Unit :=
  setRuntime fun rt => { rt with priorityGeneration := g }

def setWorkerIncarnation (worker : WorkerId) (boot : WorkerBootId) : Action Unit :=
  -- A fresh worker incarnation never inherits prior fence state.
  setRuntime fun rt => { rt with workerId := worker, workerBoot := boot, fencedWorkerBoot := {} }

end PreemptionFabric
