import PreemptionFabric.Theorems.Actions

/-! What a step can do, said once. `Move` lists every way in which a step changes the system, with the
    conditions the code checked; `step_cases` proves that a step which is not a `Move` leaves the system as
    it was and did not succeed. The invariants are case analyses on `Move`. -/

namespace PreemptionFabric
open PreemptionFabric.Action

/-! ### Kinds of steps -/

/-- The image that a step installs: `restore(PersistentState)`, or bytes that the decoder accepts. -/
def Op.loads : Op → Option PersistentState
  | .restoreState st => some st
  | .restoreBytes bytes => (decode bytes).toOption
  | .load (some bytes) => (decode bytes).toOption
  | _ => none

def Op.isStart : Op → Bool
  | .startExecution .. => true
  | _ => false

/-- The step succeeded. Operations that may answer the same without a change (`begin_quiesce`, `cancel`,
    `complete`, the queries) are not counted. -/
def Op.Succeeded (op : Op) (r : Returned) : Prop :=
  match op with
  | .startExecution .. | .declareSafePoint _ | .setPriorityGeneration _ | .setWorkerIncarnation .. | .adapter _ => True
  | .reachSafePoint .. => r = .ok .unit
  | .publishProgress _ _ => r = .ok (.bool true)
  | .requestPreemption _ => ∃ a, r = .ok (.admission a) ∧ a.code = .accepted
  | .requestStateCapture => r.HasOutcome .stateCaptureRequired
  | .reportQuiesced _ | .reportStateCaptured _ | .requestRelease | .reportReleased | .commitPreempted
  | .revalidate | .restore | .confirmResumed => r.HasOutcome .safePreemptionCompleted
  | .requestResume => ∃ e, r = .ok (.eligibility e) ∧ e.outcome = .resumeRevalidationRequired
  | .restoreState _ | .restoreBytes _ | .load _ => op.loads.isSome = true
  | .beginQuiesce | .cancel | .complete | .query _ => False

/-- The adapters report the attempt authoritative for the current worker boot. -/
def System.holdsAuthority (s : System) : Bool :=
  let auth := s.ad.currentAttemptAuthority s.rt.executionId s.rt.attemptId
  auth.authoritative && auth.workerBootId = s.rt.workerBoot

/-! ### What the operations leave -/

def SafePoint.reachedAt (sp : SafePoint) (position : UInt64) (captureRequired : Bool) : SafePoint :=
  { sp with state := .valid, progressPosition := position, stateCaptureRequired := captureRequired }

namespace System

def started (s : System) (w : WorkloadId) (wg : WorkloadGeneration) (e : ExecutionId) (eg : ExecutionGeneration)
    (a : AttemptId) (ag : AttemptGeneration) (worker : WorkerId) (boot : WorkerBootId) : System where
  rt := { s.rt with
    workloadId := w, workloadGeneration := wg, executionId := e, executionGeneration := eg, attemptId := a
    attemptGeneration := ag, workerId := worker, workerBoot := boot, machine := ⟨.invalid⟩, activeRequest := none }
  ad := s.ad.setAuthoritative e a eg ag s.rt.epoch boot

def declared (s : System) (sp : SafePoint) : System :=
  { s with rt := { s.rt with safePoints := s.rt.safePoints.insert sp.id { sp with state := .declared } } }

/-- Reaching a safe point ends a wait for one. -/
def reached (s : System) (id : SafePointId) (sp : SafePoint) : System :=
  { s with rt := { s.rt with
    safePoints := s.rt.safePoints.insert id sp
    currentSafePoint := some sp
    currentPosition := max s.rt.currentPosition sp.progressPosition
    machine := ⟨if s.lifecycle = .waitingForSafePoint then .safePointReached else s.lifecycle⟩ } }

theorem reached_lifecycle (s : System) (id : SafePointId) (sp : SafePoint) :
    (s.reached id sp).lifecycle = if s.lifecycle = .waitingForSafePoint then .safePointReached else s.lifecycle := rfl

theorem lifecycle_of_reached {s : System} {id : SafePointId} {sp : SafePoint} {l : LifecycleState}
    (after : (s.reached id sp).lifecycle = l) (other : l ≠ .safePointReached) : s.lifecycle = l := by
  rw [reached_lifecycle] at after
  split at after
  · exact absurd after.symm other
  · exact after

def published (s : System) (position : UInt64) (kind : ProgressKind) : System :=
  { s with rt := { s.rt with
    currentPosition := max s.rt.currentPosition position
    progressGeneration := s.rt.progressGeneration.next
    durablePosition := if kind = .durable then position else s.rt.durablePosition
    durableProgressGeneration :=
      if kind = .durable then s.rt.progressGeneration.next else s.rt.durableProgressGeneration } }

def accepted (s : System) (req : PreemptionRequest) : System :=
  { s with rt := { s.rt with
    activeRequest := some req, authoritativeRequestGeneration := req.generation, machine := ⟨.assessing⟩ } }

def quiescedBy (s : System) (report : QuiescenceReport) : System :=
  { s with rt := { s.rt with
    quiesced := true, quiescenceGeneration := report.generation, machine := ⟨.quiesced⟩ } }

def captureSkipped (s : System) : System :=
  { s with rt := { s.rt with stateDurable := true, machine := ⟨.releasePending⟩ } }

/-- The capture that the runtime asks for: the successor of its own checkpoint generation. -/
def captureRequest (s : System) : StateCaptureRequest where
  required := true
  expectedGeneration := s.rt.checkpointGeneration.next
  captureGeneration := ⟨s.rt.checkpointGeneration.next.value⟩
  executionGeneration := s.rt.executionGeneration
  attemptGeneration := s.rt.attemptGeneration

def captureStarted (s : System) : System :=
  { s.withLifecycle .capturingState with ad := (s.ad.requestCapture s.captureRequest).2 }

def captured (s : System) (result : CaptureResult) : System :=
  { s with rt := { s.rt with
    stateDurable := true
    stateCaptureGeneration := result.captureGeneration
    checkpointRef := result.checkpointRef
    checkpointGeneration := result.checkpointGeneration
    machine := ⟨.stateDurable⟩ } }

def releaseRequested (s : System) : System :=
  { s.withLifecycle .releasing with ad := releaseLeases s.ad s.rt.executionId }

def resourcesReleased (s : System) : System :=
  { s with rt := { s.rt with resourcesReleased := true, machine := ⟨.resourcesReleased⟩ } }

def committed (s : System) : System where
  rt := { s.rt with fencedWorkerBoot := s.rt.workerBoot, machine := ⟨.preempted⟩ }
  ad := (s.ad.fenceAttempt s.rt.executionId s.rt.attemptId s.rt.executionGeneration).2

def resumePending (s : System) : System :=
  { s with rt := { s.rt with resumeGeneration := s.rt.resumeGeneration.next, machine := ⟨.resumePending⟩ } }

def resumed (s : System) : System where
  rt := { s.rt with resumed := true, machine := ⟨.resumed⟩ }
  ad := (s.ad.grantFreshAttemptAuthority s.rt.executionId s.rt.attemptId s.rt.executionGeneration s.rt.workerBoot).2

def cancelledRequest (req : PreemptionRequest) : PersistentSuperseded := ⟨req.id, req.generation, .cancelled⟩

/-- Cancelling records the active request, if there is one. -/
def cancelled (s : System) : System :=
  { s with rt := { s.rt with
    machine := ⟨.cancelled⟩
    history := s.rt.history ++ (s.rt.activeRequest.map cancelledRequest).toList } }

def reincarnated (s : System) (worker : WorkerId) (boot : WorkerBootId) : System :=
  { s with rt := { s.rt with workerId := worker, workerBoot := boot, fencedWorkerBoot := {} } }

end System

/-! ### Moves -/

/-- The ways in which a step changes the system. -/
inductive Move (s : System) : Op → Returned → System → Prop
  | start (w : WorkloadId) (wg : WorkloadGeneration) (e : ExecutionId) (eg : ExecutionGeneration) (a : AttemptId)
      (ag : AttemptGeneration) (worker : WorkerId) (boot : WorkerBootId) :
      Move s (.startExecution w wg e eg a ag worker boot) (.ok .unit) (s.started w wg e eg a ag worker boot)
  | declare (sp : SafePoint) : Move s (.declareSafePoint sp) (.ok (.safePoint sp.id)) (s.declared sp)
  | reach {id : SafePointId} {sp : SafePoint} (position : UInt64) (captureRequired : Bool)
      (found : s.rt.safePoints[id]? = some sp) :
      Move s (.reachSafePoint id position captureRequired) (.ok .unit)
        (s.reached id (sp.reachedAt position captureRequired))
  | publish {position : UInt64} (kind : ProgressKind) (auth : s.holdsAuthority = true)
      (forward : s.rt.durablePosition ≤ position) :
      Move s (.publishProgress position kind) (.ok (.bool true)) (s.published position kind)
  | accept {req : PreemptionRequest} (id : req.id.isValid = true) (generation : req.generation.isValid = true)
      (auth : s.rt.validateAuthority req = true) (first : s.rt.activeRequest = none) :
      Move s (.requestPreemption req) (.ok (.admission ⟨.accepted, req.id, req.generation⟩)) (s.accepted req)
  | quiesce
      (boundary : s.lifecycle = .safePointReached ∨ s.lifecycle = .assessing ∧ s.rt.atValidSafePoint = true) :
      Move s .beginQuiesce (.ok (.result ⟨.safePreemptionCompleted, .quiescing, []⟩)) (s.withLifecycle .quiescing)
  | defer {evidence : List ExplainEntry} (before : s.lifecycle = .assessing ∨ s.lifecycle = .deferred)
      (between : s.rt.atValidSafePoint = false) :
      Move s .beginQuiesce (.ok (.result ⟨.deferToSafePoint, .waitingForSafePoint, evidence⟩))
        (s.withLifecycle .waitingForSafePoint)
  | quiesced {report : QuiescenceReport} (boot : report.workerBootId = s.rt.workerBoot)
      (before : s.lifecycle = .quiescing) (full : report.fullyQuiesced = true)
      (all : isQuiescedAll s.ad = true) :
      Move s (.reportQuiesced report) (.ok (.result ⟨.safePreemptionCompleted, .quiesced, []⟩)) (s.quiescedBy report)
  | captureSkipped (before : s.lifecycle = .quiesced) (needless : s.rt.captureRequired = false) :
      Move s .requestStateCapture (.ok (.result ⟨.stateCaptureRequired, .releasePending, []⟩)) s.captureSkipped
  | captureStarted (before : s.lifecycle = .quiesced) (needed : s.rt.captureRequired = true) :
      Move s .requestStateCapture (.ok (.result ⟨.stateCaptureRequired, .capturingState, []⟩)) s.captureStarted
  | captured {result : CaptureResult} (before : s.lifecycle = .capturingState) (success : result.success = true)
      (completed : result.completed = true)
      (valid : s.ad.validateCheckpoint result.checkpointRef result.checkpointGeneration = true) :
      Move s (.reportStateCaptured result) (.ok (.result ⟨.safePreemptionCompleted, .stateDurable, []⟩))
        (s.captured result)
  | captureFailed {result : CaptureResult} {evidence : List ExplainEntry} (before : s.lifecycle = .capturingState) :
      Move s (.reportStateCaptured result) (.ok (.result ⟨.preemptionFailed, .failed, evidence⟩))
        (s.withLifecycle .failed)
  | releaseRequested (before : s.lifecycle = .stateDurable ∨ s.lifecycle = .releasePending)
      (durable : s.rt.stateDurable = true) :
      Move s .requestRelease (.ok (.result ⟨.safePreemptionCompleted, .releasing, []⟩)) s.releaseRequested
  | released (before : s.lifecycle = .releasing) (free : hasReservedLease s.ad s.rt.executionId = false) :
      Move s .reportReleased (.ok (.result ⟨.safePreemptionCompleted, .resourcesReleased, []⟩)) s.resourcesReleased
  | committed {evidence : List ExplainEntry} (before : s.lifecycle = .resourcesReleased)
      (quiesced : s.rt.quiesced = true) (durable : s.rt.stateDurable = true)
      (released : s.rt.resourcesReleased = true) :
      Move s .commitPreempted (.ok (.result ⟨.safePreemptionCompleted, .preempted, evidence⟩)) s.committed
  | resumeRequested {why : List ExplainEntry} (before : s.lifecycle = .preempted) :
      Move s .requestResume
        (.ok (.eligibility ⟨.resumeRevalidationRequired, s.rt.resumeGeneration.next, why⟩)) s.resumePending
  | revalidateFailed {evidence : List ExplainEntry}
      (before : s.lifecycle = .resumePending ∨ s.lifecycle = .revalidating)
      (rejected : checkpointRejected s.rt s.ad = true) :
      Move s .revalidate (.ok (.result ⟨.preemptionFailed, s.lifecycle, evidence⟩)) (s.withLifecycle .failed)
  | revalidateBlocked {evidence : List ExplainEntry}
      (before : s.lifecycle = .resumePending ∨ s.lifecycle = .revalidating)
      (current : checkpointRejected s.rt s.ad = false) (blocked : dependencyBlocks s.ad s.rt.executionId = true) :
      Move s .revalidate (.ok (.result ⟨.cannotPreemptSafely, .revalidating, evidence⟩))
        (s.withLifecycle .revalidating)
  | revalidated (before : s.lifecycle = .resumePending ∨ s.lifecycle = .revalidating)
      (current : checkpointRejected s.rt s.ad = false) (free : dependencyBlocks s.ad s.rt.executionId = false) :
      Move s .revalidate (.ok (.result ⟨.safePreemptionCompleted, .restoring, []⟩)) (s.withLifecycle .restoring)
  | restoreFailed {evidence : List ExplainEntry} (before : s.lifecycle = .restoring)
      (rejected : checkpointRejected s.rt s.ad = true) :
      Move s .restore (.ok (.result ⟨.preemptionFailed, .restoring, evidence⟩)) (s.withLifecycle .failed)
  | restored (before : s.lifecycle = .restoring) (current : checkpointRejected s.rt s.ad = false) :
      Move s .restore (.ok (.result ⟨.safePreemptionCompleted, .resumeReady, []⟩)) (s.withLifecycle .resumeReady)
  | resumed (before : s.lifecycle = .resumeReady ∨ s.lifecycle = .resuming) :
      Move s .confirmResumed (.ok (.result ⟨.safePreemptionCompleted, .resumed, []⟩)) s.resumed
  | cancelled (live : s.rt.machine.isTerminal = false) : Move s .cancel (.ok .unit) s.cancelled
  | aborted (live : s.rt.machine.isTerminal = false)
      (early : s.rt.machine.isPreemptedDurable = false ∨ s.lifecycle = .preempted) :
      Move s .complete (.ok .unit) (s.withLifecycle .aborted)
  | priority (g : PriorityGeneration) :
      Move s (.setPriorityGeneration g) (.ok .unit) { s with rt := { s.rt with priorityGeneration := g } }
  | incarnation (worker : WorkerId) (boot : WorkerBootId) :
      Move s (.setWorkerIncarnation worker boot) (.ok .unit) (s.reincarnated worker boot)
  | loaded {op : Op} {st : PersistentState} (r : Ret) (image : op.loads = some st) : Move s op (.ok r) (s.restored st)
  | adapter (o : AdapterOp) : Move s (.adapter o) (.ok .unit) { s with ad := o.apply s.ad }

/-- What a step returned and left: it moved, or it changed nothing and did not succeed. -/
def Shows (s : System) (op : Op) (p : Returned × System) : Prop :=
  Move s op p.1 p.2 ∨ p.2 = s ∧ ¬op.Succeeded p.1

/-- `begin_quiesce` asks for an edge from DEFERRED to QUIESCING, which the table does not have. -/
def Op.MissesEdge (s : System) (op : Op) : Prop :=
  op = .beginQuiesce ∧ s.lifecycle = .deferred ∧ s.rt.atValidSafePoint = true

/-- `reach_safe_point` is asked for a safe point that was not declared. -/
def Op.MissesSafePoint (s : System) (op : Op) : Prop :=
  ∃ id position captureRequired, op = .reachSafePoint id position captureRequired ∧ s.rt.safePoints[id]? = none

/-- What a step that changes nothing returns: a result reports the lifecycle as it is, and an error is that of an
    unknown safe point or of a missing edge. -/
def Op.Refuses (s : System) (op : Op) : Returned → Prop
  | .ok (.result res) => res.lifecycle = s.lifecycle
  | .ok _ => True
  | .error e =>
    op.MissesSafePoint s ∧ e = unknownSafePoint ∨ op.MissesEdge s ∧ e = invalidTransition .deferred .quiescing

/-- `Shows`, with what is returned when nothing changes. -/
def Answers (s : System) (op : Op) (p : Returned × System) : Prop :=
  Move s op p.1 p.2 ∨ p.2 = s ∧ ¬op.Succeeded p.1 ∧ op.Refuses s p.1

section Operations
variable {s : System} {op : Op} {r : Returned} {t : System}

theorem Answers.move (h : Move s op r t) : Answers s op (r, t) := Or.inl h

theorem Answers.idle (h : ¬op.Succeeded r) (refusal : op.Refuses s r) : Answers s op (r, s) := Or.inr ⟨rfl, h, refusal⟩

/-- `reach_safe_point` throws on an unknown safe point; else it records the boundary. -/
theorem reachSafePoint_step (s : System) (id : SafePointId) (position : UInt64) (captureRequired : Bool) :
    step s (.reachSafePoint id position captureRequired) =
      match s.rt.safePoints[id]? with
      | none => (.error unknownSafePoint, s)
      | some sp => (.ok .unit, s.reached id (sp.reachedAt position captureRequired)) := by
  simp only [step, as_eq, reachSafePoint, runOn_bind, runOn_getRuntime]
  cases s.rt.safePoints[id]? with
  | none => rfl
  | some sp =>
    simp only [runOn_bind, runOn_setRuntime, runOn_lifecycle, runOn_ite, runOn_pure]
    split_ifs with hl
    · rw [runOn_transition_of hl rfl]
      have waiting : s.lifecycle = .waitingForSafePoint := hl
      simp only [System.reached, if_pos waiting]
      rfl
    · have other : ¬s.lifecycle = .waitingForSafePoint := hl
      simp only [System.reached, if_neg other]
      rfl

theorem reachSafePoint_answers (id : SafePointId) (position : UInt64) (captureRequired : Bool) :
    Answers s (.reachSafePoint id position captureRequired) (step s (.reachSafePoint id position captureRequired)) := by
  rw [reachSafePoint_step]
  cases found : s.rt.safePoints[id]? with
  | none => exact .idle nofun (.inl ⟨⟨id, position, captureRequired, rfl, found⟩, rfl⟩)
  | some sp => exact .move (.reach position captureRequired found)

/-- `publish_progress` is accepted exactly from an authoritative attempt and not behind durable progress. -/
theorem publishProgress_step (s : System) (position : UInt64) (kind : ProgressKind) :
    step s (.publishProgress position kind) =
      if s.holdsAuthority = true ∧ s.rt.durablePosition ≤ position then
        (.ok (.bool true), s.published position kind)
      else
        (.ok (.bool false), s) := by
  have denied : (!(s.ad.currentAttemptAuthority s.rt.executionId s.rt.attemptId).authoritative ||
      decide ((s.ad.currentAttemptAuthority s.rt.executionId s.rt.attemptId).workerBootId ≠ s.rt.workerBoot)) =
      !s.holdsAuthority := by
    simp [System.holdsAuthority]
  simp only [step, as_eq, publishProgress, runOn_bind, runOn_getRuntime, runOn_getAdapters, runOn_ite, runOn_pure,
    denied]
  cases s.holdsAuthority with
  | false => simp
  | true =>
    by_cases forward : s.rt.durablePosition ≤ position
    · rw [if_neg (by simp), if_neg (UInt64.not_lt.mpr forward), if_pos ⟨rfl, forward⟩]
      by_cases durable : kind = .durable
      · simp only [runOn_setRuntime, if_pos durable, if_pos forward, System.published]
      · simp only [runOn_setRuntime, if_neg durable, System.published]
    · rw [if_neg (by simp), if_pos (UInt64.not_le.mp forward), if_neg (fun h => forward h.2)]

theorem publishProgress_answers (position : UInt64) (kind : ProgressKind) :
    Answers s (.publishProgress position kind) (step s (.publishProgress position kind)) := by
  rw [publishProgress_step]
  split_ifs with accepted
  · exact .move (.publish kind accepted.1 accepted.2)
  · exact .idle (by simp [Op.Succeeded]) trivial

theorem requestPreemption_answers (req : PreemptionRequest) :
    Answers s (.requestPreemption req) (step s (.requestPreemption req)) := by
  simp only [step, as_eq, requestPreemption, runOn_bind, runOn_getRuntime, runOn_ite, runOn_pure, runOn_setRuntime,
    runOn_reset]
  split_ifs with hvalid hauth hactive hmatch
  · exact .idle (by simp [Op.Succeeded]) trivial
  · exact .idle (by simp [Op.Succeeded]) trivial
  · exact .idle (by simp [Op.Succeeded]) trivial
  · exact .idle (by simp [Op.Succeeded]) trivial
  · simp only [Bool.or_eq_true, Bool.not_eq_true', not_or, Bool.not_eq_false] at hvalid
    simp only [Bool.not_eq_true', Bool.not_eq_false] at hauth
    have hfirst : s.rt.activeRequest = none := by simpa using hactive
    rw [runOn_transition_of rfl rfl]
    simp only
    rw [runOn_transition_of rfl rfl]
    exact .move (.accept hvalid.1 hvalid.2 hauth hfirst)

theorem beginQuiesce_answers : Answers s .beginQuiesce (step s .beginQuiesce) := by
  simp only [step, as_eq, beginQuiesce, runOn_bind, runOn_lifecycle, runOn_getRuntime, runOn_ite, runOn_finish]
  split_ifs with hreached hbefore hvalid hwait hquiescing
  · rw [runOn_transition_of hreached rfl]
    exact .move (.quiesce (.inl hreached))
  · rcases hbefore with hl | hl
    · rw [runOn_transition_of hl rfl]
      exact .move (.quiesce (.inr ⟨hl, hvalid⟩))
    · -- DEFERRED has no edge to QUIESCING: the transition throws.
      rw [runOn_transition, hl]
      exact .idle (fun h => h) (.inr ⟨⟨rfl, hl, hvalid⟩, rfl⟩)
  · have hbetween : s.rt.atValidSafePoint = false := by simpa using hvalid
    rcases hbefore with hl | hl
    · rw [runOn_transition_of hl rfl]
      exact .move (.defer (.inl hl) hbetween)
    · rw [runOn_transition_of hl rfl]
      exact .move (.defer (.inr hl) hbetween)
  · exact .idle (fun h => h) rfl
  · exact .idle (fun h => h) rfl
  · exact .idle (fun h => h) rfl

theorem reportQuiesced_answers (report : QuiescenceReport) :
    Answers s (.reportQuiesced report) (step s (.reportQuiesced report)) := by
  simp only [step, as_eq, reportQuiesced, runOn_bind, runOn_lifecycle, runOn_getRuntime, runOn_getAdapters, runOn_ite,
    runOn_pure]
  split_ifs with hboot hl hfull
  · exact .idle (Returned.not_hasOutcome (by simp)) rfl
  · exact .idle (Returned.not_hasOutcome (by simp)) rfl
  · exact .idle (Returned.not_hasOutcome (by simp)) rfl
  · have hb : report.workerBootId = s.rt.workerBoot := by simpa using hboot
    have hq : s.lifecycle = .quiescing := by simpa using hl
    simp only [Bool.or_eq_true, Bool.not_eq_true', not_or, Bool.not_eq_false] at hfull
    rw [runOn_transition_of hq rfl]
    exact .move (.quiesced hb hq hfull.1 hfull.2)

theorem requestStateCapture_needed (before : s.lifecycle = .quiesced) (needed : s.rt.captureRequired = true) :
    step s .requestStateCapture =
      (.ok (.result ⟨.stateCaptureRequired, .capturingState, []⟩), s.captureStarted) := by
  simp only [step, as_eq, requestStateCapture, runOn_bind, runOn_lifecycle, runOn_getRuntime, runOn_ite, runOn_pure]
  rw [if_neg (not_not_intro before), if_neg (by simp [needed]), runOn_transition_of before rfl]
  simp only
  rw [runOn_transition_of rfl rfl]
  rfl

theorem requestStateCapture_answers : Answers s .requestStateCapture (step s .requestStateCapture) := by
  by_cases before : s.lifecycle = .quiesced
  · cases needed : s.rt.captureRequired with
    | true =>
      rw [requestStateCapture_needed before needed]
      exact .move (.captureStarted before needed)
    | false =>
      simp only [step, as_eq, requestStateCapture, runOn_bind, runOn_lifecycle, runOn_getRuntime, runOn_ite]
      rw [if_neg (not_not_intro before), if_pos (by simp [needed]), runOn_transition_of before rfl]
      exact .move (.captureSkipped before needed)
  · simp only [step, as_eq, requestStateCapture, runOn_bind, runOn_lifecycle, runOn_pure, if_pos before]
    exact .idle (Returned.not_hasOutcome (by simp)) rfl

/-- A capture that is awaited makes the state durable when it succeeded, completed and is valid, and else fails. -/
theorem reportStateCaptured_due (before : s.lifecycle = .capturingState) (result : CaptureResult) :
    (step s (.reportStateCaptured result)).2 =
      if (result.success = true ∧ result.completed = true) ∧
          s.ad.validateCheckpoint result.checkpointRef result.checkpointGeneration = true then
        s.captured result
      else
        s.withLifecycle .failed := by
  simp only [step, as_eq, reportStateCaptured, runOn_bind, runOn_lifecycle, runOn_getAdapters, runOn_ite, runOn_pure]
  rw [if_neg (not_not_intro before), runOn_transition_of before rfl, runOn_transition_of before rfl]
  by_cases done : result.success = true ∧ result.completed = true
  · rw [if_neg (by simp [done])]
    cases valid : s.ad.validateCheckpoint result.checkpointRef result.checkpointGeneration with
    | true =>
      rw [if_neg (by simp), if_pos ⟨done, rfl⟩]
      rfl
    | false =>
      rw [if_pos (by simp), if_neg (by simp)]
      rfl
  · have unfinished : (!result.success || !result.completed) = true := by
      rcases not_and_or.mp done with failed | partly
      · simp [failed]
      · simp [partly]
    rw [if_pos unfinished, if_neg (fun captured => done captured.1)]
    rfl

theorem reportStateCaptured_answers (result : CaptureResult) :
    Answers s (.reportStateCaptured result) (step s (.reportStateCaptured result)) := by
  simp only [step, as_eq, reportStateCaptured, runOn_bind, runOn_lifecycle, runOn_getAdapters, runOn_ite, runOn_pure]
  split_ifs with hl hdone hvalid
  · exact .idle (Returned.not_hasOutcome (by simp)) rfl
  all_goals have hq : s.lifecycle = .capturingState := by simpa using hl
  · rw [runOn_transition_of hq rfl]
    exact .move (.captureFailed hq)
  · rw [runOn_transition_of hq rfl]
    exact .move (.captureFailed hq)
  · simp only [Bool.or_eq_true, Bool.not_eq_true', not_or, Bool.not_eq_false] at hdone
    have hv : s.ad.validateCheckpoint result.checkpointRef result.checkpointGeneration = true := by simpa using hvalid
    rw [runOn_transition_of hq rfl]
    exact .move (.captured hq hdone.1 hdone.2 hv)

/-- A release that is due asks the broker for every lease of the contract. -/
theorem requestRelease_due (before : s.lifecycle = .stateDurable ∨ s.lifecycle = .releasePending)
    (durable : s.rt.stateDurable = true) :
    step s .requestRelease = (.ok (.result ⟨.safePreemptionCompleted, .releasing, []⟩), s.releaseRequested) := by
  have due : ¬(s.lifecycle ≠ .stateDurable ∧ s.lifecycle ≠ .releasePending) := by
    rintro ⟨early, waiting⟩
    exact before.elim early waiting
  have evidence : ¬(!s.rt.stateDurable) = true := by simp [durable]
  simp only [step, as_eq, requestRelease, runOn_bind, runOn_lifecycle, runOn_getRuntime, runOn_ite, if_neg due,
    if_neg evidence]
  split_ifs with stage
  · rw [runOn_transition_of stage rfl]
    simp only
    rw [runOn_transition_of rfl rfl]
    rfl
  · have pending : s.lifecycle = .releasePending := before.resolve_left stage
    rw [runOn_transition_of pending rfl]
    rfl

theorem requestRelease_answers : Answers s .requestRelease (step s .requestRelease) := by
  by_cases before : s.lifecycle = .stateDurable ∨ s.lifecycle = .releasePending
  · by_cases durable : s.rt.stateDurable = true
    · rw [requestRelease_due before durable]
      exact .move (.releaseRequested before durable)
    · have due : ¬(s.lifecycle ≠ .stateDurable ∧ s.lifecycle ≠ .releasePending) := by
        rintro ⟨early, waiting⟩
        exact before.elim early waiting
      have missing : (!s.rt.stateDurable) = true := by simpa using durable
      simp only [step, as_eq, requestRelease, runOn_bind, runOn_lifecycle, runOn_getRuntime, runOn_pure, if_neg due,
        if_pos missing]
      exact .idle (Returned.not_hasOutcome (by simp)) rfl
  · have early : s.lifecycle ≠ .stateDurable ∧ s.lifecycle ≠ .releasePending := not_or.mp before
    simp only [step, as_eq, requestRelease, runOn_bind, runOn_lifecycle, runOn_getRuntime, runOn_pure, if_pos early]
    exact .idle (Returned.not_hasOutcome (by simp)) rfl

/-- A report that is due ends the release exactly when no lease is reserved. -/
theorem reportReleased_due (before : s.lifecycle = .releasing) :
    step s .reportReleased =
      if hasReservedLease s.ad s.rt.executionId = true then
        (.ok (.result ⟨.preemptionFailed, .releasing,
          [⟨"resources_not_released", "release obligations not fully satisfied", .derived⟩]⟩), s)
      else
        (.ok (.result ⟨.safePreemptionCompleted, .resourcesReleased, []⟩), s.resourcesReleased) := by
  simp only [step, as_eq, reportReleased, runOn_bind, runOn_lifecycle, runOn_getRuntime, runOn_getAdapters, runOn_ite,
    runOn_finish]
  rw [if_neg (not_not_intro before)]
  split_ifs with reserved
  · rw [before]
  · rw [runOn_transition_of before rfl]
    rfl

theorem reportReleased_answers : Answers s .reportReleased (step s .reportReleased) := by
  by_cases before : s.lifecycle = .releasing
  · rw [reportReleased_due before]
    split_ifs with reserved
    · exact .idle (Returned.not_hasOutcome (by simp)) before.symm
    · exact .move (.released before (Bool.eq_false_iff.mpr reserved))
  · simp only [step, as_eq, reportReleased, runOn_bind, runOn_lifecycle, runOn_pure, if_pos before]
    exact .idle (Returned.not_hasOutcome (by simp)) rfl

theorem commitPreempted_answers : Answers s .commitPreempted (step s .commitPreempted) := by
  simp only [step, as_eq, commitPreempted, runOn_bind, runOn_lifecycle, runOn_getRuntime, runOn_ite, runOn_pure]
  split_ifs with hl hflags
  · exact .idle (Returned.not_hasOutcome (by simp)) rfl
  · exact .idle (Returned.not_hasOutcome (by simp)) rfl
  · have hq : s.lifecycle = .resourcesReleased := by simpa using hl
    simp only [Bool.or_eq_true, Bool.not_eq_true', not_or, Bool.not_eq_false] at hflags
    rw [runOn_transition_of hq rfl]
    exact .move (.committed hq hflags.1.1 hflags.1.2 hflags.2)

theorem requestResume_due (before : s.lifecycle = .preempted) :
    step s .requestResume =
      (.ok (.eligibility ⟨.resumeRevalidationRequired, s.rt.resumeGeneration.next,
        [⟨"revalidation_required", "resume eligibility must be recomputed under current authority", .derived⟩]⟩),
        s.resumePending) := by
  simp only [step, as_eq, requestResume, runOn_bind, runOn_lifecycle, runOn_getRuntime, runOn_ite, runOn_pure]
  rw [if_neg (not_not_intro before), runOn_transition_of before rfl]
  rfl

theorem requestResume_answers : Answers s .requestResume (step s .requestResume) := by
  by_cases before : s.lifecycle = .preempted
  · rw [requestResume_due before]
    exact .move (.resumeRequested before)
  · simp only [step, as_eq, requestResume, runOn_bind, runOn_lifecycle, runOn_getRuntime, runOn_pure, if_pos before]
    exact .idle (by simp [Op.Succeeded]) trivial

/-- A revalidation that is due fails on a checkpoint that is rejected, and else waits for a dependency that blocks. -/
theorem revalidate_due (before : s.lifecycle = .resumePending ∨ s.lifecycle = .revalidating) :
    step s .revalidate =
      if checkpointRejected s.rt s.ad = true then
        (.ok (.result ⟨.preemptionFailed, s.lifecycle,
          [⟨"stale_checkpoint", "checkpoint generation is no longer current", .real⟩]⟩), s.withLifecycle .failed)
      else if dependencyBlocks s.ad s.rt.executionId = true then
        (.ok (.result ⟨.cannotPreemptSafely, .revalidating,
          [⟨"resume_blocked_dependency", "resume dependency is stale or missing", .derived⟩]⟩),
          s.withLifecycle .revalidating)
      else
        (.ok (.result ⟨.safePreemptionCompleted, .restoring, []⟩), s.withLifecycle .restoring) := by
  have due : ¬(s.lifecycle ≠ .resumePending ∧ s.lifecycle ≠ .revalidating) := by
    rintro ⟨pending, waiting⟩
    exact before.elim pending waiting
  simp only [step, as_eq, revalidate, runOn_bind, runOn_lifecycle, runOn_getRuntime, runOn_getAdapters, runOn_ite,
    runOn_pure]
  rw [if_neg due]
  rcases before with pending | waiting
  · rw [if_pos pending, runOn_transition_of pending rfl]
    have moved : (s.withLifecycle .revalidating).lifecycle = .revalidating := rfl
    simp only
    rw [runOn_transition_of moved rfl, runOn_transition_of moved rfl]
    split_ifs <;> rfl
  · rw [if_neg (by simp [waiting]), runOn_transition_of waiting rfl, runOn_transition_of waiting rfl]
    have kept : s.withLifecycle .revalidating = s := System.withLifecycle_of_lifecycle waiting
    simp only [runOn_finish]
    split_ifs
    · rfl
    · rw [kept, waiting]
    · rfl

theorem revalidate_answers : Answers s .revalidate (step s .revalidate) := by
  by_cases before : s.lifecycle = .resumePending ∨ s.lifecycle = .revalidating
  · rw [revalidate_due before]
    split_ifs with rejected blocked
    · exact .move (.revalidateFailed before rejected)
    · exact .move (.revalidateBlocked before (Bool.eq_false_iff.mpr rejected) blocked)
    · exact .move (.revalidated before (Bool.eq_false_iff.mpr rejected) (Bool.eq_false_iff.mpr blocked))
  · have early : s.lifecycle ≠ .resumePending ∧ s.lifecycle ≠ .revalidating := not_or.mp before
    simp only [step, as_eq, revalidate, runOn_bind, runOn_lifecycle, runOn_getRuntime, runOn_getAdapters, runOn_pure,
      if_pos early]
    exact .idle (Returned.not_hasOutcome (by simp)) rfl

theorem restore_current (before : s.lifecycle = .restoring) (current : checkpointRejected s.rt s.ad = false) :
    step s .restore = (.ok (.result ⟨.safePreemptionCompleted, .resumeReady, []⟩), s.withLifecycle .resumeReady) := by
  have accepted : ¬(s.rt.checkpointRef.isValid && !s.ad.restore s.rt.checkpointRef s.rt.checkpointGeneration) = true :=
    Bool.eq_false_iff.mp current
  simp only [step, as_eq, PreemptionFabric.restore, runOn_bind, runOn_lifecycle, runOn_getRuntime, runOn_getAdapters,
    runOn_ite, runOn_pure]
  rw [if_neg (not_not_intro before), if_neg accepted, runOn_transition_of before rfl]
  rfl

theorem restore_rejected (before : s.lifecycle = .restoring) (rejected : checkpointRejected s.rt s.ad = true) :
    step s .restore =
      (.ok (.result ⟨.preemptionFailed, .restoring, [⟨"restore_failed", "restore did not complete", .real⟩]⟩),
        s.withLifecycle .failed) := by
  have refused : (s.rt.checkpointRef.isValid && !s.ad.restore s.rt.checkpointRef s.rt.checkpointGeneration) = true :=
    rejected
  simp only [step, as_eq, PreemptionFabric.restore, runOn_bind, runOn_lifecycle, runOn_getRuntime, runOn_getAdapters,
    runOn_ite, runOn_pure]
  rw [if_neg (not_not_intro before), if_pos refused, runOn_transition_of before rfl, before]

theorem restore_answers : Answers s .restore (step s .restore) := by
  by_cases before : s.lifecycle = .restoring
  · cases checkpoint : checkpointRejected s.rt s.ad with
    | false =>
      rw [restore_current before checkpoint]
      exact .move (.restored before checkpoint)
    | true =>
      rw [restore_rejected before checkpoint]
      exact .move (.restoreFailed before checkpoint)
  · simp only [step, as_eq, PreemptionFabric.restore, runOn_bind, runOn_lifecycle, runOn_getRuntime, runOn_pure,
      if_pos before]
    exact .idle (Returned.not_hasOutcome (by simp)) rfl

/-- The reference adapters always grant the authority, so a confirmation succeeds when it is due. -/
theorem confirmResumed_ready (ready : s.lifecycle = .resumeReady ∨ s.lifecycle = .resuming) :
    step s .confirmResumed = (.ok (.result ⟨.safePreemptionCompleted, .resumed, []⟩), s.resumed) := by
  have due : ¬(s.lifecycle ≠ .resumeReady ∧ s.lifecycle ≠ .resuming) := by
    rcases ready with lifecycle | lifecycle <;> simp [lifecycle]
  have granted : ¬(!(s.ad.grantFreshAttemptAuthority s.rt.executionId s.rt.attemptId s.rt.executionGeneration
      s.rt.workerBoot).1.authoritative) = true := by
    simp [ReferenceAdapters.grantFreshAttemptAuthority]
  simp only [step, as_eq, confirmResumed, runOn_bind, runOn_lifecycle, runOn_getRuntime, runOn_getAdapters, runOn_ite,
    runOn_pure, runOn_setAdapters]
  rw [if_neg due, if_neg granted]
  rcases ready with lifecycle | lifecycle
  · have kept : System.lifecycle { s with ad := s.resumed.ad } = .resumeReady := lifecycle
    simp only [System.resumed] at kept ⊢
    rw [if_pos lifecycle, runOn_transition_of kept rfl]
    simp only
    rw [runOn_transition_of rfl rfl]
    rfl
  · have kept : System.lifecycle { s with ad := s.resumed.ad } = .resuming := lifecycle
    have later : ¬s.lifecycle = .resumeReady := by simp [lifecycle]
    simp only [System.resumed] at kept ⊢
    rw [if_neg later, runOn_transition_of kept rfl]
    rfl

theorem confirmResumed_answers : Answers s .confirmResumed (step s .confirmResumed) := by
  by_cases ready : s.lifecycle = .resumeReady ∨ s.lifecycle = .resuming
  · rw [confirmResumed_ready ready]
    exact .move (.resumed ready)
  · have early : s.lifecycle ≠ .resumeReady ∧ s.lifecycle ≠ .resuming := not_or.mp ready
    simp only [step, as_eq, confirmResumed, runOn_bind, runOn_lifecycle, runOn_getRuntime, runOn_pure, if_pos early]
    exact .idle (Returned.not_hasOutcome (by simp)) rfl

/-- `cancel` has an effect on every lifecycle that is not terminal. -/
theorem cancel_step (s : System) :
    step s .cancel = (.ok .unit, if s.rt.machine.isTerminal = true then s else s.cancelled) := by
  simp only [step, as_eq, cancel, runOn_bind, runOn_getRuntime, runOn_ite, runOn_pure, runOn_reset]
  cases terminal : s.rt.machine.isTerminal with
  | true => by_cases cancelled : s.rt.machine.state = .cancelled <;> simp [cancelled]
  | false =>
    have unresumed : s.rt.machine.state ≠ .resumed := by
      intro resumed
      rw [LifecycleStateMachine.isTerminal, resumed] at terminal
      cases terminal
    simp only [if_neg unresumed, Bool.false_and, Bool.not_false, Bool.false_eq_true, if_false, if_true]
    cases active : s.rt.activeRequest with
    | none =>
      have unchanged : s.cancelled = s.withLifecycle .cancelled := by
        rw [System.cancelled, active]
        simp only [Option.map_none, Option.toList_none, List.append_nil]
        rfl
      rw [unchanged]
      rfl
    | some req =>
      have recorded : (s.rt.activeRequest.map System.cancelledRequest).toList = [System.cancelledRequest req] := by
        rw [active]
        rfl
      rw [System.cancelled, recorded]
      rfl

theorem cancel_answers : Answers s .cancel (step s .cancel) := by
  rw [cancel_step]
  cases terminal : s.rt.machine.isTerminal with
  | true => exact .idle (fun h => h) trivial
  | false => exact .move (.cancelled terminal)

theorem complete_answers : Answers s .complete (step s .complete) := by
  simp only [step, as_eq, complete, runOn_bind, runOn_getRuntime, runOn_ite, runOn_pure, runOn_reset]
  split_ifs with hover hlive
  · exact .idle (fun h => h) trivial
  · have hl : s.rt.machine.isTerminal = false := by simpa using hlive
    refine .move (.aborted hl ?_)
    have hcases : ∀ m : LifecycleStateMachine,
        ¬(m.state = .resumed ∨ m.state = .cancelled ∨ m.state = .resumePending ∨ m.state = .revalidating ∨
          m.state = .restoring ∨ m.state = .resumeReady ∨ m.state = .resuming) →
        m.isPreemptedDurable = false ∨ m.state = .preempted := by
      rintro ⟨l⟩ h
      cases l <;> simp_all [LifecycleStateMachine.isPreemptedDurable]
    exact hcases s.rt.machine hover
  · exact .idle (fun h => h) trivial

theorem restoreState_runOn (st : PersistentState) : (restoreState st).runOn s = (.ok (), s.restored st) := by
  simp only [restoreState, runOn_bind, runOn_setRuntime, runOn_getRuntime, runOn_getAdapters, runOn_setAdapters,
    System.restored]
  cases hv : st.requestId.isValid with
  | false => simp [PreemptionRuntime.restored, hv]
  | true => simp [PreemptionRuntime.restored, hv]

theorem restoreBytes_runOn (bytes : List UInt8) :
    (restoreBytes bytes).runOn s =
      match decode bytes with
      | .ok st => (.ok true, s.restored st)
      | .error _ => (.ok false, s) := by
  rw [restoreBytes]
  cases decode bytes with
  | error e => rfl
  | ok st => simp only [runOn_bind, restoreState_runOn, runOn_pure]

theorem restoreState_answers (st : PersistentState) : Answers s (.restoreState st) (step s (.restoreState st)) := by
  simp only [step, as_eq, restoreState_runOn]
  exact .move (.loaded .unit rfl)

theorem restoreBytes_answers (bytes : List UInt8) : Answers s (.restoreBytes bytes) (step s (.restoreBytes bytes)) := by
  simp only [step, as_eq, restoreBytes_runOn]
  cases hd : decode bytes with
  | error e => exact .idle (by rw [Op.Succeeded, Op.loads, hd]; nofun) trivial
  | ok st => exact .move (.loaded (.bool true) (by rw [Op.loads, hd]; rfl))

theorem load_answers (file : Option (List UInt8)) : Answers s (.load file) (step s (.load file)) := by
  cases file with
  | none => exact .idle nofun trivial
  | some bytes =>
    simp only [step, as_eq, PreemptionFabric.load, restoreBytes_runOn]
    cases hd : decode bytes with
    | error e => exact .idle (by rw [Op.Succeeded, Op.loads, hd]; nofun) trivial
    | ok st => exact .move (.loaded (.bool true) (by rw [Op.loads, hd]; rfl))

end Operations

/-- Every step moved the system, or left it as it was and did not succeed. -/
theorem step_answers (s : System) (op : Op) : Answers s op (step s op) := by
  cases op with
  | startExecution w wg e eg a ag worker boot => exact .move (.start w wg e eg a ag worker boot)
  | declareSafePoint sp => exact .move (.declare sp)
  | reachSafePoint id position captureRequired => exact reachSafePoint_answers id position captureRequired
  | publishProgress position kind => exact publishProgress_answers position kind
  | requestPreemption req => exact requestPreemption_answers req
  | beginQuiesce => exact beginQuiesce_answers
  | reportQuiesced report => exact reportQuiesced_answers report
  | requestStateCapture => exact requestStateCapture_answers
  | reportStateCaptured result => exact reportStateCaptured_answers result
  | requestRelease => exact requestRelease_answers
  | reportReleased => exact reportReleased_answers
  | commitPreempted => exact commitPreempted_answers
  | requestResume => exact requestResume_answers
  | revalidate => exact revalidate_answers
  | restore => exact restore_answers
  | confirmResumed => exact confirmResumed_answers
  | cancel => exact cancel_answers
  | complete => exact complete_answers
  | setPriorityGeneration g => exact .move (.priority g)
  | setWorkerIncarnation worker boot => exact .move (.incarnation worker boot)
  | restoreState st => exact restoreState_answers st
  | restoreBytes bytes => exact restoreBytes_answers bytes
  | load file => exact load_answers file
  | query q => exact .idle (fun h => h) trivial
  | adapter o => exact .move (.adapter o)

theorem step_cases (s : System) (op : Op) : Shows s op (step s op) := by
  rcases step_answers s op with moved | ⟨same, unsuccessful, _⟩
  · exact .inl moved
  · exact .inr ⟨same, unsuccessful⟩

theorem move_of_succeeded {s : System} (op : Op) (succeeded : op.Succeeded (step s op).1) :
    Move s op (step s op).1 (step s op).2 := by
  rcases step_cases s op with moved | ⟨_, unsuccessful⟩
  · exact moved
  · exact absurd succeeded unsuccessful

theorem Move.commit {s t : System} {r : Returned} (moved : Move s .commitPreempted r t) :
    s.lifecycle = .resourcesReleased ∧ s.rt.quiesced = true ∧ s.rt.stateDurable = true ∧
      s.rt.resourcesReleased = true ∧ t = s.committed := by
  cases moved with
  | committed before quiesced durable released => exact ⟨before, quiesced, durable, released, rfl⟩
  | loaded ret image => cases image

theorem Move.revalidates {s t : System} {r : Returned} (moved : Move s .revalidate r t) :
    s.lifecycle = .resumePending ∨ s.lifecycle = .revalidating := by
  cases moved with
  | revalidateFailed before | revalidateBlocked before | revalidated before => exact before
  | loaded ret image => cases image

theorem Move.restores {s t : System} {r : Returned} (moved : Move s .restore r t) : s.lifecycle = .restoring := by
  cases moved with
  | restoreFailed before | restored before => exact before
  | loaded ret image => cases image

theorem Move.confirm {s t : System} {r : Returned} (moved : Move s .confirmResumed r t) :
    (s.lifecycle = .resumeReady ∨ s.lifecycle = .resuming) ∧ t = s.resumed := by
  cases moved with
  | resumed before => exact ⟨before, rfl⟩
  | loaded ret image => cases image

/-! ### Runs -/

section Runs
variable {s : System} {G : Event → Prop}

theorem run_nil (s : System) : run s [] = s := rfl

theorem run_cons (s : System) (op : Op) (ops : List Op) : run s (op :: ops) = run (step s op).2 ops := rfl

/-- The rule for histories: a relation between the trace so far and the state is kept by the moves and by
    the steps that change nothing. -/
theorem run_history {P : List Event → System → Prop} (start : P [] s)
    (move : ∀ {tr u op r t}, P tr u → G ⟨u, op, r, t⟩ → Move u op r t → P (tr ++ [⟨u, op, r, t⟩]) t)
    (idle : ∀ {tr u op r}, P tr u → ¬op.Succeeded r → P (tr ++ [⟨u, op, r, u⟩]) u)
    (ops : List Op) (admitted : ∀ e ∈ traceOf s ops, G e) : P (traceOf s ops) (run s ops) := by
  refine Trace.history_induction step start (fun tr u op holds guard => ?_) ops admitted
  rcases step_cases u op with moved | ⟨same, unsuccessful⟩
  · exact move holds guard moved
  · rw [Trace.event, same]
    exact idle holds unsuccessful

/-- The rule for invariants: a property of the state is kept by the moves. -/
theorem run_invariant {P : System → Prop} (start : P s)
    (move : ∀ {u op r t}, P u → G ⟨u, op, r, t⟩ → Move u op r t → P t)
    (ops : List Op) (admitted : ∀ e ∈ traceOf s ops, G e) : P (run s ops) :=
  run_history (P := fun _ u => P u) start (fun holds guard moved => move holds guard moved)
    (fun holds _ => holds) ops admitted

theorem Reachable.step (reachable : Reachable s) (op : Op) : Reachable (PreemptionFabric.step s op).2 := by
  obtain ⟨epoch, policy, ad, ops, rfl⟩ := reachable
  exact ⟨epoch, policy, ad, ops ++ [op], (Trace.exec_append PreemptionFabric.step _ ops [op]).symm⟩

theorem trace_loads_none {ops : List Op} (fresh : ∀ op ∈ ops, op.loads = none) :
    ∀ e ∈ traceOf s ops, e.input.loads = none :=
  fun e member => fresh e.input (Trace.input_mem step member)

end Runs

end PreemptionFabric
