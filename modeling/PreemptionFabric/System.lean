import PreemptionFabric.Explain
import PreemptionFabric.Recovery
import PreemptionFabric.Lib.Trace

/-! The system as a machine: the public operations of the runtime, each atomic under its mutex, interleaved
    with direct calls on the adapters. Read-only operations are queries. -/

namespace PreemptionFabric

/-- The read-only public operations. -/
inductive Query
  | assess | evaluateMigrationDestination (dst : DeviceCapability)
  | priorityInversionAssessment (input : PriorityInversionInput) | currentPriorityGeneration
  | explainWhyNotPreemptible | explainResumeBlockers | explainState
  | lifecycle | currentPreemptibility | durableProgress | currentPosition | isPreemptedDurable
  | authoritativeRequestGeneration | currentSafePoint | safePointCount | isAttemptAuthoritative | currentEpoch
  | workerBoot | executionGeneration | attemptGeneration | snapshot | persistBytes

inductive Answer
  | assessment (a : PreemptionAssessment)
  | migration (m : MigrationCompatibility)
  | inversion (e : PriorityInversionEvidence)
  | explanation (why : List ExplainEntry)
  | lifecycle (s : LifecycleState)
  | preemptibility (c : PreemptibilityClass)
  | position (p : UInt64)
  | flag (b : Bool)
  | generation {tag : Domain} (g : Generation tag)
  | boot (b : WorkerBootId)
  | safePoint (sp : Option SafePoint)
  | count (n : Nat)
  | image (st : PersistentState)
  | bytes (bs : List UInt8)

def Query.answer (s : System) : Query → Answer
  | .assess => .assessment (s.rt.assess s.ad)
  | .evaluateMigrationDestination dst => .migration (s.evaluateMigrationDestination dst)
  | .priorityInversionAssessment input => .inversion (s.priorityInversionAssessment input)
  | .currentPriorityGeneration => .generation s.rt.priorityGeneration
  | .explainWhyNotPreemptible => .explanation s.explainWhyNotPreemptible
  | .explainResumeBlockers => .explanation s.explainResumeBlockers
  | .explainState => .explanation s.explainState
  | .lifecycle => .lifecycle s.lifecycle
  | .currentPreemptibility => .preemptibility (s.rt.assess s.ad).preemptibility
  | .durableProgress => .position s.rt.durablePosition
  | .currentPosition => .position s.rt.currentPosition
  | .isPreemptedDurable => .flag s.rt.machine.isPreemptedDurable
  | .authoritativeRequestGeneration => .generation s.rt.authoritativeRequestGeneration
  | .currentSafePoint => .safePoint s.rt.currentSafePoint
  | .safePointCount => .count s.rt.safePoints.size
  | .isAttemptAuthoritative => .flag s.isAttemptAuthoritative
  | .currentEpoch => .generation s.rt.epoch
  | .workerBoot => .boot s.rt.workerBoot
  | .executionGeneration => .generation s.rt.executionGeneration
  | .attemptGeneration => .generation s.rt.attemptGeneration
  | .snapshot => .image s.rt.snapshot
  | .persistBytes => .bytes s.persistBytes

/-- A step of the system: a public operation, or a direct call on the adapters. -/
inductive Op
  | startExecution (w : WorkloadId) (wg : WorkloadGeneration) (e : ExecutionId) (eg : ExecutionGeneration)
      (a : AttemptId) (ag : AttemptGeneration) (worker : WorkerId) (boot : WorkerBootId)
  | declareSafePoint (sp : SafePoint)
  | reachSafePoint (id : SafePointId) (position : UInt64) (captureRequired : Bool)
  | publishProgress (position : UInt64) (kind : ProgressKind)
  | requestPreemption (req : PreemptionRequest)
  | beginQuiesce
  | reportQuiesced (report : QuiescenceReport)
  | requestStateCapture
  | reportStateCaptured (result : CaptureResult)
  | requestRelease
  | reportReleased
  | commitPreempted
  | requestResume
  | revalidate
  | restore
  | confirmResumed
  | cancel
  | complete
  | setPriorityGeneration (g : PriorityGeneration)
  | setWorkerIncarnation (worker : WorkerId) (boot : WorkerBootId)
  | restoreState (st : PersistentState)
  | restoreBytes (bytes : List UInt8)
  | load (file : Option (List UInt8))
  | query (q : Query)
  | adapter (o : AdapterOp)

inductive Ret
  | unit
  | bool (b : Bool)
  | safePoint (id : SafePointId)
  | admission (a : RequestAdmission)
  | result (r : PreemptionResult)
  | eligibility (e : ResumeEligibility)
  | answer (a : Answer)

abbrev Returned := Except PreemptionError Ret

/-- Run an operation and wrap what it returns. -/
def Action.as {α : Type} (a : Action α) (wrap : α → Ret) (s : System) : Returned × System :=
  ((a.runOn s).1.map wrap, (a.runOn s).2)

def step (s : System) : Op → Returned × System
  | .startExecution w wg e eg a ag worker boot =>
    (startExecution w wg e eg a ag worker boot).as (fun _ => .unit) s
  | .declareSafePoint sp => (declareSafePoint sp).as .safePoint s
  | .reachSafePoint id position captureRequired =>
    (reachSafePoint id position captureRequired).as (fun _ => .unit) s
  | .publishProgress position kind => (publishProgress position kind).as .bool s
  | .requestPreemption req => (requestPreemption req).as .admission s
  | .beginQuiesce => beginQuiesce.as .result s
  | .reportQuiesced report => (reportQuiesced report).as .result s
  | .requestStateCapture => requestStateCapture.as .result s
  | .reportStateCaptured result => (reportStateCaptured result).as .result s
  | .requestRelease => requestRelease.as .result s
  | .reportReleased => reportReleased.as .result s
  | .commitPreempted => commitPreempted.as .result s
  | .requestResume => requestResume.as .eligibility s
  | .revalidate => revalidate.as .result s
  | .restore => PreemptionFabric.restore.as .result s
  | .confirmResumed => confirmResumed.as .result s
  | .cancel => cancel.as (fun _ => .unit) s
  | .complete => complete.as (fun _ => .unit) s
  | .setPriorityGeneration g => (setPriorityGeneration g).as (fun _ => .unit) s
  | .setWorkerIncarnation worker boot => (setWorkerIncarnation worker boot).as (fun _ => .unit) s
  | .restoreState st => (restoreState st).as (fun _ => .unit) s
  | .restoreBytes bytes => (restoreBytes bytes).as .bool s
  | .load file => (PreemptionFabric.load file).as .bool s
  | .query q => (.ok (.answer (q.answer s)), s)
  | .adapter o => (.ok .unit, { s with ad := o.apply s.ad })

abbrev Event := Trace.Event System Op Returned

def run (s : System) (ops : List Op) : System := Trace.exec step s ops

def traceOf (s : System) (ops : List Op) : List Event := Trace.trace step s ops

/-- `s` is reached from a newly constructed runtime, over adapters in any state, by some run. -/
def Reachable (s : System) : Prop := ∃ epoch policy ad ops, s = run (.construct epoch policy ad) ops

/-- The result of an operation is a `PreemptionResult` with this outcome. -/
def Returned.HasOutcome (r : Returned) (outcome : PreemptionOutcome) : Prop :=
  ∃ res, r = .ok (.result res) ∧ res.outcome = outcome

def Returned.outcome? : Returned → Option PreemptionOutcome
  | .ok (.result res) => some res.outcome
  | _ => none

theorem Returned.hasOutcome_iff {r : Returned} {outcome : PreemptionOutcome} :
    r.outcome? = some outcome ↔ r.HasOutcome outcome := by
  constructor
  · intro h
    unfold outcome? at h
    split at h
    · exact ⟨_, rfl, Option.some.inj h⟩
    · cases h
  · rintro ⟨res, rfl, rfl⟩
    rfl

instance (r : Returned) (outcome : PreemptionOutcome) : Decidable (r.HasOutcome outcome) :=
  decidable_of_iff _ Returned.hasOutcome_iff

/-! ### Several runtimes -/

/-- Runtimes over one set of adapters, which they hold by reference: the runtime that takes over an execution is
    constructed over the adapters of the one before it, which may go on calling. -/
structure Fabric (ι : Type) where
  rts : ι → PreemptionRuntime
  ad : ReferenceAdapters

namespace Fabric
variable {ι : Type}

/-- An operation, and the runtime that it is called on. -/
structure Call (ι : Type) where
  runtime : ι
  op : Op

/-- What one of the runtimes sees. -/
def system (f : Fabric ι) (i : ι) : System := ⟨f.rts i, f.ad⟩

def step [DecidableEq ι] (f : Fabric ι) (call : Call ι) : Returned × Fabric ι :=
  let out := PreemptionFabric.step (f.system call.runtime) call.op
  (out.1, ⟨fun i => if i = call.runtime then out.2.rt else f.rts i, out.2.ad⟩)

end Fabric

end PreemptionFabric
