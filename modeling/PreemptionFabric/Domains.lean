import PreemptionFabric.Enums
import PreemptionFabric.Identity

/-! The records that the runtime takes, keeps and returns (`domains/`, `priority/inversion.hpp` and the
    result types of `runtime.hpp`). Defaults are those of the member initialisers. -/

namespace PreemptionFabric

/-- An execution boundary at which interruption is known to preserve a specified invariant. -/
structure SafePoint where
  id : SafePointId := {}
  generation : SafePointGeneration := {}
  executionId : ExecutionId := {}
  attemptId : AttemptId := {}
  workerId : WorkerId := {}
  workerBootId : WorkerBootId := {}
  progressPosition : UInt64 := 0
  stateCaptureRequired : Bool := false
  checkpointRequired : Bool := false
  resumeRequirement : Bool := false
  resourceReleaseEligibility : List ResourceClass := []
  invariant : String := ""
  provenance : EvidenceKind := .unknown
  order : UInt64 := 0
  state : SafePointState := .unknown
deriving DecidableEq, Repr

structure QuiescenceObservation where
  category : QuiescenceCategory := .invalid
  quiesced : Bool := false
  generation : QuiescenceGeneration := {}
  workerBootId : WorkerBootId := {}
  provenance : EvidenceKind := .unknown
  order : UInt64 := 0
deriving DecidableEq, Repr

structure QuiescenceReport where
  generation : QuiescenceGeneration := {}
  workerId : WorkerId := {}
  workerBootId : WorkerBootId := {}
  fullyQuiesced : Bool := false
  observations : List QuiescenceObservation := []
  provenance : EvidenceKind := .unknown
deriving DecidableEq, Repr

/-- A generation-bound authoritative claim that an attempt should be safely interrupted. -/
structure PreemptionRequest where
  id : PreemptionRequestId := {}
  generation : PreemptionRequestGeneration := {}
  workloadId : WorkloadId := {}
  workloadGeneration : WorkloadGeneration := {}
  executionId : ExecutionId := {}
  executionGeneration : ExecutionGeneration := {}
  attemptId : AttemptId := {}
  attemptGeneration : AttemptGeneration := {}
  coordinatorEpoch : CoordinatorEpoch := {}
  workerId : WorkerId := {}
  workerBootId : WorkerBootId := {}
  reason : PreemptionReason := .unknown
  policyGeneration : PolicyGeneration := {}
  authorityGeneration : AuthorityGeneration := {}
  requiredCompletion : LifecycleState := .preempted
  hasDeadline : Bool := false
  deadlineNs : UInt64 := 0
  duplicateOf : PreemptionRequestId := {}
deriving DecidableEq, Repr

inductive PreservationMode
  | invalid | capture | recompute | alreadyDurable | unknown
deriving DecidableEq, Repr

structure PreemptionPlan where
  id : PreemptionPlanId := {}
  generation : PreemptionPlanGeneration := {}
  executionId : ExecutionId := {}
  attemptId : AttemptId := {}
  workloadId : WorkloadId := {}
  workloadGeneration : WorkloadGeneration := {}
  preemptibility : PreemptibilityClass := .unknown
  lastDurableProgress : UInt64 := 0
  currentPosition : UInt64 := 0
  maxRollback : UInt64 := 0
  preservationMode : PreservationMode := .unknown
  resourcesToRelease : List ResourceClass := []
  releaseBeforePreempted : Bool := true
  estimatedLostWork : UInt64 := 0
  estimatedRecomputeWork : UInt64 := 0
  stateToPreserveBytes : UInt64 := 0
  nextSafePoint : SafePointId := {}
  costToNextSafePoint : UInt64 := 0
  checkpointBackendAvailable : Bool := true
  suggestedReason : PreemptionReason := .unknown
  provenance : EvidenceKind := .unknown
deriving DecidableEq, Repr

/-! ### Results of the runtime -/

inductive RequestAdmissionCode
  | invalid | accepted | idempotentDuplicate | conflictingDuplicate | rejectedStale | rejectedInvalid
deriving DecidableEq, Repr

structure RequestAdmission where
  code : RequestAdmissionCode := .invalid
  requestId : PreemptionRequestId := {}
  generation : PreemptionRequestGeneration := {}
deriving DecidableEq, Repr

structure ExplainEntry where
  message : String
  detail : String
  provenance : EvidenceKind := .unknown
deriving DecidableEq, Repr

structure PreemptionAssessment where
  preemptibility : PreemptibilityClass := .unknown
  plan : PreemptionPlan := {}
  why : List ExplainEntry := []
deriving DecidableEq, Repr

structure PreemptionResult where
  outcome : PreemptionOutcome := .invalid
  lifecycle : LifecycleState := .invalid
  evidence : List ExplainEntry := []
deriving DecidableEq, Repr

structure ResumeEligibility where
  outcome : ResumeOutcome := .unknown
  resumeGeneration : ResumeGeneration := {}
  why : List ExplainEntry := []
deriving DecidableEq, Repr

/-! ### Priority inversion -/

inductive PriorityInversionResolution
  | invalid | safePreemptionResolves | safePreemptionDoesNotResolve | unknown
deriving DecidableEq, Repr

/-- The caller-supplied facts that `priority_inversion_assessment` reads. -/
structure PriorityInversionInput where
  holderWorkload : WorkloadId := {}
  blockedWorkload : WorkloadId := {}
  resource : ResourceClass := .invalid
  priorityGeneration : PriorityGeneration := {}
  policyGeneration : PolicyGeneration := {}
  holderAuthoritative : Bool := false
  holderPreemptibility : PreemptibilityClass := .unknown
  nextSafePointCost : UInt64 := 0
  preservationCost : UInt64 := 0
  releaseCost : UInt64 := 0
  resumeRecomputeCost : UInt64 := 0
  blockingDurationNs : UInt64 := 0
  blockingDurationMeasured : Bool := false
  reason : String := ""
  provenance : EvidenceKind := .estimated
deriving DecidableEq, Repr

structure PriorityInversionEvidence where
  ok : Bool := false
  stale : Bool := false
  resource : ResourceClass := .invalid
  holderWorkload : WorkloadId := {}
  blockedWorkload : WorkloadId := {}
  holderPreemptible : Bool := false
  nextSafePointCost : UInt64 := 0
  preservationCost : UInt64 := 0
  releaseCost : UInt64 := 0
  resumeRecomputeCost : UInt64 := 0
  blockingDurationNs : UInt64 := 0
  blockingDurationMeasured : Bool := false
  resolution : PriorityInversionResolution := .unknown
  reason : String := ""
  provenance : EvidenceKind := .unknown
deriving DecidableEq, Repr

/-- Only where the evidence is concrete and a safe preemption would resolve the inversion. -/
def PriorityInversionEvidence.positiveRecommendation (ev : PriorityInversionEvidence) : Bool :=
  ev.ok && !ev.stale && ev.resolution = .safePreemptionResolves && ev.provenance ≠ .unknown

end PreemptionFabric
