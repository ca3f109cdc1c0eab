import PreemptionFabric.Runtime

/-! The read-only operations of the runtime (`runtime.cpp`): explanations, priority-inversion evidence and
    migration compatibility. None of them changes the runtime or its adapters. -/

namespace PreemptionFabric

def isConcretelyPreemptible (c : PreemptibilityClass) : Bool :=
  c = .preemptibleNow || c = .preemptibleAtSafePoint || c = .preemptibleAfterStateCapture ||
    c = .preemptibleAfterCommitBoundary || c = .recomputableFromDurableProgress

def isUnknownPreemptibility (c : PreemptibilityClass) : Bool := c = .unknown || c = .invalid

namespace System

def explainWhyNotPreemptible (s : System) : List ExplainEntry := (s.rt.assess s.ad).why

/-- The dependency entry of `explain_resume_blockers`; `kUnknown` is not listed. -/
def explainDependency (ad : ReferenceAdapters) (e : ExecutionId) : List ExplainEntry :=
  match (ad.resumeDependencies e).status with
  | .stale => [⟨"resume_blocked_dependency", "dependency is stale", .derived⟩]
  | .missing => [⟨"resume_blocked_dependency", "dependency is missing", .derived⟩]
  | _ => []

def explainResumeBlockers (s : System) : List ExplainEntry :=
  if s.lifecycle ≠ .preempted && !s.rt.machine.isPreemptedDurable then
    [⟨"resume_not_allowed", "execution is not in a durable PREEMPTED state", .derived⟩]
  else
    let out :=
      (if !s.rt.stateDurable then [⟨"resume_blocked_state", "no durable state boundary", .derived⟩] else []) ++
      (if !s.rt.resourcesReleased then [⟨"resume_blocked_resource", "resources not released", .derived⟩] else []) ++
      (if !s.rt.checkpointRef.isValid then
        [⟨"resume_blocked_state_missing", "no checkpoint reference", .derived⟩] else []) ++
      (if checkpointRejected s.rt s.ad then
        [⟨"resume_blocked_state_stale", "checkpoint generation is stale", .real⟩] else []) ++
      explainDependency s.ad s.rt.executionId
    if out.isEmpty then [⟨"resume_eligible", "resume is eligible", .derived⟩] else out

def explainState (s : System) : List ExplainEntry :=
  let text (b : Bool) := if b then "true" else "false"
  [⟨"lifecycle", s.lifecycle.toString, .derived⟩,
    ⟨"durable_progress", toString s.rt.durablePosition, .derived⟩,
    ⟨"current_position", toString s.rt.currentPosition, .derived⟩,
    ⟨"quiesced", text s.rt.quiesced, .derived⟩,
    ⟨"state_durable", text s.rt.stateDurable, .derived⟩,
    ⟨"resources_released", text s.rt.resourcesReleased, .derived⟩]

def priorityInversionAssessment (s : System) (input : PriorityInversionInput) : PriorityInversionEvidence :=
  let ev : PriorityInversionEvidence := {
    resource := input.resource
    holderWorkload := input.holderWorkload
    blockedWorkload := input.blockedWorkload
    reason := input.reason
    provenance := input.provenance }
  if input.resource = .invalid || !input.holderWorkload.isValid || !input.blockedWorkload.isValid then
    ev
  -- A stale policy generation is rejected (invalid, not merely stale).
  else if input.policyGeneration ≠ s.rt.policyGeneration then
    ev
  else if !input.priorityGeneration.isValid || input.priorityGeneration ≠ s.rt.priorityGeneration then
    { ev with stale := true }
  else
    let holderPreemptible := isConcretelyPreemptible input.holderPreemptibility
    { ev with
      ok := true
      nextSafePointCost := input.nextSafePointCost
      preservationCost := input.preservationCost
      releaseCost := input.releaseCost
      resumeRecomputeCost := input.resumeRecomputeCost
      blockingDurationNs := input.blockingDurationNs
      blockingDurationMeasured := input.blockingDurationMeasured
      holderPreemptible
      resolution :=
        if !input.holderAuthoritative then .safePreemptionDoesNotResolve
        -- UNKNOWN never becomes a positive recommendation.
        else if isUnknownPreemptibility input.holderPreemptibility then .unknown
        else if holderPreemptible then .safePreemptionResolves
        else .safePreemptionDoesNotResolve }

def evaluateMigrationDestination (s : System) (dst : DeviceCapability) : MigrationCompatibility :=
  if !s.rt.machine.isPreemptedDurable || !s.rt.stateDurable then
    ⟨.stateNotDurable, "execution is not in a durable PREEMPTED state", ["state not durable"]⟩
  else if !s.rt.checkpointRef.isValid || !s.rt.checkpointGeneration.isValid then
    ⟨.incompatibleCapability, "preserved state is not bound to a valid checkpoint generation",
      ["no checkpoint generation"]⟩
  else if !s.ad.capabilityGenerationCurrent dst then
    ⟨.staleCapabilityGeneration, "destination capability generation is stale", ["stale capability generation"]⟩
  else if !s.ad.capabilityIsCompatible dst then
    ⟨.incompatibleCapability, "destination capability is incompatible with the preserved state",
      ["incompatible destination"]⟩
  else if dependencyBlocks s.ad s.rt.executionId then
    ⟨.blockedDependency, "resume dependency is stale or missing", ["stale dependency"]⟩
  else if !(s.ad.currentContract s.rt.executionId).generation.isValid then
    ⟨.blockedResource, "resource contract generation is not current", ["stale resource contract"]⟩
  else
    ⟨.compatible, "destination is compatible with the preserved state and current generations", ["compatible"]⟩

/-- `is_attempt_authoritative` -/
def isAttemptAuthoritative (s : System) : Bool :=
  (s.ad.currentAttemptAuthority s.rt.executionId s.rt.attemptId).authoritative

end System

end PreemptionFabric
