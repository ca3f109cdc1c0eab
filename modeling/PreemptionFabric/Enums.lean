import PreemptionFabric.Lib.Enumeration

/-! The strongly typed enums of `core/enums.hpp`, with the name tables that the lifecycle, the
    explanations and the persistence format read. The enumerators are declared in numeric order. -/

namespace PreemptionFabric

inductive PreemptionReason
  | invalid | higherPriorityWork | resourceReclamation | fairness | sloProtection | administrative | migration
  | capacityPressure | thermalOrPowerPressure | maintenance | drain | policyChange | dependencyChange | unknown
deriving DecidableEq, Repr

/-- Is this work safely interruptible right now, and at what boundary? -/
inductive PreemptibilityClass
  | invalid | preemptibleNow | preemptibleAtSafePoint | preemptibleAfterStateCapture
  | preemptibleAfterCommitBoundary | recomputableFromDurableProgress | temporarilyUnsafe | nonPreemptible
  | unsupported | unknown
deriving DecidableEq, Repr

inductive PreemptionOutcome
  | invalid | safePreemptionCompleted | deferToSafePoint | stateCaptureRequired | cannotPreemptSafely
  | nonPreemptible | forceTerminationRequired | preemptionAborted | preemptionFailed
deriving DecidableEq, Repr

inductive LifecycleState
  | invalid | requested | validatingAuthority | assessing | deferred | waitingForSafePoint | safePointReached
  | quiescing | quiesced | captureRequired | capturingState | stateDurable | releasePending | releasing
  | resourcesReleased | preempted | resumePending | revalidating | restoring | resumeReady | resuming | resumed
  | cancelled | aborted | failed | superseded
deriving DecidableEq, Repr

inductive SafePointState
  | unset | declared | reached | validating | valid | invalid | superseded | stale | unknown
deriving DecidableEq, Repr

inductive StatePreservationOutcome
  | invalid | alreadyDurable | captureRequired | captureInProgress | capturedAndVerified | recomputable
  | noDurableState | captureFailed | staleCapture | unknown
deriving DecidableEq, Repr

inductive ResumeOutcome
  | invalid | resumeEligible | resumeBlockedStaleAuthority | resumeBlockedStateMissing | resumeBlockedStateStale
  | resumeBlockedDependency | resumeBlockedResource | resumeBlockedCompatibility | resumeBlockedPolicy
  | resumeRevalidationRequired | resumeRestoreRequired | resumeRecomputeRequired | resumeNotAllowed | unknown
deriving DecidableEq, Repr

inductive EvidenceKind
  | invalid | real | synthetic | derived | measured | estimated | unsupported | unknown
deriving DecidableEq, Repr

/-- Resource classes the runtime may need to release or keep warm. -/
inductive ResourceClass
  | invalid | acceleratorExecutionSlot | deviceMemory | pinnedHostMemory | hostMemory | temporaryBuffers
  | modelAdapterResidency | transferReservation | networkBandwidth | storageLease | runtimeHandle | other
deriving DecidableEq, Repr

inductive ProgressKind
  | invalid | attempted | speculative | acknowledged | committedLogical | durable | recomputable | discarded | lost
deriving DecidableEq, Repr

/-- Quiescence categories the runtime asks owning runtimes about. -/
inductive QuiescenceCategory
  | invalid | cpuWorkerActivity | acceleratorKernels | asynchronousCopies | queuedDeviceOperations | hostCallbacks
  | storageWrites | networkActivity | statePublication | completionPublication | pendingResourceMutation
deriving DecidableEq, Repr

/-! ### Numbers -/

instance : Enumeration LifecycleState where
  all := [.invalid, .requested, .validatingAuthority, .assessing, .deferred, .waitingForSafePoint,
    .safePointReached, .quiescing, .quiesced, .captureRequired, .capturingState, .stateDurable, .releasePending,
    .releasing, .resourcesReleased, .preempted, .resumePending, .revalidating, .restoring, .resumeReady,
    .resuming, .resumed, .cancelled, .aborted, .failed, .superseded]
  nodup := by decide
  mem_all a := by cases a <;> decide
  length_lt := by decide

instance : Enumeration SafePointState where
  all := [.unset, .declared, .reached, .validating, .valid, .invalid, .superseded, .stale, .unknown]
  nodup := by decide
  mem_all a := by cases a <;> decide
  length_lt := by decide

instance : Enumeration ResourceClass where
  all := [.invalid, .acceleratorExecutionSlot, .deviceMemory, .pinnedHostMemory, .hostMemory, .temporaryBuffers,
    .modelAdapterResidency, .transferReservation, .networkBandwidth, .storageLease, .runtimeHandle, .other]
  nodup := by decide
  mem_all a := by cases a <;> decide
  length_lt := by decide

instance : Enumeration QuiescenceCategory where
  all := [.invalid, .cpuWorkerActivity, .acceleratorKernels, .asynchronousCopies, .queuedDeviceOperations,
    .hostCallbacks, .storageWrites, .networkActivity, .statePublication, .completionPublication,
    .pendingResourceMutation]
  nodup := by decide
  mem_all a := by cases a <;> decide
  length_lt := by decide

instance : Enumeration PreemptionReason where
  all := [.invalid, .higherPriorityWork, .resourceReclamation, .fairness, .sloProtection, .administrative,
    .migration, .capacityPressure, .thermalOrPowerPressure, .maintenance, .drain, .policyChange,
    .dependencyChange, .unknown]
  nodup := by decide
  mem_all a := by cases a <;> decide
  length_lt := by decide

instance : Enumeration PreemptibilityClass where
  all := [.invalid, .preemptibleNow, .preemptibleAtSafePoint, .preemptibleAfterStateCapture,
    .preemptibleAfterCommitBoundary, .recomputableFromDurableProgress, .temporarilyUnsafe, .nonPreemptible,
    .unsupported, .unknown]
  nodup := by decide
  mem_all a := by cases a <;> decide
  length_lt := by decide

instance : Enumeration PreemptionOutcome where
  all := [.invalid, .safePreemptionCompleted, .deferToSafePoint, .stateCaptureRequired, .cannotPreemptSafely,
    .nonPreemptible, .forceTerminationRequired, .preemptionAborted, .preemptionFailed]
  nodup := by decide
  mem_all a := by cases a <;> decide
  length_lt := by decide

instance : Enumeration StatePreservationOutcome where
  all := [.invalid, .alreadyDurable, .captureRequired, .captureInProgress, .capturedAndVerified, .recomputable,
    .noDurableState, .captureFailed, .staleCapture, .unknown]
  nodup := by decide
  mem_all a := by cases a <;> decide
  length_lt := by decide

instance : Enumeration ResumeOutcome where
  all := [.invalid, .resumeEligible, .resumeBlockedStaleAuthority, .resumeBlockedStateMissing,
    .resumeBlockedStateStale, .resumeBlockedDependency, .resumeBlockedResource, .resumeBlockedCompatibility,
    .resumeBlockedPolicy, .resumeRevalidationRequired, .resumeRestoreRequired, .resumeRecomputeRequired,
    .resumeNotAllowed, .unknown]
  nodup := by decide
  mem_all a := by cases a <;> decide
  length_lt := by decide

instance : Enumeration ProgressKind where
  all := [.invalid, .attempted, .speculative, .acknowledged, .committedLogical, .durable, .recomputable,
    .discarded, .lost]
  nodup := by decide
  mem_all a := by cases a <;> decide
  length_lt := by decide

/-! ### Names -/

/-- What `name_of` answers for a value that its table does not list. -/
def unknownName : String := "<unknown>"

/-- `to_string(LifecycleState)`; the table has no entry for `kInvalid`. -/
def LifecycleState.toString : LifecycleState → String
  | .invalid => unknownName
  | .requested => "REQUESTED"
  | .validatingAuthority => "VALIDATING_AUTHORITY"
  | .assessing => "ASSESSING"
  | .deferred => "DEFERRED"
  | .waitingForSafePoint => "WAITING_FOR_SAFE_POINT"
  | .safePointReached => "SAFE_POINT_REACHED"
  | .quiescing => "QUIESCING"
  | .quiesced => "QUIESCED"
  | .captureRequired => "CAPTURE_REQUIRED"
  | .capturingState => "CAPTURING_STATE"
  | .stateDurable => "STATE_DURABLE"
  | .releasePending => "RELEASE_PENDING"
  | .releasing => "RELEASING"
  | .resourcesReleased => "RESOURCES_RELEASED"
  | .preempted => "PREEMPTED"
  | .resumePending => "RESUME_PENDING"
  | .revalidating => "REVALIDATING"
  | .restoring => "RESTORING"
  | .resumeReady => "RESUME_READY"
  | .resuming => "RESUMING"
  | .resumed => "RESUMED"
  | .cancelled => "CANCELLED"
  | .aborted => "ABORTED"
  | .failed => "FAILED"
  | .superseded => "SUPERSEDED"

/-- `to_string(SafePointState)`; the table has no entry for `kUnset`. -/
def SafePointState.toString : SafePointState → String
  | .unset => unknownName
  | .declared => "DECLARED"
  | .reached => "REACHED"
  | .validating => "VALIDATING"
  | .valid => "VALID"
  | .invalid => "INVALID"
  | .superseded => "SUPERSEDED"
  | .stale => "STALE"
  | .unknown => "UNKNOWN"

/-- `to_string(ResourceClass)`; the table has no entry for `kInvalid`. -/
def ResourceClass.toString : ResourceClass → String
  | .invalid => unknownName
  | .acceleratorExecutionSlot => "ACCELERATOR_EXECUTION_SLOT"
  | .deviceMemory => "DEVICE_MEMORY"
  | .pinnedHostMemory => "PINNED_HOST_MEMORY"
  | .hostMemory => "HOST_MEMORY"
  | .temporaryBuffers => "TEMPORARY_BUFFERS"
  | .modelAdapterResidency => "MODEL_ADAPTER_RESIDENCY"
  | .transferReservation => "TRANSFER_RESERVATION"
  | .networkBandwidth => "NETWORK_BANDWIDTH"
  | .storageLease => "STORAGE_LEASE"
  | .runtimeHandle => "RUNTIME_HANDLE"
  | .other => "OTHER"

end PreemptionFabric
