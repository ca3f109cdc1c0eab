import PreemptionFabric.Domains
import Std.Data.ExtTreeMap

/-! The reference adapters of the adjacent runtimes (`adapters/interfaces.hpp`, `adapters/reference.hpp`):
    execution authority, workload states, checkpoints, resource accounting, dependencies, destination
    capabilities, failures and quiescence, with every setter and every mutating call. -/

namespace PreemptionFabric

/-! ### Views and results -/

structure AttemptAuthorityView where
  authoritative : Bool := false
  executionId : ExecutionId := {}
  executionGeneration : ExecutionGeneration := {}
  attemptId : AttemptId := {}
  attemptGeneration : AttemptGeneration := {}
  coordinatorEpoch : CoordinatorEpoch := {}
  workerBootId : WorkerBootId := {}
  provenance : EvidenceKind := .unknown
deriving DecidableEq, Repr

inductive WorkloadLifecycleState
  | active | suspended | preempted | cancelled | completed | unknown
deriving DecidableEq, Repr

structure StateCaptureRequest where
  required : Bool := false
  expectedGeneration : CheckpointGeneration := {}
  captureGeneration : StateCaptureGeneration := {}
  executionGeneration : ExecutionGeneration := {}
  attemptGeneration : AttemptGeneration := {}
deriving DecidableEq, Repr

structure CaptureResult where
  completed : Bool := false
  success : Bool := false
  captureId : StateCaptureId := {}
  captureGeneration : StateCaptureGeneration := {}
  checkpointRef : CheckpointRef := {}
  checkpointGeneration : CheckpointGeneration := {}
  provenance : EvidenceKind := .synthetic
deriving DecidableEq, Repr

structure ResourceLease where
  resource : ResourceClass := .other
  units : UInt64 := 0
deriving DecidableEq, Repr

structure ResourceContract where
  id : ResourceContractId := {}
  generation : ResourceContractGeneration := {}
  leases : List ResourceLease := []
deriving DecidableEq, Repr

structure ReleaseResult where
  success : Bool := false
  releaseGeneration : ResourceContractGeneration := {}
  workerBootId : WorkerBootId := {}
deriving DecidableEq, Repr

structure ReacquireResult where
  success : Bool := false
  contractGeneration : ResourceContractGeneration := {}
  workerBootId : WorkerBootId := {}
deriving DecidableEq, Repr

inductive DependencyStatus
  | current | stale | missing | unknown
deriving DecidableEq, Repr

instance : Enumeration DependencyStatus where
  all := [.current, .stale, .missing, .unknown]
  nodup := by decide
  mem_all a := by cases a <;> decide
  length_lt := by decide

structure DependencyView where
  status : DependencyStatus := .unknown
  generation : DependencyGeneration := {}
  revalidationRequired : Bool := false
  recomputeRequired : Bool := false
deriving DecidableEq, Repr

inductive FailureCategory
  | forcedTermination | ambiguous | failed | unknown
deriving DecidableEq, Repr

structure DeviceCapability where
  deviceId : String := ""
  capabilityGeneration : UInt64 := 0
  memoryBytes : UInt64 := 0
  computeCompatibility : UInt32 := 0
  supportsStateRestore : Bool := false
  supportsRecompute : Bool := false
deriving DecidableEq, Repr

inductive MigrationCompatibilityOutcome
  | invalid | compatible | incompatibleCapability | staleCapabilityGeneration | blockedDependency
  | blockedResource | stateNotDurable | unknown
deriving DecidableEq, Repr

structure MigrationCompatibility where
  outcome : MigrationCompatibilityOutcome := .unknown
  detail : String := ""
  reasons : List String := []
deriving DecidableEq, Repr

/-! ### Keys of the ordered maps -/

section Keys
variable {α : Type} [DecidableEq α] [Enumeration α]

/-- Enumerators are ordered by their numbers, as `std::map` orders an `enum class`. -/
def compareCode (a b : α) : Ordering := compare (Enumeration.code a) (Enumeration.code b)

instance : Std.TransCmp (compareCode (α := α)) where
  eq_swap {a b} := Std.OrientedOrd.eq_swap (a := Enumeration.code a) (b := Enumeration.code b)
  isLE_trans {a b c} :=
    Std.TransOrd.isLE_trans (a := Enumeration.code a) (b := Enumeration.code b) (c := Enumeration.code c)

instance : Std.LawfulEqCmp (compareCode (α := α)) where
  compare_self {a} := Std.ReflOrd.compare_self (a := Enumeration.code a)
  eq_of_compare {a b} h := by
    have hc : Enumeration.code a = Enumeration.code b := Std.LawfulEqOrd.eq_of_compare h
    have ho := congrArg (Enumeration.ofCode (α := α)) hc
    rw [Enumeration.ofCode_code, Enumeration.ofCode_code] at ho
    exact Option.some.inj ho

end Keys

abbrev Account := Std.ExtTreeMap ResourceClass UInt64 compareCode

/-! ### The adapters -/

/-- The members of `ReferenceAdapters`, with their initialisers. -/
structure ReferenceAdapters where
  attemptAuthoritative : Bool := false
  attemptExecution : ExecutionId := {}
  attemptAttempt : AttemptId := {}
  attemptGen : ExecutionGeneration := {}
  attemptAttemptGen : AttemptGeneration := {}
  attemptEpoch : CoordinatorEpoch := {}
  attemptBoot : WorkerBootId := {}
  attemptProvenance : EvidenceKind := .unknown
  workloadStates : Std.ExtTreeMap WorkloadId WorkloadLifecycleState compare := ∅
  captureDefault : Bool := true
  captureCount : UInt64 := 0
  checkpointValid : Bool := true
  currentCheckpointGen : CheckpointGeneration := ⟨1⟩
  captureGeneration : StateCaptureGeneration := {}
  lastCapture : Option CaptureResult := none
  contractId : ResourceContractId := {}
  contractGen : ResourceContractGeneration := {}
  contractExecution : ExecutionId := {}
  reservedUnits : Account := ∅
  releasedUnits : Account := ∅
  randomId : UInt64 := 1
  depStatus : Std.ExtTreeMap DependencyId DependencyView compare := ∅
  resumeDep : DependencyView := {}
  currentCapability : DeviceCapability := {}
  requiredCapability : DeviceCapability := {}
  forceIncompatible : Bool := false
  forceStaleCapability : Bool := false
  failures : List (FailureCategory × String) := []
  quiescedCategories : Std.ExtTreeMap QuiescenceCategory Bool compareCode := ∅

namespace ReferenceAdapters

/-! #### Execution fabric -/

def setAuthoritative (ad : ReferenceAdapters) (execution : ExecutionId) (attempt : AttemptId)
    (gen : ExecutionGeneration) (attemptGen : AttemptGeneration) (epoch : CoordinatorEpoch)
    (worker : WorkerBootId) : ReferenceAdapters :=
  { ad with
    attemptAuthoritative := true
    attemptExecution := execution
    attemptAttempt := attempt
    attemptGen := gen
    attemptBoot := worker
    attemptEpoch := epoch
    attemptAttemptGen := attemptGen
    attemptProvenance := .real }

def revokeAuthority (ad : ReferenceAdapters) : ReferenceAdapters := { ad with attemptAuthoritative := false }

def currentAttemptAuthority (ad : ReferenceAdapters) (execution : ExecutionId) (attempt : AttemptId) :
    AttemptAuthorityView where
  executionId := execution
  attemptId := attempt
  executionGeneration := ad.attemptGen
  attemptGeneration := ad.attemptAttemptGen
  coordinatorEpoch := ad.attemptEpoch
  workerBootId := ad.attemptBoot
  provenance := ad.attemptProvenance
  authoritative := ad.attemptAuthoritative && execution = ad.attemptExecution && attempt = ad.attemptAttempt

def fenceAttempt (ad : ReferenceAdapters) (_ : ExecutionId) (_ : AttemptId) (_ : ExecutionGeneration) :
    Bool × ReferenceAdapters :=
  (true, { ad with attemptAuthoritative := false })

/-- A fresh resume authority always has a newer attempt generation. -/
def grantFreshAttemptAuthority (ad : ReferenceAdapters) (execution : ExecutionId) (attempt : AttemptId)
    (gen : ExecutionGeneration) (worker : WorkerBootId) : AttemptAuthorityView × ReferenceAdapters :=
  let ad := { ad with
    attemptAttemptGen := ad.attemptAttemptGen.next
    attemptAuthoritative := true
    attemptExecution := execution
    attemptAttempt := attempt
    attemptGen := gen
    attemptBoot := worker
    attemptProvenance := .real }
  ({ executionId := execution
     attemptId := attempt
     executionGeneration := gen
     attemptGeneration := ad.attemptAttemptGen
     coordinatorEpoch := ad.attemptEpoch
     workerBootId := worker
     authoritative := true
     provenance := .real }, ad)

/-! #### Workload fabric -/

def setWorkloadState (ad : ReferenceAdapters) (w : WorkloadId) (s : WorkloadLifecycleState) : ReferenceAdapters :=
  { ad with workloadStates := ad.workloadStates.insert w s }

def notifyPreempted (ad : ReferenceAdapters) (w : WorkloadId) : ReferenceAdapters := ad.setWorkloadState w .preempted

def notifyResumed (ad : ReferenceAdapters) (w : WorkloadId) : ReferenceAdapters := ad.setWorkloadState w .active

/-! #### Checkpoint fabric -/

def requestCapture (ad : ReferenceAdapters) (req : StateCaptureRequest) : CaptureResult × ReferenceAdapters :=
  let count := ad.captureCount + 1
  let r : CaptureResult := {
    captureId := ⟨count⟩
    captureGeneration := req.captureGeneration
    checkpointGeneration := req.expectedGeneration
    checkpointRef := ⟨count⟩
    completed := true
    success := ad.captureDefault
    provenance := .real }
  (r, { ad with captureCount := count, captureGeneration := req.captureGeneration, lastCapture := some r })

/-- Generation fencing: an old checkpoint generation does not satisfy a current validation. -/
def validateCheckpoint (ad : ReferenceAdapters) (ref : CheckpointRef) (expected : CheckpointGeneration) : Bool :=
  ad.checkpointValid && ref.isValid && expected = ad.currentCheckpointGen

/-- `ICheckpointFabric::restore` -/
def restore (ad : ReferenceAdapters) (ref : CheckpointRef) (expected : CheckpointGeneration) : Bool :=
  ad.checkpointValid && ref.isValid && expected = ad.currentCheckpointGen

/-! #### Resource broker -/

def lookup (m : Account) (c : ResourceClass) : UInt64 := m[c]?.getD 0

def reserved (ad : ReferenceAdapters) (c : ResourceClass) : UInt64 := lookup ad.reservedUnits c

def released (ad : ReferenceAdapters) (c : ResourceClass) : UInt64 := lookup ad.releasedUnits c

/-- `m[c] += units`, which creates an absent class at zero. -/
def credit (m : Account) (c : ResourceClass) (units : UInt64) : Account := m.insert c (lookup m c + units)

/-- `m[c] -= units`, which creates an absent class at zero. -/
def debit (m : Account) (c : ResourceClass) (units : UInt64) : Account := m.insert c (lookup m c - units)

/-- `Generation_advance`; 64-bit addition wraps. -/
def generationAdvance (g : ResourceContractGeneration) (by' : UInt64) : ResourceContractGeneration :=
  ⟨g.value + by'⟩

def setContract (ad : ReferenceAdapters) (e : ExecutionId) (g : ResourceContractGeneration)
    (leases : List ResourceLease) : ReferenceAdapters :=
  { ad with
    contractId := ⟨ad.randomId⟩
    randomId := ad.randomId + 1
    contractGen := g
    contractExecution := e
    reservedUnits := leases.foldl (fun m lease => credit m lease.resource lease.units) ∅
    releasedUnits := ∅ }

def advanceContract (ad : ReferenceAdapters) (by' : UInt64) : ReferenceAdapters :=
  { ad with contractGen := generationAdvance ad.contractGen by' }

/-- The contract of the adapters does not depend on the execution asked about. -/
def currentContract (ad : ReferenceAdapters) (_ : ExecutionId) : ResourceContract where
  id := ad.contractId
  generation := ad.contractGen
  leases := ad.reservedUnits.toList.map fun (rc, n) => ⟨rc, n⟩

def requestRelease (ad : ReferenceAdapters) (e : ExecutionId) (rc : ResourceClass) (units : UInt64)
    (expected : ResourceContractGeneration) : ReleaseResult × ReferenceAdapters :=
  let r : ReleaseResult := { releaseGeneration := ad.contractGen, workerBootId := ad.attemptBoot }
  if e ≠ ad.contractExecution ∨ expected ≠ ad.contractGen then
    (r, ad)
  else
    match ad.reservedUnits[rc]? with
    | none => (r, ad)
    | some n =>
      if n < units then
        (r, ad)
      else
        ({ r with success := true },
          { ad with
            reservedUnits := ad.reservedUnits.insert rc (n - units)
            releasedUnits := credit ad.releasedUnits rc units })

/-- `IResourceBroker::reacquire`. The generation is written before the conditions are tested, and reading
    `released_[rc]` creates an absent class at zero. -/
def reacquire (ad : ReferenceAdapters) (e : ExecutionId) (rc : ResourceClass) (units : UInt64)
    (contract : ResourceContractGeneration) : ReacquireResult × ReferenceAdapters :=
  let ad := { ad with
    contractGen := if contract.isValid then contract else generationAdvance ad.contractGen 1 }
  let r : ReacquireResult := { contractGeneration := ad.contractGen, workerBootId := ad.attemptBoot }
  if e ≠ ad.contractExecution then
    (r, ad)
  else
    let ad := { ad with releasedUnits := credit ad.releasedUnits rc 0 }
    if lookup ad.releasedUnits rc < units then
      (r, ad)
    else
      ({ r with success := true },
        { ad with
          releasedUnits := debit ad.releasedUnits rc units
          reservedUnits := credit ad.reservedUnits rc units })

/-! #### Dependencies, capabilities and quiescence -/

def resumeDependencies (ad : ReferenceAdapters) (_ : ExecutionId) : DependencyView := ad.resumeDep

def capabilityIsCompatible (ad : ReferenceAdapters) (dst : DeviceCapability) : Bool :=
  if ad.forceIncompatible then
    false
  else
    ad.requiredCapability.memoryBytes ≤ dst.memoryBytes && dst.supportsStateRestore &&
      ad.requiredCapability.computeCompatibility ≤ dst.computeCompatibility

def capabilityGenerationCurrent (ad : ReferenceAdapters) (dst : DeviceCapability) : Bool :=
  if ad.forceStaleCapability then
    false
  else
    dst.capabilityGeneration = ad.currentCapability.capabilityGeneration

def isQuiesced (ad : ReferenceAdapters) (c : QuiescenceCategory) : Bool := ad.quiescedCategories[c]?.getD false

def categories : List QuiescenceCategory :=
  [.cpuWorkerActivity, .acceleratorKernels, .asynchronousCopies, .queuedDeviceOperations, .hostCallbacks,
    .storageWrites, .networkActivity, .statePublication, .completionPublication, .pendingResourceMutation]

end ReferenceAdapters

/-- A call that some client makes on the adapters directly, past the runtime: every setter and every
    mutating call of `ReferenceAdapters`. -/
inductive AdapterOp
  | setAuthoritative (execution : ExecutionId) (attempt : AttemptId) (gen : ExecutionGeneration)
      (attemptGen : AttemptGeneration) (epoch : CoordinatorEpoch) (worker : WorkerBootId)
  | revokeAuthority
  | fenceAttempt (execution : ExecutionId) (attempt : AttemptId) (gen : ExecutionGeneration)
  | grantFreshAttemptAuthority (execution : ExecutionId) (attempt : AttemptId) (gen : ExecutionGeneration)
      (worker : WorkerBootId)
  | setWorkloadState (w : WorkloadId) (s : WorkloadLifecycleState)
  | notifyPreempted (w : WorkloadId)
  | notifyResumed (w : WorkloadId)
  | setCaptureSucceeds (v : Bool)
  | setCaptureCount (v : UInt64)
  | requestCapture (req : StateCaptureRequest)
  | setCurrentCheckpointGeneration (g : CheckpointGeneration)
  | setCheckpointValid (v : Bool)
  | setContract (e : ExecutionId) (g : ResourceContractGeneration) (leases : List ResourceLease)
  | advanceContract (by' : UInt64)
  | requestRelease (e : ExecutionId) (rc : ResourceClass) (units : UInt64) (expected : ResourceContractGeneration)
  | reacquire (e : ExecutionId) (rc : ResourceClass) (units : UInt64) (contract : ResourceContractGeneration)
  | setDependencyStatus (d : DependencyId) (view : DependencyView)
  | setResumeDependency (view : DependencyView)
  | setCapabilityContext (current required : DeviceCapability)
  | setForceIncompatible (v : Bool)
  | setForceStaleCapability (v : Bool)
  | report (category : FailureCategory) (detail : String)
  | setQuiesced (c : QuiescenceCategory) (v : Bool)

namespace AdapterOp
open ReferenceAdapters

def apply (ad : ReferenceAdapters) : AdapterOp → ReferenceAdapters
  | .setAuthoritative execution attempt gen attemptGen epoch worker =>
    ad.setAuthoritative execution attempt gen attemptGen epoch worker
  | .revokeAuthority => ad.revokeAuthority
  | .fenceAttempt execution attempt gen => (ad.fenceAttempt execution attempt gen).2
  | .grantFreshAttemptAuthority execution attempt gen worker =>
    (ad.grantFreshAttemptAuthority execution attempt gen worker).2
  | .setWorkloadState w s => ad.setWorkloadState w s
  | .notifyPreempted w => ad.notifyPreempted w
  | .notifyResumed w => ad.notifyResumed w
  | .setCaptureSucceeds v => { ad with captureDefault := v }
  | .setCaptureCount v => { ad with captureCount := v }
  | .requestCapture req => (ad.requestCapture req).2
  | .setCurrentCheckpointGeneration g => { ad with currentCheckpointGen := g }
  | .setCheckpointValid v => { ad with checkpointValid := v }
  | .setContract e g leases => ad.setContract e g leases
  | .advanceContract by' => ad.advanceContract by'
  | .requestRelease e rc units expected => (ad.requestRelease e rc units expected).2
  | .reacquire e rc units contract => (ad.reacquire e rc units contract).2
  | .setDependencyStatus d view => { ad with depStatus := ad.depStatus.insert d view }
  | .setResumeDependency view => { ad with resumeDep := view }
  | .setCapabilityContext current required =>
    { ad with currentCapability := current, requiredCapability := required }
  | .setForceIncompatible v => { ad with forceIncompatible := v }
  | .setForceStaleCapability v => { ad with forceStaleCapability := v }
  | .report category detail => { ad with failures := ad.failures ++ [(category, detail)] }
  | .setQuiesced c v => { ad with quiescedCategories := ad.quiescedCategories.insert c v }

end AdapterOp

end PreemptionFabric
