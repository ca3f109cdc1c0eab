import PreemptionFabric.Adapters
import PreemptionFabric.Crc32
import PreemptionFabric.Lib.Parser

/-! The persisted image of a runtime (`persistence/state.hpp`, `persistence/store.cpp`): its validation, its
    versioned encoding sealed by a CRC-32, and its decoder. -/

namespace PreemptionFabric

/-- `PF_PERSISTENCE_VERSION` -/
def persistenceVersion : UInt32 := 1

structure PersistentSafePoint where
  id : SafePointId := {}
  generation : SafePointGeneration := {}
  executionId : ExecutionId := {}
  attemptId : AttemptId := {}
  workerId : WorkerId := {}
  workerBootId : WorkerBootId := {}
  progressPosition : UInt64 := 0
  stateCaptureRequired : Bool := false
  checkpointRequired : Bool := false
  state : SafePointState := .unknown
  order : UInt64 := 0
deriving DecidableEq, Repr

structure PersistentReleaseReceipt where
  resource : ResourceClass := .other
  units : UInt64 := 0
  contractId : ResourceContractId := {}
  contractGeneration : ResourceContractGeneration := {}
  releaseGeneration : ReleaseGeneration := {}
  workerBootId : WorkerBootId := {}
deriving DecidableEq, Repr

structure PersistentSuperseded where
  requestId : PreemptionRequestId := {}
  generation : PreemptionRequestGeneration := {}
  finalState : LifecycleState := .superseded
deriving DecidableEq, Repr

/-- The durable preemption state that survives a restart. -/
@[ext] structure PersistentState where
  formatVersion : UInt32 := 0
  coordinatorEpoch : CoordinatorEpoch := {}
  policyGeneration : PolicyGeneration := {}
  workloadId : WorkloadId := {}
  workloadGeneration : WorkloadGeneration := {}
  executionId : ExecutionId := {}
  executionGeneration : ExecutionGeneration := {}
  attemptId : AttemptId := {}
  attemptGeneration : AttemptGeneration := {}
  workerId : WorkerId := {}
  workerBootId : WorkerBootId := {}
  fencedWorkerBoot : WorkerBootId := {}
  lifecycle : LifecycleState := .invalid
  requestId : PreemptionRequestId := {}
  requestGeneration : PreemptionRequestGeneration := {}
  quiesced : Bool := false
  quiescenceGeneration : QuiescenceGeneration := {}
  stateDurable : Bool := false
  stateCaptureGeneration : StateCaptureGeneration := {}
  checkpointRef : CheckpointRef := {}
  checkpointGeneration : CheckpointGeneration := {}
  resourcesReleased : Bool := false
  releaseGeneration : ReleaseGeneration := {}
  preempted : Bool := false
  resumeGeneration : ResumeGeneration := {}
  durableProgress : UInt64 := 0
  progressGeneration : ProgressGeneration := {}
  safePoints : List PersistentSafePoint := []
  releaseReceipts : List PersistentReleaseReceipt := []
  history : List PersistentSuperseded := []
deriving DecidableEq, Repr

/-- Decode and validation failure categories; `ok` is `kOk`. -/
inductive PersistenceError
  | ok | badMagic | badVersion | truncated | checksum | invalidEnum | malformedLength | trailingGarbage
  | duplicateId | generationRegression | multipleAuthoritative | illegalLifecycle | releaseBeforeQuiescence
  | resumeBeforePreempted | brokenCheckpoint | invalidResourceObligation | malformedProgress | integerOverflow
deriving DecidableEq, Repr

/-! ### Validation -/

def isKnownLifecycle (s : LifecycleState) : Bool := s = .invalid || s.toString != unknownName

def isKnownResource (r : ResourceClass) : Bool := r.toString != unknownName

def isKnownSafePointState (s : SafePointState) : Bool := s.toString != unknownName && s ≠ .unset

/-- Is this lifecycle state on the forward preemption/resume progression path? -/
def isOnMainPath : LifecycleState → Bool
  | .requested | .validatingAuthority | .assessing | .deferred | .waitingForSafePoint | .safePointReached
  | .quiescing | .quiesced | .captureRequired | .capturingState | .stateDurable | .releasePending | .releasing
  | .resourcesReleased | .preempted | .resumePending | .revalidating | .restoring | .resumeReady | .resuming
  | .resumed => true
  | _ => false

def isReleaseReached : LifecycleState → Bool
  | .releasePending | .releasing | .resourcesReleased | .preempted | .resumePending | .revalidating | .restoring
  | .resumeReady | .resuming | .resumed => true
  | _ => false

def isResumeReached : LifecycleState → Bool
  | .resumePending | .revalidating | .restoring | .resumeReady | .resuming | .resumed => true
  | _ => false

/-- The first error of two checks made one after the other. -/
def PersistenceError.orThen (e next : PersistenceError) : PersistenceError := if e = .ok then next else e

/-- The checks that apply on the forward progression path only. -/
def validateMainPath (s : PersistentState) : PersistenceError :=
  if isOnMainPath s.lifecycle then
    if isReleaseReached s.lifecycle && !s.quiesced then .releaseBeforeQuiescence
    else if isReleaseReached s.lifecycle && !s.stateDurable then .releaseBeforeQuiescence
    else if isReleaseReached s.lifecycle && !s.resourcesReleased then .releaseBeforeQuiescence
    else if isResumeReached s.lifecycle && !s.preempted then .resumeBeforePreempted
    else .ok
  else .ok

/-- Safe points: unique valid ids and known states; `seen` are the ids passed so far. -/
def validateSafePoints (seen : List UInt64) : List PersistentSafePoint → PersistenceError
  | [] => .ok
  | sp :: rest =>
    if !sp.id.isValid then .duplicateId
    else if seen.contains sp.id.value then .duplicateId
    else if !isKnownSafePointState sp.state then .invalidEnum
    else validateSafePoints (sp.id.value :: seen) rest

/-- Release receipts: known resources, valid generations and positive units. -/
def validateReceipts : List PersistentReleaseReceipt → PersistenceError
  | [] => .ok
  | rcpt :: rest =>
    if !isKnownResource rcpt.resource then .invalidEnum
    else if !rcpt.contractGeneration.isValid || !rcpt.releaseGeneration.isValid then .invalidResourceObligation
    else if rcpt.units = 0 then .invalidResourceObligation
    else validateReceipts rest

def validateHistory : List PersistentSuperseded → PersistenceError
  | [] => .ok
  | h :: rest => if !isKnownLifecycle h.finalState then .invalidEnum else validateHistory rest

/-- Semantic validation of a fully decoded image. -/
def validateState (s : PersistentState) : PersistenceError :=
  if s.formatVersion ≠ persistenceVersion then .badVersion
  else if !isKnownLifecycle s.lifecycle then .invalidEnum
  else (validateMainPath s).orThen <|
    if s.preempted && !s.stateDurable then .releaseBeforeQuiescence
    else if s.stateDurable && !(s.checkpointRef.isValid && s.checkpointGeneration.isValid) then .brokenCheckpoint
    else (validateSafePoints [] s.safePoints).orThen <|
      (validateReceipts s.releaseReceipts).orThen (validateHistory s.history)

/-! ### Encoding -/

open ByteWriter in
def encodeSafePoint (sp : PersistentSafePoint) : List UInt8 :=
  u64 sp.id.value ++ u64 sp.generation.value ++ u64 sp.executionId.value ++ u64 sp.attemptId.value ++
    u64 sp.workerId.value ++ u64 sp.workerBootId.value ++ u64 sp.progressPosition ++
    bool sp.stateCaptureRequired ++ bool sp.checkpointRequired ++ u32 (Enumeration.code sp.state) ++ u64 sp.order

open ByteWriter in
def encodeReceipt (rcpt : PersistentReleaseReceipt) : List UInt8 :=
  u32 (Enumeration.code rcpt.resource) ++ u64 rcpt.units ++ u64 rcpt.contractId.value ++
    u64 rcpt.contractGeneration.value ++ u64 rcpt.releaseGeneration.value ++ u64 rcpt.workerBootId.value

open ByteWriter in
def encodeSuperseded (h : PersistentSuperseded) : List UInt8 :=
  u64 h.requestId.value ++ u64 h.generation.value ++ u32 (Enumeration.code h.finalState)

open ByteWriter in
/-- The fixed fields of the payload, up to the first list. -/
def encodeFields (s : PersistentState) : List UInt8 :=
  u32 persistenceVersion ++ u64 s.coordinatorEpoch.value ++ u64 s.policyGeneration.value ++
    u64 s.workloadId.value ++ u64 s.workloadGeneration.value ++ u64 s.executionId.value ++
    u64 s.executionGeneration.value ++ u64 s.attemptId.value ++ u64 s.attemptGeneration.value ++
    u64 s.workerId.value ++ u64 s.workerBootId.value ++ u64 s.fencedWorkerBoot.value ++
    u32 (Enumeration.code s.lifecycle) ++ u64 s.requestId.value ++ u64 s.requestGeneration.value ++
    bool s.quiesced ++ u64 s.quiescenceGeneration.value ++ bool s.stateDurable ++
    u64 s.stateCaptureGeneration.value ++ u64 s.checkpointRef.value ++ u64 s.checkpointGeneration.value ++
    bool s.resourcesReleased ++ u64 s.releaseGeneration.value ++ bool s.preempted ++
    u64 s.resumeGeneration.value ++ u64 s.durableProgress ++ u64 s.progressGeneration.value

/-- A counted list: its size as a `u32`, then its elements. -/
def encodeList {α : Type} (write : α → List UInt8) (xs : List α) : List UInt8 :=
  ByteWriter.u32 (UInt32.ofNat xs.length) ++ xs.flatMap write

/-- The payload between the header and the checksum. -/
def encodePayload (s : PersistentState) : List UInt8 :=
  encodeFields s ++ encodeList encodeSafePoint s.safePoints ++ encodeList encodeReceipt s.releaseReceipts ++
    encodeList encodeSuperseded s.history

def magic : List UInt8 := [0x50, 0x46, 0x53, 0x42]
def headerSize : Nat := 4 + 4 + 4
def trailerSize : Nat := 4

/-- The image up to its checksum. The payload length is cast to 32 bits. -/
def encodeSealed (payload : List UInt8) : List UInt8 :=
  magic ++ ByteWriter.u32 persistenceVersion ++ ByteWriter.u32 (UInt32.ofNat payload.length) ++ payload

/-- `persist::encode`; the empty vector when a list is too long to count. -/
def encode (s : PersistentState) : List UInt8 :=
  if !fitsU32 s.safePoints.length then []
  else if !fitsU32 s.releaseReceipts.length then []
  else if !fitsU32 s.history.length then []
  else
    let out := encodeSealed (encodePayload s)
    out ++ ByteWriter.u32 (crc32 out)

/-! ### Decoding -/

abbrev ImageParser (α : Type) := Parser PersistenceError α

def readU8 : ImageParser UInt8 := Parser.sticky ByteReader.u8 0
def readU32 : ImageParser UInt32 := Parser.sticky ByteReader.u32 0
def readU64 : ImageParser UInt64 := Parser.sticky ByteReader.u64 0

/-- A boolean is any non-zero byte. -/
def readBool : ImageParser Bool := do
  let v ← readU8
  return v != 0

/-- An enumerator stored as a `u32`; a number out of range stops the decoder. -/
def readEnum {α : Type} [DecidableEq α] [Enumeration α] : ImageParser α := do
  let e ← readU32
  match Enumeration.ofCode e with
  | some a => return a
  | none => throw .invalidEnum

def decodeSafePoint : ImageParser PersistentSafePoint := do
  let id ← readU64
  let generation ← readU64
  let executionId ← readU64
  let attemptId ← readU64
  let workerId ← readU64
  let workerBootId ← readU64
  let progressPosition ← readU64
  let stateCaptureRequired ← readBool
  let checkpointRequired ← readBool
  let state ← readEnum
  let order ← readU64
  return {
    id := ⟨id⟩, generation := ⟨generation⟩, executionId := ⟨executionId⟩, attemptId := ⟨attemptId⟩
    workerId := ⟨workerId⟩, workerBootId := ⟨workerBootId⟩, progressPosition, stateCaptureRequired
    checkpointRequired, state, order }

def decodeReceipt : ImageParser PersistentReleaseReceipt := do
  let resource ← readEnum
  let units ← readU64
  let contractId ← readU64
  let contractGeneration ← readU64
  let releaseGeneration ← readU64
  let workerBootId ← readU64
  return {
    resource, units, contractId := ⟨contractId⟩, contractGeneration := ⟨contractGeneration⟩
    releaseGeneration := ⟨releaseGeneration⟩, workerBootId := ⟨workerBootId⟩ }

def decodeSuperseded : ImageParser PersistentSuperseded := do
  let requestId ← readU64
  let generation ← readU64
  let finalState ← readEnum
  return { requestId := ⟨requestId⟩, generation := ⟨generation⟩, finalState }

/-- The fixed fields, in the order of the payload; the lists are left empty. -/
def decodeFields : ImageParser PersistentState := do
  let formatVersion ← readU32
  let coordinatorEpoch ← readU64
  let policyGeneration ← readU64
  let workloadId ← readU64
  let workloadGeneration ← readU64
  let executionId ← readU64
  let executionGeneration ← readU64
  let attemptId ← readU64
  let attemptGeneration ← readU64
  let workerId ← readU64
  let workerBootId ← readU64
  let fencedWorkerBoot ← readU64
  let lifecycle ← readEnum
  let requestId ← readU64
  let requestGeneration ← readU64
  let quiesced ← readBool
  let quiescenceGeneration ← readU64
  let stateDurable ← readBool
  let stateCaptureGeneration ← readU64
  let checkpointRef ← readU64
  let checkpointGeneration ← readU64
  let resourcesReleased ← readBool
  let releaseGeneration ← readU64
  let preempted ← readBool
  let resumeGeneration ← readU64
  let durableProgress ← readU64
  let progressGeneration ← readU64
  return {
    formatVersion, coordinatorEpoch := ⟨coordinatorEpoch⟩, policyGeneration := ⟨policyGeneration⟩
    workloadId := ⟨workloadId⟩, workloadGeneration := ⟨workloadGeneration⟩, executionId := ⟨executionId⟩
    executionGeneration := ⟨executionGeneration⟩, attemptId := ⟨attemptId⟩
    attemptGeneration := ⟨attemptGeneration⟩, workerId := ⟨workerId⟩, workerBootId := ⟨workerBootId⟩
    fencedWorkerBoot := ⟨fencedWorkerBoot⟩, lifecycle, requestId := ⟨requestId⟩
    requestGeneration := ⟨requestGeneration⟩, quiesced, quiescenceGeneration := ⟨quiescenceGeneration⟩
    stateDurable, stateCaptureGeneration := ⟨stateCaptureGeneration⟩, checkpointRef := ⟨checkpointRef⟩
    checkpointGeneration := ⟨checkpointGeneration⟩, resourcesReleased
    releaseGeneration := ⟨releaseGeneration⟩, preempted, resumeGeneration := ⟨resumeGeneration⟩
    durableProgress, progressGeneration := ⟨progressGeneration⟩ }

/-- A counted list, read while every field is there; a missing field stops the decoder after the loop. -/
def decodeList {α : Type} (element : ImageParser α) : ImageParser (List α) := do
  let count ← readU32
  let xs ← Parser.many element count.toNat
  if ← Parser.isOk then
    return xs
  else
    throw .truncated

def decodePayload : ImageParser PersistentState := do
  let s ← decodeFields
  let safePoints ← decodeList decodeSafePoint
  let releaseReceipts ← decodeList decodeReceipt
  let history ← decodeList decodeSuperseded
  -- No trailing data.
  if ← Parser.atEnd then
    return { s with safePoints, releaseReceipts, history }
  else
    throw .trailingGarbage

/-- The header and the checksum: the payload of a sealed image. -/
def sealedPayload (bytes : List UInt8) : Except PersistenceError (List UInt8) :=
  if bytes.length < headerSize + trailerSize then
    .error .truncated
  else if bytes.take 4 ≠ magic then
    .error .badMagic
  else
    match ByteReader.u32 (bytes.drop 4), ByteReader.u32 (bytes.drop 8) with
    | some (version, _), some (payloadLen, _) =>
      if version ≠ persistenceVersion then
        .error .badVersion
      else
        let expectedTotal := headerSize + payloadLen.toNat + trailerSize
        if expectedTotal ≠ bytes.length then
          .error .truncated
        else
          match ByteReader.u32 (bytes.drop (expectedTotal - trailerSize)) with
          | some (storedCrc, _) =>
            if crc32 (bytes.take (expectedTotal - trailerSize)) ≠ storedCrc then
              .error .checksum
            else
              .ok ((bytes.drop headerSize).take payloadLen.toNat)
          | none => .error .truncated
    | _, _ => .error .truncated

/-- `persist::decode`: the state of an accepted image, or the reason for its rejection. -/
def decode (bytes : List UInt8) : Except PersistenceError PersistentState :=
  match sealedPayload bytes with
  | .error e => .error e
  | .ok payload =>
    match (decodePayload.runFrom ⟨payload, true⟩).1 with
    | .error e => .error e
    | .ok s => if validateState s = .ok then .ok s else .error (validateState s)

end PreemptionFabric
