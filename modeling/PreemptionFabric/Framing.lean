import PreemptionFabric.Adapters
import PreemptionFabric.Crc32
import PreemptionFabric.Lib.Parser
import PreemptionFabric.Lib.Scanner

/-! The reference coordinator/worker protocol (`protocol/message.hpp`, `protocol/framing.hpp`,
    `protocol/framing.cpp`): messages with a complete authority context, their framed encoding sealed by a
    CRC-32, the decoder of one frame and the streaming decoder. -/

namespace PreemptionFabric

/-! ### Messages -/

inductive MessageType
  | invalid | hello | register | beginExecution | publishProgress | declareSafePoint | reachSafePoint
  | requestPreemption | preemptionAssessment | beginQuiesce | quiesced | requestStateCapture | stateCaptured
  | requestRelease | resourceReleased | preempted | requestResume | revalidationResult | restoreResult | resumed
  | cancel | complete | error | shutdown | replayStale
deriving DecidableEq, Repr

instance : Enumeration MessageType where
  all := [.invalid, .hello, .register, .beginExecution, .publishProgress, .declareSafePoint, .reachSafePoint,
    .requestPreemption, .preemptionAssessment, .beginQuiesce, .quiesced, .requestStateCapture, .stateCaptured,
    .requestRelease, .resourceReleased, .preempted, .requestResume, .revalidationResult, .restoreResult, .resumed,
    .cancel, .complete, .error, .shutdown, .replayStale]
  nodup := by decide
  mem_all a := by cases a <;> decide
  length_lt := by decide

/-- A protocol message; `detail` and `extra` are byte strings. -/
structure Message where
  type : MessageType := .invalid
  seq : UInt32 := 0
  coordinatorEpoch : CoordinatorEpoch := {}
  workerId : WorkerId := {}
  workerBootId : WorkerBootId := {}
  executionId : ExecutionId := {}
  executionGeneration : ExecutionGeneration := {}
  attemptId : AttemptId := {}
  attemptGeneration : AttemptGeneration := {}
  requestId : PreemptionRequestId := {}
  requestGeneration : PreemptionRequestGeneration := {}
  workerB : WorkerId := {}
  progressPosition : UInt64 := 0
  progressGeneration : ProgressGeneration := {}
  progressKind : ProgressKind := .invalid
  safePointId : SafePointId := {}
  safePointGeneration : SafePointGeneration := {}
  safePointPosition : UInt64 := 0
  safePointCaptureRequired : Bool := false
  checkpointRef : CheckpointRef := {}
  checkpointGeneration : CheckpointGeneration := {}
  captureId : StateCaptureId := {}
  captureGeneration : StateCaptureGeneration := {}
  resumeId : ResumeId := {}
  resumeGeneration : ResumeGeneration := {}
  resource : ResourceClass := .invalid
  units : UInt64 := 0
  contractId : ResourceContractId := {}
  contractGeneration : ResourceContractGeneration := {}
  reason : PreemptionReason := .unknown
  outcome : PreemptionOutcome := .invalid
  lifecycle : LifecycleState := .invalid
  preemptibility : PreemptibilityClass := .unknown
  resumeOutcome : ResumeOutcome := .unknown
  depStatus : DependencyStatus := .unknown
  preservationOutcome : StatePreservationOutcome := .unknown
  detail : List UInt8 := []
  extra : List UInt8 := []
deriving DecidableEq, Repr

/-! ### Frames -/

/-- Frame rejection categories; `ok` is `kOk`. -/
inductive FrameError
  | ok | truncated | badMagic | badVersion | badLength | checksum | badMessageType | invalidEnum | malformedBody
  | trailingGarbage
deriving DecidableEq, Repr

/-- `kMaxFrameBody` -/
def maxFrameBody : UInt32 := 64 * 1024

/-- `kMagic`: 'P', 'F', 'R', '1' little-endian. -/
def frameMagic : UInt32 := 0x31524650

/-- `PF_PROTOCOL_VERSION` -/
def protocolVersion : UInt32 := 1

/-- `kFrameHeaderSize`: magic, version, type, sequence number and body length. -/
def frameHeaderSize : Nat := 20

/-! ### Encoding -/

open ByteWriter in
/-- The fields of a body, up to its strings. -/
def encodeBodyFields (m : Message) : List UInt8 :=
  u32 (Enumeration.code m.type) ++ u32 m.seq ++ u64 m.coordinatorEpoch.value ++ u64 m.workerId.value ++
    u64 m.workerBootId.value ++ u64 m.executionId.value ++ u64 m.executionGeneration.value ++
    u64 m.attemptId.value ++ u64 m.attemptGeneration.value ++ u64 m.requestId.value ++
    u64 m.requestGeneration.value ++ u64 m.workerB.value ++ u64 m.progressPosition ++
    u64 m.progressGeneration.value ++ u32 (Enumeration.code m.progressKind) ++ u64 m.safePointId.value ++
    u64 m.safePointGeneration.value ++ u64 m.safePointPosition ++ bool m.safePointCaptureRequired ++
    u64 m.checkpointRef.value ++ u64 m.checkpointGeneration.value ++ u64 m.captureId.value ++
    u64 m.captureGeneration.value ++ u64 m.resumeId.value ++ u64 m.resumeGeneration.value ++
    u32 (Enumeration.code m.resource) ++ u64 m.units ++ u64 m.contractId.value ++
    u64 m.contractGeneration.value ++ u32 (Enumeration.code m.reason) ++ u32 (Enumeration.code m.outcome) ++
    u32 (Enumeration.code m.lifecycle) ++ u32 (Enumeration.code m.preemptibility) ++
    u32 (Enumeration.code m.resumeOutcome) ++ u32 (Enumeration.code m.depStatus) ++
    u32 (Enumeration.code m.preservationOutcome)

def encodeBody (m : Message) : Except LengthError (List UInt8) := do
  let detail ← ByteWriter.string m.detail
  let extra ← ByteWriter.string m.extra
  return encodeBodyFields m ++ detail ++ extra

open ByteWriter in
def encodeFrame (m : Message) : Except LengthError (List UInt8) := do
  let body ← encodeBody m
  let hw := u32 frameMagic ++ u32 protocolVersion ++ u32 (Enumeration.code m.type) ++ u32 m.seq
  if !fitsU32 body.length then
    throw ⟨"message too large for frame"⟩
  else
    let out := hw ++ u32 (UInt32.ofNat body.length) ++ body
    return out ++ u32 (crc32 out)

/-! ### Decoding -/

/-- Readers of a body; every missing field and every number out of range stops the decoder. -/
abbrev BodyParser (α : Type) := Parser Unit α

namespace BodyParser

def u8 : BodyParser UInt8 := Parser.required ByteReader.u8 ()
def u32 : BodyParser UInt32 := Parser.required ByteReader.u32 ()
def u64 : BodyParser UInt64 := Parser.required ByteReader.u64 ()
def string : BodyParser (List UInt8) := Parser.required ByteReader.string ()

/-- A boolean is any non-zero byte. -/
def bool : BodyParser Bool := do
  let v ← u8
  return v != 0

def ofCode {α : Type} [DecidableEq α] [Enumeration α] (t : UInt32) : BodyParser α :=
  match Enumeration.ofCode t with
  | some a => return a
  | none => throw ()

/-- Zero is no type of a message. -/
def messageType (t : UInt32) : BodyParser MessageType := if t = 0 then throw () else ofCode t

def enum {α : Type} [DecidableEq α] [Enumeration α] : BodyParser α := do
  let t ← u32
  ofCode t

end BodyParser

open BodyParser in
/-- The fields of a body, in their order; the type is checked after the sequence number. -/
def readFields : BodyParser Message := do
  let t ← u32
  let seq ← u32
  let type ← messageType t
  let coordinatorEpoch ← u64
  let workerId ← u64
  let workerBootId ← u64
  let executionId ← u64
  let executionGeneration ← u64
  let attemptId ← u64
  let attemptGeneration ← u64
  let requestId ← u64
  let requestGeneration ← u64
  let workerB ← u64
  let progressPosition ← u64
  let progressGeneration ← u64
  let progressKind ← enum
  let safePointId ← u64
  let safePointGeneration ← u64
  let safePointPosition ← u64
  let safePointCaptureRequired ← bool
  let checkpointRef ← u64
  let checkpointGeneration ← u64
  let captureId ← u64
  let captureGeneration ← u64
  let resumeId ← u64
  let resumeGeneration ← u64
  let resource ← enum
  let units ← u64
  let contractId ← u64
  let contractGeneration ← u64
  let reason ← enum
  let outcome ← enum
  let lifecycle ← enum
  let preemptibility ← enum
  let resumeOutcome ← enum
  let depStatus ← enum
  let preservationOutcome ← enum
  let detail ← string
  let extra ← string
  return {
    type, seq, coordinatorEpoch := ⟨coordinatorEpoch⟩, workerId := ⟨workerId⟩, workerBootId := ⟨workerBootId⟩
    executionId := ⟨executionId⟩, executionGeneration := ⟨executionGeneration⟩, attemptId := ⟨attemptId⟩
    attemptGeneration := ⟨attemptGeneration⟩, requestId := ⟨requestId⟩, requestGeneration := ⟨requestGeneration⟩
    workerB := ⟨workerB⟩, progressPosition, progressGeneration := ⟨progressGeneration⟩, progressKind
    safePointId := ⟨safePointId⟩, safePointGeneration := ⟨safePointGeneration⟩, safePointPosition
    safePointCaptureRequired, checkpointRef := ⟨checkpointRef⟩, checkpointGeneration := ⟨checkpointGeneration⟩
    captureId := ⟨captureId⟩, captureGeneration := ⟨captureGeneration⟩, resumeId := ⟨resumeId⟩
    resumeGeneration := ⟨resumeGeneration⟩, resource, units, contractId := ⟨contractId⟩
    contractGeneration := ⟨contractGeneration⟩, reason, outcome, lifecycle, preemptibility, resumeOutcome
    depStatus, preservationOutcome, detail, extra }

def readBody : BodyParser Message := do
  let m ← readFields
  if ← Parser.atEnd then
    return m
  else
    throw ()

def decodeBody (bytes : List UInt8) : Option Message := (readBody.runFrom ⟨bytes, true⟩).1.toOption

/-- A value that has to be there. -/
def required {ε α : Type} (e : ε) : Option α → Except ε α
  | some a => .ok a
  | none => .error e

/-- `decode_frame`: the message of a complete frame, or the reason for its rejection. -/
def decodeFrame (bytes : List UInt8) : Except FrameError Message := do
  if bytes.length < frameHeaderSize + 4 then throw .truncated
  let (magic, hr) ← required .truncated (ByteReader.u32 (bytes.take frameHeaderSize))
  if magic ≠ frameMagic then throw .badMagic
  let (version, hr) ← required .truncated (ByteReader.u32 hr)
  if version ≠ protocolVersion then throw .badVersion
  let (type, hr) ← required .truncated (ByteReader.u32 hr)
  let (seq, hr) ← required .truncated (ByteReader.u32 hr)
  let (bodyLen, _) ← required .truncated (ByteReader.u32 hr)
  if bodyLen > maxFrameBody then throw .badLength
  let bodyEnd := frameHeaderSize + bodyLen.toNat
  let total := bodyEnd + 4
  if bytes.length < total then throw .truncated
  if bytes.length > total then throw .trailingGarbage
  let (storedCrc, _) ← required .truncated (ByteReader.u32 ((bytes.drop bodyEnd).take 4))
  if crc32 (bytes.take bodyEnd) ≠ storedCrc then throw .checksum
  let msg ← required .malformedBody (decodeBody ((bytes.drop frameHeaderSize).take bodyLen.toNat))
  if Enumeration.code msg.type ≠ type then throw .malformedBody
  return { msg with seq }

/-! ### Streaming -/

structure FrameDecoder where
  buffer : List UInt8 := []
  fatal : Bool := false
deriving DecidableEq, Repr

/-- The frame at the front of a buffer, with its size: what `FrameDecoder::pop` does short of changing the decoder.
    It stops where more bytes are needed, and where `pop` calls `set_fatal`. -/
def scanFrame (buffer : List UInt8) : Except Halt (Message × Nat) := do
  if buffer.length < frameHeaderSize + 4 then throw .incomplete
  let (magic, hr) ← required .malformed (ByteReader.u32 (buffer.take frameHeaderSize))
  if magic ≠ frameMagic then throw .malformed
  let (version, hr) ← required .malformed (ByteReader.u32 hr)
  if version ≠ protocolVersion then throw .malformed
  let (_type, hr) ← required .malformed (ByteReader.u32 hr)
  let (seq, hr) ← required .malformed (ByteReader.u32 hr)
  let (bodyLen, _) ← required .malformed (ByteReader.u32 hr)
  if bodyLen > maxFrameBody then throw .malformed
  let bodyEnd := frameHeaderSize + bodyLen.toNat
  let total := bodyEnd + 4
  if buffer.length < total then throw .incomplete
  let (storedCrc, _) ← required .malformed (ByteReader.u32 ((buffer.drop bodyEnd).take 4))
  if crc32 (buffer.take bodyEnd) ≠ storedCrc then throw .malformed
  let msg ← required .malformed (decodeBody ((buffer.drop frameHeaderSize).take bodyLen.toNat))
  return ({ msg with seq }, total)

namespace FrameDecoder

def feed (d : FrameDecoder) (data : List UInt8) : FrameDecoder := { d with buffer := d.buffer ++ data }

def buffered (d : FrameDecoder) : Nat := d.buffer.length

def setFatal (d : FrameDecoder) : FrameDecoder := { d with fatal := true, buffer := [] }

/-- The next complete frame, if there is one. -/
def pop (d : FrameDecoder) : Option Message × FrameDecoder :=
  if d.fatal then
    (none, d)
  else
    match scanFrame d.buffer with
    | .error .incomplete => (none, d)
    | .error .malformed => (none, d.setFatal)
    | .ok (msg, total) => (some msg, { d with buffer := d.buffer.drop total })

end FrameDecoder

end PreemptionFabric
