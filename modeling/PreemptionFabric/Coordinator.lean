import PreemptionFabric.Framing
import PreemptionFabric.System

/-! The reference coordinator and worker processes (`coordinator/coordinator.cpp`, `coordinator/worker.cpp`). The
    coordinator owns the runtime with its adapters; it reads commands from a controller and messages from the worker
    that registered last, and drives the runtime. What it prints before its loop is left out. -/

namespace PreemptionFabric

/-! ### Connections -/

/-- A connection, as its reader sees it: the decoded messages that have arrived and are not received yet. It is closed
    once a receive has failed: `receive` fails only on a close or on a protocol violation, and then for good. -/
structure Connection where
  inbox : List Message := []
  closed : Bool := false

namespace Connection

def deliver (conn : Connection) (arrivals : List Message) : Connection :=
  if conn.closed then conn else { conn with inbox := conn.inbox ++ arrivals }

def receive (conn : Connection) : Option Message × Connection :=
  match conn.inbox with
  | [] => (none, { conn with closed := true })
  | m :: inbox => (some m, { conn with inbox })

end Connection

/-! ### Calls on the runtime -/

/-- A worker message on whose behalf the runtime is called, and the type of message that the coordinator waits for
    there. -/
structure Cause where
  expected : MessageType
  message : Message

/-- A call on the runtime or its adapters. What is called may depend on the state at the call. -/
structure RuntimeCall where
  op : System → Option Op
  cause : Option Cause := none

/-- A call that is made in every state. -/
def RuntimeCall.of (op : Op) (cause : Option Cause := none) : RuntimeCall := ⟨fun _ => some op, cause⟩

structure CallEvent where
  event : Event
  cause : Option Cause

/-- Make the calls in order. An error is not caught: it ends the process, and no call after it is made. -/
def execCalls (s : System) : List RuntimeCall → List CallEvent × Option System
  | [] => ([], some s)
  | call :: calls =>
    match call.op s with
    | none => execCalls s calls
    | some op =>
      let made : CallEvent := ⟨Trace.event step s op, call.cause⟩
      match (step s op).1 with
      | .error _ => ([made], none)
      | .ok _ => (made :: (execCalls (step s op).2 calls).1, (execCalls (step s op).2 calls).2)

/-! ### The coordinator -/

/-- The locals of the coordinator: the worker that registered last with its connection, the position that it reported
    last, and the number of workers that registered again. -/
structure Coordinator where
  workerId : WorkerId
  boot : WorkerBootId
  worker : Connection
  lastProgress : UInt64 := 0
  bootCounter : UInt64 := 0

/-- What becomes of a frame that is sent. Nothing ignores SIGPIPE, which a `::send` raises on a connection that its peer
    has closed: then `send` does not return false, but the process is killed. -/
inductive Sending
  | written | failed | killed
deriving DecidableEq, Repr

/-- A command that the controller sent, and what the sockets do while it is handled: what becomes of the frame that it
    sends to the worker, which messages arrive from the worker until the handler no longer waits for one, and, for a
    registration, what arrives on the connection that is accepted. -/
structure Command where
  message : Message
  sending : Sending := .written
  arrivals : List Message := []
  accepted : Option (List Message) := none

namespace Command

/-- `send` returns true. -/
def sent (cmd : Command) : Bool := cmd.sending = .written

/-- The command makes a worker register again: one connects, says hello and registers. -/
def registers (cmd : Command) : Bool :=
  cmd.message.type = .register &&
    match cmd.accepted with
    | some (_ :: reg :: _) => reg.type = .register
    | _ => false

/-- Handling the command sends a frame, to the worker or to the one that registers. -/
def sends (cmd : Command) : Bool :=
  match cmd.message.type with
  | .beginExecution | .publishProgress | .requestPreemption => true
  | _ => cmd.registers

/-- The process is killed by the frame that handling the command sends. -/
def kills (cmd : Command) : Bool := cmd.sends && cmd.sending = .killed

end Command

namespace Coordinator

def epoch : CoordinatorEpoch := ⟨100⟩
def policyGeneration : PolicyGeneration := ⟨1⟩
def execId : ExecutionId := ⟨20⟩
def execGen : ExecutionGeneration := ⟨1⟩
def attemptId : AttemptId := ⟨30⟩
def attemptGen : AttemptGeneration := ⟨1⟩
def safePoint : SafePointId := ⟨80⟩

/-- The adapters as the coordinator sets them up: nothing is active, and one contract of device memory. -/
def adapters : ReferenceAdapters :=
  let quiet := ReferenceAdapters.categories.foldl (fun ad c => AdapterOp.apply ad (.setQuiesced c true)) {}
  AdapterOp.apply (quiet.setContract execId ⟨1⟩ [⟨.deviceMemory, 100⟩])
    (.setResumeDependency { status := .current, generation := ⟨1⟩ })

/-! #### Messages to the worker -/

def registerAck (c : Coordinator) : Message :=
  { type := .register, workerId := c.workerId, workerBootId := c.boot, coordinatorEpoch := epoch }

def beginMessage (c : Coordinator) : Message :=
  { type := .beginExecution, executionId := execId, executionGeneration := execGen, attemptId
    attemptGeneration := attemptGen, coordinatorEpoch := epoch, safePointId := safePoint, workerBootId := c.boot }

def segmentMessage (c : Coordinator) (target : UInt64) : Message :=
  { type := .publishProgress, workerId := c.workerId, workerBootId := c.boot, executionId := execId
    executionGeneration := execGen, attemptId, attemptGeneration := attemptGen, coordinatorEpoch := epoch
    safePointId := safePoint, progressPosition := target, safePointCaptureRequired := true }

def quiesceMessage (c : Coordinator) : Message :=
  { type := .quiesced, workerId := c.workerId, workerBootId := c.boot, executionId := execId
    executionGeneration := execGen, attemptId, attemptGeneration := attemptGen, coordinatorEpoch := epoch }

/-- What handling a command sends to the worker. -/
def sends (c : Coordinator) (cmd : Message) : List Message :=
  match cmd.type with
  | .beginExecution => [c.beginMessage]
  | .publishProgress => [c.segmentMessage cmd.progressPosition]
  | .requestPreemption => [c.quiesceMessage]
  | _ => []

/-! #### Commands -/

def declaration (c : Coordinator) : SafePoint :=
  { id := safePoint, generation := ⟨1⟩, executionId := execId, attemptId, workerId := c.workerId
    workerBootId := c.boot, stateCaptureRequired := false, checkpointRequired := true, resumeRequirement := true
    invariant := "reference boundary", provenance := .real, state := .declared }

/-- `kBeginExecution`. The execution starts for worker 40, whoever registered. -/
def beginExecution (c : Coordinator) : List RuntimeCall :=
  [.of (.startExecution ⟨10⟩ ⟨1⟩ execId execGen attemptId attemptGen ⟨40⟩ c.boot),
    .of (.adapter (.setAuthoritative execId attemptId execGen attemptGen epoch c.boot)),
    .of (.declareSafePoint c.declaration)]

/-- The two replies of a segment: progress first, then the safe point. -/
def receiveSegment (worker : Connection) : Option (Message × Message) × Connection :=
  match worker.receive with
  | (none, worker) => (none, worker)
  | (some prog, worker) =>
    match worker.receive with
    | (none, worker) => (none, worker)
    | (some reach, worker) => (some (prog, reach), worker)

/-- The calls that the replies of a segment lead to. -/
def segmentCalls (prog reach : Message) : List RuntimeCall :=
  [.of (.reachSafePoint safePoint reach.safePointPosition false) (some ⟨.reachSafePoint, reach⟩),
    .of (.publishProgress prog.progressPosition prog.progressKind) (some ⟨.publishProgress, prog⟩)]

def runSegment (c : Coordinator) (sent : Bool) : List RuntimeCall × Coordinator :=
  if sent then
    match receiveSegment c.worker with
    | (none, worker) => ([], { c with worker })
    | (some (prog, reach), worker) =>
      (segmentCalls prog reach, { c with worker, lastProgress := prog.progressPosition })
  else
    ([], c)

def preemptionRequest (c : Coordinator) : PreemptionRequest :=
  { id := ⟨1000⟩, generation := ⟨1⟩, workloadId := ⟨10⟩, workloadGeneration := ⟨1⟩, executionId := execId
    executionGeneration := execGen, attemptId, attemptGeneration := attemptGen, coordinatorEpoch := epoch
    workerId := c.workerId, workerBootId := c.boot, reason := .capacityPressure, policyGeneration
    authorityGeneration := ⟨1⟩ }

/-- The calls of `drive_preemption` before it asks the worker to quiesce: the request is deferred to the next
    boundary, the boundary is reached, and the work quiesces there. -/
def preemptionCalls (c : Coordinator) : List RuntimeCall :=
  [.of (.requestPreemption c.preemptionRequest), .of .beginQuiesce,
    .of (.reachSafePoint safePoint c.lastProgress true), .of .beginQuiesce]

/-- The report says what the coordinator expects, and nothing of the message that it received. -/
def quiescenceReport (c : Coordinator) : QuiescenceReport :=
  { generation := ⟨1⟩, workerId := c.workerId, workerBootId := c.boot, fullyQuiesced := true, provenance := .real }

/-- The calls of `drive_preemption` once the worker has answered. -/
def quiescedCalls (c : Coordinator) (qack : Message) : List RuntimeCall :=
  let cause : Option Cause := some ⟨.quiesced, qack⟩
  [.of (.reportQuiesced c.quiescenceReport) cause, .of .requestStateCapture cause,
    { op := fun s => s.ad.lastCapture.map .reportStateCaptured, cause },
    .of .requestRelease cause, .of .reportReleased cause, .of .commitPreempted cause]

def drivePreemption (c : Coordinator) (sent : Bool) : List RuntimeCall × Coordinator :=
  if sent then
    match c.worker.receive with
    | (none, worker) => (c.preemptionCalls, { c with worker })
    | (some qack, worker) => (c.preemptionCalls ++ c.quiescedCalls qack, { c with worker })
  else
    (c.preemptionCalls, c)

def driveResume : List RuntimeCall := [.of .requestResume, .of .revalidate, .of .restore, .of .confirmResumed]

/-- `kRegister`: a worker that says hello and registers takes the place of the current one, with a fresh boot. -/
def register (c : Coordinator) : Option (List Message) → List RuntimeCall × Coordinator
  | some (_ :: reg :: inbox) =>
    if reg.type = .register then
      let boot : WorkerBootId := ⟨8000 + (c.bootCounter + 1)⟩
      ([.of (.setWorkerIncarnation reg.workerId boot)],
        { c with workerId := reg.workerId, boot, bootCounter := c.bootCounter + 1, worker := { inbox } })
    else
      ([], c)
  | _ => ([], c)

/-- `kReplayStale`: a request with the authority of the command. -/
def staleRequest (cmd : Message) : PreemptionRequest :=
  { id := ⟨3000⟩, generation := cmd.requestGeneration, workloadId := ⟨10⟩, workloadGeneration := ⟨1⟩
    executionId := execId, executionGeneration := execGen, attemptId, attemptGeneration := cmd.attemptGeneration
    coordinatorEpoch := cmd.coordinatorEpoch, workerId := cmd.workerId, workerBootId := cmd.workerBootId
    policyGeneration, authorityGeneration := ⟨1⟩ }

def replayStale (cmd : Message) : List RuntimeCall := [.of (.requestPreemption (staleRequest cmd)), .of .requestRelease]

/-- The calls that a command leads to, and the coordinator after it. -/
def handle (c : Coordinator) (cmd : Command) : List RuntimeCall × Coordinator :=
  let c := { c with worker := c.worker.deliver cmd.arrivals }
  match cmd.message.type with
  | .beginExecution => (c.beginExecution, c)
  | .publishProgress => c.runSegment cmd.sent
  | .requestPreemption => c.drivePreemption cmd.sent
  | .requestResume => (driveResume, c)
  | .register => c.register cmd.accepted
  | .replayStale => (replayStale cmd.message, c)
  | _ => ([], c)

end Coordinator

/-! ### The process -/

structure Process where
  coordinator : Coordinator
  system : System

namespace Process
open Coordinator

/-- The process up to its loop: an image is loaded if one is given (`recover`; the image is absent when the file cannot
    be read), and the first worker registers, which is acknowledged. `hash` is `std::hash<std::string>`. -/
def startup (hash : List UInt8 → UInt64) (recover : Option (Option (List UInt8))) (arrivals : List Message)
    (acknowledging : Sending) : Option Process :=
  let s := System.construct epoch policyGeneration adapters
  match arrivals with
  | _ :: reg :: inbox =>
    if reg.type = .register ∧ acknowledging ≠ .killed then
      let boot : WorkerBootId := ⟨1000 + hash reg.detail % 9000⟩
      let calls := (recover.map fun file => RuntimeCall.of (.load file)).toList ++
        [.of (.setWorkerIncarnation reg.workerId boot)]
      (execCalls s calls).2.map fun s => ⟨{ workerId := reg.workerId, boot, worker := { inbox } }, s⟩
    else
      none
  | _ => none

/-- Handle one command. The process has ended (`none`) after a shutdown, after an error that the runtime threw, and after
    a frame that killed it. A frame is sent once the calls are made that do not take a reply to it. -/
def step : Option Process → Command → List CallEvent × Option Process
  | none, _ => ([], none)
  | some p, cmd =>
    if cmd.message.type = .shutdown then
      ([], none)
    else
      let handled := p.coordinator.handle cmd
      let made := execCalls p.system handled.1
      (made.1, if cmd.kills then none else made.2.map (⟨handled.2, ·⟩))

abbrev Event := Trace.Event (Option Process) Command (List CallEvent)

def traceOf (p : Option Process) (cmds : List Command) : List Process.Event := Trace.trace Process.step p cmds

end Process

/-! ### Output -/

/-- A line that the coordinator prints while it handles a command. -/
inductive Line
  | executionStarted
  | segment (target : UInt64)
  | workerLost
  | preempted (ok : Bool) (lifecycle : LifecycleState)
  | drivePreemption (ok : Bool)
  | resumed (ok : Bool) (lifecycle : LifecycleState)
  | driveResume (ok : Bool)
  | reRegisterFailed
  | reRegisterBad
  | reRegistered (worker : WorkerId) (boot : WorkerBootId)
  | stalePreemption (code : RequestAdmissionCode)
  | staleRelease (refused : Bool)
deriving DecidableEq, Repr

/-- The last call completed: the outcome that `drive_preemption`, `drive_resume` and a stale release look at. -/
def CallEvent.completes (made : List CallEvent) : Bool :=
  (made.getLast?.bind (·.event.output.outcome?)) = some .safePreemptionCompleted

/-- The admission that the first call returned. -/
def CallEvent.admission? (made : List CallEvent) : Option RequestAdmissionCode :=
  made.head?.bind fun first =>
    match first.event.output with
    | .ok (.admission a) => some a.code
    | _ => none

namespace Coordinator

/-- What is printed for a registration. -/
def registerLine (c : Coordinator) : Option (List Message) → Line
  | none => .reRegisterFailed
  | some (_ :: reg :: _) =>
    if reg.type = .register then .reRegistered reg.workerId ⟨8000 + (c.bootCounter + 1)⟩ else .reRegisterBad
  | some _ => .reRegisterBad

/-- What is printed once the calls of a command are made, which left the system `s`. No call throws and no frame is sent
    after the first line, so that nothing is printed for a command that ends the process. -/
def printed (c : Coordinator) (cmd : Command) (made : List CallEvent) (s : System) : List Line :=
  let worker := c.worker.deliver cmd.arrivals
  match cmd.message.type with
  | .beginExecution => [.executionStarted]
  | .publishProgress =>
    if cmd.sent && (receiveSegment worker).1.isSome then [.segment cmd.message.progressPosition] else [.workerLost]
  | .requestPreemption =>
    if cmd.sent && worker.receive.1.isSome then
      [.preempted (CallEvent.completes made) s.lifecycle, .drivePreemption (CallEvent.completes made)]
    else
      [.workerLost, .drivePreemption false]
  | .requestResume => [.resumed (CallEvent.completes made) s.lifecycle, .driveResume (CallEvent.completes made)]
  | .register => [c.registerLine cmd.accepted]
  | .replayStale =>
    (CallEvent.admission? made).toList.map .stalePreemption ++ [.staleRelease (!CallEvent.completes made)]
  | _ => []

/-- What `--save` writes: the state after a preemption that has completed. -/
def saved (c : Coordinator) (cmd : Command) (made : List CallEvent) (s : System) : Option (List UInt8) :=
  if cmd.message.type = .requestPreemption ∧ cmd.sent = true ∧
      (c.worker.deliver cmd.arrivals).receive.1.isSome = true ∧ CallEvent.completes made = true then
    some s.persistBytes
  else
    none

end Coordinator

namespace Process

/-- What a command makes the process print and save. -/
structure Output where
  lines : List Line := []
  image : Option (List UInt8) := none

/-- Handle one command, as it shows outside of the process. -/
def serve : Option Process → Command → Output × Option Process
  | none, _ => ({}, none)
  | some p, cmd =>
    let handled := Process.step (some p) cmd
    match handled.2 with
    | none => ({}, none)
    | some p' =>
      ({ lines := p.coordinator.printed cmd handled.1 p'.system
         image := p.coordinator.saved cmd handled.1 p'.system }, some p')

end Process

/-! ### The worker -/

/-- The locals of the reference worker, once it is registered. -/
structure Worker where
  workerId : WorkerId
  boot : WorkerBootId
  epoch : CoordinatorEpoch
  seq : UInt64

namespace Worker

/-- What a worker sends before it waits for the acknowledgment of its registration. -/
def registration (workerId : WorkerId) (label : List UInt8) : List Message :=
  [{ type := .hello, seq := 0, workerId, detail := label }, { type := .register, seq := 1, workerId, detail := label }]

/-- The boot and the epoch of a worker are those of the acknowledgment. -/
def registered (workerId : WorkerId) (ack : Message) : Worker := ⟨workerId, ack.workerBootId, ack.coordinatorEpoch, 2⟩

/-- The authority context of a reply. -/
def reply (w : Worker) (type : MessageType) (cmd : Message) : Message :=
  { type, seq := w.seq.toUInt32, workerId := w.workerId, workerBootId := w.boot, executionId := cmd.executionId
    executionGeneration := cmd.executionGeneration, attemptId := cmd.attemptId
    attemptGeneration := cmd.attemptGeneration, coordinatorEpoch := w.epoch }

def next (w : Worker) : Worker := { w with seq := w.seq + 1 }

def progressReply (w : Worker) (cmd : Message) : Message :=
  { w.reply .publishProgress cmd with progressPosition := cmd.progressPosition, progressKind := .durable }

def reachReply (w : Worker) (cmd : Message) : Message :=
  { w.reply .reachSafePoint cmd with
    safePointId := cmd.safePointId, safePointPosition := cmd.progressPosition
    safePointCaptureRequired := cmd.safePointCaptureRequired }

/-- The replies of a worker to a command. It ends after a shutdown and after a type that it does not expect. -/
def respond (w : Worker) (cmd : Message) : List Message × Option Worker :=
  match cmd.type with
  | .beginExecution => ([], some w)
  | .publishProgress => ([w.progressReply cmd, w.next.reachReply cmd], some w.next.next)
  | .quiesced => ([w.reply .quiesced cmd], some w.next)
  | .resumed => ([{ w.reply .resumed cmd with resumeGeneration := cmd.resumeGeneration }], some w.next)
  | .shutdown => ([{ type := .shutdown, seq := w.seq.toUInt32 }], none)
  | _ => ([], none)

end Worker

end PreemptionFabric
