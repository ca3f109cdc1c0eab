import PreemptionFabric.Coordinator

/-! The scenario that the coordinator drives, as its controller sees it: one execution, at most one request for its
    preemption, and how far that has got between two commands. This is an account of what the process is for, and not a
    part of it; the process is shown to print what the scenario does. -/

namespace PreemptionFabric

/-- How far an admitted request has got. -/
inductive Stage
  | requested | quiescing | preempted | resumed | failed
deriving DecidableEq, Repr

def Stage.lifecycle : Stage → LifecycleState
  | .requested => .assessing
  | .quiescing => .quiescing
  | .preempted => .preempted
  | .resumed => .resumed
  | .failed => .failed

structure ActiveRequest where
  id : PreemptionRequestId
  generation : PreemptionRequestGeneration
  stage : Stage
deriving DecidableEq, Repr

/-- The execution has begun or not; the request that is active; whether the one checkpoint of the reference adapters
    has been captured; the durable progress, and the worker boot that may publish it. -/
structure Scenario where
  begun : Bool := false
  active : Option ActiveRequest := none
  captured : Bool := false
  durable : UInt64 := 0
  grantee : Option WorkerBootId := none
deriving DecidableEq, Repr

namespace Scenario
open Coordinator

def lifecycle (a : Scenario) : LifecycleState := (a.active.map (·.stage.lifecycle)).getD .invalid

def isAt (a : Scenario) (stage : Stage) : Bool := a.active.map (·.stage) = some stage

def moveTo (a : Scenario) (stage : Stage) : Scenario :=
  { a with active := a.active.map fun r => { r with stage } }

/-- A new start of the execution; what was captured and published stays. -/
def begin' (a : Scenario) (boot : WorkerBootId) : Scenario :=
  { a with begun := true, active := none, grantee := some boot }

def publish (a : Scenario) (boot : WorkerBootId) (position : UInt64) (kind : ProgressKind) : Scenario :=
  if a.grantee = some boot ∧ a.durable ≤ position ∧ kind = .durable then { a with durable := position } else a

/-- The request of the coordinator, or the one that is active, is brought to a boundary. -/
def preempt (a : Scenario) : Scenario :=
  match a.active with
  | none => { a with active := some ⟨⟨1000⟩, ⟨1⟩, .quiescing⟩ }
  | some _ => if a.isAt .requested then a.moveTo .quiescing else a

/-- The preemption completes: the work quiesces, and there is a checkpoint left to capture. -/
def commits (a : Scenario) : Bool := a.isAt .quiescing && !a.captured

/-- The worker has answered the request to quiesce. A second checkpoint of the execution is not accepted. -/
def quiesce (a : Scenario) : Scenario :=
  if a.commits then
    { a.moveTo .preempted with captured := true, grantee := none }
  else if a.isAt .quiescing then
    a.moveTo .failed
  else
    a

def resume (a : Scenario) (boot : WorkerBootId) : Scenario :=
  if a.isAt .preempted then { a.moveTo .resumed with grantee := some boot } else a

/-- How a replayed request is answered. -/
def admission (a : Scenario) (boot : WorkerBootId) (cmd : Message) : RequestAdmissionCode :=
  if cmd.requestGeneration.isValid = false then
    .rejectedInvalid
  else if a.begun = true ∧ cmd.coordinatorEpoch = epoch ∧ cmd.attemptGeneration = attemptGen ∧
      (cmd.workerBootId.isValid = true → cmd.workerBootId = boot) then
    match a.active with
    | none => .accepted
    | some r =>
      if r.id = ⟨3000⟩ ∧ r.generation = cmd.requestGeneration then .idempotentDuplicate else .conflictingDuplicate
  else
    .rejectedStale

def replay (a : Scenario) (boot : WorkerBootId) (cmd : Message) : Scenario :=
  if a.admission boot cmd = .accepted then
    { a with active := some ⟨⟨3000⟩, cmd.requestGeneration, .requested⟩ }
  else
    a

/-- The replies that a command takes from the worker. -/
def replies (c : Coordinator) (cmd : Command) : Option (Message × Message) :=
  if cmd.sent then (receiveSegment (c.worker.deliver cmd.arrivals)).1 else none

def reply (c : Coordinator) (cmd : Command) : Option Message :=
  if cmd.sent then (c.worker.deliver cmd.arrivals).receive.1 else none

/-- What a command prints, whether it saves an image, and the scenario after it. Work on a safe point before the
    execution has begun is an error that ends the process. -/
def handle (a : Scenario) (c : Coordinator) (cmd : Command) : Option ((List Line × Bool) × Scenario) :=
  match cmd.message.type with
  | .beginExecution => some (([.executionStarted], false), a.begin' c.boot)
  | .publishProgress =>
    match replies c cmd with
    | none => some (([.workerLost], false), a)
    | some (prog, _) =>
      if a.begun then
        some (([.segment cmd.message.progressPosition], false),
          a.publish c.boot prog.progressPosition prog.progressKind)
      else
        none
  | .requestPreemption =>
    if a.begun then
      if (reply c cmd).isSome then
        let ok := a.preempt.commits
        some (([.preempted ok a.preempt.quiesce.lifecycle, .drivePreemption ok], ok), a.preempt.quiesce)
      else
        some (([.workerLost, .drivePreemption false], false), a.preempt)
    else
      none
  | .requestResume =>
    let ok := a.isAt .preempted
    some (([.resumed ok (a.resume c.boot).lifecycle, .driveResume ok], false), a.resume c.boot)
  | .register => some (([c.registerLine cmd.accepted], false), a)
  | .replayStale =>
    some (([.stalePreemption (a.admission c.boot cmd.message), .staleRelease true], false),
      a.replay c.boot cmd.message)
  | _ => some (([], false), a)

end Scenario

/-- The locals of the coordinator beside the scenario. -/
structure Session where
  coordinator : Coordinator
  scenario : Scenario

namespace Session

def handle (q : Session) (cmd : Command) : (List Line × Bool) × Option Session :=
  match q.scenario.handle q.coordinator cmd with
  | none => (([], false), none)
  | some (output, scenario) => (output, some ⟨(q.coordinator.handle cmd).2, scenario⟩)

/-- Handle one command. A frame that kills the process ends the session. -/
def step : Option Session → Command → (List Line × Bool) × Option Session
  | none, _ => (([], false), none)
  | some q, cmd => if cmd.message.type = .shutdown ∨ cmd.kills = true then (([], false), none) else q.handle cmd

end Session

end PreemptionFabric
