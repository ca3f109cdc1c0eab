import PreemptionFabric.Scenario

/-! The coordinator with the reference worker, as one system: a worker that has registered receives what the coordinator
    sends, in order, and what it replies arrives before the handler reads it. It does not close its connection, so that
    every frame is written. The input is what the controller asks for alone. The second half states what this is for:
    with such a worker, a scenario needs no messages. -/

namespace PreemptionFabric

/-- The coordinator, and the worker that registered last until it ends. -/
structure Dialogue where
  process : Option Process
  worker : Option Worker

namespace Dialogue

/-- A command of the controller; one to register goes with the worker that connects. -/
inductive Input
  | command (message : Message)
  | register (workerId : WorkerId) (label : List UInt8)

/-- What a worker replies to the messages that it is sent. -/
def answer : Option Worker → List Message → List Message × Option Worker
  | none, _ => ([], none)
  | some w, [] => ([], some w)
  | some w, m :: sent =>
    let later := answer (w.respond m).2 sent
    ((w.respond m).1 ++ later.1, later.2)

/-- The coordinator is started, and the worker registers with it. -/
def start (hash : List UInt8 → UInt64) (workerId : WorkerId) (label : List UInt8) : Dialogue :=
  let process := Process.startup hash none (Worker.registration workerId label) .written
  ⟨process, process.map fun p => Worker.registered workerId p.coordinator.registerAck⟩

def step (u : Dialogue) : Input → Process.Output × Dialogue
  | .command message =>
    let replies := answer u.worker ((u.process.map (·.coordinator.sends message)).getD [])
    let served := Process.serve u.process { message, arrivals := replies.1 }
    (served.1, ⟨served.2, replies.2⟩)
  | .register workerId label =>
    let served := Process.serve u.process
      { message := { type := .register }, accepted := some (Worker.registration workerId label) }
    (served.1, ⟨served.2, served.2.map fun p => Worker.registered workerId p.coordinator.registerAck⟩)

end Dialogue

/-! ### What it is for -/

/-- A scenario with the boot of the current worker, and the number of workers that registered again. -/
structure Performance where
  boot : WorkerBootId
  bootCounter : UInt64 := 0
  scenario : Scenario := {}

namespace Performance

def moved (q : Performance) (scenario : Scenario) : Performance := { q with scenario }

/-- What a command prints, and the performance after it. Nothing is ever lost. -/
def command (q : Performance) (m : Message) : List Line × Option Performance :=
  match m.type with
  | .shutdown => ([], none)
  | .beginExecution => ([.executionStarted], some (q.moved (q.scenario.begin' q.boot)))
  | .publishProgress =>
    if q.scenario.begun then
      ([.segment m.progressPosition], some (q.moved (q.scenario.publish q.boot m.progressPosition .durable)))
    else
      ([], none)
  | .requestPreemption =>
    if q.scenario.begun then
      let ok := q.scenario.preempt.commits
      let next := q.scenario.preempt.quiesce
      ([.preempted ok next.lifecycle, .drivePreemption ok], some (q.moved next))
    else
      ([], none)
  | .requestResume =>
    let ok := q.scenario.isAt .preempted
    let next := q.scenario.resume q.boot
    ([.resumed ok next.lifecycle, .driveResume ok], some (q.moved next))
  | .register => ([.reRegisterFailed], some q)
  | .replayStale =>
    ([.stalePreemption (q.scenario.admission q.boot m), .staleRelease true], some (q.moved (q.scenario.replay q.boot m)))
  | _ => ([], some q)

/-- The boot of the next worker that registers. -/
def nextBoot (q : Performance) : WorkerBootId := ⟨8000 + (q.bootCounter + 1)⟩

def step : Option Performance → Dialogue.Input → List Line × Option Performance
  | none, _ => ([], none)
  | some q, .command message => q.command message
  | some q, .register workerId _ =>
    ([.reRegistered workerId q.nextBoot], some { q with boot := q.nextBoot, bootCounter := q.bootCounter + 1 })

end Performance

end PreemptionFabric
