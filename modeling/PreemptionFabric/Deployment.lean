import PreemptionFabric.Scenario

/-! Coordinators around one file. A coordinator that is started with `--save` writes its runtime there when a
    preemption completes, and one that is started with `--recover` loads it; between the two the process may be killed
    at any time, also while it writes. The second half states what this is for: a file that holds a whole image, or
    none, and a scenario that starts from it. -/

namespace PreemptionFabric

/-- How much of an image reaches the file: all of it, all but some bytes at its end, or nothing when the file cannot be
    opened. Opening it for writing empties it. -/
inductive Write
  | whole
  | torn (missing : Nat)
  | unopened
deriving DecidableEq, Repr

/-- `PreemptionRuntime::save`: the file after it. The coordinator does not look at the result. -/
def Write.save (w : Write) (image : List UInt8) (file : Option (List UInt8)) : Option (List UInt8) :=
  match w with
  | .whole => some image
  | .torn missing => some (image.take (image.length - (missing + 1)))
  | .unopened => file

/-- What happens to a deployment. A start ends the process before it; a process can be killed between two commands, and
    while it saves. -/
inductive Act
  | start (recovers saves : Bool) (arrivals : List Message) (acknowledging : Sending)
  | command (cmd : Command) (write : Write)
  | kill
  | killSaving (cmd : Command) (write : Write)

/-- What an act prints: whether a coordinator that is to recover has loaded the file, and the lines of a command. -/
structure Shown where
  recovered : Option Bool := none
  lines : List Line := []
deriving DecidableEq, Repr

/-- The file, and the process with its `--save`. -/
structure Deployment where
  file : Option (List UInt8) := none
  saves : Bool := false
  process : Option Process := none

namespace Deployment
open Coordinator

/-- The process is given the file if it is to recover. -/
def start (hash : List UInt8 → UInt64) (recovers : Bool) (arrivals : List Message) (acknowledging : Sending)
    (file : Option (List UInt8)) : Option Process :=
  Process.startup hash (if recovers then some file else none) arrivals acknowledging

/-- What `load` returns to a new coordinator. -/
def loads (file : Option (List UInt8)) : Bool :=
  match (PreemptionFabric.step (.construct epoch policyGeneration adapters) (.load file)).1 with
  | .ok (.bool loaded) => loaded
  | _ => false

def fileAfter (d : Deployment) (write : Write) : Option (List UInt8) → Option (List UInt8)
  | some image => if d.saves then write.save image d.file else d.file
  | none => d.file

def step (hash : List UInt8 → UInt64) (d : Deployment) : Act → Shown × Deployment
  | .start recovers saves arrivals acknowledging =>
    ({ recovered := if recovers then some (loads d.file) else none },
      { d with saves, process := start hash recovers arrivals acknowledging d.file })
  | .command cmd write =>
    let served := Process.serve d.process cmd
    ({ lines := served.1.lines }, { d with file := d.fileAfter write served.1.image, process := served.2 })
  | .kill => ({}, { d with process := none })
  | .killSaving cmd write =>
    ({}, { d with file := d.fileAfter write (Process.serve d.process cmd).1.image, process := none })

end Deployment

/-! ### What it is for -/

/-- The scenario that a whole image brings back: the worker boot that was current at the save may publish again. -/
def Session.image (q : Session) : Scenario := { q.scenario with grantee := some q.coordinator.boot }

def Write.keep (w : Write) (image file : Option Scenario) : Option Scenario :=
  match w with
  | .whole => image
  | .torn _ => none
  | .unopened => file

/-- The file holds the scenario of a whole image or nothing that can be loaded. -/
structure Installation where
  file : Option Scenario := none
  saves : Bool := false
  session : Option Session := none

namespace Installation

def start (hash : List UInt8 → UInt64) (arrivals : List Message) (acknowledging : Sending) (scenario : Scenario) :
    Option Session :=
  (Process.startup hash none arrivals acknowledging).map fun p => ⟨p.coordinator, scenario⟩

def fileAfter (e : Installation) (write : Write) (served : (List Line × Bool) × Option Session) : Option Scenario :=
  if served.1.2 && e.saves then write.keep (served.2.map Session.image) e.file else e.file

def step (hash : List UInt8 → UInt64) (e : Installation) : Act → Shown × Installation
  | .start recovers saves arrivals acknowledging =>
    ({ recovered := if recovers then some e.file.isSome else none },
      { e with saves, session := start hash arrivals acknowledging (if recovers then e.file.getD {} else {}) })
  | .command cmd write =>
    let served := Session.step e.session cmd
    ({ lines := served.1.1 }, { e with file := e.fileAfter write served, session := served.2 })
  | .kill => ({}, { e with session := none })
  | .killSaving cmd write =>
    ({}, { e with file := e.fileAfter write (Session.step e.session cmd), session := none })

end Installation

end PreemptionFabric
