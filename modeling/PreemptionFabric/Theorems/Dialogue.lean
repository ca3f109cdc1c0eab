import PreemptionFabric.Dialogue
import PreemptionFabric.Theorems.Sessions

/-! The coordinator with the reference worker, which answers at once all that it is sent. No command loses the worker, a
    segment publishes exactly the position that the controller asks for, and what the two processes show for any
    commands is what the scenario alone does. -/

namespace PreemptionFabric
open Trace Coordinator

/-! ### The session of a dialogue -/

section Session
variable {c : Coordinator} {a : Scenario} {m : Message}

/-- The command of the controller with the replies of the worker to it. -/
def answered (w : Worker) (c : Coordinator) (m : Message) : Command :=
  { message := m, arrivals := (Dialogue.answer (some w) (c.sends m)).1 }

theorem answer_alive (w : Worker) (c : Coordinator) (m : Message) :
    (Dialogue.answer (some w) (c.sends m)).2.isSome = true := by
  unfold sends
  cases m.type <;> rfl

/-- Where nothing is left to read, the replies to a segment are those of the worker to it. -/
theorem replies_answered (idle : c.worker = {}) (w : Worker) (type : m.type = .publishProgress) :
    Scenario.replies c (answered w c m) =
      some (w.progressReply (c.segmentMessage m.progressPosition),
        w.next.reachReply (c.segmentMessage m.progressPosition)) := by
  simp only [Scenario.replies, answered, sends, type, idle]
  rfl

theorem reply_answered (idle : c.worker = {}) (w : Worker) (type : m.type = .requestPreemption) :
    Scenario.reply c (answered w c m) = some (w.reply .quiesced c.quiesceMessage) := by
  simp only [Scenario.reply, answered, sends, type, idle]
  rfl

/-- A command leaves the boot of the worker, and nothing to read. -/
structure Coordinator.Idles (c c' : Coordinator) : Prop where
  boot : c'.boot = c.boot
  bootCounter : c'.bootCounter = c.bootCounter
  worker : c'.worker = {}

theorem handle_answered (idle : c.worker = {}) (w : Worker) (m : Message) :
    c.Idles (c.handle (answered w c m)).2 := by
  simp only [Coordinator.handle, answered, sends, idle]
  cases m.type <;> exact ⟨rfl, rfl, rfl⟩

/-- The session handles the command as the performance does. -/
theorem session_performs {q : Performance} (boot : q.boot = c.boot) (idle : c.worker = {}) (w : Worker) (m : Message) :
    (Session.step (some ⟨c, q.scenario⟩) (answered w c m)).1.1 = (q.command m).1 ∧
      (Session.step (some ⟨c, q.scenario⟩) (answered w c m)).2 =
        (q.command m).2.map fun r => ⟨(c.handle (answered w c m)).2, r.scenario⟩ := by
  have message : (answered w c m).message = m := rfl
  have survives : (answered w c m).kills = false := kills_of_sent rfl
  simp only [Session.step, Session.handle, Scenario.handle, Performance.command, message, boot, survives,
    Bool.false_eq_true, or_false]
  cases type : m.type with
  | shutdown => exact ⟨rfl, rfl⟩
  | publishProgress =>
    simp only [replies_answered idle w type]
    cases q.scenario.begun <;> exact ⟨rfl, rfl⟩
  | requestPreemption =>
    simp only [reply_answered idle w type]
    cases q.scenario.begun <;> exact ⟨rfl, rfl⟩
  | _ => exact ⟨rfl, rfl⟩

end Session

/-! ### Dialogues -/

/-- The process performs the scenario: its worker has nothing left to say, and its system agrees. -/
structure Performs (p : Process) (q : Performance) : Prop where
  worker : p.coordinator.worker = {}
  boot : q.boot = p.coordinator.boot
  bootCounter : q.bootCounter = p.coordinator.bootCounter
  agrees : Agrees q.scenario p.coordinator.boot p.system

/-- The dialogue and the performance are both over, or the worker is alive and the process performs. -/
def Follows (u : Dialogue) : Option Performance → Prop
  | none => u.process = none
  | some q => u.worker.isSome = true ∧ ∃ p, u.process = some p ∧ Performs p q

section Follows
variable {u : Dialogue} {p : Process} {q r : Performance}

/-- A command does not replace the worker. -/
theorem Performance.command_boot {m : Message} (after : (q.command m).2 = some r) :
    r.boot = q.boot ∧ r.bootCounter = q.bootCounter := by
  unfold Performance.command at after
  split at after
  all_goals first
    | cases after; exact ⟨rfl, rfl⟩
    | split_ifs at after; cases after; exact ⟨rfl, rfl⟩
    | cases after

theorem Performs.command (h : Performs p q) (w : Worker) (m : Message) :
    (Process.serve (some p) (answered w p.coordinator m)).1.lines = (q.command m).1 ∧
      match (q.command m).2 with
      | none => (Process.serve (some p) (answered w p.coordinator m)).2 = none
      | some r => ∃ p', (Process.serve (some p) (answered w p.coordinator m)).2 = some p' ∧ Performs p' r := by
  obtain ⟨shown, related⟩ := handle_matches h.agrees (answered w p.coordinator m)
  obtain ⟨lines, after⟩ := session_performs h.boot h.worker w m
  refine ⟨(congrArg Prod.fst shown).trans lines, ?_⟩
  rw [after] at related
  cases next : (q.command m).2 with
  | none =>
    rw [next] at related
    exact related.ended
  | some r =>
    rw [next] at related
    obtain ⟨p', alive, coordinator, agrees⟩ := related.alive
    have idles := handle_answered h.worker w m
    obtain ⟨boot, bootCounter⟩ := Performance.command_boot next
    have handled : p'.coordinator = (p.coordinator.handle (answered w p.coordinator m)).2 := coordinator.symm
    refine ⟨p', alive, ⟨?_, ?_, ?_, agrees⟩⟩
    · rw [handled]
      exact idles.worker
    · rw [handled, idles.boot, boot, h.boot]
    · rw [handled, idles.bootCounter, bootCounter, h.bootCounter]

/-- A worker that registers takes the place of the other one, with the next boot. -/
theorem Performs.register (h : Performs p q) (workerId : WorkerId) (label : List UInt8) :
    ∃ p', Process.serve (some p)
        { message := { type := .register }, accepted := some (Worker.registration workerId label) } =
        ({ lines := [.reRegistered workerId q.nextBoot] }, some p') ∧
      Performs p' { q with boot := q.nextBoot, bootCounter := q.bootCounter + 1 } := by
  have boot : q.nextBoot = ⟨8000 + (p.coordinator.bootCounter + 1)⟩ := by
    rw [Performance.nextBoot, h.bootCounter]
  rw [boot, h.bootCounter]
  exact ⟨_, rfl, rfl, rfl, rfl, (h.agrees.registered workerId _).2⟩

/-- A dialogue that follows a performance prints what it does, and follows it on. -/
theorem Follows.step {v : Option Performance} (input : Dialogue.Input) (h : Follows u v) :
    (Dialogue.step u input).1.lines = (Performance.step v input).1 ∧
      Follows (Dialogue.step u input).2 (Performance.step v input).2 := by
  obtain ⟨process, worker⟩ := u
  cases v with
  | none =>
    obtain rfl : process = none := h
    cases input with
    | command message => exact ⟨rfl, rfl⟩
    | register workerId label => exact ⟨rfl, rfl⟩
  | some q =>
    obtain ⟨alive, p, running, performs⟩ := h
    obtain rfl : process = some p := running
    obtain ⟨w, rfl⟩ := Option.isSome_iff_exists.mp alive
    cases input with
    | command message =>
      obtain ⟨lines, after⟩ := performs.command w message
      refine ⟨lines, ?_⟩
      have stays := answer_alive w p.coordinator message
      rw [Performance.step]
      cases next : (q.command message).2 with
      | none =>
        rw [next] at after
        exact after
      | some r =>
        rw [next] at after
        exact ⟨stays, after⟩
    | register workerId label =>
      obtain ⟨p', served, performs'⟩ := performs.register workerId label
      rw [Dialogue.step, served]
      exact ⟨rfl, rfl, p', rfl, performs'⟩

end Follows

/-- The performance of a coordinator whose first worker has the label. -/
def Performance.start (hash : List UInt8 → UInt64) (label : List UInt8) : Performance :=
  { boot := ⟨1000 + hash label % 9000⟩ }

theorem follows_start (hash : List UInt8 → UInt64) (workerId : WorkerId) (label : List UInt8) :
    Follows (Dialogue.start hash workerId label) (some (Performance.start hash label)) := by
  exact ⟨rfl, _, rfl, ⟨rfl, rfl, rfl, (construct_agrees.registered workerId _).2⟩⟩

theorem dialogue_run (hash : List UInt8 → UInt64) (workerId : WorkerId) (label : List UInt8)
    (inputs : List Dialogue.Input) :
    (trace Dialogue.step (Dialogue.start hash workerId label) inputs).map (·.output.lines) =
        (trace Performance.step (some (Performance.start hash label)) inputs).map Event.output ∧
      Follows (exec Dialogue.step (Dialogue.start hash workerId label) inputs)
        (exec Performance.step (some (Performance.start hash label)) inputs) :=
  simulation Dialogue.step Process.Output.lines Follows.step (follows_start hash workerId label) inputs

/-- With reference workers, whatever the controller asks for and however often they are replaced, the coordinator
    prints what the performance does: no worker is ever lost, and only work before the execution has begun ends the
    process early. -/
theorem dialogue_refines (hash : List UInt8 → UInt64) (workerId : WorkerId) (label : List UInt8)
    (inputs : List Dialogue.Input) :
    (trace Dialogue.step (Dialogue.start hash workerId label) inputs).map (·.output.lines) =
      (trace Performance.step (some (Performance.start hash label)) inputs).map Event.output :=
  (dialogue_run hash workerId label inputs).1

/-! ### A migration -/

namespace Dialogue.Input

def begin' : Input := .command { type := .beginExecution }
def segment (target : UInt64) : Input := .command { type := .publishProgress, progressPosition := target }
def preempt : Input := .command { type := .requestPreemption }
def resume : Input := .command { type := .requestResume }

end Dialogue.Input

open Dialogue.Input in
/-- Work on one worker, a preemption, another worker that takes its place, a resume, and work there. -/
def migration (targets : List UInt64) (workerId : WorkerId) (label : List UInt8) (targets' : List UInt64) :
    List Dialogue.Input :=
  begin' :: targets.map segment ++ (preempt :: .register workerId label :: resume :: targets'.map segment)

/-- What it prints. -/
def migrationLines (targets : List UInt64) (workerId : WorkerId) (targets' : List UInt64) : List Line :=
  .executionStarted :: targets.map .segment ++
    ([.preempted true .preempted, .drivePreemption true, .reRegistered workerId ⟨8001⟩, .resumed true .resumed,
      .driveResume true] ++ targets'.map .segment)

section Migration

/-- The performance once the execution has begun. -/
def Performance.begun (q : Performance) : Performance := q.moved (q.scenario.begin' q.boot)

def Performance.durableAt (q : Performance) (position : UInt64) : Performance :=
  q.moved { q.scenario with durable := position }

/-- The lines that a list of inputs prints, and the performance after them. -/
def Performance.run (v : Option Performance) (inputs : List Dialogue.Input) : List Line × Option Performance :=
  ((trace Performance.step v inputs).flatMap (·.output), exec Performance.step v inputs)

theorem Performance.run_cons (v : Option Performance) (input : Dialogue.Input) (inputs : List Dialogue.Input) :
    Performance.run v (input :: inputs) =
      ((Performance.step v input).1 ++ (Performance.run (Performance.step v input).2 inputs).1,
        (Performance.run (Performance.step v input).2 inputs).2) := rfl

theorem Performance.run_append (v : Option Performance) (inputs inputs' : List Dialogue.Input) :
    Performance.run v (inputs ++ inputs') =
      ((Performance.run v inputs).1 ++ (Performance.run (Performance.run v inputs).2 inputs').1,
        (Performance.run (Performance.run v inputs).2 inputs').2) := by
  rw [Performance.run, trace_append, exec_append, List.flatMap_append]
  rfl

/-- Segments of the worker that may publish make the furthest of them durable. -/
theorem Performance.run_segments (q : Performance) (begun : q.scenario.begun = true)
    (granted : q.scenario.grantee = some q.boot) (targets : List UInt64) :
    Performance.run (some q) (targets.map Dialogue.Input.segment) =
      (targets.map .segment, some (q.durableAt (targets.foldl max q.scenario.durable))) := by
  induction targets generalizing q with
  | nil => rfl
  | cons target targets ih =>
    have published : q.scenario.publish q.boot target .durable =
        { q.scenario with durable := max q.scenario.durable target } := by
      show _ = { q.scenario with durable := if q.scenario.durable ≤ target then target else q.scenario.durable }
      rw [Scenario.publish]
      by_cases ahead : q.scenario.durable ≤ target
      · rw [if_pos ⟨granted, ahead, rfl⟩, if_pos ahead]
      · rw [if_neg fun accepted => ahead accepted.2.1, if_neg ahead]
    have stepped : Performance.step (some q) (.segment target) =
        ([.segment target], some (q.durableAt (max q.scenario.durable target))) := by
      rw [Performance.durableAt, ← published]
      simp only [Performance.step, Dialogue.Input.segment, Performance.command, begun, if_true]
    have rest := ih (q.durableAt (max q.scenario.durable target)) begun granted
    rw [List.map_cons, Performance.run_cons, stepped, rest]
    rfl

/-- The first preemption of an execution and its resume on another worker, which may publish from there on. -/
theorem Performance.run_migrated (q : Performance) (begun : q.scenario.begun = true) (idle : q.scenario.active = none)
    (fresh : q.scenario.captured = false) (workerId : WorkerId) (label : List UInt8) :
    ∃ r, Performance.run (some q) [.preempt, .register workerId label, .resume] =
        ([.preempted true .preempted, .drivePreemption true, .reRegistered workerId q.nextBoot, .resumed true .resumed,
          .driveResume true], some r) ∧
      r.scenario.begun = true ∧ r.scenario.grantee = some r.boot ∧ r.scenario.durable = q.scenario.durable := by
  obtain ⟨boot, bootCounter, b, active, captured, durable, grantee⟩ := q
  obtain rfl : b = true := begun
  obtain rfl : active = none := idle
  obtain rfl : captured = false := fresh
  exact ⟨_, rfl, rfl, rfl, rfl⟩

/-- The performance of a migration. -/
theorem Performance.run_migration (hash : List UInt8 → UInt64) (label label' : List UInt8) (workerId : WorkerId)
    (targets targets' : List UInt64) :
    ∃ q, Performance.run (some (Performance.start hash label)) (migration targets workerId label' targets') =
        (migrationLines targets workerId targets', some q) ∧
      q.scenario.durable = (targets ++ targets').foldl max 0 := by
  have started : Performance.step (some (Performance.start hash label)) .begin' =
      ([.executionStarted], some (Performance.start hash label).begun) := rfl
  have worked := Performance.run_segments (Performance.start hash label).begun rfl rfl targets
  obtain ⟨r, migrated, begun, granted, durable⟩ := Performance.run_migrated
    ((Performance.start hash label).begun.durableAt (targets.foldl max 0)) rfl rfl rfl workerId label'
  have resumed := Performance.run_segments r begun granted targets'
  have parts : migration targets workerId label' targets' = .begin' :: (targets.map Dialogue.Input.segment ++
      ([.preempt, .register workerId label', .resume] ++ targets'.map Dialogue.Input.segment)) := rfl
  refine ⟨r.durableAt (targets'.foldl max r.scenario.durable), ?_, ?_⟩
  · rw [parts, Performance.run_cons, started, Performance.run_append, worked, Performance.run_append]
    have first : (Performance.start hash label).begun.scenario.durable = 0 := rfl
    simp only [first, migrated, resumed]
    rfl
  · rw [List.foldl_append, durable]
    rfl

end Migration

/-- Whatever segments the controller asks for before and after it, an execution with reference workers is preempted,
    taken over by another worker and resumed there, and its durable progress is the furthest of all segments. -/
theorem dialogue_migrates (hash : List UInt8 → UInt64) (workerId workerId' : WorkerId) (label label' : List UInt8)
    (targets targets' : List UInt64) :
    (trace Dialogue.step (Dialogue.start hash workerId label) (migration targets workerId' label' targets')).flatMap
        (·.output.lines) = migrationLines targets workerId' targets' ∧
      (exec Dialogue.step (Dialogue.start hash workerId label) (migration targets workerId' label' targets')).process.map
        (·.system.rt.durablePosition) = some ((targets ++ targets').foldl max 0) := by
  obtain ⟨shown, follows⟩ := dialogue_run hash workerId label (migration targets workerId' label' targets')
  obtain ⟨q, performed, durable⟩ := Performance.run_migration hash label label' workerId' targets targets'
  have lines := congrArg Prod.fst performed
  have after := congrArg Prod.snd performed
  have printed := congrArg List.flatten shown
  rw [← List.flatMap_def, ← List.flatMap_def] at printed
  rw [show exec Performance.step (some (Performance.start hash label)) (migration targets workerId' label' targets') =
    some q from after] at follows
  obtain ⟨_, p, running, performs⟩ := follows
  refine ⟨printed.trans lines, ?_⟩
  rw [running, Option.map_some, performs.agrees.durable, durable]

end PreemptionFabric
