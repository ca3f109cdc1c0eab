import PreemptionFabric.Theorems.Scenario

/-! Runs of the coordinator as sessions with its controller. What a command prints follows from the scenario alone, and
    so does what a whole run can show: one preemption and one resume that succeed, and replays that are refused. -/

namespace PreemptionFabric
open Trace Coordinator PreemptionFabric.Action

/-! ### Runs -/

/-- The process and the session are both ended, or have the same locals, and the system agrees with the scenario. -/
def Represents : Option Process → Option Session → Prop
  | none, none => True
  | some p, some q => q.coordinator = p.coordinator ∧ Agrees q.scenario p.coordinator.boot p.system
  | _, _ => False

theorem Represents.ended {u : Option Process} (h : Represents u none) : u = none := by
  cases u with
  | none => rfl
  | some p => exact h.elim

theorem Represents.alive {u : Option Process} {q : Session} (h : Represents u (some q)) :
    ∃ p, u = some p ∧ q.coordinator = p.coordinator ∧ Agrees q.scenario p.coordinator.boot p.system := by
  cases u with
  | none => exact h.elim
  | some p => exact ⟨p, rfl, h⟩

/-- What a controller can tell of the output of a command. -/
def Process.Output.shown (o : Process.Output) : List Line × Bool := (o.lines, o.image.isSome)

/-- The process shows for the command what the session does, and they agree after it. -/
def Matches (p : Process) (a : Scenario) (cmd : Command) : Prop :=
  (Process.serve (some p) cmd).1.shown = (Session.step (some ⟨p.coordinator, a⟩) cmd).1 ∧
    Represents (Process.serve (some p) cmd).2 (Session.step (some ⟨p.coordinator, a⟩) cmd).2

section Runs
variable {p : Process} {a : Scenario} {cmd : Command} {t : System}

theorem serve_alive (running : cmd.message.type ≠ .shutdown) (survives : cmd.kills = false)
    (alive : (execCalls p.system (p.coordinator.handle cmd).1).2 = some t) :
    Process.serve (some p) cmd =
      ({ lines := p.coordinator.printed cmd (execCalls p.system (p.coordinator.handle cmd).1).1 t
         image := p.coordinator.saved cmd (execCalls p.system (p.coordinator.handle cmd).1).1 t },
        some ⟨(p.coordinator.handle cmd).2, t⟩) := by
  rw [Process.serve, process_step running survives, alive]
  rfl

/-- A command that ends the process shows nothing. -/
theorem serve_ended (ended : (Process.step (some p) cmd).2 = none) : Process.serve (some p) cmd = ({}, none) := by
  simp only [Process.serve, ended]

theorem serve_dead (running : cmd.message.type ≠ .shutdown)
    (dead : (execCalls p.system (p.coordinator.handle cmd).1).2 = none) :
    Process.serve (some p) cmd = ({}, none) := by
  refine serve_ended ?_
  rw [Process.step, if_neg running]
  simp only [dead, Option.map_none, ite_self]

theorem serve_killed (killed : cmd.kills = true) : Process.serve (some p) cmd = ({}, none) := by
  refine serve_ended ?_
  rw [Process.step]
  split_ifs
  · rfl
  · rfl

/-- Only a registration changes the boot. -/
theorem handle_boot (c : Coordinator) (cmd : Command) (other : cmd.message.type ≠ .register) :
    (c.handle cmd).2.boot = c.boot := by
  unfold handle
  cases type : cmd.message.type with
  | register => exact absurd type other
  | publishProgress =>
    simp only [runSegment]
    split_ifs
    · split <;> rfl
    · rfl
  | requestPreemption =>
    simp only [drivePreemption]
    split_ifs
    · split <;> rfl
    · rfl
  | _ => rfl

/-- What the session does with a command that neither shuts the process down nor kills it. -/
theorem session_step (running : cmd.message.type ≠ .shutdown) (survives : cmd.kills = false) (q : Session) :
    Session.step (some q) cmd = q.handle cmd := by
  have goes : ¬(cmd.message.type = .shutdown ∨ cmd.kills = true) := by
    rintro (ends | killed)
    · exact running ends
    · exact Bool.false_ne_true (survives.symm.trans killed)
  rw [Session.step, if_neg goes]

/-- A command whose calls leave a system that agrees with the scenario after it. -/
theorem matches_alive {output : List Line × Bool} {b : Scenario} (running : cmd.message.type ≠ .shutdown)
    (survives : cmd.kills = false)
    (alive : (execCalls p.system (p.coordinator.handle cmd).1).2 = some t)
    (handled : a.handle p.coordinator cmd = some (output, b))
    (lines : p.coordinator.printed cmd (execCalls p.system (p.coordinator.handle cmd).1).1 t = output.1)
    (saves : (p.coordinator.saved cmd (execCalls p.system (p.coordinator.handle cmd).1).1 t).isSome = output.2)
    (agrees : Agrees b (p.coordinator.handle cmd).2.boot t) : Matches p a cmd := by
  rw [Matches, serve_alive running survives alive, session_step running survives, Session.handle, handled]
  exact ⟨Prod.ext lines saves, rfl, agrees⟩

theorem matches_dead (running : cmd.message.type ≠ .shutdown) (survives : cmd.kills = false)
    (dead : (execCalls p.system (p.coordinator.handle cmd).1).2 = none)
    (handled : a.handle p.coordinator cmd = none) : Matches p a cmd := by
  rw [Matches, serve_dead running dead, session_step running survives, Session.handle, handled]
  exact ⟨rfl, trivial⟩

/-- A frame kills the process, whatever its calls have come to. -/
theorem killed_matches (killed : cmd.kills = true) : Matches p a cmd := by
  rw [Matches, serve_killed killed, Session.step, if_pos (.inr killed)]
  exact ⟨rfl, trivial⟩

/-- Only a preemption saves. -/
theorem saved_other {c : Coordinator} {made : List CallEvent} (other : cmd.message.type ≠ .requestPreemption) :
    (c.saved cmd made t).isSome = false := by
  rw [saved, if_neg fun all => other all.1]
  rfl

/-! #### Segments -/

theorem printed_segment (type : cmd.message.type = .publishProgress) (made : List CallEvent) (t : System) :
    p.coordinator.printed cmd made t =
      if (Scenario.replies p.coordinator cmd).isSome then [.segment cmd.message.progressPosition]
      else [.workerLost] := by
  have taken : (Scenario.replies p.coordinator cmd).isSome =
      (cmd.sent && (receiveSegment (p.coordinator.worker.deliver cmd.arrivals)).1.isSome) := by
    rw [Scenario.replies]
    cases cmd.sent <;> rfl
  rw [taken]
  simp only [printed, type]

/-- A worker that is lost on the way leaves nothing to call. -/
theorem handle_segment_lost (type : cmd.message.type = .publishProgress)
    (lost : Scenario.replies p.coordinator cmd = none) : (p.coordinator.handle cmd).1 = [] := by
  rw [Scenario.replies] at lost
  simp only [Coordinator.handle, type, runSegment]
  split_ifs at lost ⊢
  · split
    next => rfl
    next received =>
      rw [received] at lost
      cases lost
  · rfl

theorem segmentReplies_of_replies {prog reach : Message} (type : cmd.message.type = .publishProgress)
    (replies : Scenario.replies p.coordinator cmd = some (prog, reach)) :
    p.segmentReplies cmd = some (prog, reach) := by
  rw [Scenario.replies] at replies
  split_ifs at replies with sent
  rw [Process.segmentReplies, if_pos ⟨type, sent⟩, replies]

theorem segment_matches (h : Agrees a p.coordinator.boot p.system) (survives : cmd.kills = false)
    (type : cmd.message.type = .publishProgress) : Matches p a cmd := by
  have running : cmd.message.type ≠ .shutdown := by simp [type]
  have saves (made : List CallEvent) (t : System) : (p.coordinator.saved cmd made t).isSome = false :=
    saved_other (by simp [type])
  have boot := handle_boot p.coordinator cmd (by simp [type])
  cases replies : Scenario.replies p.coordinator cmd with
  | none =>
    have handled : a.handle p.coordinator cmd = some (([.workerLost], false), a) := by
      simp only [Scenario.handle, type, replies]
    have alive : (execCalls p.system (p.coordinator.handle cmd).1).2 = some p.system := by
      rw [handle_segment_lost type replies]
      rfl
    refine matches_alive running survives alive handled ?_ (saves _ _) (by rw [boot]; exact h)
    rw [printed_segment type, replies]
    rfl
  | some both =>
    obtain ⟨prog, reach⟩ := both
    have calls := (handle_segment (segmentReplies_of_replies type replies)).2.1
    cases begun : a.begun with
    | false =>
      have handled : a.handle p.coordinator cmd = none := by
        simp only [Scenario.handle, type, replies, begun]
        rfl
      refine matches_dead running survives ?_ handled
      rw [calls]
      exact h.segment_unbegun begun prog reach
    | true =>
      obtain ⟨t, alive, agrees⟩ := h.segment begun prog reach
      have handled : a.handle p.coordinator cmd = some (([.segment cmd.message.progressPosition], false),
          a.publish p.coordinator.boot prog.progressPosition prog.progressKind) := by
        simp only [Scenario.handle, type, replies, begun]
        rfl
      refine matches_alive running survives (by rw [calls]; exact alive) handled ?_ (saves _ _)
        (by rw [boot]; exact agrees)
      rw [printed_segment type, replies]
      rfl

/-! #### Preemptions -/

theorem reply_isSome (p : Process) (cmd : Command) :
    (cmd.sent && (p.coordinator.worker.deliver cmd.arrivals).receive.1.isSome) =
      (Scenario.reply p.coordinator cmd).isSome := by
  rw [Scenario.reply]
  cases cmd.sent <;> rfl

section Preemption
variable (type : cmd.message.type = .requestPreemption)
include type

theorem printed_preemption (made : List CallEvent) (t : System) : p.coordinator.printed cmd made t =
    if (Scenario.reply p.coordinator cmd).isSome then
      [.preempted (CallEvent.completes made) t.lifecycle, .drivePreemption (CallEvent.completes made)]
    else
      [.workerLost, .drivePreemption false] := by
  rw [← reply_isSome]
  simp only [printed, type]

theorem saved_preemption (made : List CallEvent) (t : System) : (p.coordinator.saved cmd made t).isSome =
    ((Scenario.reply p.coordinator cmd).isSome && CallEvent.completes made) := by
  rw [← reply_isSome, saved]
  cases cmd.sent <;> cases (p.coordinator.worker.deliver cmd.arrivals).receive.1.isSome <;>
    cases CallEvent.completes made <;> simp [type]

/-- Without an answer of the worker the coordinator stops at the boundary. -/
theorem handle_preemption_lost (lost : Scenario.reply p.coordinator cmd = none) :
    (p.coordinator.handle cmd).1 = p.coordinator.preemptionCalls := by
  rw [Scenario.reply] at lost
  simp only [Coordinator.handle, type, drivePreemption]
  split_ifs at lost ⊢
  · split
    next => rfl
    next received =>
      rw [received] at lost
      cases lost
  · rfl

theorem handle_preemption_answered {qack : Message} (reply : Scenario.reply p.coordinator cmd = some qack) :
    (p.coordinator.handle cmd).1 = p.coordinator.preemptionCalls ++ p.coordinator.quiescedCalls qack := by
  have answered : p.quiescenceReply cmd = some qack := by
    rw [Scenario.reply] at reply
    split_ifs at reply with sent
    rw [Process.quiescenceReply, if_pos ⟨type, sent⟩, reply]
  exact (handle_quiescence answered).2.1

/-- Whether or not the worker answers, the first calls end a process whose execution has not begun. -/
theorem preemption_unbegun_matches (h : Agrees a p.coordinator.boot p.system) (survives : cmd.kills = false)
    (unbegun : a.begun = false) : Matches p a cmd := by
  have handled : a.handle p.coordinator cmd = none := by
    simp only [Scenario.handle, type, unbegun]
    rfl
  refine matches_dead (by simp [type]) survives ?_ handled
  have dead := h.preempted_unbegun unbegun
  cases reply : Scenario.reply p.coordinator cmd with
  | none =>
    rw [handle_preemption_lost type reply]
    exact dead
  | some qack =>
    rw [handle_preemption_answered type reply, execCalls_append, dead]
    exact dead

theorem preemption_lost_matches (h : Agrees a p.coordinator.boot p.system) (survives : cmd.kills = false)
    (begun : a.begun = true) (lost : Scenario.reply p.coordinator cmd = none) : Matches p a cmd := by
  obtain ⟨t, alive, agrees, _⟩ := h.preempted begun
  have handled : a.handle p.coordinator cmd = some (([.workerLost, .drivePreemption false], false), a.preempt) := by
    simp only [Scenario.handle, type, begun, lost]
    rfl
  have left : (execCalls p.system (p.coordinator.handle cmd).1).2 = some t := by
    rw [handle_preemption_lost type lost]
    exact alive
  have boot := handle_boot p.coordinator cmd (by simp [type])
  refine matches_alive (by simp [type]) survives left handled ?_ ?_ (by rw [boot]; exact agrees)
  · rw [printed_preemption type, lost]
    rfl
  · rw [saved_preemption type, lost]
    rfl

theorem preemption_answered_matches (h : Agrees a p.coordinator.boot p.system) (survives : cmd.kills = false)
    (begun : a.begun = true) {qack : Message} (reply : Scenario.reply p.coordinator cmd = some qack) :
    Matches p a cmd := by
  have calls := handle_preemption_answered type reply
  rw [quiescedCalls_eq, ← List.append_assoc] at calls
  obtain ⟨t, alive, agrees, needed⟩ := h.preempted begun
  obtain ⟨u, made, outcome, after⟩ := agrees.quiesced needed qack
  have before : (execCalls p.system (p.coordinator.preemptionCalls ++ preservationCalls p.coordinator qack)).2 =
      some u := by
    rw [execCalls_append, alive]
    exact made
  obtain ⟨completes, left⟩ := completes_snoc before .commitPreempted (some ⟨.quiesced, qack⟩) rfl
  rw [outcome, ← calls] at completes
  rw [← calls] at left
  have handled : a.handle p.coordinator cmd =
      some (([.preempted a.preempt.commits a.preempt.quiesce.lifecycle, .drivePreemption a.preempt.commits],
        a.preempt.commits), a.preempt.quiesce) := by
    simp only [Scenario.handle, type, begun, reply]
    rfl
  have boot := handle_boot p.coordinator cmd (by simp [type])
  refine matches_alive (by simp [type]) survives left handled ?_ ?_ (by rw [boot]; exact after)
  · rw [printed_preemption type, reply, completes, after.lifecycle]
    rfl
  · rw [saved_preemption type, reply, completes]
    rfl

theorem preemption_matches (h : Agrees a p.coordinator.boot p.system) (survives : cmd.kills = false) :
    Matches p a cmd := by
  cases begun : a.begun with
  | false => exact preemption_unbegun_matches type h survives begun
  | true =>
    cases reply : Scenario.reply p.coordinator cmd with
    | none => exact preemption_lost_matches type h survives begun reply
    | some qack => exact preemption_answered_matches type h survives begun reply

end Preemption

/-! #### The other commands -/

theorem resume_matches (h : Agrees a p.coordinator.boot p.system) (survives : cmd.kills = false)
    (type : cmd.message.type = .requestResume) : Matches p a cmd := by
  have running : cmd.message.type ≠ .shutdown := by simp [type]
  have boot := handle_boot p.coordinator cmd (by simp [type])
  have calls : (p.coordinator.handle cmd).1 = resumeCalls ++ [.of .confirmResumed] := by
    simp only [Coordinator.handle, type]
    rfl
  obtain ⟨t, before, outcome, after⟩ := h.resumed
  obtain ⟨completes, left⟩ := completes_snoc before .confirmResumed none rfl
  rw [outcome, ← calls] at completes
  rw [← calls] at left
  have handled : a.handle p.coordinator cmd =
      some (([.resumed (a.isAt .preempted) (a.resume p.coordinator.boot).lifecycle, .driveResume (a.isAt .preempted)],
        false), a.resume p.coordinator.boot) := by
    simp only [Scenario.handle, type]
  refine matches_alive running survives left handled ?_ (saved_other (by simp [type])) (by rw [boot]; exact after)
  simp only [printed, type]
  rw [completes, after.lifecycle]

theorem register_matches (h : Agrees a p.coordinator.boot p.system) (survives : cmd.kills = false)
    (type : cmd.message.type = .register) : Matches p a cmd := by
  have running : cmd.message.type ≠ .shutdown := by simp [type]
  have handled : a.handle p.coordinator cmd = some (([p.coordinator.registerLine cmd.accepted], false), a) := by
    simp only [Scenario.handle, type]
  have lines (made : List CallEvent) (t : System) :
      p.coordinator.printed cmd made t = [p.coordinator.registerLine cmd.accepted] := by
    simp only [printed, type]
  obtain ⟨t, alive, agrees⟩ : ∃ t, (execCalls p.system (p.coordinator.handle cmd).1).2 = some t ∧
      Agrees a (p.coordinator.handle cmd).2.boot t := by
    simp only [Coordinator.handle, type, register]
    split
    · split_ifs
      · exact ⟨_, h.registered _ _⟩
      · exact ⟨p.system, rfl, h⟩
    · exact ⟨p.system, rfl, h⟩
  exact matches_alive running survives alive handled (lines _ _) (saved_other (by simp [type])) agrees

/-- A replay sends no frame. -/
theorem replay_survives (type : cmd.message.type = .replayStale) : cmd.kills = false :=
  kills_of_silent (by simp [Command.sends, Command.registers, type])

/-- What a replay shows and leaves: the release that it asks for is refused in every scenario. -/
theorem replay_serve (h : Agrees a p.coordinator.boot p.system) (type : cmd.message.type = .replayStale) :
    Process.serve (some p) cmd =
      ({ lines := [.stalePreemption (a.admission p.coordinator.boot cmd.message), .staleRelease true] },
        some ⟨(p.coordinator.handle cmd).2, (step p.system (.requestPreemption (staleRequest cmd.message))).2⟩) := by
  have calls : (p.coordinator.handle cmd).1 =
      [.of (.requestPreemption (staleRequest cmd.message))] ++ [.of .requestRelease] := by
    simp only [Coordinator.handle, type]
    rfl
  obtain ⟨⟨adm, returned, code⟩, after⟩ := h.admitted cmd.message
  have before : (execCalls p.system [.of (.requestPreemption (staleRequest cmd.message))]).2 =
      some (step p.system (.requestPreemption (staleRequest cmd.message))).2 := by
    rw [execCalls_returned returned]
    rfl
  obtain ⟨completes, left⟩ := completes_snoc before .requestRelease none rfl
  have refused := after.release_refused
  rw [decide_eq_false refused.2, ← calls] at completes
  rw [refused.1, ← calls] at left
  have first : CallEvent.admission? (execCalls p.system (p.coordinator.handle cmd).1).1 = some adm.code := by
    rw [calls, List.singleton_append, execCalls_ok rfl returned, CallEvent.admission?]
    simp only [List.head?_cons, Option.bind_some, event, returned]
  rw [serve_alive (by simp [type]) (replay_survives type) left, saved, if_neg (by simp [type])]
  simp only [printed, type]
  rw [completes, first, code]
  rfl

theorem replay_matches (h : Agrees a p.coordinator.boot p.system) (type : cmd.message.type = .replayStale) :
    Matches p a cmd := by
  have running : ¬cmd.message.type = .shutdown := by simp [type]
  have handled : a.handle p.coordinator cmd =
      some (([.stalePreemption (a.admission p.coordinator.boot cmd.message), .staleRelease true], false),
        a.replay p.coordinator.boot cmd.message) := by
    simp only [Scenario.handle, type]
  rw [Matches, replay_serve h type, session_step running (replay_survives type), Session.handle,
    handled]
  refine ⟨rfl, rfl, ?_⟩
  rw [handle_boot p.coordinator cmd (by simp [type])]
  exact (h.admitted cmd.message).2

theorem begin_matches (h : Agrees a p.coordinator.boot p.system) (survives : cmd.kills = false)
    (type : cmd.message.type = .beginExecution) : Matches p a cmd := by
  obtain ⟨t, alive, agrees⟩ := h.begun p.coordinator
  have calls : (p.coordinator.handle cmd).1 = p.coordinator.beginExecution := by
    simp only [Coordinator.handle, type]
    rfl
  have handled : a.handle p.coordinator cmd = some (([.executionStarted], false), a.begin' p.coordinator.boot) := by
    simp only [Scenario.handle, type]
  refine matches_alive (by simp [type]) survives (by rw [calls]; exact alive) handled ?_
    (saved_other (by simp [type])) ?_
  · simp only [printed, type]
  · rw [handle_boot p.coordinator cmd (by simp [type])]
    exact agrees

/-- A command of a type that the coordinator does not handle. -/
theorem unhandled_matches (h : Agrees a p.coordinator.boot p.system) (survives : cmd.kills = false)
    (running : cmd.message.type ≠ .shutdown)
    (other : cmd.message.type ≠ .register) (calls : (p.coordinator.handle cmd).1 = [])
    (handled : a.handle p.coordinator cmd = some (([], false), a))
    (lines : p.coordinator.printed cmd [] p.system = []) (preempts : cmd.message.type ≠ .requestPreemption) :
    Matches p a cmd := by
  have alive : (execCalls p.system (p.coordinator.handle cmd).1).2 = some p.system := by rw [calls]; rfl
  refine matches_alive running survives alive handled ?_ (saved_other preempts) ?_
  · rw [calls]
    exact lines
  · rw [handle_boot p.coordinator cmd other]
    exact h

theorem shutdown_matches (type : cmd.message.type = .shutdown) : Matches p a cmd := by
  have ended : (Process.step (some p) cmd).2 = none := by rw [Process.step, if_pos type]
  rw [Matches, serve_ended ended, Session.step, if_pos (.inl type)]
  exact ⟨rfl, trivial⟩

theorem handle_matches (h : Agrees a p.coordinator.boot p.system) (cmd : Command) : Matches p a cmd := by
  cases survives : cmd.kills with
  | true => exact killed_matches survives
  | false =>
    cases type : cmd.message.type with
    | publishProgress => exact segment_matches h survives type
    | requestPreemption => exact preemption_matches type h survives
    | requestResume => exact resume_matches h survives type
    | register => exact register_matches h survives type
    | replayStale => exact replay_matches h type
    | beginExecution => exact begin_matches h survives type
    | shutdown => exact shutdown_matches type
    | _ =>
      refine unhandled_matches h survives (by simp [type]) (by simp [type]) ?_ ?_ ?_ (by simp [type])
      · simp only [Coordinator.handle, type]
      · simp only [Scenario.handle, type]
      · simp only [printed, type]

end Runs

/-- What the adapters of the coordinator are set up for. -/
theorem backed_adapters : Backed adapters := ⟨by decide +kernel, rfl, rfl, rfl, rfl, rfl⟩

theorem construct_agrees : Agrees {} {} (.construct epoch policyGeneration adapters) := by
  refine ⟨⟨rfl, rfl, rfl, nofun, fun _ => ⟨rfl, rfl⟩, ?_, backed_adapters, ⟨rfl, rfl, rfl⟩, rfl, rfl⟩, rfl⟩
  exact ⟨by decide +kernel, KeyedMap.All.empty, rfl⟩

theorem startup_agrees {hash : List UInt8 → UInt64} {arrivals : List Message} {acknowledging : Sending} {p : Process}
    (started : Process.startup hash none arrivals acknowledging = some p) : Agrees {} p.coordinator.boot p.system := by
  unfold Process.startup at started
  split at started
  next reg inbox =>
    split_ifs at started with registers
    cases started
    exact (construct_agrees.registered reg.workerId ⟨1000 + hash reg.detail % 9000⟩).2
  next => cases started

/-- Processes and sessions that agree show the same for every command. -/
theorem represents_step {u : Option Process} {v : Option Session} (cmd : Command) (related : Represents u v) :
    (Process.serve u cmd).1.shown = (Session.step v cmd).1 ∧
      Represents (Process.serve u cmd).2 (Session.step v cmd).2 := by
  cases u with
  | none =>
    cases v with
    | none => exact ⟨rfl, trivial⟩
    | some q => exact related.elim
  | some p =>
    cases v with
    | none => exact related.elim
    | some q =>
      obtain ⟨same, agrees⟩ := related
      obtain ⟨c, a⟩ := q
      obtain rfl : c = p.coordinator := same
      exact handle_matches agrees cmd

/-- The session of a process that has just started. -/
def Session.start (p : Process) : Session := ⟨p.coordinator, {}⟩

theorem represents_start (hash : List UInt8 → UInt64) (arrivals : List Message) (acknowledging : Sending) :
    Represents (Process.startup hash none arrivals acknowledging)
      ((Process.startup hash none arrivals acknowledging).map Session.start) := by
  cases started : Process.startup hash none arrivals acknowledging with
  | none => trivial
  | some p => exact ⟨rfl, startup_agrees started⟩

theorem serve_run (hash : List UInt8 → UInt64) (arrivals : List Message) (acknowledging : Sending)
    (cmds : List Command) :
    (trace Process.serve (Process.startup hash none arrivals acknowledging) cmds).map (fun e => e.output.shown) =
        (trace Session.step ((Process.startup hash none arrivals acknowledging).map Session.start) cmds).map
          Event.output ∧
      Represents (exec Process.serve (Process.startup hash none arrivals acknowledging) cmds)
        (exec Session.step ((Process.startup hash none arrivals acknowledging).map Session.start) cmds) :=
  simulation Process.serve Process.Output.shown represents_step (represents_start hash arrivals acknowledging) cmds

/-- In every run of a coordinator that is started without an image, whatever its controller commands, whatever arrives
    from its workers, whenever they are replaced and whatever becomes of the frames that are sent to them, each command
    prints what it prints in the scenario, and saves an image where it does there. A frame that kills the process ends
    both, and nothing is printed. -/
theorem serve_refines (hash : List UInt8 → UInt64) (arrivals : List Message) (acknowledging : Sending)
    (cmds : List Command) :
    (trace Process.serve (Process.startup hash none arrivals acknowledging) cmds).map (fun e => e.output.shown) =
      (trace Session.step ((Process.startup hash none arrivals acknowledging).map Session.start) cmds).map Event.output :=
  (serve_run hash arrivals acknowledging cmds).1

/-! ### One preemption and one resume -/

/-- The line reports a preemption or a resume that succeeded. -/
def Line.succeeds : Line → Bool
  | .preempted true _ | .resumed true _ => true
  | _ => false

/-- All that can be reported to have succeeded, in its order. -/
def successes : List Line := [.preempted true .preempted, .resumed true .resumed]

/-- What has been reported to have succeeded so far: nothing before the checkpoint is captured, and the preemption
    while it stands. -/
structure Told (told : List Line) (a : Scenario) : Prop where
  uncaptured : a.captured = false → told = [] ∧ a.isAt .preempted = false
  standing : a.isAt .preempted = true → told = [.preempted true .preempted]
  within : told <+: successes

theorem Told.fresh : Told [] {} := ⟨fun _ => ⟨rfl, rfl⟩, nofun, List.nil_prefix⟩

section Told
variable {told : List Line} {a b : Scenario}

/-- What does not touch the capture and the stage. -/
theorem Told.of_same (h : Told told a) (captured : b.captured = a.captured)
    (stage : b.isAt .preempted = a.isAt .preempted) : Told told b :=
  ⟨fun fresh => stage ▸ h.uncaptured (captured ▸ fresh), fun stands => h.standing (stage ▸ stands), h.within⟩

/-- What leaves the stage of a completed preemption. -/
theorem Told.of_left (h : Told told a) (captured : b.captured = a.captured) (left : b.isAt .preempted = false) :
    Told told b := by
  refine ⟨fun fresh => ⟨(h.uncaptured (captured ▸ fresh)).1, left⟩, fun stands => ?_, h.within⟩
  rw [left] at stands
  cases stands

theorem Scenario.isAt_moveTo {stage : Stage} (here : a.isAt stage = true) (next other : Stage) :
    (a.moveTo next).isAt other = decide (next = other) := by
  obtain ⟨r, active, _⟩ := Scenario.active_of_isAt here
  simp [Scenario.moveTo, Scenario.isAt, active]

/-- Bringing the work to its boundary completes no preemption and undoes none. -/
theorem Scenario.preempt_preempted (a : Scenario) : a.preempt.isAt .preempted = a.isAt .preempted := by
  rw [Scenario.preempt]
  cases active : a.active with
  | none => simp [Scenario.isAt, active]
  | some r =>
    simp only
    split_ifs with requested
    · rw [Scenario.isAt_moveTo requested]
      simp [Scenario.isAt, active] at requested ⊢
      simp [requested]
    · rfl

theorem Scenario.preempt_captured (a : Scenario) : a.preempt.captured = a.captured := by
  rw [Scenario.preempt]
  cases a.active with
  | none => rfl
  | some r =>
    simp only
    split_ifs <;> rfl

/-- The answer of the worker adds the preemption to what is told where it commits. -/
theorem Told.quiesce (h : Told told a) :
    Told (told ++ [Line.preempted a.commits a.quiesce.lifecycle, .drivePreemption a.commits].filter Line.succeeds)
      a.quiesce := by
  cases commits : a.commits with
  | true =>
    obtain ⟨quiescing, fresh⟩ := Bool.and_eq_true_iff.mp commits
    have after : a.quiesce = { a.moveTo .preempted with captured := true, grantee := none } := by
      rw [Scenario.quiesce, commits]
      rfl
    have lifecycle : a.quiesce.lifecycle = .preempted := by
      rw [after]
      exact Scenario.lifecycle_moveTo quiescing .preempted
    rw [lifecycle, (h.uncaptured (by simpa using fresh)).1]
    refine ⟨fun uncaptured => ?_, fun _ => rfl, ⟨[.resumed true .resumed], rfl⟩⟩
    rw [after] at uncaptured
    cases uncaptured
  | false =>
    have nothing (l : LifecycleState) : [Line.preempted false l, .drivePreemption false].filter Line.succeeds = [] := rfl
    rw [nothing, List.append_nil, Scenario.quiesce, commits, if_neg Bool.false_ne_true]
    split_ifs with quiescing
    · refine h.of_left rfl ?_
      rw [Scenario.isAt_moveTo quiescing]
      rfl
    · exact h

/-- A resume is told where a preemption stands. -/
theorem Told.resume (h : Told told a) (boot : WorkerBootId) :
    Told (told ++ [Line.resumed (a.isAt .preempted) (a.resume boot).lifecycle,
      .driveResume (a.isAt .preempted)].filter Line.succeeds) (a.resume boot) := by
  cases stands : a.isAt .preempted with
  | true =>
    have after : a.resume boot = { a.moveTo .resumed with grantee := some boot } := by
      rw [Scenario.resume, stands]
      rfl
    have lifecycle : (a.resume boot).lifecycle = .resumed := by
      rw [after]
      exact Scenario.lifecycle_moveTo stands .resumed
    have left : (a.resume boot).isAt .preempted = false := by
      rw [after]
      exact Scenario.isAt_moveTo stands .resumed .preempted
    rw [lifecycle, h.standing stands]
    refine ⟨fun fresh => ?_, fun again => ?_, List.prefix_rfl⟩
    · rw [after] at fresh
      have never := (h.uncaptured fresh).2
      rw [stands] at never
      cases never
    · rw [left] at again
      cases again
  | false =>
    have nothing (l : LifecycleState) : [Line.resumed false l, .driveResume false].filter Line.succeeds = [] := rfl
    rw [nothing, List.append_nil, Scenario.resume, stands]
    exact h

theorem Told.replay (h : Told told a) (boot : WorkerBootId) (cmd : Message) : Told told (a.replay boot cmd) := by
  rw [Scenario.replay]
  split_ifs
  · exact h.of_left rfl (by simp [Scenario.isAt])
  · exact h

theorem Told.publish (h : Told told a) (boot : WorkerBootId) (position : UInt64) (kind : ProgressKind) :
    Told told (a.publish boot position kind) := by
  rw [Scenario.publish]
  split_ifs
  · exact h.of_same rfl rfl
  · exact h

theorem registerLine_succeeds (c : Coordinator) (accepted : Option (List Message)) :
    (c.registerLine accepted).succeeds = false := by
  rw [registerLine.eq_def]
  split
  · rfl
  · split_ifs <;> rfl
  · rfl

theorem Told.handle (h : Told told a) {c : Coordinator} {cmd : Command} {output : List Line × Bool}
    (handled : a.handle c cmd = some (output, b)) : Told (told ++ output.1.filter Line.succeeds) b := by
  unfold Scenario.handle at handled
  split at handled
  · cases handled
    rw [List.filter_cons_of_neg (by decide), List.filter_nil, List.append_nil]
    exact h.of_left rfl rfl
  · split at handled
    · cases handled
      exact (List.append_nil told).symm ▸ h
    · split_ifs at handled
      cases handled
      exact (List.append_nil told).symm ▸ h.publish _ _ _
  · have quiescing := h.of_same a.preempt_captured a.preempt_preempted
    split_ifs at handled
    · cases handled
      exact quiescing.quiesce
    · cases handled
      exact (List.append_nil told).symm ▸ quiescing
  · cases handled
    exact h.resume c.boot
  · cases handled
    rw [List.filter_cons_of_neg (by simp [registerLine_succeeds]), List.filter_nil, List.append_nil]
    exact h
  · cases handled
    exact (List.append_nil told).symm ▸ h.replay c.boot cmd.message
  · cases handled
    exact (List.append_nil told).symm ▸ h

end Told

/-- What has been told by a session that may have ended. -/
def Tells (told : List Line) : Option Session → Prop
  | none => told <+: successes
  | some q => Told told q.scenario

theorem Tells.within {told : List Line} {v : Option Session} (h : Tells told v) : told <+: successes := by
  cases v with
  | none => exact h
  | some q => exact Told.within h

theorem Tells.step {told : List Line} {v : Option Session} (h : Tells told v) (cmd : Command) :
    Tells (told ++ (Session.step v cmd).1.1.filter Line.succeeds) (Session.step v cmd).2 := by
  cases v with
  | none =>
    rw [Session.step, List.filter_nil, List.append_nil]
    exact h
  | some q =>
    rw [Session.step]
    split_ifs
    · rw [List.filter_nil, List.append_nil]
      exact Tells.within h
    · rw [Session.handle]
      split
      next =>
        rw [List.filter_nil, List.append_nil]
        exact Tells.within h
      next output b handled => exact Told.handle h handled

/-- What a session adds to what has been told. -/
theorem Tells.run {told : List Line} {v : Option Session} (h : Tells told v) (cmds : List Command) :
    Tells (told ++ (((trace Session.step v cmds).map Event.output).flatMap Prod.fst).filter Line.succeeds)
      (exec Session.step v cmds) := by
  refine history_induction Session.step (G := fun _ => True)
    (P := fun tr u => Tells (told ++ ((tr.map Event.output).flatMap Prod.fst).filter Line.succeeds) u) ?_ ?_ cmds
    fun _ _ => trivial
  · exact (List.append_nil told).symm ▸ h
  · intro tr u cmd told _
    have last : ([event Session.step u cmd].map Event.output).flatMap Prod.fst = (Session.step u cmd).1.1 :=
      List.append_nil _
    rw [List.map_append, List.flatMap_append, List.filter_append, last, ← List.append_assoc]
    exact told.step cmd

/-- In every run of a coordinator that is started without an image, at most one preemption and then at most one resume
    is reported to have succeeded. -/
theorem succeeds_once (hash : List UInt8 → UInt64) (arrivals : List Message) (acknowledging : Sending)
    (cmds : List Command) :
    ((trace Process.serve (Process.startup hash none arrivals acknowledging) cmds).flatMap (·.output.lines)).filter
      Line.succeeds <+: successes := by
  have shown := (serve_run hash arrivals acknowledging cmds).1
  have start : Tells [] ((Process.startup hash none arrivals acknowledging).map Session.start) := by
    cases Process.startup hash none arrivals acknowledging with
    | none => exact List.nil_prefix
    | some p => exact Told.fresh
  have told := (start.run cmds).within
  rw [List.nil_append, ← shown, List.flatMap_map] at told
  exact told

/-! ### Replays -/

/-- The authority of the command is not that of the coordinator. -/
def Message.IsStale (m : Message) (c : Coordinator) : Prop :=
  m.coordinatorEpoch ≠ Coordinator.epoch ∨ m.attemptGeneration ≠ attemptGen ∨
    m.workerBootId.isValid = true ∧ m.workerBootId ≠ c.boot

/-- A replay is answered and does not release. One with stale authority is rejected, and the system is as it was. -/
structure RefusesReplay (e : Trace.Event (Option Process) Command Process.Output) (p : Process) : Prop where
  answered : ∃ code, e.output.lines = [.stalePreemption code, .staleRelease true] ∧
    (e.input.message.IsStale p.coordinator → code = .rejectedStale ∨ code = .rejectedInvalid)
  unchanged : e.input.message.IsStale p.coordinator → e.post.map Process.system = some p.system

/-- The system of a process that has not ended agrees with some scenario. -/
def Driven (u : Option Process) : Prop := ∀ p, u = some p → ∃ a, Agrees a p.coordinator.boot p.system

theorem Driven.serve {u : Option Process} (h : Driven u) (cmd : Command) : Driven (Process.serve u cmd).2 := by
  cases u with
  | none => exact fun p ended => nomatch ended
  | some p =>
    obtain ⟨a, agrees⟩ := h p rfl
    have related := (handle_matches agrees cmd).2
    intro q alive
    rw [alive] at related
    cases after : (Session.step (some ⟨p.coordinator, a⟩) cmd).2 with
    | none =>
      rw [after] at related
      exact related.elim
    | some session =>
      rw [after] at related
      exact ⟨session.scenario, related.2⟩

theorem Agrees.refusesReplay {p : Process} {a : Scenario} {cmd : Command} (h : Agrees a p.coordinator.boot p.system)
    (type : cmd.message.type = .replayStale) : RefusesReplay (event Process.serve (some p) cmd) p := by
  have stale (old : cmd.message.IsStale p.coordinator) :
      ¬(a.begun = true ∧ cmd.message.coordinatorEpoch = Coordinator.epoch ∧
        cmd.message.attemptGeneration = attemptGen ∧
        (cmd.message.workerBootId.isValid = true → cmd.message.workerBootId = p.coordinator.boot)) := by
    rintro ⟨_, epoch, generation, boot⟩
    rcases old with other | other | ⟨valid, other⟩
    · exact other epoch
    · exact other generation
    · exact other (boot valid)
  constructor
  · refine ⟨a.admission p.coordinator.boot cmd.message, ?_, fun old => ?_⟩
    · rw [event, replay_serve h type]
    · rw [Scenario.admission]
      split_ifs with invalid current
      · exact .inr rfl
      · exact absurd current (stale old)
      · exact .inl rfl
  · intro old
    have refused : ¬((staleRequest cmd.message).id.isValid = true ∧ (staleRequest cmd.message).generation.isValid = true ∧
        p.system.rt.validateAuthority (staleRequest cmd.message) = true) := by
      rintro ⟨_, _, authority⟩
      exact stale old ((h.staleRequest_iff cmd.message).mp authority)
    rw [event, replay_serve h type, requestPreemption_refused refused]
    rfl

/-- In every run of a coordinator that is started without an image, no replay releases anything, and one with the
    epoch, the attempt generation or the worker boot of another time is rejected and changes nothing. -/
theorem replays_refused (hash : List UInt8 → UInt64) (arrivals : List Message) (acknowledging : Sending)
    (cmds : List Command) :
    ∀ e ∈ trace Process.serve (Process.startup hash none arrivals acknowledging) cmds, ∀ p, e.pre = some p →
      e.input.message.type = .replayStale → RefusesReplay e p := by
  have start : Driven (Process.startup hash none arrivals acknowledging) :=
    fun p started => ⟨{}, startup_agrees started⟩
  refine (trace_induction Process.serve (P := Driven) (G := fun _ => True) start (fun u cmd driven _ => ?_) cmds
    fun _ _ => trivial).2
  refine ⟨driven.serve cmd, fun p running type => ?_⟩
  obtain rfl : u = some p := running
  obtain ⟨a, agrees⟩ := driven p rfl
  exact agrees.refusesReplay type

/-- A replay with the boot of another worker, to a coordinator whose first worker has just registered. -/
theorem replays_refused_other_boot :
    ∃ p, Process.startup (fun _ => 0) none (Worker.registration ⟨40⟩ []) .written = some p ∧
      RefusesReplay (event Process.serve (some p)
        { message := { type := .replayStale, requestGeneration := ⟨1⟩, workerBootId := ⟨8001⟩ } }) p := by
  refine ⟨_, rfl, ?_⟩
  exact replays_refused (fun _ => 0) (Worker.registration ⟨40⟩ []) .written
    [{ message := { type := .replayStale, requestGeneration := ⟨1⟩, workerBootId := ⟨8001⟩ } }] _ List.mem_cons_self _ rfl
    rfl

end PreemptionFabric
