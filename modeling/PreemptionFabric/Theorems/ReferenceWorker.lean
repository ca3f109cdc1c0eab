import PreemptionFabric.Theorems.Coordinator

/-! The coordinator with the reference worker. The worker copies the authority of the command that it answers, and the
    boot and the epoch of the acknowledgment of its registration; it sends nothing that it was not asked for. So nothing
    is left to read between two commands, and each reply that the coordinator takes is current, also when workers die
    and are replaced. -/

namespace PreemptionFabric
open Trace Coordinator

/-- What arrives while the command is handled comes from a reference worker: one that holds the acknowledgment of the
    last registration answers, as far as it lives, what it is sent, and one that registers waits for its
    acknowledgment. -/
structure Process.Served (p : Process) (cmd : Command) : Prop where
  replies : ∃ workerId seq, cmd.arrivals <+:
    if cmd.sent then
      (p.coordinator.sends cmd.message).flatMap fun m =>
        ({ Worker.registered workerId p.coordinator.registerAck with seq } : Worker).respond m |>.1
    else
      []
  registers : ∀ msgs, cmd.accepted = some msgs → ∃ workerId label, msgs <+: Worker.registration workerId label

section Served
variable {p : Process} {cmd : Command} {conn : Connection} {m m' : Message}

theorem prefix_pair {α : Type} {l : List α} {a b : α} (h : l <+: [a, b]) : l = [] ∨ l = [a] ∨ l = [a, b] := by
  rcases List.prefix_cons_iff.mp h with rfl | ⟨l', rfl, h'⟩
  · exact .inl rfl
  · rcases List.prefix_cons_iff.mp h' with rfl | ⟨l'', rfl, h''⟩
    · exact .inr (.inl rfl)
    · rw [List.prefix_nil.mp h'']
      exact .inr (.inr rfl)

/-- On a connection with nothing left to read, what can be received is what arrives. -/
theorem Connection.deliver_prefix {arrivals replies : List Message} (empty : conn.inbox = [])
    (h : arrivals <+: replies) : (conn.deliver arrivals).inbox <+: replies := by
  unfold Connection.deliver
  split
  · rw [empty]
    exact List.nil_prefix
  · rw [empty]
    exact h

theorem receive_single (h : conn.inbox <+: [m]) :
    conn.receive.2.inbox = [] ∧ ∀ m', conn.receive.1 = some m' → m' = m := by
  rcases List.prefix_cons_iff.mp h with empty | ⟨l, inbox, rest⟩
  · simp [Connection.receive, empty]
  · rw [List.prefix_nil.mp rest] at inbox
    simp [Connection.receive, inbox, eq_comm]

theorem receiveSegment_pair (h : conn.inbox <+: [m, m']) :
    (receiveSegment conn).2.inbox = [] ∧ ∀ replies, (receiveSegment conn).1 = some replies → replies = (m, m') := by
  rcases prefix_pair h with inbox | inbox | inbox
  · simp [receiveSegment, Connection.receive, inbox]
  · simp [receiveSegment, Connection.receive, inbox]
  · simp [receiveSegment, Connection.receive, inbox, eq_comm]

theorem runSegment_worker (c : Coordinator) : (c.runSegment true).2.worker = (receiveSegment c.worker).2 := by
  rw [runSegment, if_pos rfl]
  cases receiveSegment c.worker with
  | mk replies worker => cases replies <;> rfl

theorem drivePreemption_worker (c : Coordinator) : (c.drivePreemption true).2.worker = c.worker.receive.2 := by
  rw [drivePreemption, if_pos rfl]
  cases c.worker.receive with
  | mk reply worker => cases reply <;> rfl

/-- A segment that is served takes the two replies of the worker to it. -/
theorem Process.Served.segment (served : p.Served cmd) (empty : p.coordinator.worker.inbox = [])
    (type : cmd.message.type = .publishProgress) (sent : cmd.sent = true) :
    p.TakesCurrent cmd ∧ (p.coordinator.handle cmd).2.worker.inbox = [] := by
  obtain ⟨workerId, seq, arrivals⟩ := served.replies
  rw [if_pos sent] at arrivals
  simp only [sends, type, List.flatMap_cons, List.flatMap_nil, List.append_nil, Worker.respond, segmentMessage]
    at arrivals
  obtain ⟨left, taken⟩ := receiveSegment_pair (Connection.deliver_prefix empty arrivals)
  have replies : p.segmentReplies cmd = (receiveSegment (p.coordinator.worker.deliver cmd.arrivals)).1 := by
    rw [Process.segmentReplies, if_pos ⟨type, sent⟩]
  have other : p.quiescenceReply cmd = none := by
    rw [Process.quiescenceReply, if_neg (by simp [type])]
  refine ⟨⟨fun prog reach held _ => ?_, fun prog reach held _ _ => ?_, fun qack held => ?_⟩, ?_⟩
  · cases taken _ (replies.symm.trans held)
    exact ⟨rfl, rfl, rfl, rfl, rfl⟩
  · cases taken _ (replies.symm.trans held)
    exact ⟨rfl, rfl, rfl, rfl, rfl⟩
  · cases other.symm.trans held
  · simp only [handle, type, sent]
    rw [runSegment_worker]
    exact left

/-- A preemption that is served takes the reply of the worker to its request to quiesce. -/
theorem Process.Served.quiescence (served : p.Served cmd) (empty : p.coordinator.worker.inbox = [])
    (type : cmd.message.type = .requestPreemption) (sent : cmd.sent = true) :
    p.TakesCurrent cmd ∧ (p.coordinator.handle cmd).2.worker.inbox = [] := by
  obtain ⟨workerId, seq, arrivals⟩ := served.replies
  rw [if_pos sent] at arrivals
  simp only [sends, type, List.flatMap_cons, List.flatMap_nil, List.append_nil, Worker.respond, quiesceMessage]
    at arrivals
  obtain ⟨left, taken⟩ := receive_single (Connection.deliver_prefix empty arrivals)
  have reply : p.quiescenceReply cmd = (p.coordinator.worker.deliver cmd.arrivals).receive.1 := by
    rw [Process.quiescenceReply, if_pos ⟨type, sent⟩]
  have other : p.segmentReplies cmd = none := by
    rw [Process.segmentReplies, if_neg (by simp [type])]
  refine ⟨⟨fun prog reach held => ?_, fun prog reach held => ?_, fun qack held _ _ => ?_⟩, ?_⟩
  · cases other.symm.trans held
  · cases other.symm.trans held
  · cases taken _ (reply.symm.trans held)
    exact ⟨rfl, rfl, rfl, rfl, rfl⟩
  · simp only [handle, type, sent]
    rw [drivePreemption_worker]
    exact left

/-- A worker that registers has sent nothing but its registration. -/
theorem register_worker {c : Coordinator} {accepted : Option (List Message)}
    (registers : ∀ msgs, accepted = some msgs → ∃ workerId label, msgs <+: Worker.registration workerId label)
    (empty : c.worker.inbox = []) : (c.register accepted).2.worker.inbox = [] := by
  unfold register
  split
  next inbox =>
    obtain ⟨workerId, label, registration⟩ := registers _ rfl
    split_ifs
    · have short := registration.length_le
      simp only [Worker.registration, List.length_cons, List.length_nil] at short
      have nothing : inbox.length = 0 := by omega
      exact List.eq_nil_of_length_eq_zero nothing
    · exact empty
  next => exact empty

/-- A command to which no reply comes in leaves nothing to read. -/
theorem Process.Served.unanswered (served : p.Served cmd) (silent : cmd.arrivals = [])
    (empty : p.coordinator.worker.inbox = [])
    (others : ¬((cmd.message.type = .publishProgress ∨ cmd.message.type = .requestPreemption) ∧ cmd.sent = true)) :
    p.TakesCurrent cmd ∧ (p.coordinator.handle cmd).2.worker.inbox = [] := by
  have segment : p.segmentReplies cmd = none := by
    rw [Process.segmentReplies, if_neg fun awaited => others ⟨.inl awaited.1, awaited.2⟩]
  have quiescence : p.quiescenceReply cmd = none := by
    rw [Process.quiescenceReply, if_neg fun awaited => others ⟨.inr awaited.1, awaited.2⟩]
  have nothing : (p.coordinator.worker.deliver cmd.arrivals).inbox = [] := by
    rw [silent]
    exact List.prefix_nil.mp (Connection.deliver_prefix empty List.nil_prefix)
  refine ⟨takesCurrent_of_unanswered segment quiescence, ?_⟩
  unfold handle
  cases type : cmd.message.type with
  | publishProgress =>
    have unsent : cmd.sent = false := by simpa [type] using others
    simp only [runSegment, unsent]
    exact nothing
  | requestPreemption =>
    have unsent : cmd.sent = false := by simpa [type] using others
    simp only [drivePreemption, unsent]
    exact nothing
  | register => exact register_worker served.registers nothing
  | _ => exact nothing

theorem Process.Served.step (served : p.Served cmd) (empty : p.coordinator.worker.inbox = []) :
    p.TakesCurrent cmd ∧ (p.coordinator.handle cmd).2.worker.inbox = [] := by
  by_cases awaited : (cmd.message.type = .publishProgress ∨ cmd.message.type = .requestPreemption) ∧ cmd.sent = true
  · obtain ⟨type | type, sent⟩ := awaited
    · exact served.segment empty type sent
    · exact served.quiescence empty type sent
  · refine served.unanswered ?_ empty awaited
    obtain ⟨workerId, seq, arrivals⟩ := served.replies
    split_ifs at arrivals with sent
    · -- What is sent here, the message that starts an execution, is not answered.
      have unanswered : ((p.coordinator.sends cmd.message).flatMap fun m =>
          (({ Worker.registered workerId p.coordinator.registerAck with seq } : Worker).respond m).1) = [] := by
        unfold sends
        cases type : cmd.message.type with
        | publishProgress => exact absurd ⟨.inl type, sent⟩ awaited
        | requestPreemption => exact absurd ⟨.inr type, sent⟩ awaited
        | _ => rfl
      rw [unanswered] at arrivals
      exact List.prefix_nil.mp arrivals
    · exact List.prefix_nil.mp arrivals

theorem startup_worker {hash : List UInt8 → UInt64} {recover : Option (Option (List UInt8))} {workerId : WorkerId}
    {label : List UInt8} {acknowledging : Sending}
    (started : Process.startup hash recover (Worker.registration workerId label) acknowledging = some p) :
    p.coordinator.worker.inbox = [] := by
  simp only [Process.startup, Worker.registration] at started
  split_ifs at started
  obtain ⟨t, _, rfl⟩ := Option.map_eq_some_iff.mp started
  rfl

end Served

/-- With reference workers, whenever they are replaced or die, every run of the coordinator is authority-checked. -/
theorem reference_worker_checked (hash : List UInt8 → UInt64) (recover : Option (Option (List UInt8)))
    (workerId : WorkerId) (label : List UInt8) (acknowledging : Sending) (cmds : List Command)
    (served : ∀ e ∈ Process.traceOf
        (Process.startup hash recover (Worker.registration workerId label) acknowledging) cmds,
      ∀ p, e.pre = some p → p.Served e.input) :
    ∀ e ∈ Process.traceOf (Process.startup hash recover (Worker.registration workerId label) acknowledging) cmds,
      AuthorityChecked e := by
  -- Between commands, there is nothing left to read on the worker connection.
  refine (trace_induction Process.step (P := fun q => ∀ p, q = some p → p.coordinator.worker.inbox = [])
    (fun p started => startup_worker started) ?_ cmds served).2
  intro q cmd empty served
  cases q with
  | none =>
    refine ⟨fun p same => ?_, fun p same => ?_, fun p p' same => ?_⟩
    · cases same
    · cases same
    · cases same
  | some p =>
    obtain ⟨takes, left⟩ := (served p rfl).step (empty p rfl)
    refine ⟨fun p' alive => ?_, (checked_iff p cmd).mpr takes⟩
    obtain ⟨_, _, t, _, rfl⟩ := process_step_alive alive
    exact left

/-- A segment and a preemption, served by the worker that registered first. -/
def servedCommands : List Command :=
  let c : Coordinator := ⟨⟨40⟩, ⟨1000⟩, {}, 0, 0⟩
  let w := Worker.registered ⟨40⟩ c.registerAck
  [{ message := { type := .beginExecution } },
    { message := { type := .publishProgress, progressPosition := 5 }
      arrivals := (w.respond (c.segmentMessage 5)).1 },
    { message := { type := .requestPreemption }, arrivals := (w.respond c.quiesceMessage).1 }]

/-- The commands are served by that worker; they bring the execution to its preemption, and every call on the runtime is
    authority-checked. -/
theorem reference_worker_checked_segment :
    (exec Process.step (Process.startup (fun _ => 0) none (Worker.registration ⟨40⟩ []) .written) servedCommands).map
        (·.system.lifecycle) = some .preempted ∧
      ∀ e ∈ Process.traceOf (Process.startup (fun _ => 0) none (Worker.registration ⟨40⟩ []) .written) servedCommands,
        AuthorityChecked e := by
  refine ⟨by decide +kernel, reference_worker_checked (fun _ => 0) none ⟨40⟩ [] .written servedCommands ?_⟩
  simp only [Process.traceOf, servedCommands, trace, List.forall_mem_cons, event]
  refine ⟨?_, ?_, ?_, List.forall_mem_nil _⟩
  · rintro p ⟨⟩
    exact ⟨⟨⟨40⟩, 2, List.nil_prefix⟩, fun _ accepted => by cases accepted⟩
  · rintro p ⟨⟩
    exact ⟨⟨⟨40⟩, 2, List.prefix_rfl⟩, fun _ accepted => by cases accepted⟩
  · rintro p ⟨⟩
    exact ⟨⟨⟨40⟩, 2, List.prefix_rfl⟩, fun _ accepted => by cases accepted⟩

end PreemptionFabric
