import PreemptionFabric.Coordinator
import PreemptionFabric.Theorems.Reports
import PreemptionFabric.Theorems.Requests

/-! The authority of worker messages. The coordinator takes the next message on the worker connection for the reply
    that it waits for, and compares none of its authority context: whatever arrives there reaches a safe point,
    publishes progress and lets the coordinator report quiescence. A run is authority-checked exactly when all the
    replies that it acts on are current; those of the reference worker are. -/

namespace PreemptionFabric
open Trace Coordinator PreemptionFabric.Action

/-! ### Authority -/

/-- The message is of the expected type, and carries the current authority of the coordinator. -/
structure Message.IsCurrent (m : Message) (expected : MessageType) (c : Coordinator) : Prop where
  type : m.type = expected
  boot : m.workerBootId = c.boot
  epoch : m.coordinatorEpoch = Coordinator.epoch
  execution : m.executionGeneration = execGen
  attempt : m.attemptGeneration = attemptGen

/-- The safe points, the progress and the quiescence of the work, as the runtime records them. -/
structure WorkState where
  safePoints : Std.ExtTreeMap SafePointId SafePoint compare
  currentSafePoint : Option SafePoint
  currentPosition : UInt64
  durablePosition : UInt64
  progressGeneration : ProgressGeneration
  durableProgressGeneration : ProgressGeneration
  quiesced : Bool
  quiescenceGeneration : QuiescenceGeneration
  lifecycle : LifecycleState

def System.work (s : System) : WorkState where
  safePoints := s.rt.safePoints
  currentSafePoint := s.rt.currentSafePoint
  currentPosition := s.rt.currentPosition
  durablePosition := s.rt.durablePosition
  progressGeneration := s.rt.progressGeneration
  durableProgressGeneration := s.rt.durableProgressGeneration
  quiesced := s.rt.quiesced
  quiescenceGeneration := s.rt.quiescenceGeneration
  lifecycle := s.lifecycle

namespace CallEvent

/-- The call records a safe point as reached or progress as published, also where that changes nothing, or it reports
    quiescence. -/
def Records (made : CallEvent) : Prop :=
  match made.event.input with
  | .reachSafePoint .. => made.event.output = .ok .unit
  | .publishProgress _ _ => made.event.output = .ok (.bool true)
  | .reportQuiesced _ => True
  | _ => False

/-- What the call does on behalf of a worker message, it does on behalf of a current one. -/
def AuthorityChecked (c : Coordinator) (made : CallEvent) : Prop :=
  ∀ cause, made.cause = some cause → made.event.pre.work ≠ made.event.post.work ∨ made.Records →
    cause.message.IsCurrent cause.expected c

end CallEvent

/-- Handling the command acts on current messages only: each call on behalf of a message is authority-checked, and the
    position that the next preemption takes for the boundary was reported by a current message. -/
structure AuthorityChecked (e : Process.Event) : Prop where
  calls : ∀ p, e.pre = some p → ∀ made ∈ e.output, made.AuthorityChecked p.coordinator
  position : ∀ p p', e.pre = some p → e.post = some p' →
    p'.coordinator.lastProgress ≠ p.coordinator.lastProgress →
    ∃ prog : Message, some ⟨.publishProgress, prog⟩ ∈ e.output.map CallEvent.cause ∧
      prog.progressPosition = p'.coordinator.lastProgress ∧ prog.IsCurrent .publishProgress p.coordinator

/-! ### Replies -/

namespace Process

/-- The messages that a segment command takes for its replies. -/
def segmentReplies (p : Process) (cmd : Command) : Option (Message × Message) :=
  if cmd.message.type = .publishProgress ∧ cmd.sent = true then
    (receiveSegment (p.coordinator.worker.deliver cmd.arrivals)).1
  else
    none

/-- The message that a preemption command takes for the reply to its request to quiesce. -/
def quiescenceReply (p : Process) (cmd : Command) : Option Message :=
  if cmd.message.type = .requestPreemption ∧ cmd.sent = true then
    (p.coordinator.worker.deliver cmd.arrivals).receive.1
  else
    none

/-- The safe point of the coordinator is declared. -/
def Declares (p : Process) : Prop := ∃ sp, p.system.rt.safePoints[safePoint]? = some sp

/-- The request of the coordinator is not admitted in a deferred request at a valid boundary, so that `begin_quiesce`
    throws. -/
def StaysDeferred (p : Process) : Prop :=
  p.system.lifecycle = .deferred ∧ p.system.rt.atValidSafePoint = true ∧
    ¬(p.system.rt.validateAuthority p.coordinator.preemptionRequest = true ∧ p.system.rt.activeRequest = none)

/-- The replies that the command acts on are current: where the safe point is declared, that for the safe point, and
    that for the progress if it is accepted or moves the position of the coordinator; and that for quiescence, if the
    preemption gets there. -/
structure TakesCurrent (p : Process) (cmd : Command) : Prop where
  reach : ∀ prog reach, p.segmentReplies cmd = some (prog, reach) → p.Declares →
    reach.IsCurrent .reachSafePoint p.coordinator
  progress : ∀ prog reach, p.segmentReplies cmd = some (prog, reach) → p.Declares →
    (p.system.holdsAuthority = true ∧ p.system.rt.durablePosition ≤ prog.progressPosition) ∨
      prog.progressPosition ≠ p.coordinator.lastProgress →
    prog.IsCurrent .publishProgress p.coordinator
  quiescence : ∀ qack, p.quiescenceReply cmd = some qack → p.Declares → ¬p.StaysDeferred →
    qack.IsCurrent .quiesced p.coordinator

end Process

/-! ### Calls -/

section Calls
variable {s : System} {op : Op} {call : RuntimeCall} {calls : List RuntimeCall}

theorem execCalls_skip (skipped : call.op s = none) : execCalls s (call :: calls) = execCalls s calls := by
  simp only [execCalls, skipped]

theorem execCalls_ok {ret : Ret} (called : call.op s = some op) (returned : (step s op).1 = .ok ret) :
    execCalls s (call :: calls) =
      (⟨event step s op, call.cause⟩ :: (execCalls (step s op).2 calls).1, (execCalls (step s op).2 calls).2) := by
  simp only [execCalls, called, returned]

theorem execCalls_error {thrown : PreemptionError} (called : call.op s = some op)
    (output : (step s op).1 = .error thrown) :
    execCalls s (call :: calls) = ([⟨event step s op, call.cause⟩], none) := by
  simp only [execCalls, called, output]

/-- The process lives on after a call exactly when the call does not throw, and it lives on after the calls that
    follow. -/
theorem execCalls_isSome (called : call.op s = some op) :
    (execCalls s (call :: calls)).2.isSome = true ↔
      ¬(op.MissesSafePoint s ∨ op.MissesEdge s) ∧ (execCalls (step s op).2 calls).2.isSome = true := by
  rw [← step_throws_iff]
  cases output : (step s op).1 with
  | ok ret =>
    rw [execCalls_ok called output]
    simp
  | error thrown =>
    rw [execCalls_error called output]
    simp

/-- Calls after which the process has ended keep the calls that follow from being made. -/
theorem execCalls_append (s : System) (calls calls' : List RuntimeCall) :
    execCalls s (calls ++ calls') =
      match (execCalls s calls).2 with
      | none => execCalls s calls
      | some t => ((execCalls s calls).1 ++ (execCalls t calls').1, (execCalls t calls').2) := by
  induction calls generalizing s with
  | nil => rfl
  | cons call calls ih =>
    rw [List.cons_append]
    cases called : call.op s with
    | none => rw [execCalls_skip called, execCalls_skip called, ih]
    | some op =>
      cases output : (step s op).1 with
      | error thrown => rw [execCalls_error called output, execCalls_error called output]
      | ok ret =>
        rw [execCalls_ok called output, execCalls_ok called output, ih]
        cases after : (execCalls (step s op).2 calls).2 with
        | none => simp only [after]
        | some t => simp only [List.cons_append]

theorem cause_of_mem {made : CallEvent} (member : made ∈ (execCalls s calls).1) :
    ∃ call ∈ calls, call.cause = made.cause := by
  induction calls generalizing s with
  | nil => cases member
  | cons call calls ih =>
    have later {u : System} (member : made ∈ (execCalls u calls).1) :
        ∃ call' ∈ call :: calls, call'.cause = made.cause := by
      obtain ⟨call', listed, same⟩ := ih member
      exact ⟨call', List.mem_cons_of_mem call listed, same⟩
    cases called : call.op s with
    | none =>
      rw [execCalls_skip called] at member
      exact later member
    | some op =>
      cases output : (step s op).1 with
      | error thrown =>
        rw [execCalls_error called output, List.mem_singleton] at member
        exact ⟨call, List.mem_cons_self, by rw [member]⟩
      | ok ret =>
        rw [execCalls_ok called output, List.mem_cons] at member
        rcases member with rfl | member
        · exact ⟨call, List.mem_cons_self, rfl⟩
        · exact later member

/-- Calls that are not made on behalf of a message are authority-checked. -/
theorem checked_of_uncaused (uncaused : ∀ call ∈ calls, call.cause = none) (c : Coordinator) :
    ∀ made ∈ (execCalls s calls).1, made.AuthorityChecked c := by
  intro made member cause caused
  obtain ⟨call, listed, same⟩ := cause_of_mem member
  rw [uncaused call listed, caused] at same
  cases same

end Calls

/-! ### Up to the request to quiesce -/

section Preemption
variable {s t : System} {r : Returned} {req : PreemptionRequest}

theorem Move.admits (moved : Move s (.requestPreemption req) r t) :
    s.rt.validateAuthority req = true ∧ s.rt.activeRequest = none := by
  cases moved with
  | accept id generation auth first => exact ⟨auth, first⟩
  | loaded ret image => cases image

theorem requestPreemption_left (s : System) (req : PreemptionRequest) (id : req.id.isValid = true)
    (generation : req.generation.isValid = true) :
    (step s (.requestPreemption req)).2 =
      if s.rt.validateAuthority req = true ∧ s.rt.activeRequest = none then s.accepted req else s := by
  split_ifs with admitted
  · rw [requestPreemption_first id generation admitted.1 admitted.2]
  · rcases step_cases s (.requestPreemption req) with moved | ⟨same, _⟩
    · exact absurd moved.admits admitted
    · exact same

/-- `begin_quiesce` moves the lifecycle, to QUIESCING or to WAITING_FOR_SAFE_POINT, and nothing else. -/
theorem Move.begins (moved : Move s .beginQuiesce r t) :
    t = s.withLifecycle .quiescing ∨ t = s.withLifecycle .waitingForSafePoint := by
  cases moved with
  | quiesce boundary => exact .inl rfl
  | defer before between => exact .inr rfl
  | loaded ret image => cases image

theorem beginQuiesce_safePoints (s : System) : (step s .beginQuiesce).2.rt.safePoints = s.rt.safePoints := by
  rcases step_cases s .beginQuiesce with moved | ⟨same, _⟩
  · rcases moved.begins with after | after <;> rw [after] <;> rfl
  · rw [same]

/-- A deferred request between boundaries waits for the next one. -/
theorem beginQuiesce_leaves (edge : ¬Op.MissesEdge s .beginQuiesce) :
    (step s .beginQuiesce).2.lifecycle ≠ .deferred := by
  by_cases deferred : s.lifecycle = .deferred
  · have between : ¬s.rt.atValidSafePoint = true := fun valid => edge ⟨rfl, deferred, valid⟩
    simp only [step, as_eq, beginQuiesce, runOn_bind, runOn_lifecycle, runOn_getRuntime, runOn_ite]
    rw [if_neg (by simp [deferred]), if_pos (.inr deferred), if_neg between, runOn_transition_of deferred rfl]
    intro after
    cases after
  · rcases step_cases s .beginQuiesce with moved | ⟨same, _⟩
    · rcases moved.begins with after | after <;> simp [after]
    · rw [same]
      exact deferred

theorem reach_misses_iff {id : SafePointId} {position : UInt64} {captureRequired : Bool} :
    Op.MissesSafePoint s (.reachSafePoint id position captureRequired) ∨
      Op.MissesEdge s (.reachSafePoint id position captureRequired) ↔ s.rt.safePoints[id]? = none := by
  constructor
  · rintro (⟨_, _, _, input, absent⟩ | ⟨input, _⟩)
    · cases input
      exact absent
    · cases input
  · intro absent
    exact .inl ⟨id, position, captureRequired, rfl, absent⟩

theorem beginQuiesce_misses_iff :
    Op.MissesSafePoint s .beginQuiesce ∨ Op.MissesEdge s .beginQuiesce ↔ Op.MissesEdge s .beginQuiesce := by
  refine ⟨?_, .inr⟩
  rintro (⟨_, _, _, input, _⟩ | misses)
  · cases input
  · exact misses

theorem Process.declares_iff (p : Process) : p.Declares ↔ ¬p.system.rt.safePoints[safePoint]? = none := by
  rw [Process.Declares, ← Option.isSome_iff_exists, Option.isSome_iff_ne_none]

/-- The coordinator gets to ask the worker to quiesce exactly when its safe point is declared and the first
    `begin_quiesce` does not throw; the second one never does. -/
theorem preemptionCalls_isSome (p : Process) :
    (execCalls p.system p.coordinator.preemptionCalls).2.isSome = true ↔ p.Declares ∧ ¬p.StaysDeferred := by
  have admits := requestPreemption_left p.system p.coordinator.preemptionRequest rfl rfl
  have requests : ¬(Op.MissesSafePoint p.system (.requestPreemption p.coordinator.preemptionRequest) ∨
      Op.MissesEdge p.system (.requestPreemption p.coordinator.preemptionRequest)) := by
    rintro (⟨_, _, _, input, _⟩ | ⟨input, _⟩) <;> cases input
  rw [preemptionCalls, execCalls_isSome rfl, execCalls_isSome rfl, execCalls_isSome rfl, execCalls_isSome rfl,
    beginQuiesce_misses_iff, beginQuiesce_misses_iff, reach_misses_iff, beginQuiesce_safePoints]
  generalize (step p.system (.requestPreemption p.coordinator.preemptionRequest)).2 = u at admits
  have points : u.rt.safePoints = p.system.rt.safePoints := by
    rw [admits]
    split <;> rfl
  have edge : Op.MissesEdge u .beginQuiesce ↔ p.StaysDeferred := by
    rw [admits]
    split_ifs with admitted
    · exact iff_of_false (by rintro ⟨_, assessing, _⟩; cases assessing) fun stays => stays.2.2 admitted
    · exact ⟨fun misses => ⟨misses.2.1, misses.2.2, admitted⟩, fun stays => ⟨rfl, stays.1, stays.2.1⟩⟩
  rw [edge, points, ← p.declares_iff]
  constructor
  · rintro ⟨_, leaves, declares, _⟩
    exact ⟨declares, leaves⟩
  · rintro ⟨declares, leaves⟩
    refine ⟨requests, leaves, declares, ?_, rfl⟩
    -- The boundary ends a wait, and there is no deferred request left to wait.
    rintro ⟨_, deferred, _⟩
    obtain ⟨sp, found⟩ := declares
    have kept : (step u .beginQuiesce).2.rt.safePoints[safePoint]? = some sp := by
      rw [beginQuiesce_safePoints, points, found]
    rw [reachSafePoint_step, kept] at deferred
    exact beginQuiesce_leaves (mt edge.mp leaves) (System.lifecycle_of_reached deferred (by decide))

end Preemption

/-! ### Commands -/

section Commands
variable {p : Process} {cmd : Command} {prog reach qack : Message}

theorem handle_segment (taken : p.segmentReplies cmd = some (prog, reach)) :
    cmd.message.type = .publishProgress ∧ (p.coordinator.handle cmd).1 = segmentCalls prog reach ∧
      (p.coordinator.handle cmd).2.lastProgress = prog.progressPosition := by
  unfold Process.segmentReplies at taken
  split_ifs at taken with awaited
  refine ⟨awaited.1, ?_⟩
  cases received : receiveSegment (p.coordinator.worker.deliver cmd.arrivals) with
  | mk replies worker =>
    rw [received] at taken
    obtain rfl : replies = some (prog, reach) := taken
    simp only [handle, awaited.1, runSegment, awaited.2, if_true, received, and_self]

theorem handle_quiescence (taken : p.quiescenceReply cmd = some qack) :
    cmd.message.type = .requestPreemption ∧
      (p.coordinator.handle cmd).1 = p.coordinator.preemptionCalls ++ p.coordinator.quiescedCalls qack ∧
      (p.coordinator.handle cmd).2.lastProgress = p.coordinator.lastProgress := by
  unfold Process.quiescenceReply at taken
  split_ifs at taken with awaited
  refine ⟨awaited.1, ?_⟩
  cases received : (p.coordinator.worker.deliver cmd.arrivals).receive with
  | mk reply worker =>
    rw [received] at taken
    obtain rfl : reply = some qack := taken
    simp only [handle, awaited.1, drivePreemption, awaited.2, if_true, received, and_true]
    rfl

theorem preemptionCalls_uncaused (c : Coordinator) : ∀ call ∈ c.preemptionCalls, call.cause = none := by
  simp [preemptionCalls, RuntimeCall.of]

/-- A command that takes no reply of the worker calls on behalf of none. -/
theorem handle_unanswered (segment : p.segmentReplies cmd = none) (quiescence : p.quiescenceReply cmd = none) :
    (∀ call ∈ (p.coordinator.handle cmd).1, call.cause = none) ∧
      (p.coordinator.handle cmd).2.lastProgress = p.coordinator.lastProgress := by
  unfold Process.segmentReplies at segment
  unfold Process.quiescenceReply at quiescence
  unfold handle
  cases type : cmd.message.type with
  | beginExecution => exact ⟨by simp [beginExecution, RuntimeCall.of], rfl⟩
  | publishProgress =>
    simp only [type, true_and] at segment
    simp only [runSegment]
    split_ifs with sent
    · rw [if_pos sent] at segment
      cases received : receiveSegment (p.coordinator.worker.deliver cmd.arrivals) with
      | mk replies worker =>
        rw [received] at segment
        obtain rfl : replies = none := segment
        exact ⟨by simp, rfl⟩
    · exact ⟨by simp, rfl⟩
  | requestPreemption =>
    simp only [type, true_and] at quiescence
    simp only [drivePreemption]
    split_ifs with sent
    · rw [if_pos sent] at quiescence
      cases received : (p.coordinator.worker.deliver cmd.arrivals).receive with
      | mk reply worker =>
        rw [received] at quiescence
        obtain rfl : reply = none := quiescence
        exact ⟨preemptionCalls_uncaused _, rfl⟩
    · exact ⟨preemptionCalls_uncaused _, rfl⟩
  | requestResume => exact ⟨by simp [driveResume, RuntimeCall.of], rfl⟩
  | register =>
    simp only [register]
    split
    · split_ifs
      · exact ⟨by simp [RuntimeCall.of], rfl⟩
      · exact ⟨by simp, rfl⟩
    · exact ⟨by simp, rfl⟩
  | replayStale => exact ⟨by simp [replayStale, RuntimeCall.of], rfl⟩
  | _ => exact ⟨by simp, rfl⟩

/-- A frame that is written kills nobody. -/
theorem kills_of_sent (sent : cmd.sent = true) : cmd.kills = false := by
  have written : cmd.sending = .written := of_decide_eq_true sent
  rw [Command.kills, written]
  exact Bool.and_false _

/-- Nor does a command that sends none. -/
theorem kills_of_silent (silent : cmd.sends = false) : cmd.kills = false := by
  rw [Command.kills, silent, Bool.false_and]

theorem kills_of_segmentReplies {replies : Message × Message} (taken : p.segmentReplies cmd = some replies) :
    cmd.kills = false := by
  unfold Process.segmentReplies at taken
  split_ifs at taken with awaited
  exact kills_of_sent awaited.2

theorem kills_of_quiescenceReply (taken : p.quiescenceReply cmd = some qack) : cmd.kills = false := by
  unfold Process.quiescenceReply at taken
  split_ifs at taken with awaited
  exact kills_of_sent awaited.2

/-- The calls of a command that is not a shutdown. -/
theorem process_step_calls (running : cmd.message.type ≠ .shutdown) :
    (Process.step (some p) cmd).1 = (execCalls p.system (p.coordinator.handle cmd).1).1 := by
  rw [Process.step, if_neg running]

/-- What handling a command does to a process that it neither shuts down nor kills. -/
theorem process_step (running : cmd.message.type ≠ .shutdown) (survives : cmd.kills = false) :
    Process.step (some p) cmd =
      ((execCalls p.system (p.coordinator.handle cmd).1).1,
        (execCalls p.system (p.coordinator.handle cmd).1).2.map (⟨(p.coordinator.handle cmd).2, ·⟩)) := by
  rw [Process.step, if_neg running, survives]
  rfl

/-- A process lives on after a command that neither shuts it down nor kills it, and whose calls do not throw. -/
theorem process_step_alive {q : Process} (alive : (Process.step (some p) cmd).2 = some q) :
    cmd.message.type ≠ .shutdown ∧ cmd.kills = false ∧ ∃ t,
      (execCalls p.system (p.coordinator.handle cmd).1).2 = some t ∧ q = ⟨(p.coordinator.handle cmd).2, t⟩ := by
  rw [Process.step] at alive
  split_ifs at alive with ends killed
  obtain ⟨t, made, rfl⟩ := Option.map_eq_some_iff.mp alive
  exact ⟨ends, eq_false_of_ne_true killed, t, made, rfl⟩

/-! ### Segments -/

/-- The replies of a segment, taken where the safe point is not declared, change nothing: the process ends. -/
theorem segment_undeclared (absent : p.system.rt.safePoints[safePoint]? = none) :
    execCalls p.system (segmentCalls prog reach) =
      ([⟨⟨p.system, .reachSafePoint safePoint reach.safePointPosition false, .error unknownSafePoint, p.system⟩,
        some ⟨.reachSafePoint, reach⟩⟩], none) := by
  have thrown : step p.system (.reachSafePoint safePoint reach.safePointPosition false) =
      (.error unknownSafePoint, p.system) := by
    rw [reachSafePoint_step, absent]
  rw [segmentCalls, execCalls_error rfl (congrArg Prod.fst thrown), event, thrown]
  rfl

/-- Where it is declared, the safe point is reached first, and then the progress is published. -/
theorem segment_declared {sp : SafePoint} (found : p.system.rt.safePoints[safePoint]? = some sp) :
    let t := p.system.reached safePoint (sp.reachedAt reach.safePointPosition false)
    execCalls p.system (segmentCalls prog reach) =
      ([⟨⟨p.system, .reachSafePoint safePoint reach.safePointPosition false, .ok .unit, t⟩,
          some ⟨.reachSafePoint, reach⟩⟩,
        ⟨event step t (.publishProgress prog.progressPosition prog.progressKind), some ⟨.publishProgress, prog⟩⟩],
        some (step t (.publishProgress prog.progressPosition prog.progressKind)).2) := by
  intro t
  have reached : step p.system (.reachSafePoint safePoint reach.safePointPosition false) = (.ok .unit, t) := by
    rw [reachSafePoint_step, found]
  obtain ⟨accepted, returned⟩ :
      ∃ accepted, (step t (.publishProgress prog.progressPosition prog.progressKind)).1 = .ok (.bool accepted) := by
    rw [publishProgress_step]
    split
    · exact ⟨true, rfl⟩
    · exact ⟨false, rfl⟩
  rw [segmentCalls, execCalls_ok rfl (congrArg Prod.fst reached), event, reached, execCalls_ok rfl returned]
  rfl

/-- The publication of a segment does something on behalf of its message exactly when it is accepted. -/
theorem publication_checked_iff {t : System} (c : Coordinator) :
    CallEvent.AuthorityChecked c
        ⟨event step t (.publishProgress prog.progressPosition prog.progressKind), some ⟨.publishProgress, prog⟩⟩ ↔
      (t.holdsAuthority = true ∧ t.rt.durablePosition ≤ prog.progressPosition →
        prog.IsCurrent .publishProgress c) := by
  rw [event, publishProgress_step]
  constructor
  · intro checked accepted
    rw [if_pos accepted] at checked
    exact checked _ rfl (.inr rfl)
  · rintro current cause caused acts
    cases caused
    split_ifs at acts with accepted
    · exact current accepted
    · rcases acts with changed | recorded
      · exact absurd rfl changed
      · cases recorded

theorem segment_checked_iff (taken : p.segmentReplies cmd = some (prog, reach)) :
    AuthorityChecked (event Process.step (some p) cmd) ↔
      (p.Declares → reach.IsCurrent .reachSafePoint p.coordinator ∧
        ((p.system.holdsAuthority = true ∧ p.system.rt.durablePosition ≤ prog.progressPosition) ∨
          prog.progressPosition ≠ p.coordinator.lastProgress → prog.IsCurrent .publishProgress p.coordinator)) := by
  obtain ⟨type, calls, position⟩ := handle_segment taken
  have running : cmd.message.type ≠ .shutdown := by simp [type]
  rw [event, process_step running (kills_of_segmentReplies taken), calls]
  cases found : p.system.rt.safePoints[safePoint]? with
  | none =>
    rw [segment_undeclared found]
    refine iff_of_true ⟨fun q same made member => ?_, fun q q' same ended => ?_⟩ fun declares => ?_
    · rw [List.mem_singleton] at member
      subst member
      rintro cause _ (changed | recorded)
      · exact absurd rfl changed
      · cases recorded
    · cases ended
    · exact absurd found (p.declares_iff.mp declares)
  | some sp =>
    rw [segment_declared found]
    constructor
    · intro checked _
      have made := checked.calls p rfl
      simp only [List.forall_mem_cons] at made
      refine ⟨made.1 _ rfl (.inr rfl), ?_⟩
      rintro (accepted | moved)
      · exact (publication_checked_iff _).mp made.2.1 accepted
      · obtain ⟨m, cause, _, current⟩ := checked.position p _ rfl rfl (by rw [position]; exact moved)
        simp only [List.map_cons, List.map_nil, List.mem_cons, List.not_mem_nil, or_false] at cause
        rcases cause with other | same
        · cases other
        · cases same
          exact current
    · intro current
      obtain ⟨reached, published⟩ := current ⟨sp, found⟩
      constructor
      · rintro q same made member
        cases same
        simp only [List.mem_cons, List.not_mem_nil, or_false] at member
        rcases member with rfl | rfl
        · rintro cause caused _
          cases caused
          exact reached
        · exact (publication_checked_iff _).mpr fun accepted => published (.inl accepted)
      · rintro q q' same same' moved
        cases same
        cases same'
        refine ⟨prog, by simp, position.symm, published (.inr ?_)⟩
        rw [← position]
        exact moved

/-! ### Quiescence -/

theorem quiescedCalls_caused {c : Coordinator} {call : RuntimeCall} (listed : call ∈ c.quiescedCalls qack) :
    call.cause = some ⟨.quiesced, qack⟩ := by
  simp only [quiescedCalls, List.mem_cons, List.not_mem_nil, or_false] at listed
  rcases listed with rfl | rfl | rfl | rfl | rfl | rfl <;> rfl

/-- Whatever the reply is, quiescence is reported first. -/
theorem quiescedCalls_report (s : System) (c : Coordinator) (qack : Message) :
    (⟨event step s (.reportQuiesced c.quiescenceReport), some ⟨.quiesced, qack⟩⟩ : CallEvent) ∈
      (execCalls s (c.quiescedCalls qack)).1 := by
  rw [quiescedCalls]
  cases output : (step s (.reportQuiesced c.quiescenceReport)).1 with
  | error thrown =>
    rw [execCalls_error rfl output]
    exact List.mem_singleton_self _
  | ok ret =>
    rw [execCalls_ok rfl output]
    exact List.mem_cons_self

theorem quiescence_checked_iff (taken : p.quiescenceReply cmd = some qack) :
    AuthorityChecked (event Process.step (some p) cmd) ↔
      (p.Declares → ¬p.StaysDeferred → qack.IsCurrent .quiesced p.coordinator) := by
  obtain ⟨type, calls, position⟩ := handle_quiescence taken
  have running : cmd.message.type ≠ .shutdown := by simp [type]
  rw [event, process_step running (kills_of_quiescenceReply taken), calls]
  have asks := preemptionCalls_isSome p
  have before := checked_of_uncaused (s := p.system) (preemptionCalls_uncaused p.coordinator) p.coordinator
  -- The position of the coordinator stays, whether the process lives on or not.
  have still {q q' : Process} {after : Option System} (same : some p = some q)
      (alive : after.map (Process.mk (p.coordinator.handle cmd).2) = some q') :
      q'.coordinator.lastProgress = q.coordinator.lastProgress := by
    cases same
    obtain ⟨t, _, rfl⟩ := Option.map_eq_some_iff.mp alive
    exact position
  cases asked : (execCalls p.system p.coordinator.preemptionCalls).2 with
  | none =>
    rw [asked] at asks
    rw [execCalls_append, asked]
    refine iff_of_true ⟨fun q same => ?_, fun q q' same alive moved => absurd (still same alive) moved⟩ ?_
    · cases same
      exact before
    · intro declares leaves
      exact absurd (asks.mpr ⟨declares, leaves⟩) (by simp)
  | some t =>
    rw [asked] at asks
    rw [execCalls_append, asked]
    constructor
    · intro checked _ _
      have reported := quiescedCalls_report t p.coordinator qack
      exact checked.calls p rfl _ (List.mem_append_right _ reported) _ rfl (.inr trivial)
    · intro current
      refine ⟨fun q same made member => ?_, fun q q' same alive moved => absurd (still same alive) moved⟩
      cases same
      rcases List.mem_append.mp member with member | member
      · exact before made member
      · intro cause caused _
        obtain ⟨call, listed, same⟩ := cause_of_mem member
        rw [quiescedCalls_caused listed, caused] at same
        cases same
        obtain ⟨declares, leaves⟩ := asks.mp rfl
        exact current declares leaves

/-! ### Runs -/

theorem unanswered_checked (segment : p.segmentReplies cmd = none) (quiescence : p.quiescenceReply cmd = none) :
    AuthorityChecked (event Process.step (some p) cmd) := by
  by_cases ends : cmd.message.type = .shutdown
  · rw [event, Process.step, if_pos ends]
    refine ⟨fun q same made member => ?_, fun q q' same ended => ?_⟩
    · cases member
    · cases ended
  · obtain ⟨uncaused, position⟩ := handle_unanswered segment quiescence
    refine ⟨fun q same => ?_, fun q q' same alive moved => ?_⟩
    · cases same
      rw [event, process_step_calls ends]
      exact checked_of_uncaused uncaused p.coordinator
    · cases same
      obtain ⟨_, _, t, _, rfl⟩ := process_step_alive alive
      exact absurd position moved

theorem takesCurrent_of_unanswered (segment : p.segmentReplies cmd = none) (quiescence : p.quiescenceReply cmd = none) :
    p.TakesCurrent cmd := by
  refine ⟨fun prog reach taken => ?_, fun prog reach taken => ?_, fun qack taken => ?_⟩
  · cases segment.symm.trans taken
  · cases segment.symm.trans taken
  · cases quiescence.symm.trans taken

theorem segment_not_quiescence (taken : p.segmentReplies cmd = some (prog, reach)) : p.quiescenceReply cmd = none := by
  rw [Process.quiescenceReply, if_neg]
  rintro ⟨type, _⟩
  rw [(handle_segment taken).1] at type
  cases type

theorem checked_iff (p : Process) (cmd : Command) :
    AuthorityChecked (event Process.step (some p) cmd) ↔ p.TakesCurrent cmd := by
  cases segment : p.segmentReplies cmd with
  | some replies =>
    obtain ⟨prog, reach⟩ := replies
    have other := segment_not_quiescence segment
    rw [segment_checked_iff segment]
    constructor
    · intro current
      refine ⟨fun m m' taken declares => ?_, fun m m' taken declares acts => ?_, fun m taken => ?_⟩
      · cases segment.symm.trans taken
        exact (current declares).1
      · cases segment.symm.trans taken
        exact (current declares).2 acts
      · cases other.symm.trans taken
    · intro takes declares
      exact ⟨takes.reach prog reach segment declares, takes.progress prog reach segment declares⟩
  | none =>
    cases quiescence : p.quiescenceReply cmd with
    | some qack =>
      rw [quiescence_checked_iff quiescence]
      constructor
      · intro current
        refine ⟨fun m m' taken => ?_, fun m m' taken => ?_, fun m taken => ?_⟩
        · cases segment.symm.trans taken
        · cases segment.symm.trans taken
        · cases quiescence.symm.trans taken
          exact current
      · intro takes
        exact takes.quiescence qack quiescence
    | none =>
      exact iff_of_true (unanswered_checked segment quiescence) (takesCurrent_of_unanswered segment quiescence)

end Commands

/-- In every run of the coordinator, from any registration and any recovered image, every command is authority-checked
    exactly when every command acts on current replies only. -/
theorem messages_authority_checked_iff (hash : List UInt8 → UInt64) (recover : Option (Option (List UInt8)))
    (arrivals : List Message) (acknowledging : Sending) (cmds : List Command) :
    (∀ e ∈ Process.traceOf (Process.startup hash recover arrivals acknowledging) cmds, AuthorityChecked e) ↔
      ∀ e ∈ Process.traceOf (Process.startup hash recover arrivals acknowledging) cmds,
        ∀ p, e.pre = some p → p.TakesCurrent e.input := by
  refine forall₂_congr fun e member => ?_
  rw [eq_event Process.step member]
  cases pre : e.pre with
  | none =>
    refine iff_of_true ⟨fun p same => ?_, fun p p' same => ?_⟩ fun p same => ?_
    · cases same
    · cases same
    · cases same
  | some p =>
    rw [checked_iff]
    constructor
    · rintro takes q same
      cases same
      exact takes
    · intro takes
      exact takes p rfl

/-- The replies of a worker with boot 1000 to a segment. -/
def deadReplies : Message × Message :=
  let dead : Worker := ⟨⟨40⟩, ⟨1000⟩, epoch, 2⟩
  let cmd := Coordinator.segmentMessage ⟨⟨40⟩, ⟨1000⟩, {}, 0, 0⟩ 5
  (dead.progressReply cmd, dead.next.reachReply cmd)

/-- The replies arrive once the worker with boot 1000 has been replaced. -/
def replayedSegment : Command where
  message := { type := .publishProgress, progressPosition := 5 }
  arrivals := [deadReplies.1, deadReplies.2]

/-- A second worker takes the place of the first one, and the execution starts. Then the replies of the first one
    arrive, and a greeting in the place of the reply to the request to quiesce. -/
def replayedCommands : List Command :=
  [{ message := { type := .register }, accepted := some (Worker.registration ⟨41⟩ []) },
    { message := { type := .beginExecution } }, replayedSegment,
    { message := { type := .requestPreemption }, arrivals := [{ type := .hello }] }]

def replayedStart : Option Process := Process.startup (fun _ => 0) none (Worker.registration ⟨40⟩ []) .written

def replayedProcess (n : Nat) : Option Process := exec Process.step replayedStart (replayedCommands.take n)

/-- The coordinator publishes the progress of a worker that is dead, and completes a preemption on a greeting. -/
theorem dead_worker_advances :
    (replayedProcess 2).map (fun p => (p.coordinator.boot, p.system.rt.durablePosition)) = some (⟨8001⟩, 0) ∧
      deadReplies.1.workerBootId = ⟨1000⟩ ∧
      (replayedProcess 3).map (·.system.rt.durablePosition) = some 5 ∧
      (replayedProcess 4).map (·.system.lifecycle) = some .preempted ∧
      ¬∀ e ∈ Process.traceOf replayedStart replayedCommands, AuthorityChecked e := by
  refine ⟨by decide +kernel, rfl, by decide +kernel, by decide +kernel, fun checked => ?_⟩
  obtain ⟨p, alive⟩ : ∃ p, replayedProcess 2 = some p := Option.isSome_iff_exists.mp (by decide +kernel)
  have member : event Process.step (some p) replayedSegment ∈ Process.traceOf replayedStart replayedCommands := by
    rw [← alive]
    exact List.mem_cons_of_mem _ (List.mem_cons_of_mem _ List.mem_cons_self)
  have facts : (replayedProcess 2).map (fun p =>
      (p.coordinator.boot, p.segmentReplies replayedSegment, p.system.rt.safePoints[safePoint]?.isSome)) =
      some (⟨8001⟩, some deadReplies, true) := by decide +kernel
  simp only [alive, Option.map_some, Option.some.injEq, Prod.mk.injEq] at facts
  obtain ⟨boot, taken, declared⟩ := facts
  have takes := (checked_iff p replayedSegment).mp (checked _ member)
  have stale := (takes.reach _ _ taken (Option.isSome_iff_exists.mp declared)).boot
  rw [boot] at stale
  exact absurd stale (by decide)

end PreemptionFabric
