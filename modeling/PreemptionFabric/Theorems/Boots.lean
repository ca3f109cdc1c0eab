import PreemptionFabric.Theorems.Coordinator

/-! The boot ids of workers. The first worker of a process gets one from the hash of its label, the workers that
    register again get 8000 and their number. Boot ids fence a dead worker as long as none of them is assigned twice,
    and the two ranges overlap: the first boot id lies between 1000 and 9999. -/

namespace PreemptionFabric
open Trace Coordinator

/-! ### The boot id of the runtime -/

/-- Operations that do not replace the worker with boot id `boot`. -/
def Op.keepsBoot (boot : WorkerBootId) : Op → Bool
  | .startExecution _ _ _ _ _ _ _ other => other = boot
  | .setWorkerIncarnation _ _ | .restoreState _ | .restoreBytes _ | .load _ => false
  | _ => true

section Calls
variable {s t : System} {op : Op} {r : Returned} {boot : WorkerBootId} {calls : List RuntimeCall}

theorem Op.loads_of_keepsBoot (keeps : op.keepsBoot boot = true) : op.loads = none := by
  cases op with
  | restoreState st => cases keeps
  | restoreBytes bytes => cases keeps
  | load file => cases keeps
  | _ => rfl

theorem Move.keepsBoot (moved : Move s op r t) (keeps : op.keepsBoot boot = true) (same : s.rt.workerBoot = boot) :
    t.rt.workerBoot = boot := by
  cases moved with
  | start w wg e eg a ag worker other => exact of_decide_eq_true keeps
  | incarnation worker other => cases keeps
  | loaded ret image =>
    rw [Op.loads_of_keepsBoot keeps] at image
    cases image
  | _ => exact same

/-- Whatever the state is in which the call is made, it does not replace the worker with boot id `boot`. -/
def RuntimeCall.KeepsBoot (boot : WorkerBootId) (call : RuntimeCall) : Prop :=
  ∀ u op, call.op u = some op → op.keepsBoot boot = true

theorem RuntimeCall.KeepsBoot.of {cause : Option Cause} (keeps : op.keepsBoot boot = true) :
    (RuntimeCall.of op cause).KeepsBoot boot := by
  intro u other called
  cases called
  exact keeps

theorem step_keepsBoot (keeps : op.keepsBoot boot = true) (same : s.rt.workerBoot = boot) :
    (step s op).2.rt.workerBoot = boot := by
  rcases step_cases s op with moved | ⟨idle, _⟩
  · exact moved.keepsBoot keeps same
  · rw [idle]
    exact same

/-- The system as the last of the calls left it, which may have ended the process. -/
def CallEvent.left (s : System) (made : List CallEvent) : System := made.foldl (fun _ last => last.event.post) s

theorem execCalls_left (survived : (execCalls s calls).2 = some t) : CallEvent.left s (execCalls s calls).1 = t := by
  induction calls generalizing s with
  | nil => exact Option.some.inj survived
  | cons call calls ih =>
    cases called : call.op s with
    | none =>
      rw [execCalls_skip called] at survived ⊢
      exact ih survived
    | some op =>
      cases output : (step s op).1 with
      | error thrown =>
        rw [execCalls_error called output] at survived
        cases survived
      | ok ret =>
        rw [execCalls_ok called output] at survived ⊢
        exact ih survived

/-- Calls that do not replace the worker leave its boot id. -/
theorem execCalls_keepsBoot (keeps : ∀ call ∈ calls, call.KeepsBoot boot) (same : s.rt.workerBoot = boot) :
    (∀ made ∈ (execCalls s calls).1, made.event.input.keepsBoot boot = true) ∧
      (CallEvent.left s (execCalls s calls).1).rt.workerBoot = boot := by
  induction calls generalizing s with
  | nil => exact ⟨List.forall_mem_nil _, same⟩
  | cons call calls ih =>
    have later := fun call' listed => keeps call' (List.mem_cons_of_mem call listed)
    cases called : call.op s with
    | none =>
      rw [execCalls_skip called]
      exact ih later same
    | some op =>
      have kept := keeps call List.mem_cons_self s op called
      cases output : (step s op).1 with
      | error thrown =>
        rw [execCalls_error called output]
        refine ⟨fun made member => ?_, step_keepsBoot kept same⟩
        rw [List.mem_singleton.mp member]
        exact kept
      | ok ret =>
        rw [execCalls_ok called output]
        obtain ⟨inputs, left⟩ := ih later (step_keepsBoot kept same)
        refine ⟨fun made member => ?_, left⟩
        rcases List.mem_cons.mp member with rfl | member
        · exact kept
        · exact inputs made member

end Calls

/-! ### Registrations -/

/-- The boot id that a call assigns. -/
def CallEvent.boot? (made : CallEvent) : Option WorkerBootId :=
  match made.event.input with
  | .setWorkerIncarnation _ boot => some boot
  | _ => none

theorem CallEvent.boot?_of_keepsBoot {made : CallEvent} {boot : WorkerBootId}
    (keeps : made.event.input.keepsBoot boot = true) : made.boot? = none := by
  rw [CallEvent.boot?]
  split
  next input =>
    rw [input] at keeps
    cases keeps
  next => rfl

/-! ### Commands that register no worker -/

/-- The calls of a command do not replace the worker of the coordinator, and its boot id and counter stay. -/
structure Coordinator.KeepsBoot (c : Coordinator) (answer : List RuntimeCall × Coordinator) : Prop where
  calls : ∀ call ∈ answer.1, call.KeepsBoot c.boot
  boot : answer.2.boot = c.boot
  counter : answer.2.bootCounter = c.bootCounter

section Handlers
variable (c : Coordinator)

theorem Coordinator.KeepsBoot.nothing (worker : Connection) : c.KeepsBoot ([], { c with worker }) :=
  ⟨List.forall_mem_nil _, rfl, rfl⟩

theorem preemptionCalls_keepsBoot : ∀ call ∈ c.preemptionCalls, call.KeepsBoot c.boot := by
  simp only [preemptionCalls, List.forall_mem_cons]
  exact ⟨.of rfl, .of rfl, .of rfl, .of rfl, List.forall_mem_nil _⟩

/-- The call that reports the last capture is the only one that depends on the state it is made in. -/
theorem lastCapture_keepsBoot (boot : WorkerBootId) (cause : Option Cause) :
    RuntimeCall.KeepsBoot boot ⟨fun s => s.ad.lastCapture.map .reportStateCaptured, cause⟩ := by
  intro u op called
  obtain ⟨result, _, rfl⟩ := Option.map_eq_some_iff.mp called
  rfl

theorem quiescedCalls_keepsBoot (qack : Message) : ∀ call ∈ c.quiescedCalls qack, call.KeepsBoot c.boot := by
  simp only [quiescedCalls, List.forall_mem_cons]
  exact ⟨.of rfl, .of rfl, lastCapture_keepsBoot _ _, .of rfl, .of rfl, .of rfl, List.forall_mem_nil _⟩

theorem beginExecution_keepsBoot : c.KeepsBoot (c.beginExecution, c) := by
  refine ⟨?_, rfl, rfl⟩
  simp only [beginExecution, List.forall_mem_cons]
  exact ⟨.of (decide_eq_true rfl), .of rfl, .of rfl, List.forall_mem_nil _⟩

theorem runSegment_keepsBoot (sent : Bool) : c.KeepsBoot (c.runSegment sent) := by
  rw [runSegment]
  split
  · split
    · exact .nothing c _
    · refine ⟨?_, rfl, rfl⟩
      simp only [segmentCalls, List.forall_mem_cons]
      exact ⟨.of rfl, .of rfl, List.forall_mem_nil _⟩
  · exact .nothing c _

theorem drivePreemption_keepsBoot (sent : Bool) : c.KeepsBoot (c.drivePreemption sent) := by
  rw [drivePreemption]
  split
  · split
    · exact ⟨preemptionCalls_keepsBoot c, rfl, rfl⟩
    · exact ⟨List.forall_mem_append.mpr ⟨preemptionCalls_keepsBoot c, quiescedCalls_keepsBoot c _⟩, rfl, rfl⟩
  · exact ⟨preemptionCalls_keepsBoot c, rfl, rfl⟩

theorem driveResume_keepsBoot : c.KeepsBoot (driveResume, c) := by
  refine ⟨?_, rfl, rfl⟩
  simp only [driveResume, List.forall_mem_cons]
  exact ⟨.of rfl, .of rfl, .of rfl, .of rfl, List.forall_mem_nil _⟩

theorem replayStale_keepsBoot (msg : Message) : c.KeepsBoot (replayStale msg, c) := by
  refine ⟨?_, rfl, rfl⟩
  simp only [replayStale, List.forall_mem_cons]
  exact ⟨.of rfl, .of rfl, List.forall_mem_nil _⟩

theorem register_keepsBoot {cmd : Command} (type : cmd.message.type = .register) (other : cmd.registers = false) :
    c.KeepsBoot (c.register cmd.accepted) := by
  rw [register.eq_def]
  split
  next hello reg inbox accepted =>
    have foreign : ¬reg.type = .register := by
      simpa [Command.registers, type, accepted] using other
    rw [if_neg foreign]
    exact .nothing c _
  · exact .nothing c _

/-- A command that registers no worker makes no call that replaces the current one. -/
theorem handle_keepsBoot {cmd : Command} (other : cmd.registers = false) : c.KeepsBoot (c.handle cmd) := by
  rw [handle]
  -- The replies that arrive first change the connection of the worker alone.
  have arrived {answer : List RuntimeCall × Coordinator}
      (keeps : Coordinator.KeepsBoot { c with worker := c.worker.deliver cmd.arrivals } answer) : c.KeepsBoot answer :=
    ⟨keeps.calls, keeps.boot, keeps.counter⟩
  cases type : cmd.message.type with
  | beginExecution => exact arrived (beginExecution_keepsBoot _)
  | publishProgress => exact arrived (runSegment_keepsBoot _ cmd.sent)
  | requestPreemption => exact arrived (drivePreemption_keepsBoot _ cmd.sent)
  | requestResume => exact arrived (driveResume_keepsBoot _)
  | register => exact arrived (register_keepsBoot _ type other)
  | replayStale => exact arrived (replayStale_keepsBoot _ cmd.message)
  | _ => exact .nothing c _

end Handlers

section Commands
variable {p q : Process} {cmd : Command}

/-- A worker that registers again gets the next number. Its acknowledgment may kill the process. -/
theorem process_step_registers (registers : cmd.registers = true) :
    ∃ made, (Process.step (some p) cmd).1 = [made] ∧
      made.boot? = some ⟨8000 + (p.coordinator.bootCounter + 1)⟩ ∧
      made.event.post.rt.workerBoot = ⟨8000 + (p.coordinator.bootCounter + 1)⟩ ∧
      ∀ q, (Process.step (some p) cmd).2 = some q →
        q.coordinator.bootCounter = p.coordinator.bootCounter + 1 ∧
          q.coordinator.boot = ⟨8000 + (p.coordinator.bootCounter + 1)⟩ ∧ q.system = made.event.post := by
  rw [Command.registers, Bool.and_eq_true, decide_eq_true_eq] at registers
  obtain ⟨type, accepts⟩ := registers
  split at accepts
  next hello reg inbox accepted =>
    have running : cmd.message.type ≠ .shutdown := by simp [type]
    have registered : reg.type = .register := of_decide_eq_true accepts
    let boot : WorkerBootId := ⟨8000 + (p.coordinator.bootCounter + 1)⟩
    let made : CallEvent := ⟨event PreemptionFabric.step p.system (.setWorkerIncarnation reg.workerId boot), none⟩
    refine ⟨made, ?_, rfl, rfl, fun q alive => ?_⟩
    · rw [process_step_calls running]
      simp only [handle, type, accepted, register, if_pos registered]
      rfl
    · obtain ⟨_, _, t, survived, rfl⟩ := process_step_alive alive
      simp only [handle, type, accepted, register, if_pos registered] at survived ⊢
      cases survived
      exact ⟨trivial, trivial, rfl⟩
  next => cases accepts

theorem process_step_other (same : p.system.rt.workerBoot = p.coordinator.boot) (other : cmd.registers = false) :
    (∀ made ∈ (Process.step (some p) cmd).1, made.boot? = none) ∧
      (CallEvent.left p.system (Process.step (some p) cmd).1).rt.workerBoot = p.coordinator.boot ∧
      ∀ q, (Process.step (some p) cmd).2 = some q →
        q.coordinator.bootCounter = p.coordinator.bootCounter ∧ q.coordinator.boot = p.coordinator.boot ∧
          q.system = CallEvent.left p.system (Process.step (some p) cmd).1 := by
  by_cases ends : cmd.message.type = .shutdown
  · rw [Process.step, if_pos ends]
    refine ⟨List.forall_mem_nil _, same, fun q alive => ?_⟩
    cases alive
  · obtain ⟨keeps, boot, counter⟩ := handle_keepsBoot p.coordinator other
    obtain ⟨inputs, left⟩ := execCalls_keepsBoot keeps same
    rw [process_step_calls ends]
    refine ⟨fun made member => CallEvent.boot?_of_keepsBoot (inputs made member), left, fun q alive => ?_⟩
    obtain ⟨_, _, t, survived, rfl⟩ := process_step_alive alive
    exact ⟨counter, boot, (execCalls_left survived).symm⟩

end Commands

/-! ### Runs -/

/-- The number of workers that register again in a trace. -/
def registrations (tr : List Process.Event) : Nat := tr.countP fun e => e.pre.isSome && e.input.registers

/-- The boot ids that are assigned in a trace. -/
def assigned (tr : List Process.Event) : List WorkerBootId := (tr.flatMap (·.output)).filterMap CallEvent.boot?

/-- The boot ids of a process whose first worker has `first`, by the number of workers that registered again. -/
def bootId (first : WorkerBootId) : Nat → WorkerBootId
  | 0 => first
  | n + 1 => ⟨8000 + UInt64.ofNat (n + 1)⟩

theorem registrations_append (tr tr' : List Process.Event) :
    registrations (tr ++ tr') = registrations tr + registrations tr' :=
  List.countP_append

theorem assigned_append (tr tr' : List Process.Event) : assigned (tr ++ tr') = assigned tr ++ assigned tr' := by
  rw [assigned, List.flatMap_append, List.filterMap_append]
  rfl

/-- The system that a trace leaves of a process that had the system `s`. -/
def leftBy (s : System) (tr : List Process.Event) : System := CallEvent.left s (tr.flatMap (·.output))

theorem leftBy_snoc (s : System) (tr : List Process.Event) (e : Process.Event) :
    leftBy s (tr ++ [e]) = CallEvent.left (leftBy s tr) e.output := by
  rw [leftBy, List.flatMap_append, List.flatMap_singleton, CallEvent.left, List.foldl_append]
  rfl

/-- The boot ids that a trace assigned after `first`, and those of the process and of what it leaves of the system. -/
structure Numbered (first : WorkerBootId) (s : System) (tr : List Process.Event) (p : Option Process) : Prop where
  boots : first :: assigned tr = (List.range (registrations tr + 1)).map (bootId first)
  counter : ∀ q, p = some q → q.coordinator.bootCounter = UInt64.ofNat (registrations tr)
  boot : ∀ q, p = some q → q.coordinator.boot = bootId first (registrations tr)
  system : ∀ q, p = some q → q.system = leftBy s tr
  current : (leftBy s tr).rt.workerBoot = bootId first (registrations tr)

section Runs
variable {first : WorkerBootId} {s : System} {tr : List Process.Event} {p : Option Process}

/-- A step that registers no worker. -/
theorem Numbered.other (numbered : Numbered first s tr p) {e : Process.Event} (none : registrations [e] = 0)
    (unassigned : assigned [e] = [])
    (left : (leftBy s (tr ++ [e])).rt.workerBoot = bootId first (registrations tr))
    (kept : ∀ q', e.post = some q' → ∃ q, p = some q ∧
      q'.coordinator.bootCounter = q.coordinator.bootCounter ∧ q'.coordinator.boot = q.coordinator.boot ∧
        q'.system = leftBy s (tr ++ [e])) : Numbered first s (tr ++ [e]) e.post := by
  have count : registrations (tr ++ [e]) = registrations tr := by rw [registrations_append, none, Nat.add_zero]
  constructor
  · rw [assigned_append, unassigned, List.append_nil, count]
    exact numbered.boots
  · intro q' alive
    obtain ⟨q, before, counter, _⟩ := kept q' alive
    rw [counter, count]
    exact numbered.counter q before
  · intro q' alive
    obtain ⟨q, before, _, boot, _⟩ := kept q' alive
    rw [boot, count]
    exact numbered.boot q before
  · intro q' alive
    obtain ⟨_, _, _, _, system⟩ := kept q' alive
    exact system
  · rw [count]
    exact left

theorem Numbered.step (numbered : Numbered first s tr p) (cmd : Command) :
    Numbered first s (tr ++ [event Process.step p cmd]) (Process.step p cmd).2 := by
  cases alive : p with
  | none =>
    refine Numbered.other (alive ▸ numbered) rfl rfl ?_ fun q' survived => ?_
    · rw [leftBy_snoc]
      exact numbered.current
    · cases survived
  | some q =>
    have system := numbered.system q alive
    have current := numbered.current
    have after := leftBy_snoc s tr (event Process.step (some q) cmd)
    rw [← system] at current after
    cases registers : cmd.registers with
    | false =>
      obtain ⟨none, left, kept⟩ := process_step_other (current.trans (numbered.boot q alive).symm) registers
      refine Numbered.other (alive ▸ numbered) ?_ ?_ ?_ fun q' survived => ⟨q, rfl, ?_⟩
      · simp [registrations, event, registers]
      · simpa [assigned, event] using none
      · rw [after, ← numbered.boot q alive]
        exact left
      · rw [after]
        exact kept q' survived
    | true =>
      obtain ⟨made, calls, boot, left, kept⟩ := process_step_registers (p := q) registers
      have number : q.coordinator.bootCounter + 1 = UInt64.ofNat (registrations tr + 1) := by
        rw [numbered.counter q alive, UInt64.ofNat_add]
        rfl
      have count : registrations (tr ++ [event Process.step (some q) cmd]) = registrations tr + 1 := by
        rw [registrations_append]
        simp [registrations, event, registers]
      have last : assigned [event Process.step (some q) cmd] = [bootId first (registrations tr + 1)] := by
        simp [assigned, event, calls, boot, bootId, number]
      have leaves : leftBy s (tr ++ [event Process.step (some q) cmd]) = made.event.post := by
        rw [after, event, calls]
        rfl
      constructor
      · rw [assigned_append, ← List.cons_append, numbered.boots, last, count, @List.range_succ (registrations tr + 1),
          List.map_append]
        rfl
      · intro q' survived
        rw [(kept q' survived).1, count, number]
      · intro q' survived
        rw [(kept q' survived).2.1, count, number]
        rfl
      · intro q' survived
        rw [(kept q' survived).2.2, leaves]
      · rw [leaves, left, count, number]
        rfl

end Runs

/-- A process that has started numbers the boot ids of its workers. -/
theorem numbered_of_startup {hash : List UInt8 → UInt64} {recover : Option (Option (List UInt8))} {hello reg : Message}
    {inbox : List Message} {acknowledging : Sending} {p : Process}
    (started : Process.startup hash recover (hello :: reg :: inbox) acknowledging = some p) :
    Numbered ⟨1000 + hash reg.detail % 9000⟩ p.system [] (some p) := by
  simp only [Process.startup] at started
  split_ifs at started
  obtain ⟨t, left, rfl⟩ := Option.map_eq_some_iff.mp started
  rw [execCalls_append] at left
  split at left
  next ended => rw [ended] at left; cases left
  next u loaded =>
    have incarnated : t.rt.workerBoot = ⟨1000 + hash reg.detail % 9000⟩ := by
      rw [execCalls_ok rfl rfl] at left
      cases left
      rfl
    refine ⟨rfl, ?_, ?_, ?_, incarnated⟩
    · rintro _ ⟨⟩
      rfl
    · rintro _ ⟨⟩
      rfl
    · rintro _ ⟨⟩
      rfl

theorem Numbered.run {first : WorkerBootId} {s : System} {p : Option Process} (numbered : Numbered first s [] p)
    (cmds : List Command) : Numbered first s (Process.traceOf p cmds) (exec Process.step p cmds) :=
  history_induction Process.step numbered (fun _ _ cmd before _ => before.step cmd) cmds fun _ _ => trivial

/-! ### Freshness -/

/-- The boot ids that a process has assigned after the commands, the first one included. -/
def Process.boots (p : Process) (cmds : List Command) : List WorkerBootId :=
  p.coordinator.boot :: assigned (Process.traceOf (some p) cmds)

/-- The system after the commands, also where the process has ended. -/
def Process.systemAfter (p : Process) (cmds : List Command) : System := leftBy p.system (Process.traceOf (some p) cmds)

/-- No boot id is assigned twice, and at no time does the runtime take a request with the boot id of a worker that has
    been replaced for current. -/
structure FreshBoots (p : Process) (cmds : List Command) : Prop where
  distinct : (p.boots cmds).Nodup
  fenced : ∀ front, front <+: cmds → ∀ req : PreemptionRequest, req.workerBootId ∈ (p.boots front).dropLast →
    (p.systemAfter front).rt.validateAuthority req = false

section Freshness
variable {p : Process} {first : WorkerBootId}

/-- Of a process that is alive, it is its system. -/
theorem Numbered.systemAfter_eq (numbered : Numbered first p.system [] (some p)) {cmds : List Command} {q : Process}
    (alive : exec Process.step (some p) cmds = some q) : p.systemAfter cmds = q.system :=
  ((numbered.run cmds).system q alive).symm

theorem Numbered.boots_eq (numbered : Numbered first p.system [] (some p)) (cmds : List Command) :
    p.boots cmds = (List.range (registrations (Process.traceOf (some p) cmds) + 1)).map (bootId first) := by
  rw [Process.boots, numbered.boot p rfl]
  exact (numbered.run cmds).boots

theorem mem_dropLast_boots_iff (numbered : Numbered first p.system [] (some p)) {cmds : List Command} {boot : WorkerBootId} :
    boot ∈ (p.boots cmds).dropLast ↔
      ∃ k < registrations (Process.traceOf (some p) cmds), bootId first k = boot := by
  rw [numbered.boots_eq, List.range_succ, List.map_append, List.map_singleton, List.dropLast_concat]
  simp

/-- A request that agrees with the runtime in all but the boot id, which is unknown, is current. -/
theorem validateAuthority_unknown (rt : PreemptionRuntime) :
    rt.validateAuthority
      { coordinatorEpoch := rt.epoch, executionId := rt.executionId, attemptId := rt.attemptId
        executionGeneration := rt.executionGeneration, attemptGeneration := rt.attemptGeneration } = true := by
  have unknown : ({} : WorkerBootId).isValid = false := rfl
  simp [PreemptionRuntime.validateAuthority, unknown]

theorem validateAuthority_stale {rt : PreemptionRuntime} {req : PreemptionRequest}
    (valid : req.workerBootId.isValid = true) (other : req.workerBootId ≠ rt.workerBoot) :
    rt.validateAuthority req = false := by
  simp [PreemptionRuntime.validateAuthority, valid, other]

/-- Every number of registrations is reached. -/
theorem exists_registered (p : Option Process) {cmds : List Command} {n : Nat}
    (enough : n ≤ registrations (Process.traceOf p cmds)) :
    ∃ front, front <+: cmds ∧ registrations (Process.traceOf p front) = n := by
  induction cmds using List.reverseRecOn with
  | nil => exact ⟨[], List.prefix_refl _, (Nat.le_zero.mp enough).symm⟩
  | append_singleton cmds cmd ih =>
    by_cases before : n ≤ registrations (Process.traceOf p cmds)
    · obtain ⟨front, start, count⟩ := ih before
      exact ⟨front, start.trans (List.prefix_append _ _), count⟩
    · have last : Process.traceOf p (cmds ++ [cmd]) =
          Process.traceOf p cmds ++ [event Process.step (exec Process.step p cmds) cmd] := trace_append ..
      have one : registrations [event Process.step (exec Process.step p cmds) cmd] ≤ 1 := List.countP_le_length
      rw [last, registrations_append] at enough
      refine ⟨cmds ++ [cmd], List.prefix_refl _, ?_⟩
      rw [last, registrations_append]
      omega

theorem bootId_zero_toNat (hash : UInt64) :
    (bootId ⟨1000 + hash % 9000⟩ 0).value.toNat = 1000 + hash.toNat % 9000 := by
  rw [bootId, UInt64.toNat_add, UInt64.toNat_mod]
  show (1000 + hash.toNat % 9000) % 2 ^ 64 = _
  omega

theorem bootId_succ_toNat (first : WorkerBootId) (n : Nat) :
    (bootId first (n + 1)).value.toNat = (8000 + (n + 1)) % 2 ^ 64 := by
  rw [bootId, UInt64.toNat_add, UInt64.toNat_ofNat']
  show (8000 + (n + 1) % 2 ^ 64) % 2 ^ 64 = _
  omega

end Freshness

/-- How many workers can register again before a boot id is assigned that cannot be told from an earlier one: up to
    the first boot id where that lies above 8000, and otherwise until the number wraps around to the unknown boot id. -/
def bootLimit (hash : UInt64) : Nat := if 7000 < hash.toNat % 9000 then hash.toNat % 9000 - 7001 else 2 ^ 64 - 8000

section Limit
variable {hash : UInt64} {i j n : Nat}

theorem bootId_ne (few : n ≤ bootLimit hash) (before : i < j) (within : j ≤ n) :
    bootId ⟨1000 + hash % 9000⟩ i ≠ bootId ⟨1000 + hash % 9000⟩ j := by
  intro same
  have value := congrArg (fun boot => boot.value.toNat) same
  obtain ⟨j, rfl⟩ : ∃ j', j = j' + 1 := ⟨j - 1, by omega⟩
  rw [bootLimit] at few
  cases i with
  | zero =>
    simp only [bootId_zero_toNat, bootId_succ_toNat] at value
    split at few <;> omega
  | succ i =>
    simp only [bootId_succ_toNat] at value
    split at few <;> omega

theorem bootId_isValid (few : n ≤ bootLimit hash) (dead : i < n) :
    (bootId ⟨1000 + hash % 9000⟩ i).isValid = true := by
  have nonzero : (bootId ⟨1000 + hash % 9000⟩ i).value.toNat ≠ 0 := by
    cases i with
    | zero =>
      rw [bootId_zero_toNat]
      omega
    | succ i =>
      rw [bootId_succ_toNat]
      rw [bootLimit] at few
      split at few <;> omega
  refine bne_iff_ne.mpr fun zero => nonzero ?_
  rw [zero]
  rfl

/-- Where the first boot id lies above 8000, the counter arrives at it. -/
theorem bootId_repeats (above : 7000 < hash.toNat % 9000) :
    bootId ⟨1000 + hash % 9000⟩ (hash.toNat % 9000 - 7000) = bootId ⟨1000 + hash % 9000⟩ 0 := by
  obtain ⟨k, number⟩ : ∃ k, hash.toNat % 9000 - 7000 = k + 1 := ⟨hash.toNat % 9000 - 7001, by omega⟩
  have value : (bootId ⟨1000 + hash % 9000⟩ (k + 1)).value.toNat = (bootId ⟨1000 + hash % 9000⟩ 0).value.toNat := by
    rw [bootId_succ_toNat, bootId_zero_toNat]
    omega
  rw [number]
  exact congrArg Id.mk (UInt64.toNat_inj.mp value)

theorem bootId_wraps (first : WorkerBootId) : bootId first (2 ^ 64 - 8000) = {} := rfl

end Limit

section Fresh
variable {p : Process} {hash : UInt64} {cmds : List Command}

theorem registrations_le_later {front : List Command} (start : front <+: cmds) :
    registrations (Process.traceOf (some p) front) ≤ registrations (Process.traceOf (some p) cmds) := by
  obtain ⟨later, rfl⟩ := start
  have whole : Process.traceOf (some p) (front ++ later) = Process.traceOf (some p) front ++ _ :=
    trace_append Process.step (some p) front later
  rw [whole, registrations_append]
  exact Nat.le_add_right _ _

theorem Numbered.freshBoots (numbered : Numbered ⟨1000 + hash % 9000⟩ p.system [] (some p))
    (few : registrations (Process.traceOf (some p) cmds) ≤ bootLimit hash) : FreshBoots p cmds := by
  constructor
  · rw [numbered.boots_eq cmds]
    refine List.Nodup.map_on (fun i first j second same => ?_) List.nodup_range
    rw [List.mem_range] at first second
    rcases Nat.lt_trichotomy i j with before | equal | after
    · exact absurd same (bootId_ne few before (by omega))
    · exact equal
    · exact absurd same.symm (bootId_ne few after (by omega))
  · intro front start req dead
    obtain ⟨k, earlier, boot⟩ := (mem_dropLast_boots_iff numbered).mp dead
    have fewer := Nat.le_trans (registrations_le_later start) few
    have current : (p.systemAfter front).rt.workerBoot = _ := (numbered.run front).current
    refine validateAuthority_stale ?_ ?_
    · rw [← boot]
      exact bootId_isValid fewer earlier
    · rw [← boot, current]
      exact bootId_ne fewer earlier (Nat.le_refl _)

/-- Where the first boot id lies above 8000, it is assigned again. -/
theorem Numbered.not_distinct (numbered : Numbered ⟨1000 + hash % 9000⟩ p.system [] (some p))
    (above : 7000 < hash.toNat % 9000)
    (many : hash.toNat % 9000 - 7000 ≤ registrations (Process.traceOf (some p) cmds)) : ¬(p.boots cmds).Nodup := by
  intro distinct
  rw [numbered.boots_eq cmds] at distinct
  have same := List.inj_on_of_nodup_map distinct (List.mem_range.mpr (by omega)) (List.mem_range.mpr (by omega))
    (bootId_repeats above)
  omega

/-- Once the boot id 0 has been replaced, a request that names none is one of a dead worker, and current. -/
theorem Numbered.not_fenced {first : WorkerBootId} (numbered : Numbered first p.system [] (some p))
    (many : 2 ^ 64 - 8000 + 1 ≤ registrations (Process.traceOf (some p) cmds)) : ¬FreshBoots p cmds := by
  intro fresh
  obtain ⟨front, start, count⟩ := exists_registered (some p) many
  have dead : ({} : WorkerBootId) ∈ (p.boots front).dropLast :=
    (mem_dropLast_boots_iff numbered).mpr ⟨2 ^ 64 - 8000, by omega, bootId_wraps _⟩
  let rt := (p.systemAfter front).rt
  have refused := fresh.fenced front start
    { coordinatorEpoch := rt.epoch, executionId := rt.executionId, attemptId := rt.attemptId
      executionGeneration := rt.executionGeneration, attemptGeneration := rt.attemptGeneration } dead
  rw [validateAuthority_unknown] at refused
  cases refused

end Fresh

/-- In every run of the coordinator the boot ids are fresh exactly when no more workers register again than the limit
    that the hash of the first label sets. -/
theorem boots_fresh_iff (hash : List UInt8 → UInt64) (recover : Option (Option (List UInt8))) (hello reg : Message)
    (inbox : List Message) (acknowledging : Sending) (p : Process)
    (started : Process.startup hash recover (hello :: reg :: inbox) acknowledging = some p) (cmds : List Command) :
    FreshBoots p cmds ↔ registrations (Process.traceOf (some p) cmds) ≤ bootLimit (hash reg.detail) := by
  have numbered := numbered_of_startup started
  constructor
  · intro fresh
    by_contra many
    rw [bootLimit] at many
    split_ifs at many with above
    · exact numbered.not_distinct above (by omega) fresh.distinct
    · exact numbered.not_fenced (by omega) fresh
  · exact numbered.freshBoots

/-- A second worker registers. -/
def secondWorker : Command where
  message := { type := .register }
  accepted := some (Worker.registration ⟨41⟩ [])

/-- A first boot id of 1000 is told from the next one. -/
theorem boots_fresh_second :
    ∃ p, Process.startup (fun _ => 0) none (Worker.registration ⟨40⟩ []) .written = some p ∧
      FreshBoots p [secondWorker] := by
  obtain ⟨p, started⟩ : ∃ p, Process.startup (fun _ => 0) none (Worker.registration ⟨40⟩ []) .written = some p :=
    Option.isSome_iff_exists.mp (by decide +kernel)
  have one : registrations (Process.traceOf (some p) [secondWorker]) = 1 := rfl
  refine ⟨p, started, (boots_fresh_iff (fun _ => 0) none _ _ [] .written p started [secondWorker]).mpr ?_⟩
  rw [one]
  decide

/-- A label whose hash is 7001 gives the first worker boot id 8001, and the next worker gets it too: a request of the
    first one is current again. -/
theorem boot_assigned_twice :
    ∃ p, Process.startup (fun _ => 7001) none (Worker.registration ⟨40⟩ []) .written = some p ∧
      p.boots [secondWorker] = [⟨8001⟩, ⟨8001⟩] ∧ ¬FreshBoots p [secondWorker] := by
  obtain ⟨p, started⟩ : ∃ p, Process.startup (fun _ => 7001) none (Worker.registration ⟨40⟩ []) .written = some p :=
    Option.isSome_iff_exists.mp (by decide +kernel)
  have boots : p.boots [secondWorker] = [⟨8001⟩, ⟨8001⟩] := (numbered_of_startup started).boots_eq [secondWorker]
  refine ⟨p, started, boots, fun fresh => ?_⟩
  have distinct := fresh.distinct
  rw [boots] at distinct
  exact absurd distinct (by decide)

end PreemptionFabric
