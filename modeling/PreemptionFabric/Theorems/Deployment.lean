import PreemptionFabric.Deployment
import PreemptionFabric.Theorems.Boots
import PreemptionFabric.Theorems.Corruption
import PreemptionFabric.Theorems.Images
import PreemptionFabric.Theorems.Sessions

/-! Coordinators that are killed and started again. The image that a completed preemption leaves is accepted, and a new
    coordinator that loads it agrees with the scenario that was saved; an image that was cut short is refused, and the
    new coordinator starts afresh. Whatever is killed when, a deployment shows what the installation does. -/

namespace PreemptionFabric
open Trace Coordinator KeyedMap

/-! ### Evidence -/

/-- What every run brings about and the scenario does not show. -/
structure System.Evidenced (s : System) : Prop where
  reachable : Reachable s
  durable : s.DurablyEvidenced

section Evidence
variable {s t : System} {calls : List RuntimeCall}

theorem System.Evidenced.step (h : s.Evidenced) (op : Op) (decoded : ∀ st, op ≠ .restoreState st) :
    (PreemptionFabric.step s op).2.Evidenced := by
  refine ⟨h.reachable.step op, ?_⟩
  rcases step_cases s op with moved | ⟨idle, _⟩
  · exact h.durable.move (fun _ image => validImage_of_loads (fun st installs => absurd installs (decoded st)) image)
      moved
  · rw [idle]
    exact h.durable

/-- No call installs an image past the decoder. -/
def Decoded (calls : List RuntimeCall) : Prop :=
  ∀ call ∈ calls, ∀ u op, call.op u = some op → ∀ st, op ≠ .restoreState st

theorem System.Evidenced.execCalls (h : s.Evidenced) (decoded : Decoded calls)
    (left : (PreemptionFabric.execCalls s calls).2 = some t) : t.Evidenced := by
  induction calls generalizing s with
  | nil =>
    cases left
    exact h
  | cons call calls ih =>
    have later : Decoded calls := fun call' listed => decoded call' (List.mem_cons_of_mem call listed)
    cases called : call.op s with
    | none =>
      rw [execCalls_skip called] at left
      exact ih h later left
    | some op =>
      cases output : (PreemptionFabric.step s op).1 with
      | error thrown =>
        rw [execCalls_error called output] at left
        cases left
      | ok ret =>
        rw [execCalls_ok called output] at left
        exact ih (h.step op (decoded call List.mem_cons_self s op called)) later left

theorem handle_decoded (c : Coordinator) (cmd : Command) : Decoded (c.handle cmd).1 := by
  intro call listed u op called st restores
  cases registers : cmd.registers with
  | false =>
    have keeps := (handle_keepsBoot c registers).calls call listed u op called
    rw [restores] at keeps
    cases keeps
  | true =>
    rw [Command.registers, Bool.and_eq_true, decide_eq_true_eq] at registers
    obtain ⟨type, accepts⟩ := registers
    split at accepts
    next hello reg inbox accepted =>
      simp only [handle, type, accepted, register, if_pos (of_decide_eq_true accepts), List.mem_singleton] at listed
      rw [listed] at called
      cases called
      cases restores
    next => cases accepts

theorem System.Evidenced.serve {p q : Process} {cmd : Command} (h : p.system.Evidenced)
    (left : (Process.serve (some p) cmd).2 = some q) : q.system.Evidenced := by
  have alive : (Process.step (some p) cmd).2 = some q := by
    cases ended : (Process.step (some p) cmd).2 with
    | none =>
      rw [serve_ended ended] at left
      cases left
    | some q' =>
      simp only [Process.serve, ended] at left
      exact left
  obtain ⟨_, _, t, after, rfl⟩ := process_step_alive alive
  exact h.execCalls (handle_decoded p.coordinator cmd) after

end Evidence

/-! ### The image of a completed preemption -/

/-- A scenario that an image was saved of. -/
structure Scenario.Saved (a : Scenario) : Prop where
  captured : a.captured = true
  preempted : a.isAt .preempted = true

section Image
variable {a : Scenario} {boot : WorkerBootId} {s : System}

theorem Marks.storable {points : Std.ExtTreeMap SafePointId SafePoint compare} {history : List PersistentSuperseded}
    {begun : Bool} (h : Marks points history begun) : All Storable points := by
  intro id sp found
  obtain ⟨rfl, own, known⟩ := h.own id sp found
  exact ⟨own, by decide, known⟩

theorem Holds.fits (h : Holds a boot s) : (encodePayload s.rt.snapshot).length < 2 ^ 32 := by
  have one : s.rt.snapshot.safePoints.length ≤ 1 := by
    rw [PreemptionRuntime.snapshot, List.length_map]
    exact length_toList_le_one fun id sp found => (h.points.own id sp found).1
  have none : s.rt.snapshot.history.length = 0 := by
    rw [PreemptionRuntime.snapshot, h.points.history]
    rfl
  have receipts : s.rt.snapshot.releaseReceipts.length = 0 := rfl
  rw [length_encodePayload, none, receipts]
  omega

theorem Agrees.validImage (h : Agrees a boot s) (evidenced : s.Evidenced) (saved : a.Saved) :
    ValidImage s.rt.snapshot := by
  have lifecycle := h.lifecycle_of_isAt saved.preempted
  have durable : s.rt.machine.isPreemptedDurable = true := by
    rw [LifecycleStateMachine.isPreemptedDurable]
    rw [System.lifecycle] at lifecycle
    rw [lifecycle]
    rfl
  obtain ⟨quiesced, stateDurable, released⟩ := evidenced.durable durable
  have kept := h.checkpoint
  rw [saved.captured] at kept
  obtain ⟨generation, ref⟩ := kept
  exact {
    version := rfl
    quiesced := fun _ => quiesced
    durable := fun _ => stateDurable
    released := fun _ => released
    preempted := fun _ => durable
    preemptedDurable := fun _ => stateDurable
    checkpoint := fun _ => ⟨ref, by
      show s.rt.checkpointGeneration.isValid = true
      rw [generation]
      decide⟩
    safePoints := validateSafePoints_snapshot h.points.storable
    receipts := rfl
    history := validateHistory_eq _ }

theorem Agrees.decodes (h : Agrees a boot s) (evidenced : s.Evidenced) (saved : a.Saved) :
    decode s.persistBytes = .ok s.rt.snapshot := by
  obtain ⟨st, accepted⟩ := (decodes_iff_validImage h.fits).mpr (h.validImage evidenced saved)
  rw [accepted, eq_snapshot_of_decode accepted]

/-- The safe points that an image brings back are those that were saved, under the same ids and in the same states. -/
theorem Marks.restored {s : System} {begun : Bool} (h : Marks s.rt.safePoints s.rt.history begun) (u : System) :
    Marks (u.restored s.rt.snapshot).rt.safePoints (u.restored s.rt.snapshot).rt.history begun := by
  have history : (u.restored s.rt.snapshot).rt.history = s.rt.history := by
    simp only [System.restored, PreemptionRuntime.restored]
    split <;> rfl
  have rebuilt : (u.restored s.rt.snapshot).rt.safePoints =
      s.rt.safePoints.map fun _ sp => sp.toPersistent.toSafePoint := by
    rw [System.restored, PreemptionRuntime.restored_safePoints]
    exact foldl_insert_toList s.rt.safePoints SafePoint.toPersistent (·.id) PersistentSafePoint.toSafePoint
      fun id sp found => (h.own id sp found).2.1
  rw [history, rebuilt]
  refine ⟨?_, fun id sp found => ?_, h.history⟩
  · rw [Std.ExtTreeMap.getElem?_map, Option.isSome_map]
    exact h.declared
  · rw [Std.ExtTreeMap.getElem?_map] at found
    obtain ⟨saved, held, rfl⟩ := Option.map_eq_some_iff.mp found
    exact h.own id saved held

/-- A new coordinator that loads the image of a completed preemption agrees with the scenario that was saved. -/
theorem Agrees.recovered (h : Agrees a boot s) (evidenced : s.Evidenced) (saved : a.Saved) :
    Agrees { a with grantee := some boot } boot
      ((System.construct epoch policyGeneration adapters).restored s.rt.snapshot) := by
  obtain ⟨r, active, _⟩ := Scenario.active_of_isAt saved.preempted
  have request := h.request
  rw [active] at request
  obtain ⟨held, holds, same⟩ := Option.map_eq_some_iff.mp request
  have named : s.rt.snapshot.requestId = held.id ∧ s.rt.snapshot.requestGeneration = held.generation := by
    simp only [PreemptionRuntime.snapshot, holds]
    exact ⟨rfl, rfl⟩
  have identified : s.rt.snapshot.requestId.isValid = true := by
    rw [named.1]
    exact evidenced.reachable.requestValid held holds
  have begun := h.begun_of_isAt saved.preempted
  have scope := h.scope begun
  have kept := h.checkpoint
  rw [saved.captured] at kept
  have lifecycle : ((System.construct epoch policyGeneration adapters).restored s.rt.snapshot).lifecycle =
      a.lifecycle := by
    rw [System.restored_lifecycle]
    exact h.lifecycle
  have points := h.points.restored (System.construct epoch policyGeneration adapters)
  refine ⟨⟨?_, ?_, ?_, fun _ => ?_, fun never => absurd (begun.symm.trans never) (by decide), points, ?_, ?_, ?_, ?_⟩,
    lifecycle⟩
  · simp only [System.restored, PreemptionRuntime.restored, if_pos identified]
    rfl
  · simp only [System.restored, PreemptionRuntime.restored_workerBoot]
    exact h.boot
  · simp only [System.restored, PreemptionRuntime.restored_activeRequest, if_pos identified]
    rw [active]
    show some (s.rt.snapshot.requestId, s.rt.snapshot.requestGeneration) = _
    rw [named.1, named.2]
    exact congrArg some same
  · simp only [InScope, System.restored, PreemptionRuntime.restored_executionId, PreemptionRuntime.restored_attemptId,
      PreemptionRuntime.restored_executionGeneration, PreemptionRuntime.restored_attemptGeneration]
    exact scope
  · exact ⟨backed_adapters.quiet, rfl, rfl, rfl, rfl, rfl⟩
  · simp only [saved.captured, Keeps, System.restored, PreemptionRuntime.restored_checkpointGeneration,
      PreemptionRuntime.restored_checkpointRef]
    exact kept
  · simp only [System.restored, PreemptionRuntime.restored, if_pos identified]
    exact h.durable
  · exact ⟨rfl, scope.1, scope.2.2.1, h.boot⟩

end Image

/-! ### The file -/

/-- A new coordinator recovers the scenario from the file, or finds nothing there that it accepts. -/
def Recovers (file : Option (List UInt8)) : Option Scenario → Prop
  | none => ∀ bytes, file = some bytes → ∃ e, decode bytes = .error e
  | some a => a.Saved ∧ ∃ bytes st boot, file = some bytes ∧ decode bytes = .ok st ∧
      Agrees a boot ((System.construct epoch policyGeneration adapters).restored st)

section File
variable {file : Option (List UInt8)} {kept : Option Scenario} {a : Scenario} {image : List UInt8}

theorem load_some (s : System) (bytes : List UInt8) : step s (.load (some bytes)) = step s (.restoreBytes bytes) := rfl

theorem Recovers.load (h : Recovers file kept) :
    ∃ boot t, step (.construct epoch policyGeneration adapters) (.load file) = (.ok (.bool kept.isSome), t) ∧
      Agrees (kept.getD {}) boot t := by
  cases kept with
  | none =>
    refine ⟨{}, .construct epoch policyGeneration adapters, ?_, construct_agrees⟩
    cases file with
    | none => rfl
    | some bytes =>
      obtain ⟨e, rejected⟩ := h bytes rfl
      rw [load_some, restoreBytes_rejected rejected]
      rfl
  | some a =>
    obtain ⟨_, bytes, st, boot, rfl, accepted, agrees⟩ := h
    exact ⟨boot, _, by rw [load_some, restoreBytes_step accepted]; rfl, agrees⟩

/-- A write that is cut short leaves nothing that is accepted. -/
theorem Recovers.torn (h : Recovers (some image) (some a)) (missing : Nat) :
    Recovers (some (image.take (image.length - (missing + 1)))) none := by
  obtain ⟨_, bytes, st, boot, ⟨⟩, accepted, _⟩ := h
  have size : 0 < image.length := by
    by_contra empty
    have nothing : image = [] := List.length_eq_zero_iff.mp (by omega)
    rw [nothing] at accepted
    cases accepted
  have rejected := images_selfDescribing.rejects ⟨st, accepted⟩ (.cut (n := image.length - (missing + 1)) (by omega))
  rintro bytes ⟨⟩
  cases result : decode (image.take (image.length - (missing + 1))) with
  | error e => exact ⟨e, rfl⟩
  | ok st' => exact absurd ⟨st', result⟩ rejected

theorem Recovers.save (h : Recovers file kept) (saved : Recovers (some image) (some a)) (write : Write) :
    Recovers (write.save image file) (write.keep (some a) kept) := by
  cases write with
  | whole => exact saved
  | torn missing => exact saved.torn missing
  | unopened => exact h

/-- What is saved is recovered. -/
theorem Agrees.recovers {boot : WorkerBootId} {s : System} (h : Agrees a boot s) (evidenced : s.Evidenced)
    (saved : a.Saved) : Recovers (some s.persistBytes) (some { a with grantee := some boot }) :=
  ⟨⟨saved.captured, saved.preempted⟩, _, _, boot, rfl, h.decodes evidenced saved, h.recovered evidenced saved⟩

end File

/-! ### Deployments -/

/-- A command saves only where its preemption commits. -/
theorem Scenario.saves_preempted {a b : Scenario} {c : Coordinator} {cmd : Command} {lines : List Line}
    (handled : a.handle c cmd = some ((lines, true), b)) : b.Saved := by
  unfold Scenario.handle at handled
  split at handled
  · cases handled
  · split at handled
    · cases handled
    · split_ifs at handled
      cases handled
  · split_ifs at handled
    · simp only [Option.some.injEq, Prod.mk.injEq] at handled
      obtain ⟨⟨_, commits⟩, rfl⟩ := handled
      have quiescing := (Bool.and_eq_true_iff.mp commits).1
      rw [Scenario.quiesce, if_pos commits]
      exact ⟨rfl, Scenario.isAt_moveTo quiescing .preempted .preempted⟩
    · cases handled
  · cases handled
  · cases handled
  · cases handled
  · cases handled

section Served
variable {p : Process} {a : Scenario} {cmd : Command}

/-- The image that a command saves is that of the process after it. -/
theorem serve_image {image : List UInt8} (saves : (Process.serve (some p) cmd).1.image = some image) :
    ∃ q, (Process.serve (some p) cmd).2 = some q ∧ image = q.system.persistBytes := by
  rw [Process.serve] at saves ⊢
  split at saves
  next => cases saves
  next q alive =>
    refine ⟨q, rfl, ?_⟩
    rw [saved] at saves
    split_ifs at saves
    exact (Option.some.inj saves).symm

/-- What a session saves, it is at. -/
theorem Session.saves_preempted {q : Option Session} (saves : (Session.step q cmd).1.2 = true) :
    ∃ r, (Session.step q cmd).2 = some r ∧ r.scenario.Saved := by
  cases q with
  | none => cases saves
  | some q =>
    rw [Session.step] at saves ⊢
    split_ifs at saves ⊢
    rw [Session.handle] at saves ⊢
    split at saves
    next => cases saves
    next output b handled =>
      obtain ⟨lines, saved⟩ := output
      obtain rfl : saved = true := saves
      exact ⟨_, rfl, Scenario.saves_preempted handled⟩

end Served

/-- The deployment and the installation agree. -/
structure Installs (d : Deployment) (e : Installation) : Prop where
  file : Recovers d.file e.file
  saves : d.saves = e.saves
  session : Represents d.process e.session
  evidenced : ∀ p, d.process = some p → p.system.Evidenced

section Installs
variable {d : Deployment} {e : Installation}

theorem Installs.fileAfter (h : Installs d e) (cmd : Command) (write : Write) :
    Recovers (d.fileAfter write (Process.serve d.process cmd).1.image)
      (e.fileAfter write (Session.step e.session cmd)) := by
  obtain ⟨shown, related⟩ := represents_step cmd h.session
  have same : (Process.serve d.process cmd).1.image.isSome = (Session.step e.session cmd).1.2 := congrArg Prod.snd shown
  cases image : (Process.serve d.process cmd).1.image with
  | none =>
    rw [image] at same
    rw [Installation.fileAfter, ← same]
    exact h.file
  | some bytes =>
    rw [image] at same
    obtain ⟨r, ended, preempted⟩ := Session.saves_preempted same.symm
    cases running : d.process with
    | none =>
      rw [running] at image
      cases image
    | some p =>
      rw [running] at image related
      obtain ⟨q, alive, rfl⟩ := serve_image image
      rw [alive, ended] at related
      obtain ⟨coordinator, agrees⟩ := related
      have evidenced := (h.evidenced p running).serve alive
      rw [Deployment.fileAfter, Installation.fileAfter, ← same, ← h.saves, ended]
      cases d.saves with
      | false => exact h.file
      | true =>
        have image : r.image = { r.scenario with grantee := some q.coordinator.boot } := by
          rw [Session.image, coordinator]
        have saved := agrees.recovers evidenced preempted
        rw [← image] at saved
        exact h.file.save saved write

/-- The process up to its loop, from the system that it has recovered. -/
theorem startup_from {recover : Option (Option (List UInt8))} {t : System}
    (loaded : (execCalls (.construct epoch policyGeneration adapters)
      (recover.map fun file => RuntimeCall.of (.load file)).toList).2 = some t)
    (hash : List UInt8 → UInt64) (arrivals : List Message) (acknowledging : Sending) :
    Process.startup hash recover arrivals acknowledging =
      (Process.startup hash none arrivals acknowledging).map fun p =>
        ⟨p.coordinator, t.reincarnated p.coordinator.workerId p.coordinator.boot⟩ := by
  unfold Process.startup
  split
  next hello reg inbox =>
    split_ifs
    · simp only [execCalls_append, loaded]
      rfl
    · rfl
  next => rfl

theorem construct_evidenced_system : (System.construct epoch policyGeneration adapters).Evidenced :=
  ⟨⟨_, _, _, [], rfl⟩, nofun⟩

/-- What a coordinator has recovered when its first worker registers. -/
theorem Installs.loaded (h : Installs d e) (recovers : Bool) :
    ∃ t, (execCalls (.construct epoch policyGeneration adapters)
        ((if recovers then some d.file else none).map fun file => RuntimeCall.of (.load file)).toList).2 = some t ∧
      t.Evidenced ∧ ∃ boot, Agrees (if recovers then e.file.getD {} else {}) boot t := by
  cases recovers with
  | false => exact ⟨_, rfl, construct_evidenced_system, {}, construct_agrees⟩
  | true =>
    obtain ⟨boot, t, loads, agrees⟩ := h.file.load
    have evidenced := construct_evidenced_system.step (.load d.file) fun _ restores => by cases restores
    rw [loads] at evidenced
    simp only [if_true]
    refine ⟨t, ?_, evidenced, boot, agrees⟩
    have returned : (step (.construct epoch policyGeneration adapters) (.load d.file)).1 = .ok (.bool e.file.isSome) := by
      rw [loads]
    rw [Option.map_some, Option.toList_some, execCalls_returned returned, loads]
    rfl

theorem Installs.start (h : Installs d e) (hash : List UInt8 → UInt64) (recovers : Bool) (arrivals : List Message)
    (acknowledging : Sending) :
    Represents (Deployment.start hash recovers arrivals acknowledging d.file)
        (Installation.start hash arrivals acknowledging (if recovers then e.file.getD {} else {})) ∧
      ∀ p, Deployment.start hash recovers arrivals acknowledging d.file = some p → p.system.Evidenced := by
  obtain ⟨t, loaded, evidenced, boot, agrees⟩ := h.loaded recovers
  rw [Deployment.start, startup_from loaded, Installation.start]
  generalize Process.startup hash none arrivals acknowledging = started
  cases started with
  | none => exact ⟨trivial, fun p running => nomatch running⟩
  | some p =>
    have registered := (agrees.registered p.coordinator.workerId p.coordinator.boot).2
    have incarnated := evidenced.step (.setWorkerIncarnation p.coordinator.workerId p.coordinator.boot)
      fun _ restores => by cases restores
    refine ⟨⟨rfl, registered⟩, fun q running => ?_⟩
    cases running
    exact incarnated

theorem Recovers.loads {file : Option (List UInt8)} {kept : Option Scenario} (h : Recovers file kept) :
    Deployment.loads file = kept.isSome := by
  obtain ⟨boot, t, loads, _⟩ := h.load
  rw [Deployment.loads, loads]

theorem Installs.served (h : Installs d e) (cmd : Command) :
    (Process.serve d.process cmd).1.lines = (Session.step e.session cmd).1.1 ∧
      Represents (Process.serve d.process cmd).2 (Session.step e.session cmd).2 ∧
      ∀ q, (Process.serve d.process cmd).2 = some q → q.system.Evidenced := by
  obtain ⟨shown, related⟩ := represents_step cmd h.session
  refine ⟨congrArg Prod.fst shown, related, fun q alive => ?_⟩
  cases running : d.process with
  | none =>
    rw [running] at alive
    cases alive
  | some p =>
    rw [running] at alive
    exact (h.evidenced p running).serve alive

/-- A deployment and an installation that agree show the same whatever happens to them, and agree after it. -/
theorem Installs.step (hash : List UInt8 → UInt64) (act : Act) (h : Installs d e) :
    (Deployment.step hash d act).1 = (Installation.step hash e act).1 ∧
      Installs (Deployment.step hash d act).2 (Installation.step hash e act).2 := by
  cases act with
  | start recovers saves arrivals acknowledging =>
    obtain ⟨related, evidenced⟩ := h.start hash recovers arrivals acknowledging
    refine ⟨?_, h.file, rfl, related, evidenced⟩
    rw [Deployment.step, Installation.step, h.file.loads]
  | command cmd write =>
    obtain ⟨lines, related, evidenced⟩ := h.served cmd
    refine ⟨?_, h.fileAfter cmd write, h.saves, related, evidenced⟩
    rw [Deployment.step, Installation.step, lines]
  | kill => exact ⟨rfl, h.file, h.saves, trivial, fun p running => nomatch running⟩
  | killSaving cmd write =>
    exact ⟨rfl, h.fileAfter cmd write, h.saves, trivial, fun p running => nomatch running⟩

end Installs

theorem installs_empty : Installs {} {} := by
  refine ⟨fun bytes present => ?_, rfl, trivial, fun p running => ?_⟩
  · cases present
  · cases running

/-- Whatever is started, commanded and killed in a deployment that begins without a file, and wherever a save is cut
    short, it shows what the installation does. -/
theorem deployment_refines (hash : List UInt8 → UInt64) (acts : List Act) :
    (trace (Deployment.step hash) {} acts).map Event.output =
      (trace (Installation.step hash) {} acts).map Event.output :=
  (simulation (Deployment.step hash) id (fun act related => related.step hash act) installs_empty acts).1

/-! ### Lives -/

/-- The commands of one life of a coordinator, with what becomes of a save. -/
def Act.commands (cmds : List (Command × Write)) : List Act := cmds.map fun c => .command c.1 c.2

section Lives
variable {d : Deployment} {e : Installation}

theorem Installs.run (h : Installs d e) (hash : List UInt8 → UInt64) (acts : List Act) :
    (trace (Deployment.step hash) d acts).flatMap (·.output.lines) =
        (trace (Installation.step hash) e acts).flatMap (·.output.lines) ∧
      Installs (exec (Deployment.step hash) d acts) (exec (Installation.step hash) e acts) := by
  obtain ⟨shown, related⟩ :=
    simulation (Deployment.step hash) id (fun act related => Installs.step hash act related) h acts
  refine ⟨?_, related⟩
  have lines := congrArg (List.flatMap Shown.lines) shown
  rw [List.flatMap_map, List.flatMap_map] at lines
  exact lines

/-- What a life prints is what its session does. -/
theorem Installation.run_commands (hash : List UInt8 → UInt64) (e : Installation) (cmds : List (Command × Write)) :
    (trace (Installation.step hash) e (Act.commands cmds)).flatMap (·.output.lines) =
        ((trace Session.step e.session (cmds.map Prod.fst)).map Event.output).flatMap Prod.fst ∧
      (exec (Installation.step hash) e (Act.commands cmds)).session =
        exec Session.step e.session (cmds.map Prod.fst) := by
  induction cmds generalizing e with
  | nil => exact ⟨rfl, rfl⟩
  | cons c cmds ih =>
    obtain ⟨lines, session⟩ := ih (Installation.step hash e (.command c.1 c.2)).2
    refine ⟨?_, session⟩
    rw [Act.commands, List.map_cons, trace, List.flatMap_cons, List.map_cons, trace, List.map_cons, List.flatMap_cons]
    exact congrArg (_ ++ ·) lines

theorem Recovers.saved {file : Option (List UInt8)} {a : Scenario} (h : Recovers file (some a)) :
    a.Saved ∧ a.begun = true := by
  obtain ⟨saved, bytes, st, boot, _, _, agrees⟩ := h
  exact ⟨saved, agrees.begun_of_isAt saved.preempted⟩

theorem Tells.start {told : List Line} {a : Scenario} (h : Told told a) (hash : List UInt8 → UInt64)
    (arrivals : List Message) (acknowledging : Sending) :
    Tells told (Installation.start hash arrivals acknowledging a) := by
  rw [Installation.start]
  cases Process.startup hash none arrivals acknowledging with
  | none => exact h.within
  | some p => exact h

theorem Scenario.Saved.told {a : Scenario} (h : a.Saved) : Told [.preempted true .preempted] a := by
  refine ⟨fun fresh => ?_, fun _ => rfl, ⟨[.resumed true .resumed], rfl⟩⟩
  rw [h.captured] at fresh
  cases fresh

end Lives

/-- In every life of a coordinator, whatever came before it, at most one preemption and then at most one resume is
    reported to have succeeded; and where the life began with a file that was loaded, only the resume. -/
theorem lives_succeed_once (hash : List UInt8 → UInt64) (acts : List Act) (recovers saves : Bool)
    (arrivals : List Message) (acknowledging : Sending) (cmds : List (Command × Write)) :
    let born :=
      Deployment.step hash (exec (Deployment.step hash) {} acts) (.start recovers saves arrivals acknowledging)
    ((trace (Deployment.step hash) born.2 (Act.commands cmds)).flatMap (·.output.lines)).filter Line.succeeds <+:
      if born.1.recovered = some true then [.resumed true .resumed] else successes := by
  intro born
  have installs := (installs_empty.run hash acts).2
  obtain ⟨shown, started⟩ := installs.step hash (.start recovers saves arrivals acknowledging)
  rw [(started.run hash (Act.commands cmds)).1, shown, (Installation.run_commands hash _ cmds).1]
  generalize exec (Installation.step hash) {} acts = e at installs ⊢
  have fresh := ((Tells.start Told.fresh hash arrivals acknowledging).run (cmds.map Prod.fst)).within
  cases recovers with
  | false => exact fresh
  | true =>
    cases kept : e.file with
    | none =>
      rw [Installation.step]
      simp only [kept]
      exact fresh
    | some a =>
      have file := installs.file
      rw [kept] at file
      have told := ((Tells.start file.saved.1.told hash arrivals acknowledging).run (cmds.map Prod.fst)).within
      rw [Installation.step]
      simp only [kept]
      exact (List.prefix_append_right_inj _).mp told

/-! ### Resuming after a recovery -/

/-- The command neither starts the execution anew, nor resumes it, nor ends the process, which its frame may kill. -/
def Command.waits (cmd : Command) : Bool :=
  cmd.message.type ≠ .beginExecution && cmd.message.type ≠ .requestResume && cmd.message.type ≠ .shutdown && !cmd.kills

/-- The session is alive, and its preemption stands. -/
def Standing : Option Session → Prop
  | none => False
  | some q => q.scenario.begun = true ∧ q.scenario.isAt .preempted = true

section Standing
variable {a : Scenario} {v : Option Session} {cmd : Command}

/-- While a preemption stands, another request, an answer of the worker and a replay change nothing. -/
theorem Scenario.stands (stands : a.isAt .preempted = true) (boot : WorkerBootId) (msg : Message) :
    a.preempt = a ∧ a.quiesce = a ∧ a.replay boot msg = a := by
  obtain ⟨r, active, stage⟩ := Scenario.active_of_isAt stands
  have other (next : Stage) (different : next ≠ .preempted) : a.isAt next = false := by
    simp [Scenario.isAt, active, stage, different.symm]
  refine ⟨?_, ?_, ?_⟩
  · rw [Scenario.preempt, active]
    simp only [other .requested (by decide), Bool.false_eq_true, if_false]
  · rw [Scenario.quiesce, Scenario.commits, other .quiescing (by decide)]
    rfl
  · have refused : a.admission boot msg ≠ .accepted := by
      simp only [Scenario.admission, active]
      split_ifs <;> decide
    rw [Scenario.replay, if_neg refused]

theorem Standing.step (h : Standing v) (waits : cmd.waits = true) : Standing (Session.step v cmd).2 := by
  cases v with
  | none => exact h
  | some q =>
    obtain ⟨begun, stands⟩ := h
    simp only [Command.waits, Bool.and_eq_true, decide_eq_true_eq, ne_eq, Bool.not_eq_true'] at waits
    obtain ⟨⟨⟨other, waits⟩, running⟩, survives⟩ := waits
    obtain ⟨preempt, quiesce, replay⟩ := Scenario.stands stands q.coordinator.boot cmd.message
    have published (position : UInt64) (kind : ProgressKind) :
        (q.scenario.publish q.coordinator.boot position kind).begun = true ∧
          (q.scenario.publish q.coordinator.boot position kind).isAt .preempted = true := by
      rw [Scenario.publish]
      split_ifs
      · exact ⟨begun, stands⟩
      · exact ⟨begun, stands⟩
    rw [session_step running survives, Session.handle, Scenario.handle]
    cases type : cmd.message.type with
    | beginExecution => exact absurd type other
    | requestResume => exact absurd type waits
    | publishProgress =>
      simp only [begun, if_true]
      cases Scenario.replies q.coordinator cmd with
      | none => exact ⟨begun, stands⟩
      | some both => exact published both.1.progressPosition both.1.progressKind
    | requestPreemption =>
      simp only [begun, if_true, preempt, quiesce]
      cases (Scenario.reply q.coordinator cmd).isSome with
      | false => exact ⟨begun, stands⟩
      | true => exact ⟨begun, stands⟩
    | replayStale =>
      simp only [replay]
      exact ⟨begun, stands⟩
    | _ => exact ⟨begun, stands⟩

theorem Standing.run (h : Standing v) {cmds : List Command} (waits : ∀ cmd ∈ cmds, cmd.waits = true) :
    Standing (exec Session.step v cmds) := by
  induction cmds generalizing v with
  | nil => exact h
  | cons cmd cmds ih =>
    rw [List.forall_mem_cons] at waits
    exact ih (h.step waits.1) waits.2

theorem Standing.resumes (h : Standing v) (resumes : cmd.message.type = .requestResume) :
    (Session.step v cmd).1.1 = [.resumed true .resumed, .driveResume true] := by
  cases v with
  | none => exact h.elim
  | some q =>
    have lifecycle : (q.scenario.resume q.coordinator.boot).lifecycle = .resumed := by
      rw [Scenario.resume, if_pos h.2]
      exact Scenario.lifecycle_moveTo h.2 .resumed
    have survives : cmd.kills = false := kills_of_silent (by simp [Command.sends, Command.registers, resumes])
    rw [session_step (by simp [resumes]) survives, Session.handle, Scenario.handle]
    simp only [resumes, lifecycle, h.2]

end Standing

/-- A coordinator that has loaded the file, and whose first worker has registered, resumes the execution when it is
    first asked to, whatever else it has been asked for before, unless that started the execution anew or ended the
    process. -/
theorem recovered_resumes (hash : List UInt8 → UInt64) (acts : List Act) (saves : Bool) (arrivals : List Message)
    (acknowledging : Sending) (cmds : List (Command × Write)) (cmd : Command) (write : Write)
    (recovered : (Deployment.step hash (exec (Deployment.step hash) {} acts)
      (.start true saves arrivals acknowledging)).1.recovered = some true)
    (registered : (Process.startup hash none arrivals acknowledging).isSome = true)
    (waits : ∀ c ∈ cmds, c.1.waits = true) (resumes : cmd.message.type = .requestResume) :
    (Deployment.step hash
      (exec (Deployment.step hash) {} (acts ++ .start true saves arrivals acknowledging :: Act.commands cmds))
      (.command cmd write)).1.lines = [.resumed true .resumed, .driveResume true] := by
  have installs := (installs_empty.run hash acts).2
  obtain ⟨shown, started⟩ := installs.step hash (.start true saves arrivals acknowledging)
  rw [exec_append]
  show (Deployment.step hash
    (exec (Deployment.step hash) (Deployment.step hash _ (.start true saves arrivals acknowledging)).2
    (Act.commands cmds)) (.command cmd write)).1.lines = _
  have later := (started.run hash (Act.commands cmds)).2
  rw [(later.step hash (.command cmd write)).1]
  show (Session.step (exec (Installation.step hash) _ (Act.commands cmds)).session cmd).1.1 = _
  rw [(Installation.run_commands hash _ cmds).2]
  refine Standing.resumes (Standing.run ?_ fun c listed => ?_) resumes
  · rw [shown] at recovered
    generalize exec (Installation.step hash) {} acts = e at installs recovered ⊢
    have file := installs.file
    cases kept : e.file with
    | none =>
      simp [Installation.step, kept] at recovered
    | some a =>
      rw [kept] at file
      obtain ⟨saved, begun⟩ := file.saved
      obtain ⟨p, started⟩ := Option.isSome_iff_exists.mp registered
      simp only [Installation.step, Installation.start, started, kept]
      exact ⟨begun, saved.preempted⟩
  · obtain ⟨both, member, rfl⟩ := List.mem_map.mp listed
    exact waits both member

/-- A coordinator that begins the execution, preempts it, saves it and is killed. -/
def preemptedLife : List Act :=
  [.start true true (Worker.registration ⟨40⟩ []) .written, .command { message := { type := .beginExecution } } .whole,
    .command { message := { type := .requestPreemption }, arrivals := [{ type := .quiesced }] } .whole, .kill]

/-- The next one loads the file and resumes the execution after another request for its preemption. -/
theorem recovered_resumes_preempted :
    (Deployment.step (fun _ => 0)
      (exec (Deployment.step fun _ => 0) {} (preemptedLife ++ .start true true (Worker.registration ⟨40⟩ []) .written ::
        Act.commands [({ message := { type := .requestPreemption } }, .whole)]))
      (.command { message := { type := .requestResume } } .whole)).1.lines =
        [.resumed true .resumed, .driveResume true] := by
  refine recovered_resumes (fun _ => 0) preemptedLife true _ _ _ _ .whole ?_ rfl (by decide) rfl
  have installs := (installs_empty.run (fun _ => 0) preemptedLife).2
  rw [(installs.step (fun _ => 0) (.start true true (Worker.registration ⟨40⟩ []) .written)).1]
  decide +kernel

/-! ### One preemption for all lives -/

/-- The line reports a preemption that succeeded. -/
def Line.preempts : Line → Bool
  | .preempted true _ => true
  | _ => false

theorem Line.succeeds_of_preempts {line : Line} (preempts : line.preempts = true) : line.succeeds = true := by
  unfold Line.preempts at preempts
  split at preempts
  · rfl
  · cases preempts

/-- Every coordinator is to recover and to save, and no write is cut short. -/
def Act.careful : Act → Bool
  | .start recovers saves _ _ => recovers && saves
  | .command _ write | .killSaving _ write => write = .whole
  | .kill => true

section Once
variable {a b : Scenario} {cmd : Command} {n : Nat} {e : Installation}

/-- What a command that prints `lines` makes of the capture: it is the first one, which is saved and reported, or the
    capture stays and nothing is. -/
def Captures (before : Bool) (output : List Line × Bool) (after : Bool) : Prop :=
  if output.2 then
    before = false ∧ after = true ∧ output.1.countP Line.preempts = 1
  else
    after = before ∧ output.1.countP Line.preempts = 0

theorem Scenario.quiesce_captures (a : Scenario) :
    Captures a.captured ([.preempted a.commits a.quiesce.lifecycle, .drivePreemption a.commits], a.commits)
      a.quiesce.captured := by
  rw [Captures, Scenario.quiesce]
  cases commits : a.commits with
  | true => exact ⟨by simpa using (Bool.and_eq_true_iff.mp commits).2, rfl, rfl⟩
  | false =>
    refine ⟨?_, rfl⟩
    simp only [Bool.false_eq_true, if_false]
    split_ifs <;> rfl

theorem Scenario.handle_captures {c : Coordinator} {output : List Line × Bool}
    (handled : a.handle c cmd = some (output, b)) : Captures a.captured output b.captured := by
  unfold Scenario.handle at handled
  split at handled
  · cases handled
    exact ⟨rfl, rfl⟩
  · split at handled
    · cases handled
      exact ⟨rfl, rfl⟩
    · split_ifs at handled
      cases handled
      refine ⟨?_, rfl⟩
      rw [Scenario.publish]
      split_ifs <;> rfl
  · split_ifs at handled
    · cases handled
      rw [← a.preempt_captured]
      exact a.preempt.quiesce_captures
    · cases handled
      exact ⟨a.preempt_captured, rfl⟩
  · cases handled
    refine ⟨?_, ?_⟩
    · rw [Scenario.resume]
      split_ifs <;> rfl
    · rfl
  · cases handled
    refine ⟨rfl, ?_⟩
    rw [List.countP_eq_zero]
    intro line listed preempts
    rw [List.mem_singleton.mp listed] at preempts
    exact absurd (Line.succeeds_of_preempts preempts) (by simp [registerLine_succeeds])
  · cases handled
    refine ⟨?_, rfl⟩
    rw [Scenario.replay]
    split_ifs <;> rfl
  · cases handled
    exact ⟨rfl, rfl⟩

/-- A session that goes on after a command. -/
theorem Session.step_captures {q r : Session} (alive : (Session.step (some q) cmd).2 = some r) :
    Captures q.scenario.captured (Session.step (some q) cmd).1 r.scenario.captured := by
  rw [Session.step] at alive ⊢
  split_ifs at alive ⊢
  rw [Session.handle] at alive ⊢
  split at alive
  next => cases alive
  next output b handled =>
    cases alive
    exact Scenario.handle_captures handled

/-- A session that ends with a command shows nothing. -/
theorem Session.step_ended {v : Option Session} (ended : (Session.step v cmd).2 = none) :
    (Session.step v cmd).1 = ([], false) := by
  cases v with
  | none => rfl
  | some q =>
    rw [Session.step] at ended ⊢
    split_ifs at ended ⊢
    · rfl
    · rw [Session.handle] at ended ⊢
      split at ended
      next => rfl
      next => cases ended

/-- The preemption that was reported, if any, is in the file, and every session has captured what the file holds. -/
structure Once (n : Nat) (e : Installation) : Prop where
  session : ∀ q ∈ e.session, e.saves = true ∧ q.scenario.captured = e.file.isSome
  file : ∀ a ∈ e.file, a.captured = true
  unsaved : e.file = none → n = 0
  once : n ≤ 1

theorem Once.ended (h : Once n e) : Once n { e with session := none } :=
  ⟨fun q alive => (Option.not_mem_none q alive).elim, h.file, h.unsaved, h.once⟩

/-- A session that goes on adds the preemption that it reports to the file. -/
theorem Once.alive (h : Once n e) {q r : Session} (running : e.session = some q)
    (alive : (Session.step (some q) cmd).2 = some r) :
    Once (n + (Session.step (some q) cmd).1.1.countP Line.preempts)
      { e with file := e.fileAfter .whole (Session.step (some q) cmd), session := some r } := by
  obtain ⟨saves, held⟩ := h.session q running
  have captures := Session.step_captures alive
  rw [Captures] at captures
  rw [Installation.fileAfter, saves, alive, Bool.and_true]
  split_ifs at captures ⊢
  · obtain ⟨before, after, reported⟩ := captures
    have none : e.file = none := by
      rw [held] at before
      exact Option.isSome_eq_false_iff.mp before |> Option.isNone_iff_eq_none.mp
    rw [h.unsaved none, reported]
    refine ⟨fun s member => ?_, fun a member => ?_, nofun, Nat.le_refl 1⟩
    · cases member
      exact ⟨rfl, after⟩
    · cases member
      exact after
  · obtain ⟨same, reported⟩ := captures
    rw [reported]
    refine ⟨fun s member => ?_, h.file, h.unsaved, h.once⟩
    cases member
    exact ⟨rfl, same.trans held⟩

theorem Once.served (h : Once n e) (cmd : Command) :
    Once (n + (Session.step e.session cmd).1.1.countP Line.preempts)
      { e with file := e.fileAfter .whole (Session.step e.session cmd), session := (Session.step e.session cmd).2 } := by
  cases ended : (Session.step e.session cmd).2 with
  | none =>
    rw [Installation.fileAfter, Session.step_ended ended]
    exact h.ended
  | some r =>
    cases running : e.session with
    | none =>
      rw [running] at ended
      cases ended
    | some q =>
      rw [running] at ended
      exact h.alive running ended

/-- A coordinator that is killed while it saves has not reported what the file then holds. -/
theorem Once.silent {m : Nat} (h : Once (n + m) e) : Once n e :=
  ⟨h.session, h.file, fun none => Nat.eq_zero_of_add_eq_zero_right (h.unsaved none), Nat.le_of_add_right_le h.once⟩

theorem Once.step (h : Once n e) (hash : List UInt8 → UInt64) {act : Act} (careful : act.careful = true) :
    Once (n + (Installation.step hash e act).1.lines.countP Line.preempts) (Installation.step hash e act).2 := by
  cases act with
  | start recovers saves arrivals acknowledging =>
    obtain ⟨rfl, rfl⟩ := Bool.and_eq_true_iff.mp careful
    refine ⟨fun q member => ⟨rfl, ?_⟩, h.file, h.unsaved, h.once⟩
    obtain ⟨p, _, rfl⟩ := Option.map_eq_some_iff.mp member
    show (e.file.getD {}).captured = e.file.isSome
    cases kept : e.file with
    | none => rfl
    | some a => exact h.file a kept
  | command cmd write =>
    obtain rfl : write = .whole := of_decide_eq_true careful
    exact h.served cmd
  | kill => exact h.ended
  | killSaving cmd write =>
    obtain rfl : write = .whole := of_decide_eq_true careful
    exact (h.served cmd).silent.ended

end Once

end PreemptionFabric
