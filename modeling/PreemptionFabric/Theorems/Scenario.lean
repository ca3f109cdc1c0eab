import PreemptionFabric.Scenario
import PreemptionFabric.Theorems.Coordinator
import PreemptionFabric.Theorems.Driving

/-! The coordinator prints what the scenario does. Its system agrees with the scenario after every command, whatever the
    controller asks for, whatever the workers answer and whenever they are replaced; what the controller can observe of
    a run is therefore decided by the few facts that the scenario keeps. -/

namespace PreemptionFabric
open Trace Coordinator KeyedMap PreemptionFabric.Action

/-! ### Agreement -/

/-- What the coordinator relies on of the adapters and never changes: nothing is active, captures succeed, the one
    checkpoint generation is current, and the contract is that of the execution. -/
structure Backed (ad : ReferenceAdapters) : Prop where
  quiet : isQuiescedAll ad = true
  succeeds : ad.captureDefault = true
  valid : ad.checkpointValid = true
  current : ad.currentCheckpointGen = ⟨1⟩
  contract : ad.contractExecution = execId
  dependency : ad.resumeDep.status = .current

/-- The worker boot that the adapters hold authoritative for the attempt. -/
def Grants (ad : ReferenceAdapters) : Option WorkerBootId → Prop
  | none => ad.attemptAuthoritative = false
  | some boot =>
    ad.attemptAuthoritative = true ∧ ad.attemptExecution = execId ∧ ad.attemptAttempt = attemptId ∧ ad.attemptBoot = boot

/-- The checkpoint of the runtime: none yet, or the one that the adapters accept. -/
def Keeps (s : System) (captured : Bool) : Prop :=
  if captured then s.rt.checkpointGeneration = ⟨1⟩ ∧ s.rt.checkpointRef.isValid = true
  else s.rt.checkpointGeneration = {} ∧ s.rt.checkpointRef = {} ∧ s.ad.captureCount = 0

/-- The one safe point that the coordinator declares, and a history without requests that were superseded. -/
structure Marks (safePoints : Std.ExtTreeMap SafePointId SafePoint compare) (history : List PersistentSuperseded)
    (begun : Bool) : Prop where
  declared : safePoints[safePoint]?.isSome = begun
  own : All (fun id sp => id = safePoint ∧ sp.id = id ∧ isKnownSafePointState sp.state = true) safePoints
  history : history = []

def InScope (rt : PreemptionRuntime) : Prop :=
  rt.executionId = execId ∧ rt.executionGeneration = execGen ∧ rt.attemptId = attemptId ∧ rt.attemptGeneration = attemptGen

/-- The system and the scenario agree, up to the lifecycle. -/
structure Holds (a : Scenario) (boot : WorkerBootId) (s : System) : Prop where
  epoch : s.rt.epoch = Coordinator.epoch
  boot : s.rt.workerBoot = boot
  request : s.rt.activeRequest.map (fun req => (req.id, req.generation)) =
    a.active.map fun r => (r.id, r.generation)
  scope : a.begun = true → InScope s.rt
  unbegun : a.begun = false → s.rt.executionId = {} ∧ a.active = none
  points : Marks s.rt.safePoints s.rt.history a.begun
  backed : Backed s.ad
  checkpoint : Keeps s a.captured
  durable : s.rt.durablePosition = a.durable
  grantee : Grants s.ad a.grantee

structure Agrees (a : Scenario) (boot : WorkerBootId) (s : System) : Prop extends Holds a boot s where
  lifecycle : s.lifecycle = a.lifecycle

section Frames
variable {a : Scenario} {boot : WorkerBootId} {s : System}

theorem Backed.releaseLeases {ad : ReferenceAdapters} (backed : Backed ad) (e : ExecutionId) :
    Backed (releaseLeases ad e) := by
  obtain ⟨reserved, released, after⟩ := releaseLeases_frame ad e
  rw [after]
  exact ⟨backed.quiet, backed.succeeds, backed.valid, backed.current, backed.contract, backed.dependency⟩

theorem Holds.withLifecycle (h : Holds a boot s) (l : LifecycleState) : Holds a boot (s.withLifecycle l) :=
  ⟨h.epoch, h.boot, h.request, h.scope, h.unbegun, h.points, h.backed, h.checkpoint, h.durable, h.grantee⟩

/-- The stage of the request is shown by the lifecycle only. -/
theorem Holds.moveTo (h : Holds a boot s) (stage : Stage) : Holds (a.moveTo stage) boot s := by
  refine ⟨h.epoch, h.boot, ?_, h.scope, fun never => ?_, h.points, h.backed, h.checkpoint, h.durable, h.grantee⟩
  · rw [h.request, Scenario.moveTo, Option.map_map]
    rfl
  · obtain ⟨none, idle⟩ := h.unbegun never
    exact ⟨none, by rw [Scenario.moveTo, idle]; rfl⟩

theorem Holds.reached (h : Holds a boot s) {sp : SafePoint} (found : s.rt.safePoints[safePoint]? = some sp)
    (position : UInt64) (captureRequired : Bool) :
    Holds a boot (s.reached safePoint (sp.reachedAt position captureRequired)) := by
  have marks : Marks (s.rt.safePoints.insert safePoint (sp.reachedAt position captureRequired)) s.rt.history a.begun := by
    refine ⟨?_, h.points.own.insert ⟨rfl, (h.points.own _ _ found).2.1, rfl⟩, h.points.history⟩
    rw [← h.points.declared, found, Std.ExtTreeMap.getElem?_insert_self]
    rfl
  exact ⟨h.epoch, h.boot, h.request, h.scope, h.unbegun, marks, h.backed, h.checkpoint, h.durable, h.grantee⟩

theorem Holds.accepted (h : Holds a boot s) (begun : a.begun = true) (req : PreemptionRequest) (stage : Stage) :
    Holds { a with active := some ⟨req.id, req.generation, stage⟩ } boot (s.accepted req) :=
  ⟨h.epoch, h.boot, rfl, h.scope, fun never => absurd (begun.symm.trans never) (by decide), h.points, h.backed,
    h.checkpoint, h.durable, h.grantee⟩

theorem Holds.exists_safePoint (h : Holds a boot s) (begun : a.begun = true) :
    ∃ sp, s.rt.safePoints[Coordinator.safePoint]? = some sp := by
  have declared := h.points.declared
  rw [begun] at declared
  exact Option.isSome_iff_exists.mp declared

theorem Holds.holdsAuthority_iff (h : Holds a boot s) (begun : a.begun = true) :
    s.holdsAuthority = true ↔ a.grantee = some boot := by
  obtain ⟨execution, _, attempt, _⟩ := h.scope begun
  have granted := h.grantee
  rw [System.holdsAuthority, ReferenceAdapters.currentAttemptAuthority, execution, attempt, h.boot]
  cases grantee : a.grantee with
  | none =>
    rw [grantee] at granted
    have revoked : s.ad.attemptAuthoritative = false := granted
    simp [revoked]
  | some b =>
    rw [grantee] at granted
    obtain ⟨authoritative, ofExecution, ofAttempt, ofBoot⟩ := granted
    simp [authoritative, ofExecution, ofAttempt, ofBoot]

theorem Holds.not_rejected (h : Holds a boot s) : checkpointRejected s.rt s.ad = false := by
  have kept := h.checkpoint
  rw [Keeps] at kept
  rw [checkpointRejected, ReferenceAdapters.validateCheckpoint, h.backed.valid, h.backed.current]
  split_ifs at kept
  · simp [kept]
  · simp [kept.2.1, Id.isValid]

theorem Holds.not_blocked (h : Holds a boot s) : dependencyBlocks s.ad s.rt.executionId = false := by
  rw [dependencyBlocks, ReferenceAdapters.resumeDependencies, h.backed.dependency]
  rfl

end Frames

/-! ### Lifecycles of a scenario -/

/-- The calls that follow the answer of the worker. -/
def Op.ofPreemption : Op → Bool
  | .reportQuiesced _ | .requestStateCapture | .reportStateCaptured _ | .requestRelease | .reportReleased
  | .commitPreempted => true
  | _ => false

def Op.ofResume : Op → Bool
  | .requestResume | .revalidate | .restore | .confirmResumed => true
  | _ => false

namespace Scenario

theorem lifecycle_none {a : Scenario} (idle : a.active = none) : a.lifecycle = .invalid := by
  rw [lifecycle, idle]
  rfl

theorem lifecycle_some {a : Scenario} {r : ActiveRequest} (active : a.active = some r) :
    a.lifecycle = r.stage.lifecycle := by
  rw [lifecycle, active]
  rfl

theorem active_of_isAt {a : Scenario} {stage : Stage} (here : a.isAt stage = true) :
    ∃ r, a.active = some r ∧ r.stage = stage :=
  Option.map_eq_some_iff.mp (of_decide_eq_true here)

/-- What holds of INVALID and of the lifecycle of every stage holds of the lifecycle of a scenario. -/
theorem lifecycle_forall (P : LifecycleState → Prop) (a : Scenario) (idle : P .invalid)
    (active : ∀ stage : Stage, a.isAt stage = true → P stage.lifecycle) : P a.lifecycle := by
  cases request : a.active with
  | none =>
    rw [lifecycle_none request]
    exact idle
  | some r =>
    rw [lifecycle_some request]
    exact active r.stage (by simp [isAt, request])

/-- The answer of the worker is acted on while the work quiesces, and at no other stage. -/
theorem idle_preemption {a : Scenario} (other : a.isAt .quiescing = false) {op : Op} (preempts : op.ofPreemption = true) :
    op.actsIn a.lifecycle = false := by
  refine lifecycle_forall (fun l => op.actsIn l = false) a ?_ fun stage here => ?_
  · cases op <;> first | rfl | cases preempts
  · cases stage with
    | quiescing => exact absurd here (by simp [other])
    | _ => cases op <;> first | rfl | cases preempts

theorem idle_resume {a : Scenario} (other : a.isAt .preempted = false) {op : Op} (resumes : op.ofResume = true) :
    op.actsIn a.lifecycle = false := by
  refine lifecycle_forall (fun l => op.actsIn l = false) a ?_ fun stage here => ?_
  · cases op <;> first | rfl | cases resumes
  · cases stage with
    | preempted => exact absurd here (by simp [other])
    | _ => cases op <;> first | rfl | cases resumes

theorem lifecycle_ne_waiting (a : Scenario) : ¬a.lifecycle = .waitingForSafePoint := by
  refine lifecycle_forall (· ≠ .waitingForSafePoint) a (by decide) fun stage _ => ?_
  cases stage <;> decide

end Scenario

/-! ### Calls -/

/-- The operations that can throw. -/
def Op.mayThrow : Op → Bool
  | .reachSafePoint .. | .beginQuiesce => true
  | _ => false

section Calls
variable {s t : System} {op : Op} {cause : Option Cause} {calls : List RuntimeCall}

theorem step_returns (s : System) (op : Op) (safe : op.mayThrow = false) : ∃ ret, (step s op).1 = .ok ret := by
  refine step_ok s op ?_ ?_
  · rintro ⟨id, position, captureRequired, rfl, _⟩
    cases safe
  · rintro ⟨rfl, _⟩
    cases safe

theorem execCalls_returned {ret : Ret} (returned : (step s op).1 = .ok ret) (calls : List RuntimeCall) :
    (execCalls s (.of op cause :: calls)).2 = (execCalls (step s op).2 calls).2 := by
  rw [execCalls_ok rfl returned]

/-- A call that cannot throw is followed by the others. -/
theorem execCalls_safe (s : System) (safe : op.mayThrow = false) (calls : List RuntimeCall) :
    (execCalls s (.of op cause :: calls)).2 = (execCalls (step s op).2 calls).2 := by
  obtain ⟨ret, returned⟩ := step_returns s op safe
  exact execCalls_returned returned calls

/-- Outside of its stages an operation returns, changes nothing and does not succeed. -/
theorem step_refused (s : System) (other : op.actsIn s.lifecycle = false) :
    (step s op).2 = s ∧ ¬op.Succeeded (step s op).1 := by
  rcases step_cases s op with moved | refused
  · rw [moved.actsIn] at other
    cases other
  · exact refused

/-- Calls of which none acts leave the system as it is. -/
theorem execCalls_idle (ops : List Op) (safe : ∀ op ∈ ops, op.mayThrow = false)
    (other : ∀ op ∈ ops, op.actsIn s.lifecycle = false) :
    (execCalls s (ops.map (RuntimeCall.of · cause))).2 = some s := by
  induction ops with
  | nil => rfl
  | cons op ops ih =>
    rw [List.forall_mem_cons] at safe other
    rw [List.map_cons, execCalls_safe s safe.1, (step_refused s other.1).1]
    exact ih safe.2 other.2

/-- The last of the calls decides whether they complete. -/
theorem completes_snoc (before : (execCalls s calls).2 = some t) (op : Op) (cause : Option Cause)
    (safe : op.mayThrow = false) :
    CallEvent.completes (execCalls s (calls ++ [.of op cause])).1 =
        decide ((step t op).1.HasOutcome .safePreemptionCompleted) ∧
      (execCalls s (calls ++ [.of op cause])).2 = some (step t op).2 := by
  obtain ⟨ret, returned⟩ := step_returns t op safe
  rw [execCalls_append, before]
  simp only
  rw [execCalls_ok rfl returned]
  refine ⟨?_, rfl⟩
  rw [CallEvent.completes, List.getLast?_append]
  exact decide_eq_decide.mpr Returned.hasOutcome_iff

end Calls

/-! ### The commands -/

section Commands
variable {a : Scenario} {boot : WorkerBootId} {s : System} {c : Coordinator}

theorem Agrees.begun (h : Agrees a boot s) (c : Coordinator) :
    ∃ t, (execCalls s c.beginExecution).2 = some t ∧ Agrees (a.begin' c.boot) c.boot t := by
  refine ⟨_, rfl, ⟨⟨h.epoch, rfl, rfl, fun _ => ⟨rfl, rfl, rfl, rfl⟩, nofun, ?_, ?_, h.checkpoint, h.durable, ?_⟩, rfl⟩⟩
  · refine ⟨?_, h.points.own.insert ⟨rfl, rfl, rfl⟩, h.points.history⟩
    show (s.rt.safePoints.insert safePoint _)[safePoint]?.isSome = true
    rw [Std.ExtTreeMap.getElem?_insert_self]
    rfl
  · exact ⟨h.backed.quiet, h.backed.succeeds, h.backed.valid, h.backed.current, h.backed.contract,
      h.backed.dependency⟩
  · exact ⟨rfl, rfl, rfl, rfl⟩

/-- A boundary that the worker reaches is not awaited between two commands. -/
theorem Agrees.reached (h : Agrees a boot s) {sp : SafePoint} (found : s.rt.safePoints[safePoint]? = some sp)
    (position : UInt64) (captureRequired : Bool) :
    Agrees a boot (s.reached safePoint (sp.reachedAt position captureRequired)) := by
  refine ⟨h.toHolds.reached found position captureRequired, ?_⟩
  rw [System.reached_lifecycle, h.lifecycle, if_neg a.lifecycle_ne_waiting]

theorem Agrees.published (h : Agrees a boot s) (begun : a.begun = true) (position : UInt64) (kind : ProgressKind) :
    Agrees (a.publish boot position kind) boot (step s (.publishProgress position kind)).2 := by
  have moved (durable : UInt64) (published : (s.published position kind).rt.durablePosition = durable) :
      Agrees { a with durable } boot (s.published position kind) :=
    ⟨⟨h.epoch, h.boot, h.request, h.scope, h.unbegun, h.points, h.backed, h.checkpoint, published, h.grantee⟩,
      h.lifecycle⟩
  have accepts : s.holdsAuthority = true ∧ s.rt.durablePosition ≤ position ↔
      a.grantee = some boot ∧ a.durable ≤ position := by
    rw [h.holdsAuthority_iff begun, h.durable]
  rw [publishProgress_step, Scenario.publish]
  by_cases accepted : a.grantee = some boot ∧ a.durable ≤ position
  · rw [if_pos (accepts.mpr accepted)]
    by_cases durable : kind = .durable
    · rw [if_pos ⟨accepted.1, accepted.2, durable⟩]
      exact moved position (if_pos durable)
    · rw [if_neg fun all => durable all.2.2]
      exact moved a.durable ((if_neg durable).trans h.durable)
  · rw [if_neg (mt accepts.mp accepted), if_neg fun all => accepted ⟨all.1, all.2.1⟩]
    exact h

/-- A segment reaches the boundary and publishes what the worker reported. -/
theorem Agrees.segment (h : Agrees a boot s) (begun : a.begun = true) (prog reach : Message) :
    ∃ t, (execCalls s (segmentCalls prog reach)).2 = some t ∧
      Agrees (a.publish boot prog.progressPosition prog.progressKind) boot t := by
  obtain ⟨sp, found⟩ := h.exists_safePoint begun
  have first : step s (.reachSafePoint safePoint reach.safePointPosition false) =
      (.ok .unit, s.reached safePoint (sp.reachedAt reach.safePointPosition false)) := by
    rw [reachSafePoint_step, found]
  have reached := h.reached found reach.safePointPosition false
  refine ⟨_, ?_, reached.published begun prog.progressPosition prog.progressKind⟩
  rw [segmentCalls, execCalls_returned (congrArg Prod.fst first), first, execCalls_safe _ rfl]
  rfl

/-- The replies of a segment before the execution has begun end the process. -/
theorem Agrees.segment_unbegun (h : Agrees a boot s) (unbegun : a.begun = false) (prog reach : Message) :
    (execCalls s (segmentCalls prog reach)).2 = none := by
  have absent : s.rt.safePoints[safePoint]? = none := by
    have declared := h.points.declared
    rw [unbegun] at declared
    exact Option.isSome_eq_false_iff.mp declared |> Option.isNone_iff_eq_none.mp
  have thrown : (step s (.reachSafePoint safePoint reach.safePointPosition false)).1 = .error unknownSafePoint := by
    rw [reachSafePoint_step, absent]
  rw [segmentCalls, execCalls_error rfl thrown]

/-! #### Preemption -/

theorem Holds.beginQuiesce (h : Holds a boot s) : Holds a boot (step s .beginQuiesce).2 := by
  rcases step_cases s .beginQuiesce with moved | ⟨same, _⟩
  · rcases moved.begins with after | after
    · rw [after]
      exact h.withLifecycle .quiescing
    · rw [after]
      exact h.withLifecycle .waitingForSafePoint
  · rw [same]
    exact h

/-- The calls that bring work to its boundary: a request that is assessed quiesces there, and at every other stage
    nothing moves. -/
def boundaryCalls (c : Coordinator) : List RuntimeCall :=
  [.of .beginQuiesce, .of (.reachSafePoint safePoint c.lastProgress true), .of .beginQuiesce]

theorem beginQuiesce_returns (early : ¬s.lifecycle = .deferred) : ∃ ret, (step s .beginQuiesce).1 = .ok ret := by
  refine step_ok s .beginQuiesce ?_ fun misses => early misses.2.1
  rintro ⟨id, position, captureRequired, input, _⟩
  cases input

theorem beginQuiesce_assessing (before : s.lifecycle = .assessing) :
    (step s .beginQuiesce).2.lifecycle = .quiescing ∨ (step s .beginQuiesce).2.lifecycle = .waitingForSafePoint := by
  by_cases boundary : s.rt.atValidSafePoint = true
  · rw [beginQuiesce_boundary (.inr before) (.inr boundary)]
    exact .inl rfl
  · rw [beginQuiesce_between before boundary]
    exact .inr rfl

/-- `begin_quiesce` acts on a request that is assessed or at its boundary. -/
theorem beginQuiesce_idle (other : Op.actsIn .beginQuiesce s.lifecycle = false) : (step s .beginQuiesce).2 = s :=
  step_idle other

theorem execCalls_beginQuiesce (early : ¬s.lifecycle = .deferred) :
    (execCalls s [.of .beginQuiesce]).2 = some (step s .beginQuiesce).2 := by
  obtain ⟨ret, returned⟩ := beginQuiesce_returns early
  rw [execCalls_returned returned]
  rfl

/-- Up to the last call the boundary is reached, whether or not it was awaited. -/
theorem Holds.reachesBoundary (h : Holds a boot s) (begun : a.begun = true) (c : Coordinator)
    (early : ¬s.lifecycle = .deferred) :
    ∃ u, (execCalls s (boundaryCalls c)).2 = (execCalls u [.of .beginQuiesce]).2 ∧ Holds a boot u ∧
      u.rt.captureRequired = true ∧ u.lifecycle = if (step s .beginQuiesce).2.lifecycle = .waitingForSafePoint then
        .safePointReached else (step s .beginQuiesce).2.lifecycle := by
  obtain ⟨ret, first⟩ := beginQuiesce_returns early
  obtain ⟨sp, found⟩ := h.beginQuiesce.exists_safePoint begun
  have second : step (step s .beginQuiesce).2 (.reachSafePoint safePoint c.lastProgress true) =
      (.ok .unit, (step s .beginQuiesce).2.reached safePoint (sp.reachedAt c.lastProgress true)) := by
    rw [reachSafePoint_step, found]
  refine ⟨_, ?_, h.beginQuiesce.reached found c.lastProgress true, rfl, System.reached_lifecycle _ _ _⟩
  rw [boundaryCalls, execCalls_returned first, execCalls_returned (congrArg Prod.fst second), second]

theorem Holds.boundary (h : Holds a boot s) (begun : a.begun = true) (c : Coordinator)
    (before : s.lifecycle = .assessing ∨ Op.actsIn .beginQuiesce s.lifecycle = false ∧
      s.lifecycle ≠ .waitingForSafePoint) :
    ∃ t, (execCalls s (boundaryCalls c)).2 = some t ∧ Holds a boot t ∧ t.rt.captureRequired = true ∧
      t.lifecycle = if s.lifecycle = .assessing then .quiescing else s.lifecycle := by
  have early : ¬s.lifecycle = .deferred := by
    rcases before with assessing | ⟨other, _⟩
    · simp [assessing]
    · intro deferred
      rw [deferred] at other
      cases other
  obtain ⟨u, chain, reached, needed, awaited⟩ := h.reachesBoundary begun c early
  rw [chain]
  rcases before with assessing | ⟨other, later⟩
  · rw [if_pos assessing]
    rcases beginQuiesce_assessing assessing with quiescing | waiting
    · rw [quiescing, if_neg (by decide)] at awaited
      refine ⟨u, ?_, reached, needed, awaited⟩
      rw [execCalls_beginQuiesce (by simp [awaited]), beginQuiesce_idle (by rw [awaited]; rfl)]
    · rw [waiting, if_pos rfl] at awaited
      refine ⟨u.withLifecycle .quiescing, ?_, reached.withLifecycle .quiescing, needed, rfl⟩
      rw [execCalls_beginQuiesce (by simp [awaited]), beginQuiesce_boundary (.inl awaited) (.inl awaited)]
  · rw [beginQuiesce_idle other, if_neg later] at awaited
    refine ⟨u, ?_, reached, needed, ?_⟩
    · rw [execCalls_beginQuiesce (by rw [awaited]; exact early), beginQuiesce_idle (by rw [awaited]; exact other)]
    · rw [awaited, if_neg]
      intro assessing
      rw [assessing] at other
      cases other

/-- The requests of the coordinator are those of its execution; the epoch, the attempt generation and the boot decide
    about their authority. -/
theorem Holds.validateAuthority_iff (h : Holds a boot s) {req : PreemptionRequest} (execution : req.executionId = execId)
    (attempt : req.attemptId = attemptId) (generation : req.executionGeneration = execGen) :
    s.rt.validateAuthority req = true ↔
      a.begun = true ∧ req.coordinatorEpoch = Coordinator.epoch ∧ req.attemptGeneration = attemptGen ∧
        (req.workerBootId.isValid = true → req.workerBootId = boot) := by
  rw [PreemptionRuntime.validateAuthority, execution, attempt, generation, h.epoch, h.boot]
  cases begun : a.begun with
  | false =>
    have never : ¬execId = s.rt.executionId := by
      rw [(h.unbegun begun).1]
      decide
    simp [never]
  | true =>
    obtain ⟨ofExecution, ofGeneration, ofAttempt, ofAttemptGeneration⟩ := h.scope begun
    simp only [ofExecution, ofGeneration, ofAttempt, ofAttemptGeneration]
    cases valid : req.workerBootId.isValid <;> simp [and_assoc]

/-- With a request already active, the boundary moves one that has not been acted on, and no other. -/
theorem Agrees.boundary (h : Agrees a boot s) (begun : a.begun = true) (c : Coordinator) {r : ActiveRequest}
    (active : a.active = some r) :
    ∃ t, (execCalls s (boundaryCalls c)).2 = some t ∧ Agrees a.preempt boot t ∧ t.rt.captureRequired = true := by
  have stage : s.lifecycle = r.stage.lifecycle := h.lifecycle.trans (Scenario.lifecycle_some active)
  have after : a.preempt = if r.stage = .requested then a.moveTo .quiescing else a := by
    rw [Scenario.preempt, active]
    simp [Scenario.isAt, active]
  rw [after]
  by_cases requested : r.stage = .requested
  · have assessing : s.lifecycle = .assessing := by
      rw [stage, requested]
      rfl
    obtain ⟨t, made, holds, needed, lifecycle⟩ := h.toHolds.boundary begun c (.inl assessing)
    rw [if_pos assessing] at lifecycle
    refine ⟨t, made, ?_, needed⟩
    rw [if_pos requested]
    refine ⟨holds.moveTo .quiescing, ?_⟩
    rw [lifecycle, Scenario.lifecycle, Scenario.moveTo, active]
    rfl
  · have other : Op.actsIn .beginQuiesce s.lifecycle = false ∧ s.lifecycle ≠ .waitingForSafePoint ∧
        ¬s.lifecycle = .assessing := by
      rw [stage]
      cases reached : r.stage with
      | requested => exact absurd reached requested
      | _ => exact ⟨rfl, by decide, by decide⟩
    obtain ⟨t, made, holds, needed, lifecycle⟩ := h.toHolds.boundary begun c (.inr ⟨other.1, other.2.1⟩)
    rw [if_neg other.2.2, h.lifecycle] at lifecycle
    refine ⟨t, made, ?_, needed⟩
    rw [if_neg requested]
    exact ⟨holds, lifecycle⟩

theorem Agrees.preempted (h : Agrees a c.boot s) (begun : a.begun = true) :
    ∃ t, (execCalls s c.preemptionCalls).2 = some t ∧ Agrees a.preempt c.boot t ∧ t.rt.captureRequired = true := by
  have authority : s.rt.validateAuthority c.preemptionRequest = true :=
    (h.validateAuthority_iff rfl rfl rfl).mpr ⟨begun, rfl, rfl, fun _ => rfl⟩
  have left := requestPreemption_left s c.preemptionRequest rfl rfl
  have calls : c.preemptionCalls = .of (.requestPreemption c.preemptionRequest) :: boundaryCalls c := rfl
  rw [calls, execCalls_safe s rfl, left]
  have request := h.request
  cases active : a.active with
  | none =>
    rw [active, Option.map_none, Option.map_eq_none_iff] at request
    rw [if_pos ⟨authority, request⟩]
    obtain ⟨t, made, holds, needed, lifecycle⟩ :=
      (h.toHolds.accepted begun c.preemptionRequest .quiescing).boundary begun c (.inl rfl)
    refine ⟨t, made, ?_, needed⟩
    have after : a.preempt = { a with active := some ⟨⟨1000⟩, ⟨1⟩, .quiescing⟩ } := by rw [Scenario.preempt, active]
    rw [after]
    exact ⟨holds, lifecycle⟩
  | some r =>
    have held : s.rt.activeRequest ≠ none := by
      rw [active] at request
      intro none
      rw [none] at request
      cases request
    rw [if_neg fun admitted => held admitted.2]
    exact h.boundary begun c active

/-- A preemption before the execution has begun ends the process. -/
theorem Agrees.preempted_unbegun (h : Agrees a c.boot s) (unbegun : a.begun = false) :
    (execCalls s c.preemptionCalls).2 = none := by
  have asks := preemptionCalls_isSome ⟨c, s⟩
  have undeclared : ¬Process.Declares ⟨c, s⟩ := by
    rintro ⟨sp, found⟩
    have declared := h.points.declared
    rw [found, unbegun] at declared
    cases declared
  exact Option.not_isSome_iff_eq_none.mp fun alive => undeclared (asks.mp alive).1

/-! #### Quiescence -/

/-- The calls once the worker has answered, short of the commit. -/
def preservationCalls (c : Coordinator) (qack : Message) : List RuntimeCall := (c.quiescedCalls qack).dropLast

theorem quiescedCalls_eq (c : Coordinator) (qack : Message) :
    c.quiescedCalls qack = preservationCalls c qack ++ [.of .commitPreempted (some ⟨.quiesced, qack⟩)] := rfl

/-- The capture is reported as the adapters keep it; where they keep none, nothing is called. -/
theorem execCalls_capture (s : System) (cause : Option Cause) (calls : List RuntimeCall) :
    (execCalls s ({ op := fun s => s.ad.lastCapture.map .reportStateCaptured, cause } :: calls)).2 =
      match s.ad.lastCapture with
      | none => (execCalls s calls).2
      | some result => (execCalls (step s (.reportStateCaptured result)).2 calls).2 := by
  cases kept : s.ad.lastCapture with
  | none => rw [execCalls_skip (by simp [kept])]
  | some result =>
    obtain ⟨ret, returned⟩ := step_returns s (.reportStateCaptured result) rfl
    have called : s.ad.lastCapture.map Op.reportStateCaptured = some (.reportStateCaptured result) := by
      rw [kept]
      rfl
    rw [execCalls_ok called returned]

/-- Where nothing quiesces, the answer of the worker changes nothing. -/
theorem Agrees.unanswered (h : Agrees a boot s) (other : a.isAt .quiescing = false) (c : Coordinator)
    (qack : Message) :
    (execCalls s (preservationCalls c qack)).2 = some s ∧ (step s .commitPreempted).2 = s ∧
      ¬(step s .commitPreempted).1.HasOutcome .safePreemptionCompleted := by
  have idle {op : Op} (preserves : op.ofPreemption = true) : (step s op).2 = s ∧ ¬op.Succeeded (step s op).1 := by
    refine step_refused s ?_
    rw [h.lifecycle]
    exact Scenario.idle_preemption other preserves
  refine ⟨?_, idle rfl⟩
  have calls : preservationCalls c qack =
      [.of (.reportQuiesced c.quiescenceReport) (some ⟨.quiesced, qack⟩),
        .of .requestStateCapture (some ⟨.quiesced, qack⟩),
        { op := fun s => s.ad.lastCapture.map .reportStateCaptured, cause := some ⟨.quiesced, qack⟩ },
        .of .requestRelease (some ⟨.quiesced, qack⟩), .of .reportReleased (some ⟨.quiesced, qack⟩)] := rfl
  rw [calls, execCalls_safe s rfl, (idle rfl).1, execCalls_safe s rfl, (idle rfl).1, execCalls_capture]
  have released : (execCalls s [.of .requestRelease (some ⟨.quiesced, qack⟩),
      .of .reportReleased (some ⟨.quiesced, qack⟩)]).2 = some s := by
    rw [execCalls_safe s rfl, (idle rfl).1, execCalls_safe s rfl, (idle rfl).1]
    rfl
  cases s.ad.lastCapture with
  | none => exact released
  | some result =>
    simp only
    rw [(idle rfl).1]
    exact released

/-- A scenario with an active request has begun. -/
theorem Holds.begun_of_isAt (h : Holds a boot s) {stage : Stage} (here : a.isAt stage = true) : a.begun = true := by
  by_contra never
  rw [Scenario.isAt, (h.unbegun (eq_false_of_ne_true never)).2] at here
  cases here

theorem Agrees.lifecycle_of_isAt (h : Agrees a boot s) {stage : Stage} (here : a.isAt stage = true) :
    s.lifecycle = stage.lifecycle := by
  obtain ⟨r, active, same⟩ := Scenario.active_of_isAt here
  rw [h.lifecycle, Scenario.lifecycle_some active, same]

theorem Scenario.lifecycle_moveTo {a : Scenario} {stage : Stage} (here : a.isAt stage = true) (next : Stage) :
    (a.moveTo next).lifecycle = next.lifecycle := by
  obtain ⟨r, active, _⟩ := Scenario.active_of_isAt here
  rw [Scenario.lifecycle, Scenario.moveTo, active]
  rfl

/-- The system when the capture that the worker's quiescence allows has been started. -/
def capturing (s : System) (c : Coordinator) : System := (s.quiescedBy c.quiescenceReport).captureStarted

/-- The capture that the adapters return. -/
def capture (s : System) : CaptureResult := (s.ad.requestCapture s.captureRequest).1

theorem execCalls_preservation (h : Agrees a c.boot s) (quiescing : a.isAt .quiescing = true)
    (needed : s.rt.captureRequired = true) (qack : Message) :
    (execCalls s (preservationCalls c qack)).2 =
      (execCalls (step (capturing s c) (.reportStateCaptured (capture s))).2
        [.of .requestRelease (some ⟨.quiesced, qack⟩), .of .reportReleased (some ⟨.quiesced, qack⟩)]).2 := by
  have reported : (step s (.reportQuiesced c.quiescenceReport)).2 = s.quiescedBy c.quiescenceReport := by
    rw [reportQuiesced_due (h.lifecycle_of_isAt quiescing), if_pos]
    exact quiescesUnder_iff.mpr ⟨h.boot.symm, rfl, h.backed.quiet⟩
  have started : (step (s.quiescedBy c.quiescenceReport) .requestStateCapture).2 = capturing s c := by
    rw [requestStateCapture_needed (s := s.quiescedBy c.quiescenceReport) rfl needed]
    rfl
  have kept : (capturing s c).ad.lastCapture = some (capture s) := rfl
  have calls : preservationCalls c qack =
      .of (.reportQuiesced c.quiescenceReport) (some ⟨.quiesced, qack⟩) ::
        .of .requestStateCapture (some ⟨.quiesced, qack⟩) ::
        { op := fun s => s.ad.lastCapture.map .reportStateCaptured, cause := some ⟨.quiesced, qack⟩ } ::
        [.of .requestRelease (some ⟨.quiesced, qack⟩), .of .reportReleased (some ⟨.quiesced, qack⟩)] := rfl
  rw [calls, execCalls_safe s rfl, reported, execCalls_safe _ rfl, started, execCalls_capture, kept]

/-- The first checkpoint is the one that the adapters accept. -/
theorem capture_accepted (h : Holds a c.boot s) (first : a.captured = false) :
    ((capture s).checkpointGeneration = ⟨1⟩ ∧ (capture s).checkpointRef.isValid = true) ∧
      (capturing s c).ad.validateCheckpoint (capture s).checkpointRef (capture s).checkpointGeneration = true := by
  have keeps := h.checkpoint
  rw [first] at keeps
  obtain ⟨generation, _, count⟩ := keeps
  have next : (capture s).checkpointGeneration = ⟨1⟩ := by
    show s.rt.checkpointGeneration.next = _
    rw [generation]
    decide
  have ref : (capture s).checkpointRef = ⟨1⟩ := by
    show (⟨s.ad.captureCount + 1⟩ : CheckpointRef) = _
    rw [count]
    decide
  refine ⟨⟨next, by rw [ref]; decide⟩, ?_⟩
  show (s.ad.checkpointValid && _ && decide (_ = s.ad.currentCheckpointGen)) = true
  rw [h.backed.valid, h.backed.current, next, ref]
  decide

/-- Each later one is of a newer generation, which they do not accept. -/
theorem capture_refused (h : Holds a c.boot s) (again : a.captured = true) :
    ¬(capturing s c).ad.validateCheckpoint (capture s).checkpointRef (capture s).checkpointGeneration = true := by
  have keeps := h.checkpoint
  rw [again] at keeps
  have generation : s.rt.checkpointGeneration = ⟨1⟩ := keeps.1
  have next : (capture s).checkpointGeneration = ⟨2⟩ := by
    show s.rt.checkpointGeneration.next = _
    rw [generation]
    decide
  show ¬(s.ad.checkpointValid && _ && decide (_ = s.ad.currentCheckpointGen)) = true
  rw [h.backed.current, next]
  simp

theorem Holds.released (h : Holds a boot s) (captured : a.captured = true) : Holds a boot s.releaseRequested := by
  have grants : Grants (releaseLeases s.ad s.rt.executionId) a.grantee := by
    obtain ⟨reserved, released, after⟩ := releaseLeases_frame s.ad s.rt.executionId
    have granted := h.grantee
    rw [after]
    cases grantee : a.grantee with
    | none =>
      rw [grantee] at granted
      exact granted
    | some boot =>
      rw [grantee] at granted
      exact granted
  have keeps : Keeps s.releaseRequested a.captured := by
    have kept := h.checkpoint
    rw [captured] at kept ⊢
    exact kept
  exact ⟨h.epoch, h.boot, h.request, h.scope, h.unbegun, h.points, h.backed.releaseLeases s.rt.executionId, keeps,
    h.durable, grants⟩

theorem Holds.committed (h : Holds a boot s) :
    Holds { a with grantee := none } boot s.resourcesReleased.committed :=
  ⟨h.epoch, h.boot, h.request, h.scope, h.unbegun, h.points,
    ⟨h.backed.quiet, h.backed.succeeds, h.backed.valid, h.backed.current, h.backed.contract, h.backed.dependency⟩,
    h.checkpoint, h.durable, rfl⟩

/-- The lifecycles and the flags of a preemption whose checkpoint has been accepted lead to its commit. -/
theorem commit_of_durable {u : System} (before : u.lifecycle = .stateDurable) (quiesced : u.rt.quiesced = true)
    (durable : u.rt.stateDurable = true) (releasable : u.releasable = true) (cause : Option Cause) :
    ∃ t, (execCalls u [.of .requestRelease cause, .of .reportReleased cause]).2 = some t ∧
      (step t .commitPreempted).1.HasOutcome .safePreemptionCompleted ∧
      (step t .commitPreempted).2 = u.releaseRequested.resourcesReleased.committed := by
  have free : ¬hasReservedLease u.releaseRequested.ad u.releaseRequested.rt.executionId = true := by
    show ¬hasReservedLease (releaseLeases u.ad u.rt.executionId) u.rt.executionId = true
    rw [hasReservedLease_releaseLeases, releasable]
    decide
  refine ⟨u.releaseRequested.resourcesReleased, ?_, commitPreempted_due rfl quiesced durable rfl⟩
  rw [execCalls_safe u rfl, requestRelease_due (.inl before) durable, execCalls_safe _ rfl, reportReleased_due rfl,
    if_neg free]
  rfl

/-- The first preemption of the execution completes. -/
theorem Agrees.committed (h : Agrees a c.boot s) (quiescing : a.isAt .quiescing = true) (first : a.captured = false)
    (needed : s.rt.captureRequired = true) (qack : Message) :
    ∃ t, (execCalls s (preservationCalls c qack)).2 = some t ∧
      (step t .commitPreempted).1.HasOutcome .safePreemptionCompleted ∧
      Agrees { a.moveTo .preempted with captured := true, grantee := none } c.boot (step t .commitPreempted).2 := by
  obtain ⟨checkpoint, accepted⟩ := capture_accepted (c := c) h.toHolds first
  have captured : (step (capturing s c) (.reportStateCaptured (capture s))).2 =
      (capturing s c).captured (capture s) := by
    rw [reportStateCaptured_due rfl, if_pos ⟨⟨h.backed.succeeds, rfl⟩, accepted⟩]
  have releasable : ((capturing s c).captured (capture s)).releasable = true := by
    have own : s.ad.contractExecution = s.rt.executionId :=
      h.backed.contract.trans (h.scope (h.begun_of_isAt quiescing)).1.symm
    show (decide (s.ad.contractExecution = s.rt.executionId) || _) = true
    rw [decide_eq_true own, Bool.true_or]
  obtain ⟨t, made, outcome, left⟩ := commit_of_durable (u := (capturing s c).captured (capture s)) rfl rfl rfl
    releasable (some ⟨.quiesced, qack⟩)
  refine ⟨t, ?_, outcome, ?_⟩
  · rw [execCalls_preservation h quiescing needed, captured, made]
  · have moved := h.toHolds.moveTo .preempted
    have holds : Holds { a.moveTo .preempted with captured := true } c.boot
        ((capturing s c).captured (capture s)) :=
      ⟨h.epoch, h.boot, moved.request, h.scope, moved.unbegun, h.points,
        ⟨h.backed.quiet, h.backed.succeeds, h.backed.valid, h.backed.current, h.backed.contract, h.backed.dependency⟩,
        checkpoint, h.durable, h.grantee⟩
    rw [left]
    exact ⟨(holds.released rfl).committed, (Scenario.lifecycle_moveTo quiescing .preempted).symm⟩

/-- Another one fails on its checkpoint. -/
theorem Agrees.failed (h : Agrees a c.boot s) (quiescing : a.isAt .quiescing = true) (again : a.captured = true)
    (needed : s.rt.captureRequired = true) (qack : Message) :
    ∃ t, (execCalls s (preservationCalls c qack)).2 = some t ∧
      ¬(step t .commitPreempted).1.HasOutcome .safePreemptionCompleted ∧
      Agrees (a.moveTo .failed) c.boot (step t .commitPreempted).2 := by
  have refused : (step (capturing s c) (.reportStateCaptured (capture s))).2 = (capturing s c).withLifecycle .failed := by
    rw [reportStateCaptured_due rfl, if_neg fun done => capture_refused h.toHolds again done.2]
  have idle (op : Op) (other : op.actsIn .failed = false) :
      (step ((capturing s c).withLifecycle .failed) op).2 = (capturing s c).withLifecycle .failed ∧
        ¬op.Succeeded (step ((capturing s c).withLifecycle .failed) op).1 := step_refused _ other
  have uncommitted := idle .commitPreempted rfl
  refine ⟨(capturing s c).withLifecycle .failed, ?_, uncommitted.2, ?_⟩
  · rw [execCalls_preservation h quiescing needed, refused, execCalls_safe _ rfl, (idle _ rfl).1, execCalls_safe _ rfl,
      (idle _ rfl).1]
    rfl
  · have moved := h.toHolds.moveTo .failed
    have keeps := h.checkpoint
    rw [again] at keeps
    have kept : Keeps ((capturing s c).withLifecycle .failed) a.captured := by
      rw [again]
      exact keeps
    rw [uncommitted.1]
    exact ⟨⟨h.epoch, h.boot, moved.request, h.scope, moved.unbegun, h.points,
      ⟨h.backed.quiet, h.backed.succeeds, h.backed.valid, h.backed.current, h.backed.contract, h.backed.dependency⟩,
      kept, h.durable, h.grantee⟩, (Scenario.lifecycle_moveTo quiescing .failed).symm⟩

/-- What the answer of the worker leads to. -/
theorem Agrees.quiesced (h : Agrees a c.boot s) (needed : s.rt.captureRequired = true) (qack : Message) :
    ∃ t, (execCalls s (preservationCalls c qack)).2 = some t ∧
      decide ((step t .commitPreempted).1.HasOutcome .safePreemptionCompleted) = a.commits ∧
      Agrees a.quiesce c.boot (step t .commitPreempted).2 := by
  cases quiescing : a.isAt .quiescing with
  | false =>
    obtain ⟨made, same, refused⟩ := h.unanswered quiescing c qack
    refine ⟨s, made, ?_, ?_⟩
    · rw [Scenario.commits, quiescing, decide_eq_false refused]
      rfl
    · rw [same, Scenario.quiesce, Scenario.commits, quiescing]
      exact h
  | true =>
    cases captured : a.captured with
    | false =>
      obtain ⟨t, made, outcome, agrees⟩ := h.committed quiescing captured needed qack
      refine ⟨t, made, ?_, ?_⟩
      · rw [Scenario.commits, quiescing, captured, decide_eq_true outcome]
        rfl
      · rw [Scenario.quiesce, Scenario.commits, quiescing, captured]
        exact agrees
    | true =>
      obtain ⟨t, made, outcome, agrees⟩ := h.failed quiescing captured needed qack
      refine ⟨t, made, ?_, ?_⟩
      · rw [Scenario.commits, quiescing, captured, decide_eq_false outcome]
        rfl
      · rw [Scenario.quiesce, Scenario.commits, quiescing, captured]
        exact agrees

/-! #### Resume, registration and replay -/

/-- The calls of a resume, short of its confirmation. -/
def resumeCalls : List RuntimeCall := [.of .requestResume, .of .revalidate, .of .restore]

theorem Holds.resumePending (h : Holds a boot s) : Holds a boot s.resumePending :=
  ⟨h.epoch, h.boot, h.request, h.scope, h.unbegun, h.points, h.backed, h.checkpoint, h.durable, h.grantee⟩

theorem Holds.resumed (h : Holds a boot s) (begun : a.begun = true) :
    Holds { a with grantee := some boot } boot s.resumed := by
  obtain ⟨execution, _, attempt, _⟩ := h.scope begun
  have grants : Grants s.resumed.ad (some boot) := ⟨rfl, execution, attempt, h.boot⟩
  exact ⟨h.epoch, h.boot, h.request, h.scope, h.unbegun, h.points,
    ⟨h.backed.quiet, h.backed.succeeds, h.backed.valid, h.backed.current, h.backed.contract, h.backed.dependency⟩,
    h.checkpoint, h.durable, grants⟩

theorem Agrees.resumed (h : Agrees a boot s) :
    ∃ t, (execCalls s resumeCalls).2 = some t ∧
      decide ((step t .confirmResumed).1.HasOutcome .safePreemptionCompleted) = a.isAt .preempted ∧
      Agrees (a.resume boot) boot (step t .confirmResumed).2 := by
  cases preempted : a.isAt .preempted with
  | false =>
    have other (op : Op) (resumes : op.ofResume = true) : op.actsIn s.lifecycle = false := by
      rw [h.lifecycle]
      exact Scenario.idle_resume preempted resumes
    have refused := step_refused s (other .confirmResumed rfl)
    refine ⟨s, ?_, decide_eq_false refused.2, ?_⟩
    · refine execCalls_idle [.requestResume, .revalidate, .restore] (by simp [Op.mayThrow]) ?_
      simp only [List.forall_mem_cons]
      exact ⟨other _ rfl, other _ rfl, other _ rfl, List.forall_mem_nil _⟩
    · rw [refused.1, Scenario.resume, preempted]
      exact h
  | true =>
    have requested := requestResume_due (h.lifecycle_of_isAt preempted)
    have revalidated := revalidate_due (s := s.resumePending) (.inl rfl)
    have current : checkpointRejected s.resumePending.rt s.resumePending.ad = false := h.not_rejected
    have free : dependencyBlocks s.resumePending.ad s.resumePending.rt.executionId = false := h.not_blocked
    rw [if_neg (by simp [current]), if_neg (by simp [free])] at revalidated
    have restored := restore_current (s := s.resumePending.withLifecycle .restoring) rfl current
    have confirmed := confirmResumed_ready (s := (s.resumePending.withLifecycle .restoring).withLifecycle .resumeReady)
      (.inl rfl)
    refine ⟨(s.resumePending.withLifecycle .restoring).withLifecycle .resumeReady, ?_, ?_, ?_⟩
    · rw [resumeCalls, execCalls_safe s rfl, requested, execCalls_safe _ rfl, revalidated, execCalls_safe _ rfl,
        restored]
      rfl
    · rw [confirmed]
      exact decide_eq_true ⟨_, rfl, rfl⟩
    · rw [confirmed, Scenario.resume, preempted]
      have ready := (((h.toHolds.moveTo .resumed).resumePending).withLifecycle .restoring).withLifecycle .resumeReady
      exact ⟨ready.resumed (h.begun_of_isAt preempted), (Scenario.lifecycle_moveTo preempted .resumed).symm⟩

theorem Agrees.registered (h : Agrees a boot s) (worker : WorkerId) (next : WorkerBootId) :
    (execCalls s [.of (.setWorkerIncarnation worker next)]).2 = some (s.reincarnated worker next) ∧
      Agrees a next (s.reincarnated worker next) :=
  ⟨rfl, ⟨h.epoch, rfl, h.request, h.scope, h.unbegun, h.points, h.backed, h.checkpoint, h.durable, h.grantee⟩,
    h.lifecycle⟩

/-- Between two commands nothing is due for release. -/
theorem Agrees.release_refused (h : Agrees a boot s) :
    (step s .requestRelease).2 = s ∧ ¬(step s .requestRelease).1.HasOutcome .safePreemptionCompleted := by
  have other : Op.actsIn .requestRelease s.lifecycle = false := by
    rw [h.lifecycle]
    refine Scenario.lifecycle_forall (fun l => Op.actsIn .requestRelease l = false) a rfl fun stage _ => ?_
    cases stage <;> rfl
  exact step_refused s other

/-- A request is refused for its form first, and then for its authority. -/
theorem requestPreemption_refused {req : PreemptionRequest}
    (refused : ¬(req.id.isValid = true ∧ req.generation.isValid = true ∧ s.rt.validateAuthority req = true)) :
    step s (.requestPreemption req) =
      (.ok (.admission { code := if !req.id.isValid || !req.generation.isValid then .rejectedInvalid
                                 else .rejectedStale }), s) := by
  simp only [step, as_eq, requestPreemption, runOn_bind, runOn_getRuntime, runOn_ite, runOn_pure]
  by_cases invalid : (!req.id.isValid || !req.generation.isValid) = true
  · rw [if_pos invalid, if_pos invalid]
  · have stale : (!s.rt.validateAuthority req) = true := by
      simp only [Bool.or_eq_true, Bool.not_eq_true', not_or, Bool.not_eq_false] at invalid
      by_contra current
      exact refused ⟨invalid.1, invalid.2, by simpa using current⟩
    rw [if_neg invalid, if_pos stale, if_neg invalid]

/-- A replay has the authority of the controller's message. -/
theorem Holds.staleRequest_iff (h : Holds a boot s) (cmd : Message) :
    s.rt.validateAuthority (staleRequest cmd) = true ↔ a.begun = true ∧ cmd.coordinatorEpoch = Coordinator.epoch ∧
      cmd.attemptGeneration = attemptGen ∧ (cmd.workerBootId.isValid = true → cmd.workerBootId = boot) :=
  h.validateAuthority_iff rfl rfl rfl

/-- A replay that is in order is a duplicate of the active request, or in conflict with it. -/
theorem Agrees.duplicate_code (h : Agrees a boot s) {cmd : Message} (valid : cmd.requestGeneration.isValid = true)
    (current : s.rt.validateAuthority (staleRequest cmd) = true) {r : ActiveRequest} (active : a.active = some r)
    {held : PreemptionRequest} (holds : s.rt.activeRequest = some held) :
    (duplicateAdmission s.rt held (staleRequest cmd)).code = a.admission boot cmd := by
  have request := h.request
  rw [active, holds] at request
  obtain ⟨id, generation⟩ := Prod.mk.inj (Option.some.inj request)
  have repeats : ((staleRequest cmd).id = held.id ∧ (staleRequest cmd).generation = held.generation) ↔
      (r.id = ⟨3000⟩ ∧ r.generation = cmd.requestGeneration) := by
    rw [id, generation]
    exact and_congr eq_comm eq_comm
  have form : ¬(!(staleRequest cmd).id.isValid || !(staleRequest cmd).generation.isValid) = true := by
    show ¬(!cmd.requestGeneration.isValid) = true
    simp [valid]
  rw [Scenario.admission, if_neg (by simp [valid]), if_pos ((h.staleRequest_iff cmd).mp current), active,
    duplicateAdmission, if_neg form, if_neg (by simp [current])]
  by_cases duplicate : r.id = ⟨3000⟩ ∧ r.generation = cmd.requestGeneration
  · rw [if_pos (repeats.mpr duplicate)]
    exact (if_pos duplicate).symm
  · rw [if_neg (mt repeats.mp duplicate)]
    exact (if_neg duplicate).symm

/-- A replayed request is answered as the scenario answers it. -/
theorem Agrees.admitted (h : Agrees a boot s) (cmd : Message) :
    (∃ adm, (step s (.requestPreemption (staleRequest cmd))).1 = .ok (.admission adm) ∧
      adm.code = a.admission boot cmd) ∧
      Agrees (a.replay boot cmd) boot (step s (.requestPreemption (staleRequest cmd))).2 := by
  have authority := h.staleRequest_iff cmd
  have form : (!(staleRequest cmd).id.isValid || !(staleRequest cmd).generation.isValid) =
      !cmd.requestGeneration.isValid := rfl
  have kept (code : RequestAdmissionCode) (answer : a.admission boot cmd = code) (other : code ≠ .accepted) :
      a.replay boot cmd = a := by
    rw [Scenario.replay, answer, if_neg other]
  by_cases valid : cmd.requestGeneration.isValid = true
  · by_cases current : s.rt.validateAuthority (staleRequest cmd) = true
    · have request := h.request
      cases active : a.active with
      | none =>
        have answer : a.admission boot cmd = .accepted := by
          rw [Scenario.admission, if_neg (by simp [valid]), if_pos (authority.mp current), active]
        rw [active, Option.map_none, Option.map_eq_none_iff] at request
        rw [requestPreemption_first rfl valid current request, Scenario.replay, if_pos answer]
        exact ⟨⟨_, rfl, answer.symm⟩, h.toHolds.accepted (authority.mp current).1 (staleRequest cmd) .requested, rfl⟩
      | some r =>
        rw [active] at request
        obtain ⟨held, holds, _⟩ := Option.map_eq_some_iff.mp request
        have code := h.duplicate_code valid current active holds
        rw [requestPreemption_step holds, kept _ code.symm (duplicateAdmission_refused _ _ _)]
        exact ⟨⟨_, rfl, code⟩, h⟩
    · have answer : a.admission boot cmd = .rejectedStale := by
        rw [Scenario.admission, if_neg (by simp [valid]), if_neg (mt authority.mpr current)]
      rw [requestPreemption_refused fun all => current all.2.2, kept _ answer (by decide), answer, form]
      exact ⟨⟨_, rfl, if_neg (by simp [valid])⟩, h⟩
  · have answer : a.admission boot cmd = .rejectedInvalid := by
      rw [Scenario.admission, if_pos (eq_false_of_ne_true valid)]
    rw [requestPreemption_refused fun all => valid all.2.1, kept _ answer (by decide), answer, form]
    exact ⟨⟨_, rfl, if_pos (by simp [valid])⟩, h⟩

end Commands

end PreemptionFabric
