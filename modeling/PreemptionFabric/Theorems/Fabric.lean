import PreemptionFabric.Theorems.Fence

/-! Runtimes that share their adapters. The adapters hold one attempt authoritative at a time, under one boot of a
    worker: whoever takes the authority last, by whatever call, is the only one whose progress is accepted, and a
    commit of any of the runtimes shuts the fence for all of them. -/

namespace PreemptionFabric
open Trace

/-! ### Who holds the authority -/

/-- An attempt of an execution, under a boot of a worker. -/
structure Holder where
  execution : ExecutionId
  attempt : AttemptId
  boot : WorkerBootId
deriving DecidableEq, Repr

/-- The one that the adapters hold authoritative. -/
def ReferenceAdapters.holder (ad : ReferenceAdapters) : Option Holder :=
  if ad.attemptAuthoritative then some ⟨ad.attemptExecution, ad.attemptAttempt, ad.attemptBoot⟩ else none

/-- The one that a runtime publishes for. -/
def PreemptionRuntime.holder (rt : PreemptionRuntime) : Holder := ⟨rt.executionId, rt.attemptId, rt.workerBoot⟩

def PersistentState.holder (st : PersistentState) : Holder := ⟨st.executionId, st.attemptId, st.workerBootId⟩

/-- The authority that a direct call on the adapters leaves. -/
def AdapterOp.passes (held : Option Holder) : AdapterOp → Option Holder
  | .setAuthoritative execution attempt _ _ _ worker => some ⟨execution, attempt, worker⟩
  | .grantFreshAttemptAuthority execution attempt _ worker => some ⟨execution, attempt, worker⟩
  | .revokeAuthority | .fenceAttempt .. => none
  | _ => held

/-- The authority that a call leaves: a start and an image that is loaded take it, a commit gives it up, and a resume
    takes it for the runtime that confirms it. -/
def Op.passes (rt : PreemptionRuntime) (op : Op) (r : Returned) (held : Option Holder) : Option Holder :=
  match op.loads, op with
  | some st, _ => some st.holder
  | none, .startExecution _ _ e _ a _ _ boot => some ⟨e, a, boot⟩
  | none, .commitPreempted => if r.HasOutcome .safePreemptionCompleted then none else held
  | none, .confirmResumed => if r.HasOutcome .safePreemptionCompleted then some rt.holder else held
  | none, .adapter o => o.passes held
  | none, _ => held

section
variable {u t : System} {op : Op} {r : Returned}

theorem holdsAuthority_iff_holder (s : System) : s.holdsAuthority = true ↔ s.ad.holder = some s.rt.holder := by
  simp only [System.holdsAuthority, ReferenceAdapters.currentAttemptAuthority, ReferenceAdapters.holder,
    PreemptionRuntime.holder, Bool.and_eq_true, decide_eq_true_eq]
  cases s.ad.attemptAuthoritative with
  | false => simp
  | true =>
    rw [if_pos rfl, Option.some.injEq, Holder.mk.injEq]
    constructor
    · rintro ⟨⟨⟨_, execution⟩, attempt⟩, boot⟩
      exact ⟨execution.symm, attempt.symm, of_decide_eq_true boot⟩
    · rintro ⟨execution, attempt, boot⟩
      exact ⟨⟨⟨rfl, execution.symm⟩, attempt.symm⟩, decide_eq_true boot⟩

theorem AdapterOp.apply_holder (o : AdapterOp) (ad : ReferenceAdapters) :
    (o.apply ad).holder = o.passes ad.holder := by
  cases o with
  | requestRelease e rc units expected =>
    obtain ⟨_, _, same⟩ := ad.requestRelease_frame e rc units expected
    rw [AdapterOp.apply, same]
    rfl
  | reacquire e rc units contract =>
    obtain ⟨_, _, _, same⟩ := ad.reacquire_frame e rc units contract
    rw [AdapterOp.apply, same]
    rfl
  | _ => rfl

theorem releaseLeases_holder (ad : ReferenceAdapters) (e : ExecutionId) : (releaseLeases ad e).holder = ad.holder := by
  obtain ⟨_, _, same⟩ := releaseLeases_frame ad e
  rw [same]
  rfl

theorem Move.holder (moved : Move u op r t) : t.ad.holder = op.passes u.rt r u.ad.holder := by
  cases moved with
  | loaded ret image =>
    simp only [Op.passes, image]
    rfl
  | releaseRequested before durable => exact releaseLeases_holder u.ad u.rt.executionId
  | committed before quiesced durable released =>
    simp only [Op.passes, Op.loads]
    rw [if_pos ⟨_, rfl, rfl⟩]
    rfl
  | resumed before =>
    simp only [Op.passes, Op.loads]
    rw [if_pos ⟨_, rfl, rfl⟩]
    rfl
  | adapter o => exact o.apply_holder u.ad
  | _ => rfl

theorem Op.passes_of_idle (unsuccessful : ¬op.Succeeded r) (rt : PreemptionRuntime) (held : Option Holder) :
    op.passes rt r held = held := by
  cases op with
  | startExecution => exact absurd trivial unsuccessful
  | adapter o => exact absurd trivial unsuccessful
  | commitPreempted => exact if_neg unsuccessful
  | confirmResumed => exact if_neg unsuccessful
  | restoreState st => exact absurd rfl unsuccessful
  | restoreBytes bytes =>
    have rejected : (decode bytes).toOption = none := Option.not_isSome_iff_eq_none.mp unsuccessful
    simp only [Op.passes, Op.loads, rejected]
  | load file =>
    have rejected : Op.loads (.load file) = none := Option.not_isSome_iff_eq_none.mp unsuccessful
    simp only [Op.passes, rejected]
  | _ => rfl

theorem step_holder (s : System) (op : Op) :
    (step s op).2.ad.holder = op.passes s.rt (step s op).1 s.ad.holder := by
  rcases step_cases s op with moved | ⟨same, unsuccessful⟩
  · exact moved.holder
  · rw [same, Op.passes_of_idle unsuccessful]

end

/-! ### Runs of the runtimes -/

namespace Fabric
variable {ι : Type} [DecidableEq ι]

abbrev Event (ι : Type) := Trace.Event (Fabric ι) (Call ι) Returned

/-- The authority after the calls of a trace, of whichever runtime. -/
def authorityAfter (held : Option Holder) (tr : List (Event ι)) : Option Holder :=
  tr.foldl (fun held e => e.input.op.passes (e.pre.rts e.input.runtime) e.output held) held

/-- The call, as its runtime sees it. -/
def Event.here (e : Event ι) : PreemptionFabric.Event :=
  ⟨e.pre.system e.input.runtime, e.input.op, e.output, e.post.system e.input.runtime⟩

theorem system_step_self (f : Fabric ι) (call : Call ι) :
    (f.step call).2.system call.runtime = (PreemptionFabric.step (f.system call.runtime) call.op).2 := by
  simp only [system, step, if_pos]

/-- A call leaves the other runtimes as they are; they see what it has done to the adapters. -/
theorem system_step_other (f : Fabric ι) (call : Call ι) {i : ι} (other : i ≠ call.runtime) :
    (f.step call).2.system i = ⟨f.rts i, (PreemptionFabric.step (f.system call.runtime) call.op).2.ad⟩ := by
  simp only [system, step, if_neg other]

theorem run_holder (f : Fabric ι) (calls : List (Call ι)) :
    (exec step f calls).ad.holder = authorityAfter f.ad.holder (trace step f calls) := by
  induction calls generalizing f with
  | nil => rfl
  | cons call calls ih =>
    rw [exec, trace, authorityAfter, List.foldl_cons, ih]
    exact congrArg (authorityAfter · _) (step_holder (f.system call.runtime) call.op)

/-- Whatever the runtimes have called, and in whatever order, a publication of one of them is accepted exactly when
    the authority was last taken for its attempt and its worker boot, and the position is not behind its progress. -/
theorem published_by_holder (f : Fabric ι) (calls : List (Call ι)) (i : ι) (position : UInt64) (kind : ProgressKind) :
    ((exec step f calls).step ⟨i, .publishProgress position kind⟩).1 =
      .ok (.bool (decide (authorityAfter f.ad.holder (trace step f calls) = some ((exec step f calls).rts i).holder ∧
        ((exec step f calls).rts i).durablePosition ≤ position))) := by
  rw [← run_holder]
  generalize exec step f calls = g
  have holds := holdsAuthority_iff_holder (g.system i)
  show (PreemptionFabric.step (g.system i) (.publishProgress position kind)).1 = _
  rw [publishProgress_step]
  by_cases accepted : g.ad.holder = some (g.rts i).holder ∧ (g.rts i).durablePosition ≤ position
  · rw [if_pos ⟨holds.mpr accepted.1, accepted.2⟩, decide_eq_true accepted]
  · rw [if_neg fun all => accepted ⟨holds.mp all.1, all.2⟩, decide_eq_false accepted]

/-! ### The fence of all -/

/-- From `f` on no runtime has made progress. -/
def Idle (f g : Fabric ι) : Prop :=
  ∀ i, (g.rts i).durablePosition = (f.rts i).durablePosition ∧
    (g.rts i).durableProgressGeneration = (f.rts i).durableProgressGeneration ∧
    (g.rts i).progressGeneration = (f.rts i).progressGeneration

/-- No attempt is authoritative, and from `f` on no runtime has made progress. -/
def Shut (f g : Fabric ι) : Prop := ∀ i, Fenced (f.system i) (g.system i)

omit [DecidableEq ι] in
theorem Shut.idle {f g : Fabric ι} (h : Shut f g) : Idle f g :=
  fun i => ⟨(h i).durable, (h i).durableGeneration, (h i).generation⟩

/-- A call that shuts the fence for its runtime shuts it for the others. -/
theorem Idle.shut {f g : Fabric ι} (h : Idle f g) {call : Call ι}
    (fenced : Fenced (f.system call.runtime) (PreemptionFabric.step (g.system call.runtime) call.op).2) :
    Shut f (g.step call).2 := by
  intro i
  by_cases same : i = call.runtime
  · rw [same, system_step_self]
    exact fenced
  · rw [system_step_other g call same]
    exact ⟨fenced.shut, (h i).1, (h i).2.1, (h i).2.2⟩

theorem Shut.step {f g : Fabric ι} (h : Shut f g) {call : Call ι}
    (grants : GrantsNothing (Event.here (event Fabric.step g call))) : Shut f (g.step call).2 := by
  refine h.idle.shut ?_
  rcases step_cases (g.system call.runtime) call.op with moved | ⟨same, _⟩
  · refine (h call.runtime).move ?_ moved
    rw [← system_step_self]
    exact grants
  · rw [same]
    exact h call.runtime

theorem Shut.refuses {f g : Fabric ι} (h : Shut f g) (call : Call ι) :
    RefusesProgress (Event.here (event Fabric.step g call)) := by
  intro position kind publishes
  have refused := publishProgress_refused (h call.runtime).shut position kind
  show (PreemptionFabric.step (g.system call.runtime) call.op).1 = _
  rw [show call.op = _ from publishes, refused]

/-- After a commit of one of the runtimes, and until authority is granted again through any of them, every publication
    of every runtime is refused, and the progress of all of them stays as it was. -/
theorem commit_fences_all (f : Fabric ι) (i : ι) (calls : List (Call ι))
    (committed : (f.step ⟨i, .commitPreempted⟩).1.HasOutcome .safePreemptionCompleted)
    (quiet : ∀ e ∈ trace step (f.step ⟨i, .commitPreempted⟩).2 calls, GrantsNothing (Event.here e)) :
    (∀ e ∈ trace step (f.step ⟨i, .commitPreempted⟩).2 calls, RefusesProgress (Event.here e)) ∧
      Idle f (exec step (f.step ⟨i, .commitPreempted⟩).2 calls) := by
  have start : Shut f (f.step ⟨i, .commitPreempted⟩).2 := by
    refine Idle.shut (fun _ => ⟨rfl, rfl, rfl⟩) ?_
    obtain ⟨_, _, _, _, left⟩ := (move_of_succeeded (s := f.system i) .commitPreempted committed).commit
    rw [left]
    exact ⟨rfl, rfl, rfl, rfl⟩
  obtain ⟨shut, refused⟩ := trace_induction step (Q := fun e => RefusesProgress (Event.here e)) start
    (fun g call shut grants => ⟨shut.step grants, shut.refuses call⟩) calls quiet
  exact ⟨refused, shut.idle⟩

/-- Two runtimes of one execution: the second goes on publishing after the first has committed, and takes the execution
    over under a new boot. -/
theorem commit_fences_all_taken_over :
    let s := run (.construct ⟨1⟩ ⟨1⟩ quietAdapters) (requestOps true ++ captureOps ++ releaseOps)
    let f : Fabric Bool := ⟨fun _ => s.rt, s.ad⟩
    let calls : List (Call Bool) := [⟨false, .publishProgress 20 .durable⟩, ⟨false, .setWorkerIncarnation ⟨4⟩ ⟨6⟩⟩,
      ⟨true, .requestResume⟩, ⟨false, .publishProgress 30 .durable⟩, ⟨true, .publishProgress 40 .durable⟩]
    (∀ e ∈ trace step (f.step ⟨true, .commitPreempted⟩).2 calls, RefusesProgress (Event.here e)) ∧
      Idle f (exec step (f.step ⟨true, .commitPreempted⟩).2 calls) := by
  intro s f calls
  have quiet : ∀ call ∈ calls, call.op.isStart = false ∧ call.op.loads = none ∧ call.op ≠ .confirmResumed ∧
      ∀ o, call.op ≠ .adapter o := by
    simp [calls, Op.isStart, Op.loads]
  refine commit_fences_all f true calls (by decide +kernel) fun e member => ?_
  obtain ⟨start, recovery, confirmed, direct⟩ := quiet e.input (input_mem step member)
  exact ⟨start, fun o input => absurd input (direct o), recovery, fun input => absurd input confirmed⟩

end Fabric

end PreemptionFabric
