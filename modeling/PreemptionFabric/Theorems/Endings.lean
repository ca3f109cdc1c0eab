import PreemptionFabric.Theorems.Requests

/-! How a lifecycle ends. `successors` lists what a step can make of each lifecycle within a scope; a terminal one
    has none, and is left only by a request that is accepted. `complete` and `cancel` set the lifecycle past the
    table of edges, under guards of their own. -/

namespace PreemptionFabric
open PreemptionFabric.Action

/-! ### What a step makes of a lifecycle -/

/-- The lifecycles that a step leads to, other than by a start, a recovery or the acceptance of a request. -/
def LifecycleState.successors : LifecycleState → List LifecycleState
  | .invalid | .requested | .validatingAuthority | .captureRequired => [.cancelled, .aborted]
  | .assessing => [.waitingForSafePoint, .quiescing, .cancelled, .aborted]
  | .deferred => [.waitingForSafePoint, .cancelled, .aborted]
  | .waitingForSafePoint => [.safePointReached, .cancelled, .aborted]
  | .safePointReached => [.quiescing, .cancelled, .aborted]
  | .quiescing => [.quiesced, .cancelled, .aborted]
  | .quiesced => [.capturingState, .releasePending, .cancelled, .aborted]
  | .capturingState => [.stateDurable, .failed, .cancelled, .aborted]
  | .stateDurable | .releasePending => [.releasing, .cancelled, .aborted]
  | .releasing => [.resourcesReleased, .cancelled, .aborted]
  | .resourcesReleased => [.preempted, .cancelled, .aborted]
  | .preempted => [.resumePending, .cancelled, .aborted]
  | .resumePending | .revalidating => [.revalidating, .restoring, .failed, .cancelled]
  | .restoring => [.resumeReady, .failed, .cancelled]
  | .resumeReady | .resuming => [.resumed, .cancelled]
  | .resumed | .cancelled | .aborted | .failed | .superseded => []

theorem cancelled_mem_successors {l : LifecycleState} (live : LifecycleStateMachine.isTerminal ⟨l⟩ = false) :
    .cancelled ∈ l.successors := by
  revert live
  cases l <;> decide

theorem aborted_mem_successors {l : LifecycleState} (live : LifecycleStateMachine.isTerminal ⟨l⟩ = false)
    (early : LifecycleStateMachine.isPreemptedDurable ⟨l⟩ = false ∨ l = .preempted) : .aborted ∈ l.successors := by
  revert live early
  cases l <;> decide

section
variable {s u t : System} {op : Op} {r : Returned}

/-- Within a scope a step keeps the lifecycle, leads to a successor of it, or accepts the first request. -/
theorem Move.lifecycle (moved : Move u op r t) (scope : op.InScope) :
    t.lifecycle = u.lifecycle ∨ t.lifecycle ∈ u.lifecycle.successors ∨
      Accepts ⟨u, op, r, t⟩ ∧ u.rt.activeRequest = none := by
  have onward {l : LifecycleState} (before : u.lifecycle = l) (next : l.successors.contains t.lifecycle = true) :
      t.lifecycle = u.lifecycle ∨ t.lifecycle ∈ u.lifecycle.successors ∨
        Accepts ⟨u, op, r, t⟩ ∧ u.rt.activeRequest = none := by
    rw [before]
    exact .inr (.inl (List.contains_iff_mem.mp next))
  have either {l l' : LifecycleState} (before : u.lifecycle = l ∨ u.lifecycle = l')
      (next : l.successors.contains t.lifecycle = true) (next' : l'.successors.contains t.lifecycle = true) :
      t.lifecycle = u.lifecycle ∨ t.lifecycle ∈ u.lifecycle.successors ∨
        Accepts ⟨u, op, r, t⟩ ∧ u.rt.activeRequest = none := by
    rcases before with before | before
    · exact onward before next
    · exact onward before next'
  cases moved with
  | start => cases scope.start
  | loaded ret image =>
    have recovery := scope.recovery
    rw [image] at recovery
    cases recovery
  | accept id generation auth first => exact .inr (.inr ⟨⟨_, rfl, _, rfl, rfl⟩, first⟩)
  | reach position captureRequired found =>
    by_cases waiting : u.lifecycle = .waitingForSafePoint
    · refine onward waiting ?_
      rw [System.reached_lifecycle, if_pos waiting]
      rfl
    · rw [System.reached_lifecycle, if_neg waiting]
      exact .inl rfl
  | quiesce boundary =>
    rcases boundary with before | ⟨before, _⟩
    · exact onward before rfl
    · exact onward before rfl
  | defer before between => exact either before rfl rfl
  | quiesced boot before full all => exact onward before rfl
  | captureSkipped before needless => exact onward before rfl
  | captureStarted before needed => exact onward before rfl
  | captured before success completed valid => exact onward before rfl
  | captureFailed before => exact onward before rfl
  | releaseRequested before durable => exact either before rfl rfl
  | released before free => exact onward before rfl
  | committed before quiesced durable released => exact onward before rfl
  | resumeRequested before => exact onward before rfl
  | revalidateFailed before rejected => exact either before rfl rfl
  | revalidateBlocked before current blocked => exact either before rfl rfl
  | revalidated before current free => exact either before rfl rfl
  | restoreFailed before rejected => exact onward before rfl
  | restored before current => exact onward before rfl
  | resumed before => exact either before rfl rfl
  | cancelled live => exact .inr (.inl (cancelled_mem_successors live))
  | aborted live early => exact .inr (.inl (aborted_mem_successors live early))
  | declare sp => exact .inl rfl
  | publish kind auth forward => exact .inl rfl
  | priority g => exact .inl rfl
  | incarnation worker boot => exact .inl rfl
  | adapter o => exact .inl rfl

theorem successors_of_terminal {l : LifecycleState} (terminal : LifecycleStateMachine.isTerminal ⟨l⟩ = true) :
    l.successors = [] := by
  revert terminal
  cases l <;> decide

end

/-! ### Terminal lifecycles -/

/-- Within the scope the lifecycle stays what it is. -/
def Absorbing (s : System) : Prop := ∀ ops, (∀ op ∈ ops, op.InScope) → (run s ops).lifecycle = s.lifecycle

section
variable {s : System}

theorem absorbing_of_active {active : PreemptionRequest} (terminal : s.rt.machine.isTerminal = true)
    (held : s.rt.activeRequest = some active) : Absorbing s := by
  intro ops scope
  have kept : (run s ops).lifecycle = s.lifecycle ∧ (run s ops).rt.activeRequest = some active := by
    refine run_invariant (P := fun u => u.lifecycle = s.lifecycle ∧ u.rt.activeRequest = some active)
      (G := fun e => e.input.InScope) ⟨rfl, held⟩ ?_ ops fun e member => scope e.input (Trace.input_mem step member)
    rintro u op r t ⟨same, held⟩ inScope moved
    refine ⟨?_, moved.activeRequest inScope held⟩
    rcases moved.lifecycle inScope with kept | next | ⟨_, first⟩
    · exact kept.trans same
    · rw [same, System.lifecycle, successors_of_terminal terminal] at next
      cases next
    · rw [held] at first
      cases first
  exact kept.1

/-- A request that has authority over the runtime as it is. -/
def PreemptionRuntime.authorizedRequest (rt : PreemptionRuntime) : PreemptionRequest where
  id := ⟨1⟩
  generation := ⟨1⟩
  executionId := rt.executionId
  executionGeneration := rt.executionGeneration
  attemptId := rt.attemptId
  attemptGeneration := rt.attemptGeneration
  coordinatorEpoch := rt.epoch

theorem authorizedRequest_auth (rt : PreemptionRuntime) : rt.validateAuthority rt.authorizedRequest = true := by
  simp [PreemptionRuntime.validateAuthority, PreemptionRuntime.authorizedRequest, Id.isValid]

theorem not_absorbing_of_idle (terminal : s.rt.machine.isTerminal = true) (first : s.rt.activeRequest = none) :
    ¬Absorbing s := by
  intro absorbing
  have revived : (step s (.requestPreemption s.rt.authorizedRequest)).2.lifecycle = s.lifecycle := by
    refine absorbing [.requestPreemption s.rt.authorizedRequest] fun op member => ?_
    rw [List.mem_singleton.mp member]
    exact ⟨rfl, rfl⟩
  rw [requestPreemption_first rfl rfl (authorizedRequest_auth s.rt) first] at revived
  have live : s.rt.machine.isTerminal = false := by
    rw [LifecycleStateMachine.isTerminal, show s.rt.machine.state = .assessing from revived.symm]
    rfl
  rw [live] at terminal
  cases terminal

end

/-- A terminal lifecycle is absorbing exactly when the execution has a request: without one, the next request that
    has authority is accepted and revives the execution. -/
theorem terminal_absorbing_iff (s : System) (terminal : s.rt.machine.isTerminal = true) :
    Absorbing s ↔ s.rt.activeRequest.isSome = true := by
  cases held : s.rt.activeRequest with
  | none => simp [not_absorbing_of_idle terminal held]
  | some active => simp [absorbing_of_active terminal held]

def cancelledSystem : System := run startedSystem [.requestPreemption (requestOf ⟨8⟩), .cancel]

theorem terminal_absorbing_cancelled : cancelledSystem.lifecycle = .cancelled ∧ Absorbing cancelledSystem :=
  ⟨by decide +kernel, (terminal_absorbing_iff cancelledSystem (by decide +kernel)).mpr (by decide +kernel)⟩

/-- An execution that completed before any request is revived by the first one. -/
theorem aborted_execution_revived : ∃ s, Reachable s ∧ s.lifecycle = .aborted ∧ ¬Absorbing s := by
  refine ⟨run startedSystem [.complete], ⟨_, _, _, [_, .complete], rfl⟩, by decide +kernel, ?_⟩
  exact not_absorbing_of_idle (by decide +kernel) (by decide +kernel)

/-! ### Completion -/

section
variable {s u t : System} {op : Op} {r : Returned}

theorem complete_of_preempted (lifecycle : s.lifecycle = .preempted) :
    (step s .complete).2 = s.withLifecycle .aborted := by
  have state : s.rt.machine = ⟨.preempted⟩ := congrArg LifecycleStateMachine.mk lifecycle
  simp only [step, as_eq, complete, runOn_bind, runOn_getRuntime, state]
  rfl

/-- A completion that has an effect comes before the end, and not during a resume. -/
theorem complete_cases (s : System) :
    (step s .complete).2 = s ∨ s.rt.machine.isTerminal = false ∧
      (s.rt.machine.isPreemptedDurable = false ∨ s.lifecycle = .preempted) := by
  rcases step_cases s .complete with moved | ⟨same, _⟩
  · generalize (step s .complete).1 = r at moved
    generalize (step s .complete).2 = t at moved
    cases moved with
    | aborted live early => exact .inr ⟨live, early⟩
    | loaded ret image => cases image
  · exact .inl same

/-- The lifecycle is past the commit: preempted for good, resuming or over. -/
def LifecycleState.isSettled (l : LifecycleState) : Bool :=
  LifecycleStateMachine.isPreemptedDurable ⟨l⟩ || LifecycleStateMachine.isTerminal ⟨l⟩

theorem isSettled_of_mem_successors {l l' : LifecycleState} (settled : l.isSettled = true) (next : l' ∈ l.successors) :
    l'.isSettled = true := by
  have closed : l.isSettled = true → ∀ l' ∈ l.successors, l'.isSettled = true := by
    cases l <;> decide
  exact closed settled l' next

theorem complete_unchanged_iff (settled : s.lifecycle.isSettled = true) :
    (step s .complete).2 = s ↔ s.lifecycle ≠ .preempted := by
  constructor
  · intro same lifecycle
    rw [complete_of_preempted lifecycle] at same
    have aborted : LifecycleState.aborted = s.lifecycle := congrArg System.lifecycle same
    rw [lifecycle] at aborted
    cases aborted
  · intro other
    rcases complete_cases s with same | ⟨live, durable | preempted⟩
    · exact same
    · rw [LifecycleState.isSettled, Bool.or_eq_true] at settled
      rcases settled with past | ended
      · rw [System.lifecycle, durable] at past
        cases past
      · rw [System.lifecycle, live] at ended
        cases ended
    · exact absurd preempted other

theorem Move.settled (moved : Move u op r t) (scope : op.InScope) (other : ¬Accepts ⟨u, op, r, t⟩)
    (settled : u.lifecycle.isSettled = true) : t.lifecycle.isSettled = true := by
  rcases moved.lifecycle scope with kept | next | ⟨accepts, _⟩
  · rw [kept]
    exact settled
  · exact isSettled_of_mem_successors settled next
  · exact absurd accepts other

theorem complete_after_commit (committed : (step s .commitPreempted).1.HasOutcome .safePreemptionCompleted)
    (ops : List Op) (scope : ∀ op ∈ ops, op.InScope)
    (others : ∀ e ∈ traceOf (step s .commitPreempted).2 ops, ¬Accepts e) :
    ∀ e ∈ traceOf (step s .commitPreempted).2 ops, e.input = .complete →
      (e.post = e.pre ↔ e.pre.lifecycle ≠ .preempted) := by
  obtain ⟨_, _, _, _, left⟩ := (move_of_succeeded .commitPreempted committed).commit
  have start : (step s .commitPreempted).2.lifecycle.isSettled = true := by
    rw [left]
    rfl
  refine (Trace.trace_induction step (P := fun u => u.lifecycle.isSettled = true)
    (G := fun e => e.input.InScope ∧ ¬Accepts e) start ?_ ops fun e member =>
      ⟨scope e.input (Trace.input_mem step member), others e member⟩).2
  rintro u op settled ⟨inScope, other⟩
  refine ⟨?_, ?_⟩
  · rcases step_cases u op with moved | ⟨same, _⟩
    · exact moved.settled inScope other settled
    · rw [same]
      exact settled
  · intro input
    have completes : op = .complete := input
    subst completes
    exact complete_unchanged_iff settled

end

/-- Once a preemption is durable, a completion leaves everything as it is exactly when the lifecycle has gone on from
    PREEMPTED; and so it is at every completion after a commit, as long as no new request is accepted. -/
theorem complete_keeps_preemption_iff (s : System) :
    (s.rt.machine.isPreemptedDurable = true → ((step s .complete).2 = s ↔ s.lifecycle ≠ .preempted)) ∧
    ((step s .commitPreempted).1.HasOutcome .safePreemptionCompleted →
      ∀ ops, (∀ op ∈ ops, op.InScope) → (∀ e ∈ traceOf (step s .commitPreempted).2 ops, ¬Accepts e) →
        ∀ e ∈ traceOf (step s .commitPreempted).2 ops, e.input = .complete →
          (e.post = e.pre ↔ e.pre.lifecycle ≠ .preempted)) := by
  constructor
  · intro durable
    refine complete_unchanged_iff ?_
    rw [LifecycleState.isSettled, Bool.or_eq_true]
    exact .inl durable
  · intro committed ops scope others
    exact complete_after_commit committed ops scope others

def releasedSystem : System := run (.construct ⟨1⟩ ⟨1⟩ quietAdapters) (requestOps true ++ captureOps ++ releaseOps)

def committedSystem : System := (step releasedSystem .commitPreempted).2

/-- A completion during the resume has no effect. -/
theorem complete_keeps_preemption_resuming :
    (step (run committedSystem [.requestResume]) .complete).2 = run committedSystem [.requestResume] ∧
    ∀ e ∈ traceOf committedSystem [.requestResume, .complete], e.input = .complete →
      (e.post = e.pre ↔ e.pre.lifecycle ≠ .preempted) := by
  constructor
  · refine ((complete_keeps_preemption_iff (run committedSystem [.requestResume])).1 ?_).mpr ?_
    · decide +kernel
    · decide +kernel
  · refine (complete_keeps_preemption_iff releasedSystem).2 (by decide +kernel) [.requestResume, .complete] ?_ ?_
    · simp only [List.mem_cons, List.not_mem_nil, or_false, forall_eq_or_imp, forall_eq]
      exact ⟨⟨rfl, rfl⟩, rfl, rfl⟩
    · intro e member
      have input := Trace.input_mem step member
      rintro ⟨req, request, _⟩
      rw [request] at input
      simp at input

/-- The commit has succeeded, and the completion that comes next discards it. -/
theorem preempted_execution_completed :
    Reachable committedSystem ∧ committedSystem.rt.machine.isPreemptedDurable = true ∧
      (step releasedSystem .commitPreempted).1.HasOutcome .safePreemptionCompleted ∧
      (step committedSystem .complete).2.lifecycle = .aborted ∧ (step committedSystem .complete).2 ≠ committedSystem := by
  have preempted : committedSystem.lifecycle = .preempted := by decide +kernel
  refine ⟨Reachable.step ⟨_, _, _, _, rfl⟩ .commitPreempted, by decide +kernel, by decide +kernel, ?_, ?_⟩
  · rw [complete_of_preempted preempted]
    rfl
  · intro same
    have settled : committedSystem.lifecycle.isSettled = true := by decide +kernel
    exact (complete_unchanged_iff settled).mp same preempted

/-! ### Cancellation -/

/-- `cancel` goes along an edge of the table or changes neither the lifecycle nor the history. -/
def CancelsByTable (s : System) : Prop :=
  ((step s .cancel).2.lifecycle ≠ s.lifecycle → LifecycleStateMachine.isAllowed s.lifecycle .cancelled = true) ∧
  (LifecycleStateMachine.isAllowed s.lifecycle .cancelled = false →
    (step s .cancel).2.lifecycle = s.lifecycle ∧ (step s .cancel).2.rt.history = s.rt.history)

/-- The lifecycles that are not terminal and have no edge to CANCELLED. -/
def uncancellable : List LifecycleState :=
  [.invalid, .quiesced, .captureRequired, .stateDurable, .releasePending, .releasing, .resourcesReleased, .preempted]

theorem uncancellable_iff (l : LifecycleState) :
    l ∈ uncancellable ↔ LifecycleStateMachine.isTerminal ⟨l⟩ = false ∧
      LifecycleStateMachine.isAllowed l .cancelled = false := by
  cases l <;> decide

theorem not_cancelsByTable {s : System} (stuck : s.lifecycle ∈ uncancellable) : ¬CancelsByTable s := by
  obtain ⟨live, forbidden⟩ := (uncancellable_iff s.lifecycle).mp stuck
  have running : ¬s.rt.machine.isTerminal = true := Bool.eq_false_iff.mp live
  rintro ⟨_, unchanged⟩
  obtain ⟨same, _⟩ := unchanged forbidden
  rw [cancel_step, if_neg running] at same
  have already : s.lifecycle = .cancelled := same.symm
  rw [already] at live
  cases live

theorem cancelsByTable_of_terminal {s : System} (terminal : s.rt.machine.isTerminal = true) : CancelsByTable s := by
  rw [CancelsByTable, cancel_step, if_pos terminal]
  exact ⟨fun changed => absurd rfl changed, fun _ => ⟨rfl, rfl⟩⟩

/-- Cancellation follows the table exactly outside the lifecycles that the table does not let go: there it sets
    CANCELLED all the same. -/
theorem cancel_by_table_iff (s : System) : CancelsByTable s ↔ s.lifecycle ∉ uncancellable := by
  constructor
  · intro byTable stuck
    exact not_cancelsByTable stuck byTable
  · rw [uncancellable_iff, not_and]
    intro cancellable
    cases terminal : s.rt.machine.isTerminal with
    | true => exact cancelsByTable_of_terminal terminal
    | false =>
      have allowed : LifecycleStateMachine.isAllowed s.lifecycle .cancelled = true := by
        rw [← Bool.not_eq_false]
        exact cancellable terminal
      refine ⟨fun _ => allowed, fun forbidden => ?_⟩
      rw [allowed] at forbidden
      cases forbidden

def releasingSystem : System :=
  run (.construct ⟨1⟩ ⟨1⟩ quietAdapters) (requestOps true ++ captureOps ++ [.requestRelease])

/-- Part of the release is under way, and the cancellation sets CANCELLED and records the request. -/
theorem releasing_execution_cancelled :
    Reachable releasingSystem ∧ releasingSystem.rt.activeRequest.isSome = true ∧
      releasingSystem.lifecycle = .releasing ∧ ¬CancelsByTable releasingSystem ∧
      (step releasingSystem .cancel).2.lifecycle = .cancelled ∧
      (step releasingSystem .cancel).2.rt.history ≠ releasingSystem.rt.history := by
  have lifecycle : releasingSystem.lifecycle = .releasing := by decide +kernel
  refine ⟨⟨_, _, _, _, rfl⟩, by decide +kernel, lifecycle, not_cancelsByTable ?_, by decide +kernel, by decide +kernel⟩
  rw [lifecycle]
  decide

end PreemptionFabric
