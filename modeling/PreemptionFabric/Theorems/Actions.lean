import PreemptionFabric.System

/-! Running an `Action`: each primitive on a state, and how `bind` and branches pass the state on. -/

namespace PreemptionFabric

/-- The system with its lifecycle moved. -/
def System.withLifecycle (s : System) (l : LifecycleState) : System := { s with rt := { s.rt with machine := ⟨l⟩ } }

@[simp] theorem System.withLifecycle_lifecycle (s : System) (l : LifecycleState) :
    (s.withLifecycle l).lifecycle = l := rfl

theorem System.withLifecycle_of_lifecycle {s : System} {l : LifecycleState} (h : s.lifecycle = l) :
    s.withLifecycle l = s := by
  rw [← h]
  rfl

/-- What holds of both lifecycles holds of the one that the system is in. -/
theorem System.of_either (p : LifecycleState → Prop) {s : System} {l l' : LifecycleState}
    (before : s.lifecycle = l ∨ s.lifecycle = l') (first : p l) (second : p l') : p s.lifecycle := by
  rcases before with lifecycle | lifecycle
  · rw [lifecycle]
    exact first
  · rw [lifecycle]
    exact second

namespace Action
variable {α β : Type}

@[simp] theorem runOn_bind (a : Action α) (f : α → Action β) (s : System) :
    (a >>= f).runOn s =
      match a.runOn s with
      | (.ok x, s') => (f x).runOn s'
      | (.error e, s') => (.error e, s') := by
  show (ExceptT.bind a f : Action β) s = _
  simp only [ExceptT.bind, ExceptT.mk, bind, StateT.bind, runOn]
  cases a s with
  | mk r s' => cases r <;> rfl

@[simp] theorem runOn_pure (x : α) (s : System) : (pure x : Action α).runOn s = (.ok x, s) := rfl

@[simp] theorem runOn_ite (c : Prop) [Decidable c] (a b : Action α) (s : System) :
    (if c then a else b).runOn s = if c then a.runOn s else b.runOn s := by
  split <;> rfl

@[simp] theorem runOn_getRuntime (s : System) : getRuntime.runOn s = (.ok s.rt, s) := rfl

@[simp] theorem runOn_getAdapters (s : System) : getAdapters.runOn s = (.ok s.ad, s) := rfl

@[simp] theorem runOn_setRuntime (f : PreemptionRuntime → PreemptionRuntime) (s : System) :
    (setRuntime f).runOn s = (.ok (), { s with rt := f s.rt }) := rfl

@[simp] theorem runOn_setAdapters (ad : ReferenceAdapters) (s : System) :
    (setAdapters ad).runOn s = (.ok (), { s with ad }) := rfl

@[simp] theorem runOn_lifecycle (s : System) : lifecycle.runOn s = (.ok s.lifecycle, s) := rfl

@[simp] theorem runOn_reset (l : LifecycleState) (s : System) :
    (reset l).runOn s = (.ok (), s.withLifecycle l) := rfl

theorem runOn_transition (l : LifecycleState) (s : System) :
    (transition l).runOn s =
      if LifecycleStateMachine.isAllowed s.lifecycle l then (.ok (), s.withLifecycle l)
      else (.error (invalidTransition s.lifecycle l), s) := by
  by_cases h : LifecycleStateMachine.isAllowed s.lifecycle l = true
  · have hm : s.rt.machine.transition l = .ok ⟨l⟩ := if_pos h
    rw [if_pos h, runOn, transition, hm]
    rfl
  · have hm : s.rt.machine.transition l = .error (invalidTransition s.lifecycle l) := if_neg h
    rw [if_neg h, runOn, transition, hm]

theorem runOn_transition_of {l l' : LifecycleState} {s : System} (hl : s.lifecycle = l)
    (h : LifecycleStateMachine.isAllowed l l' = true) : (transition l').runOn s = (.ok (), s.withLifecycle l') := by
  rw [runOn_transition, hl, if_pos h]

@[simp] theorem runOn_finish (outcome : PreemptionOutcome) (evidence : List ExplainEntry) (s : System) :
    (finish outcome evidence).runOn s = (.ok ⟨outcome, s.lifecycle, evidence⟩, s) := rfl

theorem as_eq (a : Action α) (wrap : α → Ret) (s : System) :
    a.as wrap s =
      match a.runOn s with
      | (.ok x, t) => (.ok (wrap x), t)
      | (.error e, t) => (.error e, t) := by
  rw [Action.as]
  cases a.runOn s with
  | mk r t => cases r <;> rfl

end Action

theorem Returned.not_hasOutcome {res : PreemptionResult} {outcome : PreemptionOutcome} (h : res.outcome ≠ outcome) :
    ¬Returned.HasOutcome (.ok (.result res)) outcome := by
  rintro ⟨res', heq, ho⟩
  cases heq
  exact h ho

end PreemptionFabric
