import PreemptionFabric.Theorems.Preempted

/-! Calls that are rejected. An operation checks everything that it rejects before it writes anything, so a rejected
    call leaves the system as it was; the one exception is a revalidation that waits for a dependency. A call that
    fails the preemption writes the lifecycle and nothing else. -/

namespace PreemptionFabric

/-- The call was rejected, as far as its result `r` and the lifecycle `left` by it tell. -/
def Op.Rejected (op : Op) (r : Returned) (left : LifecycleState) : Prop :=
  match op with
  | .beginQuiesce | .reportQuiesced _ | .requestStateCapture | .reportStateCaptured _ | .requestRelease
  | .reportReleased | .commitPreempted | .revalidate | .restore | .confirmResumed =>
    r.HasOutcome .cannotPreemptSafely ∨ r.HasOutcome .preemptionFailed ∧ left ≠ .failed
  | .requestPreemption _ => ¬∃ a, r = .ok (.admission a) ∧ a.code = .accepted
  | .requestResume => ∃ e, r = .ok (.eligibility e) ∧ e.outcome = .resumeNotAllowed
  | .publishProgress _ _ => r = .ok (.bool false)
  | .reachSafePoint .. => ∃ e, r = .error e
  | _ => False

section
variable {s t : System} {op : Op} {r : Returned}

theorem Op.Rejected.loads {left : LifecycleState} (rejected : op.Rejected r left) : op.loads = none := by
  cases op with
  | restoreState | restoreBytes | load => cases rejected
  | _ => rfl

theorem not_hasOutcome_of {res : PreemptionResult} {left : LifecycleState}
    (safe : res.outcome ≠ .cannotPreemptSafely) (failed : res.outcome = .preemptionFailed → left = .failed) :
    ¬(Returned.HasOutcome (.ok (.result res)) .cannotPreemptSafely ∨
      Returned.HasOutcome (.ok (.result res)) .preemptionFailed ∧ left ≠ .failed) := by
  rintro (⟨_, same, outcome⟩ | ⟨⟨_, same, outcome⟩, other⟩)
  · cases same
    exact safe outcome
  · cases same
    exact other (failed outcome)

/-- The only move under a rejection is that of a revalidation to its wait. -/
theorem Move.rejected (moved : Move s op r t) (rejected : op.Rejected r t.lifecycle) :
    op = .revalidate ∧ dependencyBlocks s.ad s.rt.executionId = true ∧
      (s.lifecycle = .resumePending ∨ s.lifecycle = .revalidating) ∧ t = s.withLifecycle .revalidating := by
  cases moved with
  | revalidateBlocked before current blocked => exact ⟨rfl, blocked, before, rfl⟩
  | reach position captureRequired found =>
    obtain ⟨e, thrown⟩ := rejected
    cases thrown
  | publish kind auth forward => cases rejected
  | accept id generation auth first => exact absurd ⟨_, rfl, rfl⟩ rejected
  | resumeRequested before =>
    obtain ⟨e, same, outcome⟩ := rejected
    cases same
    cases outcome
  | loaded ret image =>
    have none := rejected.loads
    rw [image] at none
    cases none
  | captureFailed | revalidateFailed | restoreFailed =>
    exact absurd rejected (not_hasOutcome_of nofun fun _ => rfl)
  | quiesce | defer | quiesced | captureSkipped | captureStarted | captured | releaseRequested | released | committed
  | revalidated | restored | resumed => exact absurd rejected (not_hasOutcome_of nofun nofun)
  | start | declare | cancelled | aborted | priority | incarnation | adapter => cases rejected

/-- A move to FAILED changes the lifecycle and nothing else. -/
theorem Move.failed (moved : Move s op r t) (scope : op.loads = none) (before : s.lifecycle ≠ .failed)
    (after : t.lifecycle = .failed) : t = s.withLifecycle .failed := by
  cases moved with
  | captureFailed | revalidateFailed | restoreFailed => rfl
  | reach position captureRequired found => exact absurd (System.lifecycle_of_reached after nofun) before
  | loaded ret image =>
    rw [image] at scope
    cases scope
  | declare | publish | priority | incarnation | adapter => exact absurd after before
  | _ => cases after

end

/-- A call that is rejected changes nothing, except that a revalidation that is blocked on a dependency may go from
    RESUME_PENDING to REVALIDATING; and a call that fails the preemption changes the lifecycle only. -/
theorem rejected_without_effect (s : System) (op : Op) :
    (op.Rejected (step s op).1 (step s op).2.lifecycle →
      (step s op).2 = s ∨
        op = .revalidate ∧ dependencyBlocks s.ad s.rt.executionId = true ∧ s.lifecycle = .resumePending ∧
          (step s op).2 = s.withLifecycle .revalidating) ∧
    (op.loads = none → s.lifecycle ≠ .failed → (step s op).2.lifecycle = .failed →
      (step s op).2 = s.withLifecycle .failed) := by
  rcases step_cases s op with moved | ⟨same, _⟩
  · constructor
    · intro rejected
      obtain ⟨revalidates, blocked, before, after⟩ := moved.rejected rejected
      rcases before with pending | waiting
      · exact .inr ⟨revalidates, blocked, pending, after⟩
      · left
        rw [after]
        exact System.withLifecycle_of_lifecycle waiting
    · exact moved.failed
  · refine ⟨fun _ => .inl same, fun _ before after => ?_⟩
    rw [same] at after
    exact absurd after before

/-- An execution whose capture has been asked for. -/
def capturingSystem : System :=
  run (.construct ⟨1⟩ ⟨1⟩ quietAdapters) (requestOps true ++ captureOps.take 3)

/-- A commit that comes too early, and a capture that fails. -/
theorem rejected_without_effect_capturing :
    (step capturingSystem .commitPreempted).1.HasOutcome .cannotPreemptSafely ∧
      (step capturingSystem .commitPreempted).2 = capturingSystem ∧
      (step capturingSystem (.reportStateCaptured {})).2 = capturingSystem.withLifecycle .failed := by
  have early : (step capturingSystem .commitPreempted).1.HasOutcome .cannotPreemptSafely := by decide +kernel
  refine ⟨early, ?_, ?_⟩
  · rcases (rejected_without_effect capturingSystem .commitPreempted).1 (.inl early) with same | ⟨other, _⟩
    · exact same
    · cases other
  · exact (rejected_without_effect capturingSystem (.reportStateCaptured {})).2 rfl (by decide +kernel)
      (by decide +kernel)

end PreemptionFabric
