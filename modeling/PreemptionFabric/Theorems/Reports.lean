import PreemptionFabric.Theorems.Fence
import PreemptionFabric.Theorems.Saving

/-! What the operations tell their callers. Every result reports the lifecycle that the call left, except that of a
    resume which fails on its checkpoint: it still reports the lifecycle of the entry. And the operations ask only for
    edges that the table has, except `begin_quiesce`, which takes a deferred request at a valid boundary to
    QUIESCING. -/

namespace PreemptionFabric
open Trace PreemptionFabric.Action

/-- The result that the step returned, if it returned one, reports the lifecycle that the step left. -/
def ReportsLifecycle (e : Event) : Prop := ∀ res, e.output = .ok (.result res) → res.lifecycle = e.post.lifecycle

/-- The step throws a `PreemptionError` with the code. -/
def Throws (code : String) (e : Event) : Prop := ∃ thrown, e.output = .error thrown ∧ thrown.code = code

/-- A resume that fails because the checkpoint of the runtime is no longer valid. -/
def Op.FailsResume (s : System) (op : Op) : Prop :=
  checkpointRejected s.rt s.ad = true ∧
    (op = .revalidate ∧ (s.lifecycle = .resumePending ∨ s.lifecycle = .revalidating) ∨
      op = .restore ∧ s.lifecycle = .restoring)

section
variable {s t : System} {op : Op} {r : Returned}

/-! ### Results -/

theorem reports_of {res : PreemptionResult} (same : res.lifecycle = t.lifecycle) :
    ReportsLifecycle ⟨s, op, .ok (.result res), t⟩ := by
  intro res' returned
  cases returned
  exact same

theorem Move.reports (moved : Move s op r t) (fresh : op.loads = none) (passes : ¬op.FailsResume s) :
    ReportsLifecycle ⟨s, op, r, t⟩ := by
  cases moved with
  | revalidateFailed before rejected => exact absurd ⟨rejected, .inl ⟨rfl, before⟩⟩ passes
  | restoreFailed before rejected => exact absurd ⟨rejected, .inr ⟨rfl, before⟩⟩ passes
  | quiesce | defer | quiesced | captureSkipped | captureStarted | captured | captureFailed | releaseRequested
  | released | committed | revalidateBlocked | revalidated | restored | resumed => exact reports_of rfl
  | loaded ret image =>
    rw [image] at fresh
    cases fresh
  | _ =>
    intro res returned
    cases returned

/-- A recovery returns no `PreemptionResult`. -/
theorem loads_reports {st : PersistentState} (image : op.loads = some st) : ReportsLifecycle (event step s op) := by
  intro res returned
  cases op with
  | restoreState st' =>
    simp only [event, step, as_eq, restoreState_runOn] at returned
    cases returned
  | restoreBytes bytes =>
    simp only [event, step, as_eq, restoreBytes_runOn] at returned
    cases accepted : decode bytes <;> rw [accepted] at returned <;> cases returned
  | load file =>
    cases file with
    | none => cases image
    | some bytes =>
      simp only [event, step, as_eq, PreemptionFabric.load, restoreBytes_runOn] at returned
      cases accepted : decode bytes <;> rw [accepted] at returned <;> cases returned
  | _ => cases image

/-- A resume that fails on its checkpoint reports the lifecycle of its entry, and leaves FAILED. -/
theorem Op.FailsResume.not_reports (fails : op.FailsResume s) : ¬ReportsLifecycle (event step s op) := by
  intro reports
  rcases fails with ⟨rejected, ⟨rfl, before⟩ | ⟨rfl, before⟩⟩
  · rw [event, revalidate_due before, if_pos rejected] at reports
    have same : s.lifecycle = .failed := reports _ rfl
    rcases before with pending | waiting
    · rw [pending] at same
      cases same
    · rw [waiting] at same
      cases same
  · rw [event, restore_rejected before rejected] at reports
    cases reports _ rfl

theorem reports_iff (s : System) (op : Op) : ReportsLifecycle (event step s op) ↔ ¬op.FailsResume s := by
  refine ⟨fun reports fails => fails.not_reports reports, fun passes => ?_⟩
  rcases step_answers s op with moved | ⟨same, _, refusal⟩
  · cases fresh : op.loads with
    | none => exact moved.reports fresh passes
    | some st => exact loads_reports fresh
  · intro res returned
    have returned : (step s op).1 = .ok (.result res) := returned
    rw [returned] at refusal
    exact refusal.trans (congrArg System.lifecycle same).symm

/-! ### Errors -/

theorem Move.returns (moved : Move s op r t) : ∃ ret, r = .ok ret := by
  cases moved <;> exact ⟨_, rfl⟩

theorem missesEdge_step (misses : op.MissesEdge s) :
    step s op = (.error (invalidTransition .deferred .quiescing), s) := by
  obtain ⟨rfl, deferred, boundary⟩ := misses
  simp only [step, as_eq, beginQuiesce, runOn_bind, runOn_lifecycle, runOn_getRuntime, runOn_ite]
  rw [if_neg (by simp [deferred]), if_pos (.inr deferred), if_pos boundary, runOn_transition, deferred]
  rfl

theorem missesSafePoint_step (misses : op.MissesSafePoint s) : step s op = (.error unknownSafePoint, s) := by
  obtain ⟨id, position, captureRequired, rfl, absent⟩ := misses
  rw [reachSafePoint_step, absent]

/-- What a step throws, and why. -/
theorem error_cases {thrown : PreemptionError} (output : (step s op).1 = .error thrown) :
    op.MissesSafePoint s ∧ thrown = unknownSafePoint ∨
      op.MissesEdge s ∧ thrown = invalidTransition .deferred .quiescing := by
  rcases step_answers s op with moved | ⟨_, _, refusal⟩
  · obtain ⟨ret, returned⟩ := moved.returns
    rw [returned] at output
    cases output
  · rw [output] at refusal
    exact refusal

theorem step_throws_iff (s : System) (op : Op) :
    (∃ thrown, (step s op).1 = .error thrown) ↔ op.MissesSafePoint s ∨ op.MissesEdge s := by
  constructor
  · rintro ⟨thrown, output⟩
    exact (error_cases output).imp And.left And.left
  · rintro (misses | misses)
    · exact ⟨_, congrArg Prod.fst (missesSafePoint_step misses)⟩
    · exact ⟨_, congrArg Prod.fst (missesEdge_step misses)⟩

theorem throws_illegal_iff (s : System) (op : Op) :
    Throws "illegal_transition" (event step s op) ↔ op.MissesEdge s := by
  constructor
  · rintro ⟨thrown, output, code⟩
    rcases error_cases output with ⟨_, unknown⟩ | ⟨misses, _⟩
    · rw [unknown] at code
      exact absurd code (by decide)
    · exact misses
  · intro misses
    exact ⟨_, congrArg Prod.fst (missesEdge_step misses), rfl⟩

end

/-- In every run, the result of a step reports the lifecycle that the step left, unless the step is a resume that
    fails on its checkpoint. -/
theorem result_reports_lifecycle_iff (epoch : CoordinatorEpoch) (policy : PolicyGeneration) (ad : ReferenceAdapters)
    (ops : List Op) :
    ∀ e ∈ traceOf (.construct epoch policy ad) ops, ReportsLifecycle e ↔ ¬e.input.FailsResume e.pre := by
  intro e member
  rw [eq_event step member]
  exact reports_iff e.pre e.input

/-- A preempted execution that asks to resume. -/
def resumingSystem : System :=
  systemAfter (requestOps true ++ captureOps ++ releaseOps ++ [.commitPreempted, .requestResume])

theorem result_reports_lifecycle_revalidated : ReportsLifecycle (event step resumingSystem .revalidate) := by
  refine (result_reports_lifecycle_iff ⟨1⟩ ⟨1⟩ quietAdapters _ _ (event_mem step _ _ _)).mpr ?_
  rintro ⟨rejected, _⟩
  exact absurd rejected (by decide +kernel)

/-- The checkpoint is superseded while the execution asks to resume: the revalidation fails and still reports
    RESUME_PENDING. -/
theorem superseded_checkpoint_misreported :
    let s := systemAfter (requestOps true ++ captureOps ++ releaseOps ++
      [.commitPreempted, .requestResume, .adapter (.setCurrentCheckpointGeneration ⟨2⟩)])
    (step s .revalidate).2.lifecycle = .failed ∧ ¬ReportsLifecycle (event step s .revalidate) := by
  refine ⟨by decide +kernel, Op.FailsResume.not_reports ⟨by decide +kernel, .inl ⟨rfl, .inl (by decide +kernel)⟩⟩⟩

/-- In every run, the step that throws an illegal transition is a `begin_quiesce` of a deferred request at a valid
    boundary. -/
theorem illegal_transition_iff (epoch : CoordinatorEpoch) (policy : PolicyGeneration) (ad : ReferenceAdapters)
    (ops : List Op) :
    ∀ e ∈ traceOf (.construct epoch policy ad) ops, Throws "illegal_transition" e ↔ e.input.MissesEdge e.pre := by
  intro e member
  rw [eq_event step member]
  exact throws_illegal_iff e.pre e.input

theorem illegal_transition_resuming : ¬Throws "illegal_transition" (event step resumingSystem .beginQuiesce) := by
  intro thrown
  obtain ⟨_, deferred, _⟩ := (illegal_transition_iff ⟨1⟩ ⟨1⟩ quietAdapters _ _ (event_mem step _ _ _)).mp thrown
  exact absurd deferred (by decide +kernel)

/-- A deferred request is recovered, and its work reaches a safe point: `begin_quiesce` throws. -/
theorem deferred_request_throws :
    Throws "illegal_transition" (event step (run (.construct ⟨2⟩ ⟨1⟩ {})
      [.restoreBytes (encode (imageAt .deferred)), .declareSafePoint { id := ⟨7⟩ }, .reachSafePoint ⟨7⟩ 20 false])
      .beginQuiesce) := by
  rw [run, exec, restoreBytes_step (decode_imageAt .deferred), throws_illegal_iff]
  exact ⟨rfl, by decide +kernel, by decide +kernel⟩

end PreemptionFabric
