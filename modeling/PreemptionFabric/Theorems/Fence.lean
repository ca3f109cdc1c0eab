import PreemptionFabric.Theorems.Authority
import PreemptionFabric.Theorems.Codec
import PreemptionFabric.Theorems.Preempted

/-! The fence of a preempted attempt. A commit shuts it and only a grant of authority opens it, whatever the
    order of the steps; but an image that is installed opens it, whatever the lifecycle of the image. -/

namespace PreemptionFabric
open Trace

/-- The step grants no authority: it is not `start_execution`, a call that grants it directly, a recovery or a
    successful `confirm_resumed`. -/
structure GrantsNothing (e : Event) : Prop where
  start : e.input.isStart = false
  direct : ∀ o, e.input = .adapter o → o.grants = false
  recovery : e.input.loads = none
  confirmed : e.input = .confirmResumed → ¬e.input.Succeeded e.output

/-- The step is a `publish_progress` that was refused, if it is one. -/
def RefusesProgress (e : Event) : Prop :=
  ∀ position kind, e.input = .publishProgress position kind → e.output = .ok (.bool false)

/-- No attempt is authoritative, and the progress is the one of `s`. -/
structure Fenced (s u : System) : Prop where
  shut : u.ad.attemptAuthoritative = false
  durable : u.rt.durablePosition = s.rt.durablePosition
  durableGeneration : u.rt.durableProgressGeneration = s.rt.durableProgressGeneration
  generation : u.rt.progressGeneration = s.rt.progressGeneration

section
variable {s u t : System} {op : Op} {r : Returned}

theorem holdsAuthority_of_shut (shut : u.ad.attemptAuthoritative = false) : u.holdsAuthority = false := by
  simp [System.holdsAuthority, ReferenceAdapters.currentAttemptAuthority, shut]

theorem Fenced.move (h : Fenced s u) (grants : GrantsNothing ⟨u, op, r, t⟩) (moved : Move u op r t) : Fenced s t := by
  have keep : ∀ {ad}, SameAuthority u.ad ad → ad.attemptAuthoritative = false :=
    fun same => same.authoritative.trans h.shut
  cases moved with
  | start w wg e eg a ag worker boot => cases grants.start
  | publish kind auth forward =>
    rw [holdsAuthority_of_shut h.shut] at auth
    cases auth
  | captureStarted before needed =>
    exact ⟨h.shut, h.durable, h.durableGeneration, h.generation⟩
  | releaseRequested before durable =>
    exact ⟨keep (releaseLeases_sameAuthority _ _), h.durable, h.durableGeneration, h.generation⟩
  | committed before quiesced durable released => exact ⟨rfl, h.durable, h.durableGeneration, h.generation⟩
  | resumed before => exact absurd ⟨_, rfl, rfl⟩ (grants.confirmed rfl)
  | loaded ret image =>
    have recovery := grants.recovery
    rw [image] at recovery
    cases recovery
  | adapter o =>
    exact ⟨AdapterOp.apply_fenced (grants.direct o rfl) h.shut, h.durable, h.durableGeneration, h.generation⟩
  | _ => exact ⟨h.shut, h.durable, h.durableGeneration, h.generation⟩

/-- Behind a shut fence a publication is refused and changes nothing. -/
theorem publishProgress_refused (shut : u.ad.attemptAuthoritative = false) (position : UInt64) (kind : ProgressKind) :
    step u (.publishProgress position kind) = (.ok (.bool false), u) := by
  rw [publishProgress_step, holdsAuthority_of_shut shut]
  rfl

/-- A shut fence stays shut along a run that grants nothing. -/
theorem Fenced.run (h : Fenced s u) (ops : List Op) (quiet : ∀ e ∈ traceOf u ops, GrantsNothing e) :
    Fenced s (run u ops) ∧ ∀ e ∈ traceOf u ops, RefusesProgress e := by
  refine Trace.trace_induction step h (fun v op fenced grants => ⟨?_, ?_⟩) ops quiet
  · rcases step_cases v op with moved | ⟨same, _⟩
    · exact fenced.move grants moved
    · rw [same]
      exact fenced
  · rintro position kind rfl
    exact congrArg Prod.fst (publishProgress_refused fenced.shut position kind)

end

/-- After a successful commit, and until authority is granted again, every publication is refused and the
    progress stays as it was at the commit. -/
theorem commitPreempted_fences (s : System) (ops : List Op)
    (committed : (step s .commitPreempted).1.HasOutcome .safePreemptionCompleted)
    (quiet : ∀ e ∈ traceOf s (.commitPreempted :: ops), GrantsNothing e) :
    (∀ e ∈ traceOf s (.commitPreempted :: ops), RefusesProgress e) ∧
    (run s (.commitPreempted :: ops)).rt.durablePosition = s.rt.durablePosition ∧
    (run s (.commitPreempted :: ops)).rt.durableProgressGeneration = s.rt.durableProgressGeneration ∧
    (run s (.commitPreempted :: ops)).rt.progressGeneration = s.rt.progressGeneration := by
  obtain ⟨_, _, _, _, left⟩ := (move_of_succeeded .commitPreempted committed).commit
  have fenced : Fenced s (step s .commitPreempted).2 := by
    rw [left]
    exact ⟨rfl, rfl, rfl, rfl⟩
  obtain ⟨⟨_, durable, durableGeneration, generation⟩, refused⟩ :=
    fenced.run ops fun e member => quiet e (List.mem_cons_of_mem _ member)
  refine ⟨fun e member => ?_, durable, durableGeneration, generation⟩
  rcases List.mem_cons.mp member with rfl | later
  · rintro position kind input
    cases input
  · exact refused e later

/-- The attempt is committed after a capture, then resumes under a new worker boot up to RESTORING, publishes and
    is cancelled. -/
theorem commitPreempted_fences_resume :
    let s := run (.construct ⟨1⟩ ⟨1⟩ quietAdapters) (requestOps true ++ captureOps ++ releaseOps)
    let ops : List Op := [.requestResume, .setWorkerIncarnation ⟨4⟩ ⟨6⟩, .revalidate, .publishProgress 20 .durable,
      .cancel, .publishProgress 30 .durable]
    (∀ e ∈ traceOf s (.commitPreempted :: ops), RefusesProgress e) ∧
    (run s (.commitPreempted :: ops)).rt.durablePosition = s.rt.durablePosition ∧
    (run s (.commitPreempted :: ops)).rt.durableProgressGeneration = s.rt.durableProgressGeneration ∧
    (run s (.commitPreempted :: ops)).rt.progressGeneration = s.rt.progressGeneration := by
  intro s ops
  have quiet : ∀ op ∈ .commitPreempted :: ops, op.isStart = false ∧ op.loads = none ∧ op ≠ .confirmResumed ∧
      ∀ o, op ≠ .adapter o := by
    simp [ops, Op.isStart, Op.loads]
  refine commitPreempted_fences s ops (by decide +kernel) fun e member => ?_
  obtain ⟨start, recovery, confirmed, direct⟩ := quiet e.input (Trace.input_mem step member)
  exact ⟨start, fun o input => absurd input (direct o), recovery, fun input => absurd input confirmed⟩

/-! ### Recovery -/

/-- From `s` on, until authority is granted, every publication is refused and the durable position stays. -/
def StaysFenced (s : System) : Prop :=
  ∀ ops, (∀ e ∈ traceOf s ops, GrantsNothing e) →
    (∀ e ∈ traceOf s ops, RefusesProgress e) ∧ (run s ops).rt.durablePosition = s.rt.durablePosition

theorem restored_holdsAuthority (s : System) (st : PersistentState) : (s.restored st).holdsAuthority = true := by
  simp [System.holdsAuthority, System.restored, ReferenceAdapters.currentAttemptAuthority,
    ReferenceAdapters.setAuthoritative]

theorem restoreBytes_step {bytes : List UInt8} {st : PersistentState} (accepted : decode bytes = .ok st) (s : System) :
    step s (.restoreBytes bytes) = (.ok (.bool true), s.restored st) := by
  simp only [step, Action.as_eq, restoreBytes_runOn, accepted]

theorem restoreBytes_rejected {bytes : List UInt8} {e : PersistenceError} (rejected : decode bytes = .error e)
    (s : System) : step s (.restoreBytes bytes) = (.ok (.bool false), s) := by
  simp only [step, Action.as_eq, restoreBytes_runOn, rejected]

theorem restored_not_staysFenced (s : System) (st : PersistentState) : ¬StaysFenced (s.restored st) := by
  intro fenced
  have accepted := publishProgress_step (s.restored st) (s.restored st).rt.durablePosition .attempted
  rw [if_pos ⟨restored_holdsAuthority s st, UInt64.le_refl _⟩] at accepted
  have quiet : ∀ e ∈ traceOf (s.restored st) [.publishProgress (s.restored st).rt.durablePosition .attempted],
      GrantsNothing e := by
    intro e member
    have input := List.mem_singleton.mp (Trace.input_mem step member)
    refine ⟨?_, ?_, ?_, ?_⟩ <;> simp [input, Op.loads, Op.isStart]
  obtain ⟨refused, _⟩ := fenced _ quiet
  have answer := refused _ List.mem_cons_self _ _ rfl
  rw [event, accepted] at answer
  cases answer

/-- An image of a lifecycle after the release, with all the evidence that its validation asks for. -/
def imageAt (l : LifecycleState) : PersistentState where
  formatVersion := persistenceVersion
  executionId := ⟨2⟩
  attemptId := ⟨3⟩
  workerBootId := ⟨5⟩
  fencedWorkerBoot := ⟨5⟩
  lifecycle := l
  requestId := ⟨8⟩
  requestGeneration := ⟨1⟩
  quiesced := true
  stateDurable := true
  checkpointRef := ⟨1⟩
  checkpointGeneration := ⟨1⟩
  resourcesReleased := true
  preempted := true
  durableProgress := 10

theorem decode_imageAt (l : LifecycleState) : decode (encode (imageAt l)) = .ok (imageAt l) := by
  refine decode_encode_of_valid ?_ (by cases l <;> decide)
  rw [length_encodePayload]
  simp [imageAt]

/-- The fence does not survive recovery: whatever accepted image is loaded, into whatever runtime, the next
    publication at its durable position is accepted. -/
theorem restoreBytes_opens_fence (bytes : List UInt8) (st : PersistentState) (accepted : decode bytes = .ok st)
    (s : System) : ¬StaysFenced (step s (.restoreBytes bytes)).2 := by
  rw [restoreBytes_step accepted]
  exact restored_not_staysFenced s st

theorem restoreBytes_opens_fence_resumePending :
    ¬StaysFenced (step (.construct ⟨2⟩ ⟨1⟩ {}) (.restoreBytes (encode (imageAt .resumePending)))).2 :=
  restoreBytes_opens_fence _ (imageAt .resumePending) (decode_imageAt .resumePending) (.construct ⟨2⟩ ⟨1⟩ {})

/-- A PREEMPTED image, fenced for its worker boot, is loaded into a new runtime and loses its fence. -/
theorem preempted_image_not_fenced :
    ∃ bytes st, decode bytes = .ok st ∧ st.lifecycle = .preempted ∧ st.fencedWorkerBoot = st.workerBootId ∧
      ¬StaysFenced (step (.construct ⟨2⟩ ⟨1⟩ {}) (.restoreBytes bytes)).2 := by
  refine ⟨encode (imageAt .preempted), imageAt .preempted, decode_imageAt .preempted, rfl, rfl, ?_⟩
  rw [restoreBytes_step (decode_imageAt .preempted)]
  exact restored_not_staysFenced _ _

end PreemptionFabric
