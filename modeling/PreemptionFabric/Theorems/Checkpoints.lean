import PreemptionFabric.Theorems.Saving

/-! The checkpoint that a resume restores. A capture that is needed replaces the reference of the runtime, and one
    that is not needed leaves it, also when it is the reference of an earlier execution: a start does not clear it.
    The resume then restores the checkpoint of that execution. -/

namespace PreemptionFabric
open Trace

/-- A successful `report_state_captured` for the reference and generation. -/
def CapturesCheckpoint (ref : CheckpointRef) (generation : CheckpointGeneration) (e : Event) : Prop :=
  ∃ result, e.input = .reportStateCaptured result ∧ e.input.Succeeded e.output ∧ result.checkpointRef = ref ∧
    result.checkpointGeneration = generation

/-- The checkpoint was accepted, and no execution was started since. -/
def CapturedSinceStart (ref : CheckpointRef) (generation : CheckpointGeneration) (tr : List Event) : Prop :=
  After (CapturesCheckpoint ref generation) (fun _ rest => ∀ e ∈ rest, e.input.isStart = false) tr

/-- `request_state_capture` finds that no capture is needed while the runtime refers to a checkpoint. -/
def Event.skipsCapture (e : Event) : Bool :=
  match e.input with
  | .requestStateCapture => e.pre.lifecycle = .quiesced && !e.pre.rt.captureRequired && e.pre.rt.checkpointRef.isValid
  | _ => false

/-- Once the state is durable, a checkpoint that the runtime refers to is one of the current execution. -/
def OwnCheckpoint (tr : List Event) (s : System) : Prop :=
  s.lifecycle.pastDurable = true → s.rt.checkpointRef.isValid = true →
    CapturedSinceStart s.rt.checkpointRef s.rt.checkpointGeneration tr

section
variable {tr : List Event} {u t : System} {op : Op} {r : Returned}

theorem CapturedSinceStart.later {ref : CheckpointRef} {generation : CheckpointGeneration} {e : Event}
    (h : CapturedSinceStart ref generation tr) (inScope : e.input.isStart = false) :
    CapturedSinceStart ref generation (tr ++ [e]) := by
  refine After.append (fun x rest _ quiet y member => ?_) h
  rcases List.mem_append.mp member with earlier | last
  · exact quiet y earlier
  · rw [List.mem_singleton.mp last]
    exact inScope

/-- The step keeps the checkpoint, and the state was durable before it if it is after it. -/
theorem OwnCheckpoint.keep (h : OwnCheckpoint tr u) (inScope : op.isStart = false)
    (past : t.lifecycle.pastDurable = true → u.lifecycle.pastDurable = true)
    (ref : t.rt.checkpointRef = u.rt.checkpointRef) (generation : t.rt.checkpointGeneration = u.rt.checkpointGeneration) :
    OwnCheckpoint (tr ++ [⟨u, op, r, t⟩]) t := by
  intro durable valid
  rw [ref] at valid ⊢
  rw [generation]
  exact (h (past durable) valid).later inScope

theorem OwnCheckpoint.idle (h : OwnCheckpoint tr u) (unsuccessful : ¬op.Succeeded r) :
    OwnCheckpoint (tr ++ [⟨u, op, r, u⟩]) u := by
  refine h.keep ?_ id rfl rfl
  cases op with
  | startExecution => exact absurd trivial unsuccessful
  | _ => rfl

theorem OwnCheckpoint.move (h : OwnCheckpoint tr u) (fresh : op.loads = none)
    (unskipped : Event.skipsCapture ⟨u, op, r, t⟩ = false) (moved : Move u op r t) :
    OwnCheckpoint (tr ++ [⟨u, op, r, t⟩]) t := by
  have either {l l' : LifecycleState} (before : u.lifecycle = l ∨ u.lifecycle = l') (past : l.pastDurable = true)
      (past' : l'.pastDurable = true) : u.lifecycle.pastDurable = true :=
    System.of_either (·.pastDurable = true) before past past'
  cases moved with
  | captureSkipped before needless =>
    intro _ valid
    have stale : u.rt.checkpointRef.isValid = true := valid
    simp only [Event.skipsCapture, before, needless, stale] at unskipped
    cases unskipped
  | captured before success completed valid =>
    intro _ _
    exact After.last ⟨_, rfl, ⟨_, rfl, rfl⟩, rfl, rfl⟩ (by simp)
  | releaseRequested before durable => exact h.keep rfl (fun _ => either before rfl rfl) rfl rfl
  | released before free => exact h.keep rfl (fun _ => by rw [before]; rfl) rfl rfl
  | committed before quiesced durable released => exact h.keep rfl (fun _ => by rw [before]; rfl) rfl rfl
  | resumeRequested before => exact h.keep rfl (fun _ => by rw [before]; rfl) rfl rfl
  | revalidateBlocked before current blocked => exact h.keep rfl (fun _ => either before rfl rfl) rfl rfl
  | revalidated before current free => exact h.keep rfl (fun _ => either before rfl rfl) rfl rfl
  | restored before current => exact h.keep rfl (fun _ => by rw [before]; rfl) rfl rfl
  | resumed before => exact h.keep rfl (fun _ => either before rfl rfl) rfl rfl
  | reach position captureRequired found =>
    refine h.keep rfl (fun durable => ?_) rfl rfl
    rw [System.reached_lifecycle] at durable
    split at durable
    · cases durable
    · exact durable
  | declare sp => exact h.keep rfl id rfl rfl
  | publish kind auth forward => exact h.keep rfl id rfl rfl
  | priority g => exact h.keep rfl id rfl rfl
  | incarnation worker boot => exact h.keep rfl id rfl rfl
  | adapter o => exact h.keep rfl id rfl rfl
  | loaded ret image =>
    rw [image] at fresh
    cases fresh
  | _ => nofun

end

/-- In a run from construction without recovery, in which no capture is skipped while the runtime refers to a
    checkpoint, the checkpoint that `restore` hands to the checkpoint fabric was accepted after the last start. -/
theorem restore_own_checkpoint (epoch : CoordinatorEpoch) (policy : PolicyGeneration) (ad : ReferenceAdapters)
    (ops : List Op) (fresh : ∀ op ∈ ops, op.loads = none)
    (unskipped : ∀ e ∈ traceOf (.construct epoch policy ad) ops, e.skipsCapture = false) :
    let s := run (.construct epoch policy ad) ops
    s.lifecycle = .restoring → s.rt.checkpointRef.isValid = true →
      CapturedSinceStart s.rt.checkpointRef s.rt.checkpointGeneration (traceOf (.construct epoch policy ad) ops) := by
  intro s restoring handed
  have own : OwnCheckpoint (traceOf (.construct epoch policy ad) ops) s := by
    refine run_history (G := fun e => e.input.loads = none ∧ e.skipsCapture = false) (by nofun)
      (fun h guard moved => h.move guard.1 guard.2 moved) OwnCheckpoint.idle ops ?_
    exact fun e member => ⟨trace_loads_none fresh e member, unskipped e member⟩
  exact own (by rw [restoring]; rfl) handed

/-- A capture and a release, up to the resume that is to restore the checkpoint. -/
def restoringOps : List Op :=
  requestOps true ++ captureOps ++ releaseOps ++ [.commitPreempted, .requestResume, .revalidate]

theorem restore_own_checkpoint_captured :
    (systemAfter restoringOps).rt.checkpointRef = ⟨1⟩ ∧
      CapturedSinceStart ⟨1⟩ ⟨1⟩ (traceOf (.construct ⟨1⟩ ⟨1⟩ quietAdapters) restoringOps) := by
  refine ⟨by decide +kernel, ?_⟩
  refine restore_own_checkpoint ⟨1⟩ ⟨1⟩ quietAdapters restoringOps ?_ (by decide +kernel) (by decide +kernel)
    (by decide +kernel)
  simp [restoringOps, requestOps, captureOps, releaseOps, Op.loads]

/-- What was captured before a start is not captured since. -/
theorem not_capturedSinceStart {ref : CheckpointRef} {generation : CheckpointGeneration} {tr tr' : List Event} {e : Event}
    (start : e.input.isStart = true) (uncaptured : ∀ x ∈ tr', ¬CapturesCheckpoint ref generation x) :
    ¬CapturedSinceStart ref generation (tr ++ e :: tr') := by
  rintro ⟨before, c, rest, split, captures, quiet⟩
  have other : c ≠ e := by
    rintro rfl
    obtain ⟨result, input, _⟩ := captures
    rw [input] at start
    cases start
  rcases List.append_eq_append_iff.mp split with ⟨between, _, later⟩ | ⟨between, _, earlier⟩
  · -- The capture comes after the start.
    rcases List.cons_eq_append_iff.mp later with ⟨_, first⟩ | ⟨between', _, last⟩
    · cases first
      exact other rfl
    · refine uncaptured c ?_ captures
      rw [last]
      simp
  · -- The capture comes before it.
    rcases List.cons_eq_append_iff.mp earlier with ⟨_, first⟩ | ⟨between', _, last⟩
    · cases first
      exact other rfl
    · have scope := quiet e (by rw [last]; simp)
      rw [start] at scope
      cases scope

/-- An execution whose state is captured, and then another one which is preempted at a boundary that needs no
    capture and resumes. -/
def secondExecutionOps : List Op :=
  [.reachSafePoint ⟨7⟩ 20 false,
    .requestPreemption {
      id := ⟨9⟩, generation := ⟨2⟩, executionId := ⟨12⟩, executionGeneration := ⟨1⟩, attemptId := ⟨13⟩
      attemptGeneration := ⟨1⟩, coordinatorEpoch := ⟨1⟩ },
    .beginQuiesce, .reportQuiesced { workerBootId := ⟨5⟩, fullyQuiesced := true }, .requestStateCapture,
    .requestRelease, .reportReleased, .commitPreempted, .requestResume, .revalidate]

/-- The second execution needs no capture, and its resume restores the checkpoint of the first one. -/
theorem earlier_checkpoint_restored :
    let ops := requestOps true ++ captureOps ++ .startExecution ⟨1⟩ ⟨1⟩ ⟨12⟩ ⟨1⟩ ⟨13⟩ ⟨1⟩ ⟨4⟩ ⟨5⟩ :: secondExecutionOps
    let s := systemAfter ops
    (∀ op ∈ ops, op.loads = none) ∧ s.lifecycle = .restoring ∧ s.rt.checkpointRef = ⟨1⟩ ∧
      s.ad.restore s.rt.checkpointRef s.rt.checkpointGeneration = true ∧ (step s .restore).2.lifecycle = .resumeReady ∧
      ¬CapturedSinceStart s.rt.checkpointRef s.rt.checkpointGeneration
        (traceOf (.construct ⟨1⟩ ⟨1⟩ quietAdapters) ops) := by
  intro ops s
  refine ⟨?_, by decide +kernel, by decide +kernel, by decide +kernel, by decide +kernel, ?_⟩
  · simp [ops, requestOps, captureOps, secondExecutionOps, Op.loads]
  · simp only [ops, traceOf, Trace.trace_append, Trace.trace]
    refine not_capturedSinceStart rfl ?_
    rintro x member ⟨result, input, _⟩
    have issued := Trace.input_mem step member
    rw [input] at issued
    simp [secondExecutionOps] at issued

/-! ### The generation of a capture -/

/-- A capture that is due, over a checkpoint fabric that succeeds. -/
structure HealthyCapture (s : System) : Prop where
  quiesced : s.lifecycle = .quiesced
  needed : s.rt.captureRequired = true
  succeeds : s.ad.captureDefault = true
  valid : s.ad.checkpointValid = true

/-- The capture is asked for, and what it left is reported: the state is durable. -/
def CapturesState (s : System) : Prop :=
  ∃ result, (step s .requestStateCapture).2.ad.lastCapture = some result ∧
    (run s [.requestStateCapture, .reportStateCaptured result]).lifecycle = .stateDurable

/-- The runtime asks for the successor of its own checkpoint generation, and the fabric validates against its own one.
    The count of the captures is the reference of the next one, and must not wrap. -/
theorem capturesState_iff {s : System} (healthy : HealthyCapture s) :
    CapturesState s ↔ s.rt.checkpointGeneration.next = s.ad.currentCheckpointGen ∧ s.ad.captureCount ≠ maxValue := by
  have left := congrArg Prod.snd (requestStateCapture_needed healthy.quiesced healthy.needed)
  have reported : CapturesState s ↔
      (step s.captureStarted (.reportStateCaptured (s.ad.requestCapture s.captureRequest).1)).2.lifecycle =
        .stateDurable := by
    constructor
    · rintro ⟨result, last, durable⟩
      rw [left] at last
      cases last
      have durable : (step (step s .requestStateCapture).2 _).2.lifecycle = .stateDurable := durable
      rw [left] at durable
      exact durable
    · intro durable
      refine ⟨(s.ad.requestCapture s.captureRequest).1, by rw [left]; rfl, ?_⟩
      show (step (step s .requestStateCapture).2 _).2.lifecycle = .stateDurable
      rw [left]
      exact durable
  have wraps : s.ad.captureCount + 1 = 0 ↔ s.ad.captureCount = maxValue := by
    rw [← UInt64.toNat_inj, ← UInt64.toNat_inj, UInt64.toNat_add, maxValue_toNat]
    have bound := s.ad.captureCount.toNat_lt
    simp
    omega
  have validated :
      s.captureStarted.ad.validateCheckpoint ⟨s.ad.captureCount + 1⟩ s.rt.checkpointGeneration.next = true ↔
        s.rt.checkpointGeneration.next = s.ad.currentCheckpointGen ∧ s.ad.captureCount ≠ maxValue := by
    simp [System.captureStarted, ReferenceAdapters.requestCapture, ReferenceAdapters.validateCheckpoint, healthy.valid,
      Id.isValid, wraps, and_comm]
  rw [reported, reportStateCaptured_due rfl, ← validated]
  split_ifs with accepted
  · exact iff_of_true rfl accepted.2
  · refine iff_of_false (fun durable => ?_) fun valid => accepted ⟨⟨healthy.succeeds, rfl⟩, valid⟩
    cases durable

/-- The authoritative generation of the checkpoint fabric is set only by a direct call. -/
theorem Move.currentCheckpointGen {u t : System} {op : Op} {r : Returned} (moved : Move u op r t)
    (untouched : ∀ g, op ≠ .adapter (.setCurrentCheckpointGeneration g)) :
    t.ad.currentCheckpointGen = u.ad.currentCheckpointGen := by
  cases moved with
  | releaseRequested before durable =>
    obtain ⟨_, _, same⟩ := releaseLeases_frame u.ad u.rt.executionId
    show (releaseLeases u.ad u.rt.executionId).currentCheckpointGen = _
    rw [same]
  | adapter o =>
    cases o with
    | setCurrentCheckpointGeneration g => exact absurd rfl (untouched g)
    | requestRelease e rc units expected =>
      obtain ⟨_, _, same⟩ := u.ad.requestRelease_frame e rc units expected
      show (u.ad.requestRelease e rc units expected).2.currentCheckpointGen = _
      rw [same]
    | reacquire e rc units contract =>
      obtain ⟨_, _, _, same⟩ := u.ad.reacquire_frame e rc units contract
      show (u.ad.reacquire e rc units contract).2.currentCheckpointGen = _
      rw [same]
    | _ => rfl
  | _ => rfl

/-- Along every run in which nobody sets the authoritative generation of the checkpoint fabric, a healthy capture makes
    the state durable exactly when the runtime has no checkpoint generation yet. -/
theorem capture_accepted_iff (epoch : CoordinatorEpoch) (policy : PolicyGeneration) (ad : ReferenceAdapters)
    (initial : ad.currentCheckpointGen = ⟨1⟩) (ops : List Op)
    (untouched : ∀ g, .adapter (.setCurrentCheckpointGeneration g) ∉ ops)
    (healthy : HealthyCapture (run (.construct epoch policy ad) ops)) :
    CapturesState (run (.construct epoch policy ad) ops) ↔
      (run (.construct epoch policy ad) ops).rt.checkpointGeneration = {} ∧
        (run (.construct epoch policy ad) ops).ad.captureCount ≠ maxValue := by
  have kept : (run (.construct epoch policy ad) ops).ad.currentCheckpointGen = ⟨1⟩ := by
    refine run_invariant (P := fun u => u.ad.currentCheckpointGen = ⟨1⟩)
      (G := fun e => ∀ g, e.input ≠ .adapter (.setCurrentCheckpointGeneration g)) initial ?_ ops ?_
    · intro u op r t holds guard moved
      exact (moved.currentCheckpointGen guard).trans holds
    · intro e member g input
      exact untouched g (input ▸ Trace.input_mem step member)
  rw [capturesState_iff healthy, kept]
  refine and_congr_left fun _ => ⟨Generation.eq_default_of_next, fun first => ?_⟩
  rw [first]
  rfl

theorem capture_accepted_first : CapturesState (systemAfter (requestOps true ++ captureOps.take 2)) := by
  refine (capture_accepted_iff ⟨1⟩ ⟨1⟩ quietAdapters rfl _ ?_ ?_).mpr ⟨by decide +kernel, by decide +kernel⟩
  · simp [requestOps, captureOps]
  · exact ⟨by decide +kernel, by decide +kernel, by decide +kernel, by decide +kernel⟩

/-- An execution whose state is captured, and then another one which is quiesced at a boundary that needs a capture. -/
def secondCaptureOps : List Op :=
  requestOps true ++ captureOps ++
    [.startExecution ⟨1⟩ ⟨1⟩ ⟨12⟩ ⟨1⟩ ⟨13⟩ ⟨1⟩ ⟨4⟩ ⟨5⟩, .reachSafePoint ⟨7⟩ 20 true] ++
    (secondExecutionOps.drop 1).take 3

/-- The second capture is as healthy as the first one, and is rejected: it asks for generation 2 of a fabric that still
    holds generation 1. -/
theorem second_capture_rejected :
    (∀ g, .adapter (.setCurrentCheckpointGeneration g) ∉ secondCaptureOps) ∧
      quietAdapters.currentCheckpointGen = ⟨1⟩ ∧ HealthyCapture (systemAfter secondCaptureOps) ∧
      ¬CapturesState (systemAfter secondCaptureOps) := by
  have healthy : HealthyCapture (systemAfter secondCaptureOps) :=
    ⟨by decide +kernel, by decide +kernel, by decide +kernel, by decide +kernel⟩
  refine ⟨?_, rfl, healthy, fun captures => ?_⟩
  · simp [secondCaptureOps, requestOps, captureOps, secondExecutionOps]
  · obtain ⟨current, _⟩ := (capturesState_iff healthy).mp captures
    exact absurd current (by decide +kernel)

end PreemptionFabric
