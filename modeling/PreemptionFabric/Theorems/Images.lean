import PreemptionFabric.Theorems.Endings
import PreemptionFabric.Theorems.Saving

/-! What an image may claim. Whatever bytes are loaded, a lifecycle at or past PREEMPTED carries all its evidence,
    since the decoder asks for it. Before PREEMPTED the decoder asks for less than the runs provide, so that it
    accepts images which are the snapshot of no run. -/

namespace PreemptionFabric

/-! ### The evidence of a durable preemption -/

/-- At or past PREEMPTED the execution is quiesced, its state durable and its resources released. -/
def System.DurablyEvidenced (s : System) : Prop :=
  s.rt.machine.isPreemptedDurable = true →
    s.rt.quiesced = true ∧ s.rt.stateDurable = true ∧ s.rt.resourcesReleased = true

section
variable {u t : System} {op : Op} {r : Returned}

theorem System.DurablyEvidenced.move (h : u.DurablyEvidenced) (validated : ∀ st, op.loads = some st → ValidImage st)
    (moved : Move u op r t) : t.DurablyEvidenced := by
  have held {l l' : LifecycleState} (before : u.lifecycle = l ∨ u.lifecycle = l')
      (durable : LifecycleStateMachine.isPreemptedDurable ⟨l⟩ = true)
      (durable' : LifecycleStateMachine.isPreemptedDurable ⟨l'⟩ = true) :
      u.rt.quiesced = true ∧ u.rt.stateDurable = true ∧ u.rt.resourcesReleased = true :=
    h (System.of_either (fun l => LifecycleStateMachine.isPreemptedDurable ⟨l⟩ = true) before durable durable')
  cases moved with
  | committed before quiesced durable released => exact fun _ => ⟨quiesced, durable, released⟩
  | resumeRequested before => exact fun _ => held (or_self_iff.mpr before) rfl rfl
  | revalidateBlocked before current blocked => exact fun _ => held before rfl rfl
  | revalidated before current free => exact fun _ => held before rfl rfl
  | restored before current => exact fun _ => held (or_self_iff.mpr before) rfl rfl
  | resumed before => exact fun _ => held before rfl rfl
  | loaded ret image =>
    intro durable
    have valid := validated _ image
    simp only [System.restored, PreemptionRuntime.restored_machine] at durable
    have reached := isReleaseReached_of_isPreemptedDurable durable
    simp only [System.restored, PreemptionRuntime.restored_quiesced, PreemptionRuntime.restored_stateDurable,
      PreemptionRuntime.restored_resourcesReleased]
    exact ⟨valid.quiesced reached, valid.durable reached, valid.released reached⟩
  | @reach id sp position captureRequired found =>
    intro durable
    have other : (u.reached id (sp.reachedAt position captureRequired)).lifecycle ≠ .safePointReached := by
      intro reached
      rw [System.lifecycle] at reached
      rw [LifecycleStateMachine.isPreemptedDurable, reached] at durable
      cases durable
    exact held (.inl (System.lifecycle_of_reached rfl other)) durable durable
  | declare | publish | priority | incarnation | adapter => exact h
  | _ =>
    intro durable
    cases durable

theorem decode_of_toOption {bytes : List UInt8} {st : PersistentState} (image : (decode bytes).toOption = some st) :
    decode bytes = .ok st := by
  cases result : decode bytes with
  | error e =>
    rw [result] at image
    cases image
  | ok st' =>
    rw [result] at image
    cases image
    rfl

/-- An image that a step installs was validated, by the decoder or before the call. -/
theorem validImage_of_loads {st : PersistentState} (validated : ∀ st, op = .restoreState st → validateState st = .ok)
    (image : op.loads = some st) : ValidImage st := by
  cases op with
  | restoreState installed =>
    cases image
    exact validateState_ok.mp (validated st rfl)
  | restoreBytes bytes => exact validImage_of_decode (decode_of_toOption image)
  | load file =>
    cases file with
    | none => cases image
    | some bytes => exact validImage_of_decode (decode_of_toOption image)
  | _ => cases image

end

/-- In every state that a run reaches, whatever bytes it loads, a durable preemption has all its evidence, and bytes
    that are rejected change nothing. An image that is installed past the decoder is one that it would accept. -/
theorem durable_evidence (epoch : CoordinatorEpoch) (policy : PolicyGeneration) (ad : ReferenceAdapters)
    (ops : List Op) (validated : ∀ st, .restoreState st ∈ ops → validateState st = .ok) :
    (run (.construct epoch policy ad) ops).DurablyEvidenced ∧
      ∀ bytes, (∀ st, decode bytes ≠ .ok st) →
        step (run (.construct epoch policy ad) ops) (.restoreBytes bytes) =
          (.ok (.bool false), run (.construct epoch policy ad) ops) := by
  constructor
  · refine run_invariant (P := System.DurablyEvidenced)
      (G := fun e => ∀ st, e.input.loads = some st → ValidImage st) (by nofun) System.DurablyEvidenced.move ops ?_
    intro e member st image
    have input := Trace.input_mem step member
    exact validImage_of_loads (fun st installs => validated st (installs ▸ input)) image
  · intro bytes rejected
    cases result : decode bytes with
    | error e => exact restoreBytes_rejected result _
    | ok st => exact absurd result (rejected st)

def loadedOps : List Op := [.restoreBytes (encode (imageAt .preempted)), .requestResume, .revalidate]

/-- A preempted execution is loaded from its image and resumes up to RESTORING; an image that is cut off is refused
    there. -/
theorem durable_evidence_loaded :
    (run (.construct ⟨2⟩ ⟨1⟩ {}) loadedOps).DurablyEvidenced ∧
      step (run (.construct ⟨2⟩ ⟨1⟩ {}) loadedOps) (.restoreBytes []) =
        (.ok (.bool false), run (.construct ⟨2⟩ ⟨1⟩ {}) loadedOps) := by
  have evidence := durable_evidence ⟨2⟩ ⟨1⟩ {} loadedOps (by simp [loadedOps])
  have empty : ∀ st, decode [] ≠ .ok st := by
    intro st accepted
    cases accepted
  exact ⟨evidence.1, evidence.2 [] empty⟩

/-! ### The snapshots of runs -/

/-- The stages of the main path from QUIESCED on. -/
def LifecycleState.fromQuiesced : LifecycleState → Bool
  | .quiesced | .captureRequired | .capturingState => true
  | l => l.pastDurable

/-- The relations between the lifecycle of an image and the rest of it that every snapshot of a run satisfies. -/
structure Coherent (st : PersistentState) : Prop where
  quiesced : st.lifecycle.fromQuiesced = true → st.quiesced = true
  durable : st.lifecycle.pastDurable = true → st.stateDurable = true
  request : isOnMainPath st.lifecycle = true → st.requestId.isValid = true ∧ st.requestGeneration.isValid = true
  preempted : st.preempted = true ↔ LifecycleStateMachine.isPreemptedDurable ⟨st.lifecycle⟩ = true
  history : ∀ h ∈ st.history, LifecycleStateMachine.isTerminal ⟨h.finalState⟩ = true

/-- What holds in a run without recovery besides the flags: the main path is entered with a valid request, no
    operation rests in CAPTURE_REQUIRED, and the history is of requests that ended. -/
structure Live (s : System) : Prop where
  requested : isOnMainPath s.lifecycle = true → s.rt.activeRequest.isSome = true
  valid : ∀ req, s.rt.activeRequest = some req → req.id.isValid = true ∧ req.generation.isValid = true
  capture : s.lifecycle ≠ .captureRequired
  history : ∀ h ∈ s.rt.history, LifecycleStateMachine.isTerminal ⟨h.finalState⟩ = true

section
variable {s u t : System} {op : Op} {r : Returned}

theorem isOnMainPath_of_successor {l l' : LifecycleState} (next : l' ∈ l.successors)
    (path : isOnMainPath l' = true) : isOnMainPath l = true := by
  revert l'
  cases l <;> decide

theorem captureRequired_not_successor (l : LifecycleState) : .captureRequired ∉ l.successors := by
  cases l <;> decide

theorem Move.request_valid (moved : Move u op r t) (fresh : op.loads = none)
    (h : ∀ req, u.rt.activeRequest = some req → req.id.isValid = true ∧ req.generation.isValid = true) :
    ∀ req, t.rt.activeRequest = some req → req.id.isValid = true ∧ req.generation.isValid = true := by
  cases moved with
  | start =>
    intro req active
    cases active
  | accept id generation auth first =>
    rintro req ⟨⟩
    exact ⟨id, generation⟩
  | loaded ret image =>
    rw [image] at fresh
    cases fresh
  | _ => exact h

/-- A cancellation records its request as ended; nothing else is recorded. -/
theorem Move.history_ended (moved : Move u op r t) (fresh : op.loads = none)
    (h : ∀ x ∈ u.rt.history, LifecycleStateMachine.isTerminal ⟨x.finalState⟩ = true) :
    ∀ x ∈ t.rt.history, LifecycleStateMachine.isTerminal ⟨x.finalState⟩ = true := by
  cases moved with
  | cancelled live =>
    intro x member
    rcases List.mem_append.mp member with earlier | last
    · exact h x earlier
    · obtain ⟨req, _, rfl⟩ := Option.map_eq_some_iff.mp (Option.mem_toList.mp last)
      rfl
  | loaded ret image =>
    rw [image] at fresh
    cases fresh
  | _ => exact h

theorem Move.of_start (moved : Move u op r t) (fresh : op.loads = none) (start : op.isStart = true) :
    t.lifecycle = .invalid := by
  cases moved with
  | start => rfl
  | loaded ret image =>
    rw [image] at fresh
    cases fresh
  | _ => cases start

theorem Move.of_accepts (moved : Move u op r t) (accepts : Accepts ⟨u, op, r, t⟩) :
    t.lifecycle = .assessing ∧ t.rt.activeRequest.isSome = true := by
  obtain ⟨req, input, _⟩ := accepts
  have request : op = .requestPreemption req := input
  subst request
  cases moved with
  | accept id generation auth first => exact ⟨rfl, rfl⟩
  | loaded ret image => cases image

theorem Live.move (h : Live u) (fresh : op.loads = none) (moved : Move u op r t) : Live t := by
  have valid := moved.request_valid fresh h.valid
  have history := moved.history_ended fresh h.history
  cases start : op.isStart with
  | true =>
    have fallen := moved.of_start fresh start
    refine ⟨fun path => ?_, valid, fun capture => ?_, history⟩
    · rw [fallen] at path
      cases path
    · rw [fallen] at capture
      cases capture
  | false =>
    have scope : op.InScope := ⟨start, fresh⟩
    have kept : isOnMainPath u.lifecycle = true → t.rt.activeRequest.isSome = true := by
      intro path
      obtain ⟨active, held⟩ := Option.isSome_iff_exists.mp (h.requested path)
      rw [moved.activeRequest scope held]
      rfl
    rcases moved.lifecycle scope with same | next | ⟨accepts, _⟩
    · rw [← same] at kept
      exact ⟨kept, valid, same ▸ h.capture, history⟩
    · refine ⟨fun path => kept (isOnMainPath_of_successor next path), valid, fun capture => ?_, history⟩
      rw [capture] at next
      exact captureRequired_not_successor _ next
    · obtain ⟨assessing, requested⟩ := moved.of_accepts accepts
      refine ⟨fun _ => requested, valid, fun capture => ?_, history⟩
      rw [assessing] at capture
      cases capture

/-- The snapshots of a run without recovery are coherent. -/
theorem snapshot_coherent (flagged : Flagged s) (live : Live s) : Coherent s.rt.snapshot where
  quiesced reached := by
    have past : ∀ l : LifecycleState, l.fromQuiesced = true → l ≠ .captureRequired → l.pastQuiesced = true := by
      intro l
      cases l <;> decide
    exact flagged.quiesced (past s.lifecycle reached live.capture)
  durable := flagged.durable
  request path := by
    obtain ⟨active, held⟩ := Option.isSome_iff_exists.mp (live.requested path)
    obtain ⟨id, generation⟩ := live.valid active held
    simp only [PreemptionRuntime.snapshot, held, Option.map_some, Option.getD_some]
    exact ⟨id, generation⟩
  preempted := Iff.rfl
  history := live.history

end

/-- The kinds of images that pass the validation and are the snapshot of no run. The validation asks for quiescence and
    durable state only from the release on. It does not look at the request, nor before the resume at whether the mark of
    a preemption fits the lifecycle, and of a lifecycle in the history it asks only that it is known; so the last four
    kinds are no less than the negations of what holds of every snapshot. -/
inductive Forged (st : PersistentState) : Prop
  | unquiesced (stage : st.lifecycle ∈ [.quiesced, .captureRequired, .capturingState, .stateDurable])
      (missing : st.quiesced = false)
  | volatile (stage : st.lifecycle = .stateDurable) (missing : st.stateDurable = false)
  | unrequested (stage : isOnMainPath st.lifecycle = true)
      (missing : st.requestId.isValid = false ∨ st.requestGeneration.isValid = false)
  | unmarked (stage : st.lifecycle = .preempted) (missing : st.preempted = false)
  | marked (stage : LifecycleStateMachine.isPreemptedDurable ⟨st.lifecycle⟩ = false) (extra : st.preempted = true)
  | unfinished (h : PersistentSuperseded) (recorded : h ∈ st.history)
      (stage : LifecycleStateMachine.isTerminal ⟨h.finalState⟩ = false)

theorem Coherent.not_forged {st : PersistentState} (coherent : Coherent st) : ¬Forged st := by
  intro forged
  cases forged with
  | unquiesced stage missing =>
    have reached : ∀ l ∈ [LifecycleState.quiesced, .captureRequired, .capturingState, .stateDurable],
        l.fromQuiesced = true := by
      decide
    rw [coherent.quiesced (reached _ stage)] at missing
    cases missing
  | volatile stage missing =>
    rw [coherent.durable (by rw [stage]; rfl)] at missing
    cases missing
  | unrequested stage missing =>
    obtain ⟨id, generation⟩ := coherent.request stage
    rw [id, generation] at missing
    simp at missing
  | unmarked stage missing =>
    rw [coherent.preempted.mpr (by rw [stage]; rfl)] at missing
    cases missing
  | marked stage extra =>
    rw [coherent.preempted.mp extra] at stage
    cases stage
  | unfinished h recorded stage =>
    rw [coherent.history h recorded] at stage
    cases stage

theorem coherent_of_not_forged {st : PersistentState} (valid : ValidImage st) (genuine : ¬Forged st) : Coherent st where
  quiesced reached := by
    have stages : ∀ l : LifecycleState, l.fromQuiesced = true →
        l ∈ [LifecycleState.quiesced, .captureRequired, .capturingState, .stateDurable] ∨ isReleaseReached l = true := by
      intro l
      cases l <;> decide
    rcases stages _ reached with early | late
    · rw [← Bool.not_eq_false]
      exact fun missing => genuine (.unquiesced early missing)
    · exact valid.quiesced late
  durable reached := by
    have stages : ∀ l : LifecycleState, l.pastDurable = true → l = .stateDurable ∨ isReleaseReached l = true := by
      intro l
      cases l <;> decide
    rcases stages _ reached with early | late
    · rw [← Bool.not_eq_false]
      exact fun missing => genuine (.volatile early missing)
    · exact valid.durable late
  request path := by
    rw [← Bool.not_eq_false, ← Bool.not_eq_false, ← not_or]
    exact fun missing => genuine (.unrequested path missing)
  preempted := by
    constructor
    · intro extra
      rw [← Bool.not_eq_false]
      exact fun stage => genuine (.marked stage extra)
    · intro durable
      have stages : ∀ l : LifecycleState, LifecycleStateMachine.isPreemptedDurable ⟨l⟩ = true →
          l = .preempted ∨ isResumeReached l = true := by
        intro l
        cases l <;> decide
      rcases stages _ durable with early | late
      · rw [← Bool.not_eq_false]
        exact fun missing => genuine (.unmarked early missing)
      · exact valid.preempted late
  history h recorded := by
    rw [← Bool.not_eq_false]
    exact fun stage => genuine (.unfinished h recorded stage)

theorem run_snapshot_coherent (epoch : CoordinatorEpoch) (policy : PolicyGeneration) (ad : ReferenceAdapters)
    (ops : List Op) (fresh : ∀ op ∈ ops, op.loads = none) :
    Coherent (run (.construct epoch policy ad) ops).rt.snapshot := by
  have start : Flagged (.construct epoch policy ad) ∧ Live (.construct epoch policy ad) := by
    refine ⟨.free rfl rfl rfl, nofun, fun req active => ?_, nofun, by simp [System.construct]⟩
    cases active
  have kept := run_invariant (P := fun u => Flagged u ∧ Live u) start
    (fun h fresh moved => ⟨h.1.move fresh moved, h.2.move fresh moved⟩) ops (trace_loads_none fresh)
  exact snapshot_coherent kept.1 kept.2

/-- Every snapshot of a run without recovery is coherent, and an image that the decoder accepts is so exactly when it
    is not forged in one of the ways that the decoder does not look for. -/
theorem decoded_coherent_iff (bytes : List UInt8) (st : PersistentState) (accepted : decode bytes = .ok st) :
    (∀ epoch policy ad ops, (∀ op ∈ ops, op.loads = none) →
      Coherent (run (.construct epoch policy ad) ops).rt.snapshot) ∧
    (Coherent st ↔ ¬Forged st) :=
  ⟨run_snapshot_coherent, Coherent.not_forged, coherent_of_not_forged (validImage_of_decode accepted)⟩

theorem imageAt_preempted_not_forged : ¬Forged (imageAt .preempted) := by
  intro forged
  cases forged with
  | unquiesced stage missing => cases missing
  | volatile stage missing => cases missing
  | unrequested stage missing => simp [imageAt, Id.isValid, Generation.isValid] at missing
  | unmarked stage missing => cases missing
  | marked stage extra => cases stage
  | unfinished h recorded stage => cases recorded

theorem decoded_coherent_preempted : Coherent (imageAt .preempted) :=
  (decoded_coherent_iff _ _ (decode_imageAt .preempted)).2.mpr imageAt_preempted_not_forged

def unquiescedImage : PersistentState where
  formatVersion := persistenceVersion
  executionId := ⟨2⟩
  attemptId := ⟨3⟩
  workerBootId := ⟨5⟩
  lifecycle := .quiesced
  requestId := ⟨8⟩
  requestGeneration := ⟨1⟩
  history := [{ requestId := ⟨6⟩, generation := ⟨1⟩, finalState := .releasing }]

/-- The decoder accepts an image of QUIESCED without quiescence, whose history has a request that is still
    releasing. -/
theorem unquiesced_image_accepted :
    decode (encode unquiescedImage) = .ok unquiescedImage ∧ ¬Coherent unquiescedImage ∧
      (∃ h ∈ unquiescedImage.history, LifecycleStateMachine.isTerminal ⟨h.finalState⟩ = false) := by
  refine ⟨?_, ?_, _, List.mem_singleton.mpr rfl, rfl⟩
  · refine decode_encode_of_valid ?_ (by decide)
    rw [length_encodePayload]
    decide
  · intro coherent
    have quiesced := coherent.quiesced rfl
    cases quiesced

end PreemptionFabric
