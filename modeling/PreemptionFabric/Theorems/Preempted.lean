import PreemptionFabric.Theorems.Step

/-! The evidence behind PREEMPTED. In a run without recovery every lifecycle on the way to PREEMPTED has its
    evidence in the trace: after the request that was accepted last, in the order of the way. -/

namespace PreemptionFabric
open Trace

/-! ### Kinds of evidence -/

/-- A `request_preemption` that returned `kAccepted`. -/
def Accepts (e : Event) : Prop := ∃ req, e.input = .requestPreemption req ∧ e.input.Succeeded e.output

/-- A `begin_quiesce` that entered QUIESCING while a valid safe point was current. -/
def EntersQuiescing (e : Event) : Prop :=
  e.input = .beginQuiesce ∧ e.pre.lifecycle ≠ .quiescing ∧ e.post.lifecycle = .quiescing ∧
    ∃ sp, e.pre.rt.currentSafePoint = some sp ∧ sp.state = .valid

/-- A successful `report_quiesced` of the current worker boot, with every category of the adapters quiesced. -/
def ReportsQuiesced (e : Event) : Prop :=
  ∃ report, e.input = .reportQuiesced report ∧ e.input.Succeeded e.output ∧
    report.workerBootId = e.pre.rt.workerBoot ∧
    ∀ c ∈ ReferenceAdapters.categories, e.pre.ad.isQuiesced c = true

/-- A completed capture whose checkpoint was validated, or a `request_state_capture` at a safe point that
    requires none. -/
def MakesDurable (e : Event) : Prop :=
  (∃ result, e.input = .reportStateCaptured result ∧ e.input.Succeeded e.output ∧ result.success = true ∧
    result.completed = true ∧
    e.pre.ad.validateCheckpoint result.checkpointRef result.checkpointGeneration = true) ∨
  (e.input = .requestStateCapture ∧ e.input.Succeeded e.output ∧
    ∃ sp, e.pre.rt.currentSafePoint = some sp ∧ sp.stateCaptureRequired = false)

def RequestsRelease (e : Event) : Prop := e.input = .requestRelease ∧ e.input.Succeeded e.output

def ReportsReleased (e : Event) : Prop := e.input = .reportReleased ∧ e.input.Succeeded e.output

/-- The evidence that stands behind each lifecycle on the way to PREEMPTED. -/
def LifecycleState.evidence : LifecycleState → Option (List (Event → Prop))
  | .assessing | .deferred | .waitingForSafePoint | .safePointReached => some []
  | .quiescing => some [EntersQuiescing]
  | .quiesced | .capturingState => some [EntersQuiescing, ReportsQuiesced]
  | .stateDurable | .releasePending => some [EntersQuiescing, ReportsQuiesced, MakesDurable]
  | .releasing => some [EntersQuiescing, ReportsQuiesced, MakesDurable, RequestsRelease]
  | .resourcesReleased => some [EntersQuiescing, ReportsQuiesced, MakesDurable, RequestsRelease, ReportsReleased]
  | _ => none

/-- Since the last accepted request the trace holds evidence of these kinds, in this order. -/
def Evidence (kinds : List (Event → Prop)) (tr : List Event) : Prop :=
  Since Accepts (fun _ rest => InOrder kinds rest) tr

section
variable {kinds : List (Event → Prop)} {kind : Event → Prop} {tr : List Event} {e : Event}

theorem Evidence.start (accepts : Accepts e) : Evidence [] (tr ++ [e]) := Since.last accepts trivial

theorem Evidence.keep (h : Evidence kinds tr) (other : ¬Accepts e) : Evidence kinds (tr ++ [e]) :=
  Since.snoc other (fun _ _ _ ordered => ordered.append [e]) h

theorem Evidence.extend (h : Evidence kinds tr) (other : ¬Accepts e) (shown : kind e) :
    Evidence (kinds ++ [kind]) (tr ++ [e]) :=
  Since.snoc other (fun _ _ _ ordered => ordered.snoc shown) h

end

/-! ### The boundary -/

/-- A current safe point is valid, and one is current from SAFE_POINT_REACHED to QUIESCED. -/
structure AtBoundary (s : System) : Prop where
  valid : ∀ sp, s.rt.currentSafePoint = some sp → sp.state = .valid
  current : s.lifecycle = .safePointReached ∨ s.lifecycle = .quiescing ∨ s.lifecycle = .quiesced →
    ∃ sp, s.rt.currentSafePoint = some sp

theorem atValidSafePoint_iff {rt : PreemptionRuntime} :
    rt.atValidSafePoint = true ↔ ∃ sp, rt.currentSafePoint = some sp ∧ sp.state = .valid := by
  rw [PreemptionRuntime.atValidSafePoint]
  cases rt.currentSafePoint with
  | none => simp
  | some sp => simp

section
variable {u t : System} {op : Op} {r : Returned}

/-- A step that keeps the current safe point and does not enter the boundary from outside keeps it. -/
theorem AtBoundary.keep (h : AtBoundary u) (same : t.rt.currentSafePoint = u.rt.currentSafePoint)
    (inside : t.lifecycle = .safePointReached ∨ t.lifecycle = .quiescing ∨ t.lifecycle = .quiesced →
      ∃ sp, u.rt.currentSafePoint = some sp) : AtBoundary t := by
  refine ⟨fun sp current => h.valid sp (same ▸ current), fun lifecycle => ?_⟩
  rw [same]
  exact inside lifecycle

theorem AtBoundary.move (h : AtBoundary u) (fresh : op.loads = none) (moved : Move u op r t) : AtBoundary t := by
  cases moved with
  | reach position captureRequired found =>
    refine ⟨fun sp current => ?_, fun _ => ⟨_, rfl⟩⟩
    cases current
    rfl
  | quiesce boundary =>
    refine h.keep rfl fun _ => ?_
    rcases boundary with reached | ⟨_, valid⟩
    · exact h.current (.inl reached)
    · obtain ⟨sp, current, _⟩ := atValidSafePoint_iff.mp valid
      exact ⟨sp, current⟩
  | quiesced boot before full all => exact h.keep rfl fun _ => h.current (.inr (.inl before))
  | loaded ret image =>
    rw [image] at fresh
    cases fresh
  | declare sp => exact h.keep rfl h.current
  | publish kind auth forward => exact h.keep rfl h.current
  | priority g => exact h.keep rfl h.current
  | incarnation worker boot => exact h.keep rfl h.current
  | adapter o => exact h.keep rfl h.current
  | _ => exact h.keep rfl (by rintro (lifecycle | lifecycle | lifecycle) <;> cases lifecycle)

end

/-! ### The invariant -/

/-- The trace holds the evidence of the lifecycle reached. -/
structure Evidenced (tr : List Event) (s : System) : Prop where
  boundary : AtBoundary s
  shown : ∀ kinds, s.lifecycle.evidence = some kinds → Evidence kinds tr

section
variable {tr : List Event} {u t : System} {op : Op} {r : Returned}

theorem not_accepts (other : ∀ req, op ≠ .requestPreemption req) : ¬Accepts ⟨u, op, r, t⟩ :=
  fun ⟨req, input, _⟩ => other req input

theorem Evidenced.idle (h : Evidenced tr u) (unsuccessful : ¬op.Succeeded r) :
    Evidenced (tr ++ [⟨u, op, r, u⟩]) u := by
  refine ⟨h.boundary, fun kinds shown => (h.shown kinds shown).keep ?_⟩
  rintro ⟨_, _, succeeded⟩
  exact unsuccessful succeeded

/-- A step onto the way's next lifecycle adds the evidence that the step itself shows. -/
theorem Evidenced.advance {kinds : List (Event → Prop)} {kind : Event → Prop} (h : Evidenced tr u)
    (boundary : AtBoundary t) (other : ∀ req, op ≠ .requestPreemption req)
    (before : u.lifecycle.evidence = some kinds) (after : t.lifecycle.evidence = some (kinds ++ [kind]))
    (shown : kind ⟨u, op, r, t⟩) : Evidenced (tr ++ [⟨u, op, r, t⟩]) t := by
  refine ⟨boundary, fun kinds' same => ?_⟩
  rw [after] at same
  cases same
  exact (h.shown kinds before).extend (not_accepts other) shown

/-- A step to a lifecycle that needs no more than the one before. -/
theorem Evidenced.pass (h : Evidenced tr u) (boundary : AtBoundary t) (other : ∀ req, op ≠ .requestPreemption req)
    (less : ∀ kinds, t.lifecycle.evidence = some kinds → u.lifecycle.evidence = some kinds) :
    Evidenced (tr ++ [⟨u, op, r, t⟩]) t :=
  ⟨boundary, fun kinds shown => (h.shown kinds (less kinds shown)).keep (not_accepts other)⟩

theorem captureRequired_eq_false {rt : PreemptionRuntime} {sp : SafePoint} (current : rt.currentSafePoint = some sp)
    (needless : rt.captureRequired = false) : sp.stateCaptureRequired = false := by
  rw [PreemptionRuntime.captureRequired, current] at needless
  exact needless

theorem Evidenced.move (h : Evidenced tr u) (fresh : op.loads = none) (moved : Move u op r t) :
    Evidenced (tr ++ [⟨u, op, r, t⟩]) t := by
  have boundary := h.boundary.move fresh moved
  cases moved with
  | accept id generation auth first =>
    refine ⟨boundary, fun kinds shown => ?_⟩
    cases shown
    exact Evidence.start ⟨_, rfl, _, rfl, rfl⟩
  | reach position captureRequired found =>
    refine h.pass boundary (by simp) fun kinds shown => ?_
    rw [System.reached_lifecycle] at shown
    split at shown
    next waiting =>
      rw [waiting]
      exact shown
    next => exact shown
  | quiesce before =>
    have valid : ∃ sp, u.rt.currentSafePoint = some sp ∧ sp.state = .valid := by
      rcases before with reached | ⟨_, valid⟩
      · obtain ⟨sp, current⟩ := h.boundary.current (.inl reached)
        exact ⟨sp, current, h.boundary.valid sp current⟩
      · exact atValidSafePoint_iff.mp valid
    have entered : u.lifecycle ≠ .quiescing ∧ u.lifecycle.evidence = some [] := by
      rcases before with reached | ⟨assessing, _⟩
      · rw [reached]
        exact ⟨nofun, rfl⟩
      · rw [assessing]
        exact ⟨nofun, rfl⟩
    exact h.advance boundary (by simp) entered.2 rfl ⟨rfl, entered.1, rfl, valid⟩
  | defer before between =>
    refine h.pass boundary (by simp) fun kinds shown => ?_
    rcases before with lifecycle | lifecycle
    · rw [lifecycle]
      exact shown
    · rw [lifecycle]
      exact shown
  | quiesced boot before full all =>
    rw [isQuiescedAll, List.all_eq_true] at all
    exact h.advance boundary (by simp) (congrArg _ before) rfl ⟨_, rfl, ⟨_, rfl, rfl⟩, boot, all⟩
  | captureSkipped before needless =>
    obtain ⟨sp, current⟩ := h.boundary.current (.inr (.inr before))
    have skipped := captureRequired_eq_false current needless
    exact h.advance boundary (by simp) (congrArg _ before) rfl (.inr ⟨rfl, ⟨_, rfl, rfl⟩, sp, current, skipped⟩)
  | captureStarted before needed =>
    refine h.pass boundary (by simp) fun kinds shown => ?_
    rw [before]
    exact shown
  | captured before success completed valid =>
    exact h.advance boundary (by simp) (congrArg _ before) rfl
      (.inl ⟨_, rfl, ⟨_, rfl, rfl⟩, success, completed, valid⟩)
  | releaseRequested before durable =>
    have evidence : u.lifecycle.evidence = some [EntersQuiescing, ReportsQuiesced, MakesDurable] :=
      System.of_either (·.evidence = some _) before rfl rfl
    exact h.advance boundary (by simp) evidence rfl ⟨rfl, _, rfl, rfl⟩
  | released before free => exact h.advance boundary (by simp) (congrArg _ before) rfl ⟨rfl, _, rfl, rfl⟩
  | loaded ret image =>
    rw [image] at fresh
    cases fresh
  | declare sp => exact h.pass boundary (by simp) fun _ shown => shown
  | publish kind auth forward => exact h.pass boundary (by simp) fun _ shown => shown
  | priority g => exact h.pass boundary (by simp) fun _ shown => shown
  | incarnation worker boot => exact h.pass boundary (by simp) fun _ shown => shown
  | adapter o => exact h.pass boundary (by simp) fun _ shown => shown
  | _ => exact h.pass boundary (by simp) nofun

end

theorem construct_evidenced (epoch : CoordinatorEpoch) (policy : PolicyGeneration) (ad : ReferenceAdapters) :
    Evidenced [] (.construct epoch policy ad) := by
  refine ⟨⟨fun sp current => ?_, fun lifecycle => ?_⟩, fun kinds required => ?_⟩
  · cases current
  · rcases lifecycle with h | h | h <;> cases h
  · cases required

/-- Whenever `commit_preempted` succeeds in a run from construction without recovery, then since the last
    accepted request the run holds the evidence of the whole way, in order. -/
theorem commitPreempted_evidence (epoch : CoordinatorEpoch) (policy : PolicyGeneration) (ad : ReferenceAdapters)
    (ops : List Op) (fresh : ∀ op ∈ ops, op.loads = none)
    (done : (step (run (.construct epoch policy ad) ops) .commitPreempted).1.HasOutcome .safePreemptionCompleted) :
    Since Accepts
      (fun _ rest => InOrder [EntersQuiescing, ReportsQuiesced, MakesDurable, RequestsRelease, ReportsReleased] rest)
      (traceOf (.construct epoch policy ad) ops) := by
  have evidenced := run_history (G := fun e => e.input.loads = none) (construct_evidenced epoch policy ad)
    Evidenced.move Evidenced.idle ops (trace_loads_none fresh)
  obtain ⟨before, _⟩ := (move_of_succeeded .commitPreempted done).commit
  refine evidenced.shown _ ?_
  rw [before]
  rfl

/-! ### A run to RESOURCES_RELEASED -/

def quietAdapters : ReferenceAdapters :=
  { quiescedCategories := ReferenceAdapters.categories.foldl (fun m c => m.insert c true) ∅ }

/-- The scope of one execution, at a safe point that asks for a capture or does not, with a request accepted. -/
def requestOps (captureRequired : Bool) : List Op :=
  [.startExecution ⟨1⟩ ⟨1⟩ ⟨2⟩ ⟨1⟩ ⟨3⟩ ⟨1⟩ ⟨4⟩ ⟨5⟩, .declareSafePoint { id := ⟨7⟩ },
    .reachSafePoint ⟨7⟩ 10 captureRequired,
    .requestPreemption {
      id := ⟨8⟩, generation := ⟨1⟩, executionId := ⟨2⟩, executionGeneration := ⟨1⟩, attemptId := ⟨3⟩
      attemptGeneration := ⟨1⟩, coordinatorEpoch := ⟨1⟩ }]

/-- Quiescence and a capture of checkpoint generation 1, which the adapters hold current. -/
def captureOps : List Op :=
  [.beginQuiesce, .reportQuiesced { workerBootId := ⟨5⟩, fullyQuiesced := true }, .requestStateCapture,
    .reportStateCaptured { completed := true, success := true, checkpointRef := ⟨1⟩, checkpointGeneration := ⟨1⟩ }]

def releaseOps : List Op := [.requestRelease, .reportReleased]

theorem commitPreempted_evidence_capture :
    Since Accepts
      (fun _ rest => InOrder [EntersQuiescing, ReportsQuiesced, MakesDurable, RequestsRelease, ReportsReleased] rest)
      (traceOf (.construct ⟨1⟩ ⟨1⟩ quietAdapters) (requestOps true ++ captureOps ++ releaseOps)) :=
  commitPreempted_evidence ⟨1⟩ ⟨1⟩ quietAdapters (requestOps true ++ captureOps ++ releaseOps)
    (by simp [requestOps, captureOps, releaseOps, Op.loads]) (by decide +kernel)

end PreemptionFabric
