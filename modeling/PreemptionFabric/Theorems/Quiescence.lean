import PreemptionFabric.Theorems.Resume
import PreemptionFabric.Theorems.SafePoints

/-! Quiescence between its report and the commit. The runtime does not bind it to the worker boot that reported
    it: a commit rests on a report of the current incarnation exactly as long as the steps in between keep the
    incarnation. Nor does it stop the boundary and the progress from moving. -/

namespace PreemptionFabric
open Trace

/-! ### The incarnation that quiesced -/

/-- A successful `report_quiesced` of this worker boot. -/
def ReportsQuiescedFrom (boot : WorkerBootId) (e : Event) : Prop :=
  ∃ report, e.input = .reportQuiesced report ∧ e.input.Succeeded e.output ∧ report.workerBootId = boot

/-- A `start_execution`, a recovery, or an incarnation under another worker boot. -/
def Replaces (boot : WorkerBootId) (e : Event) : Prop :=
  e.input.isStart = true ∨ e.input.loads.isSome = true ∨
    ∃ worker other, e.input = .setWorkerIncarnation worker other ∧ other ≠ boot

/-- The current worker boot reported quiescence and has not been replaced since. -/
def QuiescedByCurrent (tr : List Event) (s : System) : Prop :=
  After (ReportsQuiescedFrom s.rt.workerBoot) (fun _ rest => ∀ e ∈ rest, ¬Replaces s.rt.workerBoot e) tr

/-- The way from QUIESCED to the commit, with the flags that the rest of the way asks for. -/
def commitPending (lifecycle : LifecycleState) (quiesced stateDurable resourcesReleased : Bool) : Bool :=
  quiesced &&
    match lifecycle with
    | .quiesced | .capturingState => true
    | .stateDurable | .releasePending | .releasing => stateDurable
    | .resourcesReleased => stateDurable && resourcesReleased
    | _ => false

def System.isCommitPending (s : System) : Bool :=
  commitPending s.lifecycle s.rt.quiesced s.rt.stateDurable s.rt.resourcesReleased

def PersistentState.isCommitPending (st : PersistentState) : Bool :=
  commitPending st.lifecycle st.quiesced st.stateDurable st.resourcesReleased

/-- While a commit is pending the step keeps the worker boot, and it installs no image whose commit is pending. -/
structure KeepsIncarnation (e : Event) : Prop where
  incarnation : ∀ worker boot, e.input = .setWorkerIncarnation worker boot → e.pre.isCommitPending = true →
    boot = e.pre.rt.workerBoot
  image : ∀ st, e.input.loads = some st → st.isCommitPending = false

theorem keepsIncarnation_of {e : Event} (fresh : e.input.loads = none)
    (same : ∀ worker boot, e.input = .setWorkerIncarnation worker boot → e.pre.isCommitPending = true →
      boot = e.pre.rt.workerBoot) : KeepsIncarnation e := by
  refine ⟨same, fun st image => ?_⟩
  rw [fresh] at image
  cases image

def PendingQuiesced (tr : List Event) (s : System) : Prop := s.isCommitPending = true → QuiescedByCurrent tr s

section
variable {tr : List Event} {u t : System} {op : Op} {r : Returned} {boot : WorkerBootId}

def Op.isIncarnation : Op → Bool
  | .setWorkerIncarnation .. => true
  | _ => false

theorem not_replaces (start : op.isStart = false) (fresh : op.loads = none)
    (same : ∀ worker other, op = .setWorkerIncarnation worker other → other = boot) :
    ¬Replaces boot ⟨u, op, r, t⟩ := by
  rintro (starts | loads | ⟨worker, other, input, different⟩)
  · rw [start] at starts
    cases starts
  · rw [fresh] at loads
    cases loads
  · exact different (same worker other input)

theorem not_replaces_plain (start : op.isStart = false) (fresh : op.loads = none) (plain : op.isIncarnation = false) :
    ¬Replaces boot ⟨u, op, r, t⟩ := by
  refine not_replaces start fresh fun worker other input => ?_
  rw [input] at plain
  cases plain

theorem PendingQuiesced.keep (h : PendingQuiesced tr u) (boot : t.rt.workerBoot = u.rt.workerBoot)
    (same : ¬Replaces u.rt.workerBoot ⟨u, op, r, t⟩) (before : t.isCommitPending = true → u.isCommitPending = true) :
    PendingQuiesced (tr ++ [⟨u, op, r, t⟩]) t := by
  intro pending
  rw [QuiescedByCurrent, boot]
  refine After.append (fun x rest _ kept => ?_) (h (before pending))
  exact List.forall_mem_append.mpr ⟨kept, List.forall_mem_singleton.mpr same⟩

theorem PendingQuiesced.idle (h : PendingQuiesced tr u) (unsuccessful : ¬op.Succeeded r) :
    PendingQuiesced (tr ++ [⟨u, op, r, u⟩]) u := by
  refine h.keep rfl ?_ fun pending => pending
  cases op with
  | startExecution | setWorkerIncarnation => exact absurd trivial unsuccessful
  | restoreState st => exact absurd rfl unsuccessful
  | restoreBytes bytes => exact not_replaces_plain rfl (Option.not_isSome_iff_eq_none.mp unsuccessful) rfl
  | load file => exact not_replaces_plain rfl (Option.not_isSome_iff_eq_none.mp unsuccessful) rfl
  | _ => exact not_replaces_plain rfl rfl rfl

theorem pending_of {l : LifecycleState} (before : u.lifecycle = l) (quiesced : u.rt.quiesced = true)
    (way : commitPending l true u.rt.stateDurable u.rt.resourcesReleased = true) : u.isCommitPending = true := by
  rw [System.isCommitPending, before, quiesced]
  exact way

theorem PendingQuiesced.move (h : PendingQuiesced tr u) (keeps : KeepsIncarnation ⟨u, op, r, t⟩)
    (moved : Move u op r t) : PendingQuiesced (tr ++ [⟨u, op, r, t⟩]) t := by
  cases moved with
  | quiesced boot before full all =>
    exact fun _ => After.last ⟨_, rfl, ⟨_, rfl, rfl⟩, boot⟩ (by simp)
  | captureSkipped before needless =>
    refine h.keep rfl (not_replaces_plain rfl rfl rfl) fun pending => ?_
    obtain ⟨quiesced, _⟩ := Bool.and_eq_true_iff.mp pending
    exact pending_of before quiesced rfl
  | captureStarted before needed =>
    refine h.keep rfl (not_replaces_plain rfl rfl rfl) fun pending => ?_
    obtain ⟨quiesced, _⟩ := Bool.and_eq_true_iff.mp pending
    exact pending_of before quiesced rfl
  | captured before success completed valid =>
    refine h.keep rfl (not_replaces_plain rfl rfl rfl) fun pending => ?_
    obtain ⟨quiesced, _⟩ := Bool.and_eq_true_iff.mp pending
    exact pending_of before quiesced rfl
  | releaseRequested before durable =>
    refine h.keep rfl (not_replaces_plain rfl rfl rfl) fun pending => ?_
    obtain ⟨quiesced, _⟩ := Bool.and_eq_true_iff.mp pending
    rcases before with lifecycle | lifecycle
    · exact pending_of lifecycle quiesced durable
    · exact pending_of lifecycle quiesced durable
  | released before free =>
    refine h.keep rfl (not_replaces_plain rfl rfl rfl) fun pending => ?_
    obtain ⟨quiesced, flags⟩ := Bool.and_eq_true_iff.mp pending
    obtain ⟨durable, _⟩ := Bool.and_eq_true_iff.mp flags
    exact pending_of before quiesced durable
  | incarnation worker boot =>
    intro pending
    have same : boot = u.rt.workerBoot := keeps.incarnation worker boot rfl pending
    refine h.keep same (not_replaces rfl rfl fun _ other input => ?_) (fun pending => pending) pending
    cases input
    exact same
  | loaded ret image =>
    intro pending
    have clear := keeps.image _ image
    rw [System.isCommitPending, System.restored_lifecycle] at pending
    simp only [System.restored, PreemptionRuntime.restored_quiesced, PreemptionRuntime.restored_stateDurable,
      PreemptionRuntime.restored_resourcesReleased] at pending
    rw [PersistentState.isCommitPending, pending] at clear
    cases clear
  | reach position captureRequired found =>
    refine h.keep rfl (not_replaces_plain rfl rfl rfl) fun pending => ?_
    rw [System.isCommitPending, System.reached_lifecycle] at pending
    split at pending
    · obtain ⟨_, way⟩ := Bool.and_eq_true_iff.mp pending
      cases way
    · exact pending
  | declare sp => exact h.keep rfl (not_replaces_plain rfl rfl rfl) fun pending => pending
  | publish kind auth forward => exact h.keep rfl (not_replaces_plain rfl rfl rfl) fun pending => pending
  | priority g => exact h.keep rfl (not_replaces_plain rfl rfl rfl) fun pending => pending
  | adapter o => exact h.keep rfl (not_replaces_plain rfl rfl rfl) fun pending => pending
  | _ =>
    intro pending
    obtain ⟨_, way⟩ := Bool.and_eq_true_iff.mp pending
    cases way

end

/-- In every run whose steps keep the incarnation while a commit is pending, every commit rests on a report of
    the incarnation that is current at the commit. -/
theorem commitPreempted_quiesced_by_current (epoch : CoordinatorEpoch) (policy : PolicyGeneration)
    (ad : ReferenceAdapters) (ops : List Op)
    (keeps : ∀ e ∈ traceOf (.construct epoch policy ad) ops, KeepsIncarnation e)
    (done : (step (run (.construct epoch policy ad) ops) .commitPreempted).1.HasOutcome .safePreemptionCompleted) :
    QuiescedByCurrent (traceOf (.construct epoch policy ad) ops) (run (.construct epoch policy ad) ops) := by
  have start : PendingQuiesced [] (.construct epoch policy ad) := nofun
  have shown := run_history start PendingQuiesced.move PendingQuiesced.idle ops keeps
  obtain ⟨before, quiesced, durable, released, _⟩ := (move_of_succeeded .commitPreempted done).commit
  refine shown (pending_of before quiesced ?_)
  rw [durable, released]
  rfl

def handoverOps : List Op :=
  [.reportQuiesced { workerBootId := ⟨6⟩, fullyQuiesced := true }, .requestStateCapture,
    .reportStateCaptured { completed := true, success := true, checkpointRef := ⟨1⟩, checkpointGeneration := ⟨1⟩ }] ++
    releaseOps

theorem commitPreempted_quiesced_by_successor :
    let ops := requestOps true ++ [.beginQuiesce] ++ .setWorkerIncarnation ⟨4⟩ ⟨6⟩ :: handoverOps
    QuiescedByCurrent (traceOf (.construct ⟨1⟩ ⟨1⟩ quietAdapters) ops)
      (run (.construct ⟨1⟩ ⟨1⟩ quietAdapters) ops) := by
  intro ops
  refine commitPreempted_quiesced_by_current ⟨1⟩ ⟨1⟩ quietAdapters ops ?_ (by decide +kernel)
  have plain : ∀ op ∈ requestOps true ++ [.beginQuiesce] ++ handoverOps, op.loads = none ∧
      ∀ worker boot, op ≠ .setWorkerIncarnation worker boot := by
    simp [requestOps, handoverOps, releaseOps, Op.loads]
  intro e member
  rw [traceOf, trace_append] at member
  rcases List.mem_append.mp member with early | late
  · obtain ⟨fresh, other⟩ := plain e.input (List.mem_append_left _ (Trace.input_mem step early))
    exact keepsIncarnation_of fresh fun worker boot input => absurd input (other worker boot)
  · rcases List.mem_cons.mp late with rfl | later
    · refine keepsIncarnation_of rfl fun worker boot _ pending => ?_
      exact absurd pending (by decide +kernel)
    · obtain ⟨fresh, other⟩ := plain e.input (List.mem_append_right _ (Trace.input_mem step later))
      exact keepsIncarnation_of fresh fun worker boot input => absurd input (other worker boot)

/-- The worker is replaced after the capture: the commit succeeds for a boot that never reported quiescence. -/
theorem replaced_worker_not_quiesced :
    let ops := requestOps true ++ captureOps ++ [.setWorkerIncarnation ⟨4⟩ ⟨6⟩] ++ releaseOps
    (step (run (.construct ⟨1⟩ ⟨1⟩ quietAdapters) ops) .commitPreempted).1.HasOutcome .safePreemptionCompleted ∧
      ¬QuiescedByCurrent (traceOf (.construct ⟨1⟩ ⟨1⟩ quietAdapters) ops)
        (run (.construct ⟨1⟩ ⟨1⟩ quietAdapters) ops) := by
  intro ops
  refine ⟨by decide +kernel, ?_⟩
  have boot : (run (.construct ⟨1⟩ ⟨1⟩ quietAdapters) ops).rt.workerBoot = ⟨6⟩ := by decide +kernel
  rw [QuiescedByCurrent, boot]
  rintro ⟨before, e, rest, split, ⟨report, input, _, current⟩, _⟩
  have member : e ∈ traceOf (.construct ⟨1⟩ ⟨1⟩ quietAdapters) ops := by rw [split]; simp
  have reported := Trace.input_mem step member
  rw [input] at reported
  simp [ops, requestOps, captureOps, releaseOps] at reported
  rw [reported] at current
  cases current

/-! ### The boundary that was quiesced -/

def SafePoint.boundary (sp : SafePoint) : SafePointId × UInt64 × Bool :=
  (sp.id, sp.progressPosition, sp.stateCaptureRequired)

/-- The step leaves the positions and the boundary of the current safe point as they were. -/
def Unmoved (s : System) (op : Op) : Prop :=
  (step s op).2.rt.currentPosition = s.rt.currentPosition ∧
    (step s op).2.rt.durablePosition = s.rt.durablePosition ∧
    (step s op).2.rt.currentSafePoint.map SafePoint.boundary = s.rt.currentSafePoint.map SafePoint.boundary

instance (s : System) (op : Op) : Decidable (Unmoved s op) := inferInstanceAs (Decidable (_ ∧ _ ∧ _))

theorem max_eq_left_iff_le {a b : UInt64} : max a b = a ↔ b ≤ a := by
  show (if a ≤ b then b else a) = a ↔ b ≤ a
  split
  next le =>
    constructor
    · rintro rfl
      exact le
    · intro ge
      exact UInt64.le_antisymm ge le
  next gt => simp [UInt64.le_of_lt (UInt64.not_le.mp gt)]

theorem publishProgress_unmoved_iff (s : System) (position : UInt64) (kind : ProgressKind) :
    Unmoved s (.publishProgress position kind) ↔
      s.holdsAuthority = false ∨ position < s.rt.durablePosition ∨
        position ≤ s.rt.currentPosition ∧ (kind = .durable → position = s.rt.durablePosition) := by
  rw [Unmoved, publishProgress_step]
  split
  next accepted =>
    obtain ⟨auth, forward⟩ := accepted
    have ahead : ¬position < s.rt.durablePosition := UInt64.not_lt.mpr forward
    have durable : (if kind = .durable then position else s.rt.durablePosition) = s.rt.durablePosition ↔
        (kind = .durable → position = s.rt.durablePosition) := by
      split
      next durable => simp [durable]
      next other => simp [other]
    simp only [System.published, max_eq_left_iff_le, durable, and_true, auth, Bool.true_eq_false, ahead, false_or]
  next refused =>
    have behind : s.holdsAuthority = false ∨ position < s.rt.durablePosition := by
      rcases not_and_or.mp refused with denied | behind
      · exact .inl (Bool.eq_false_iff.mpr denied)
      · exact .inr (UInt64.not_le.mp behind)
    simp only [true_and, true_iff]
    rcases behind with denied | behind
    · exact .inl denied
    · exact .inr (.inl behind)

theorem reachSafePoint_unmoved_iff {s : System} (keyed : s.Keyed) {id : SafePointId} {sp : SafePoint}
    (declared : s.rt.safePoints[id]? = some sp) (position : UInt64) (captureRequired : Bool) :
    Unmoved s (.reachSafePoint id position captureRequired) ↔
      position ≤ s.rt.currentPosition ∧
        s.rt.currentSafePoint.map SafePoint.boundary = some (id, position, captureRequired) := by
  have own : sp.id = id := keyed id sp declared
  rw [Unmoved, reachSafePoint_step, declared]
  simp only [System.reached, SafePoint.reachedAt, max_eq_left_iff_le, true_and, Option.map_some, SafePoint.boundary,
    own]
  exact and_congr_right fun _ => eq_comm

/-- Quiescence does not stop the boundary: in any reachable state, whatever its lifecycle, a publication leaves
    everything in place exactly when it is refused or repeats a position that was published before, and a
    declared safe point that is reached does exactly when it repeats the current boundary. -/
theorem unmoved_iff (s : System) (reachable : Reachable s) :
    (∀ position kind, Unmoved s (.publishProgress position kind) ↔
      s.holdsAuthority = false ∨ position < s.rt.durablePosition ∨
        position ≤ s.rt.currentPosition ∧ (kind = .durable → position = s.rt.durablePosition)) ∧
    (∀ id sp position captureRequired, s.rt.safePoints[id]? = some sp →
      (Unmoved s (.reachSafePoint id position captureRequired) ↔
        position ≤ s.rt.currentPosition ∧
          s.rt.currentSafePoint.map SafePoint.boundary = some (id, position, captureRequired))) := by
  constructor
  · exact publishProgress_unmoved_iff s
  · intro id sp position captureRequired declared
    exact reachSafePoint_unmoved_iff reachable.keyed declared position captureRequired

def quiescedSystem : System :=
  run (.construct ⟨1⟩ ⟨1⟩ quietAdapters)
    (requestOps true ++ [.beginQuiesce, .reportQuiesced { workerBootId := ⟨5⟩, fullyQuiesced := true }])

theorem quiescedSystem_reachable : Reachable quiescedSystem := ⟨_, _, _, _, rfl⟩

theorem unmoved_iff_quiesced :
    quiescedSystem.lifecycle = .quiesced ∧ Unmoved quiescedSystem (.publishProgress 5 .speculative) ∧
      Unmoved quiescedSystem (.reachSafePoint ⟨7⟩ 10 true) := by
  obtain ⟨published, reached⟩ := unmoved_iff quiescedSystem quiescedSystem_reachable
  refine ⟨by decide +kernel, (published 5 .speculative).mpr (.inr (.inr ⟨by decide +kernel, nofun⟩)), ?_⟩
  cases found : quiescedSystem.rt.safePoints[(⟨7⟩ : SafePointId)]? with
  | none => exact absurd found (by decide +kernel)
  | some sp => exact (reached ⟨7⟩ sp 10 true found).mpr ⟨by decide +kernel, by decide +kernel⟩

/-- In QUIESCED a publication advances the positions, and the safe point is reached anew without its capture. -/
theorem quiesced_boundary_moves :
    Reachable quiescedSystem ∧ quiescedSystem.lifecycle = .quiesced ∧
      ¬Unmoved quiescedSystem (.publishProgress 20 .durable) ∧
      ¬Unmoved quiescedSystem (.reachSafePoint ⟨7⟩ 10 false) :=
  ⟨quiescedSystem_reachable, by decide +kernel, by decide +kernel, by decide +kernel⟩

end PreemptionFabric
