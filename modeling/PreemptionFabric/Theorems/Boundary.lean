import PreemptionFabric.Theorems.Quiescence
import PreemptionFabric.Theorems.Saving

/-! The boundary at which quiescence starts. The runtime keeps a copy of the safe point that was reached last, and
    nothing that moves the work on takes it back: `begin_quiesce` and `assess` trust it wherever the work stands. A run
    in which the work never leaves the safe point quiesces at the boundary, and no other run does. -/

namespace PreemptionFabric
open Trace PreemptionFabric.Action

/-- The work does not stand at the safe point that it reached last. -/
def OffBoundary (s : System) : Prop :=
  ∃ sp, s.rt.currentSafePoint = some sp ∧ s.rt.currentPosition ≠ sp.progressPosition

/-- Quiescence starts only at the boundary: off the boundary, `begin_quiesce` defers wherever it acts, and the work is
    not assessed as preemptible at once. -/
structure QuiescesAtBoundary (s : System) : Prop where
  boundary : s.lifecycle ≠ .quiescing → (step s .beginQuiesce).2.lifecycle = .quiescing →
    ∃ sp, s.rt.currentSafePoint = some sp ∧ s.rt.currentPosition = sp.progressPosition
  defers : OffBoundary s → s.lifecycle = .assessing ∨ s.lifecycle = .deferred ∨ s.lifecycle = .safePointReached →
    (step s .beginQuiesce).1.HasOutcome .deferToSafePoint
  assessment : OffBoundary s →
    (s.rt.assess s.ad).preemptibility ≠ .preemptibleNow ∧
      (s.rt.assess s.ad).preemptibility ≠ .preemptibleAfterStateCapture

/-- The work stands at the safe point that it reached last, and has reached one in SAFE_POINT_REACHED. -/
structure OnBoundary (s : System) : Prop where
  position : ∀ sp, s.rt.currentSafePoint = some sp → s.rt.currentPosition = sp.progressPosition
  reached : s.lifecycle = .safePointReached → ∃ sp, s.rt.currentSafePoint = some sp

/-- The step does not take the work off the boundary: no publication that is accepted goes past the safe point, no safe
    point is reached behind the work, and no image is installed with another position or, in SAFE_POINT_REACHED, where
    no safe point was reached. -/
structure KeepsBoundary (s : System) (op : Op) : Prop where
  publishes : ∀ position kind, op = .publishProgress position kind → s.holdsAuthority = true →
    s.rt.durablePosition ≤ position → (∃ sp, s.rt.currentSafePoint = some sp) → position ≤ s.rt.currentPosition
  reaches : ∀ id position captureRequired, op = .reachSafePoint id position captureRequired →
    (∃ sp, s.rt.safePoints[id]? = some sp) → s.rt.currentPosition ≤ position
  installs : ∀ st, op.loads = some st →
    (∀ sp, s.rt.currentSafePoint = some sp → st.durableProgress = sp.progressPosition) ∧
      (st.lifecycle = .safePointReached → ∃ sp, s.rt.currentSafePoint = some sp)

section
variable {s t : System} {op : Op} {r : Returned}

/-! ### What `begin_quiesce` and `assess` trust -/

theorem Move.quiesces (moved : Move s .beginQuiesce r t) (after : t.lifecycle = .quiescing) :
    s.lifecycle = .safePointReached ∨ s.lifecycle = .assessing ∧ s.rt.atValidSafePoint = true := by
  cases moved with
  | quiesce boundary => exact boundary
  | defer before between => cases after
  | loaded ret image => cases image

theorem beginQuiesce_reached (reached : s.lifecycle = .safePointReached) :
    (step s .beginQuiesce).2.lifecycle = .quiescing := by
  simp only [step, as_eq, beginQuiesce, runOn_bind, runOn_lifecycle]
  rw [if_pos reached]
  simp only [runOn_bind]
  rw [runOn_transition_of reached rfl]
  rfl

/-- At a valid safe point, wherever the work stands, it is assessed as preemptible at once. -/
theorem assess_valid {sp : SafePoint} (current : s.rt.currentSafePoint = some sp) (valid : sp.state = .valid) :
    (s.rt.assess s.ad).preemptibility =
      if sp.stateCaptureRequired then .preemptibleAfterStateCapture else .preemptibleNow := by
  have found : s.rt.currentSafePoint.filter (·.state = .valid) = some sp := by simp [current, valid]
  unfold PreemptionRuntime.assess
  simp only [found]
  split <;> rfl

theorem OnBoundary.quiescesAtBoundary (h : OnBoundary s) : QuiescesAtBoundary s := by
  have never {p : Prop} : OffBoundary s → p := by
    rintro ⟨sp, current, away⟩
    exact absurd (h.position sp current) away
  refine ⟨fun before after => ?_, never, never⟩
  have present : ∃ sp, s.rt.currentSafePoint = some sp := by
    rcases step_cases s .beginQuiesce with moved | ⟨same, _⟩
    · rcases moved.quiesces after with reached | ⟨_, valid⟩
      · exact h.reached reached
      · obtain ⟨sp, current, _⟩ := atValidSafePoint_iff.mp valid
        exact ⟨sp, current⟩
    · rw [same] at after
      exact absurd after before
  obtain ⟨sp, current⟩ := present
  exact ⟨sp, current, h.position sp current⟩

theorem onBoundary_of_quiesces (h : QuiescesAtBoundary s)
    (valid : ∀ sp, s.rt.currentSafePoint = some sp → sp.state = .valid) : OnBoundary s := by
  constructor
  · intro sp current
    by_contra away
    obtain ⟨now, afterCapture⟩ := h.assessment ⟨sp, current, away⟩
    rw [assess_valid current (valid sp current)] at now afterCapture
    cases capture : sp.stateCaptureRequired with
    | true => exact afterCapture (if_pos capture)
    | false => exact now (if_neg (by simp [capture]))
  · intro reached
    obtain ⟨sp, current, _⟩ := h.boundary (by simp [reached]) (beginQuiesce_reached reached)
    exact ⟨sp, current⟩

/-! ### Steps -/

theorem max_eq_right_iff_le {a b : UInt64} : max a b = b ↔ a ≤ b := by
  show (if a ≤ b then b else a) = b ↔ a ≤ b
  split
  next le => simp [le]
  next gt =>
    refine iff_of_false (fun same => ?_) gt
    rw [same] at gt
    exact gt (UInt64.le_refl b)

/-- A step that the boundary does not depend on keeps it. -/
theorem keepsBoundary_of (published : ∀ position kind, op ≠ .publishProgress position kind)
    (reached : ∀ id position captureRequired, op ≠ .reachSafePoint id position captureRequired)
    (fresh : op.loads = none) : KeepsBoundary s op where
  publishes position kind input := absurd input (published position kind)
  reaches id position captureRequired input := absurd input (reached id position captureRequired)
  installs st image := by
    rw [fresh] at image
    cases image

theorem keepsBoundary_publish_iff {position : UInt64} {kind : ProgressKind} :
    KeepsBoundary s (.publishProgress position kind) ↔
      (s.holdsAuthority = true → s.rt.durablePosition ≤ position → (∃ sp, s.rt.currentSafePoint = some sp) →
        position ≤ s.rt.currentPosition) := by
  refine ⟨fun keeps => keeps.publishes position kind rfl, fun still => ⟨?_, ?_, ?_⟩⟩
  · intro position' kind' input
    cases input
    exact still
  · intro id position' captureRequired input
    cases input
  · intro st image
    cases image

theorem keepsBoundary_reach_iff {id : SafePointId} {position : UInt64} {captureRequired : Bool} :
    KeepsBoundary s (.reachSafePoint id position captureRequired) ↔
      ((∃ sp, s.rt.safePoints[id]? = some sp) → s.rt.currentPosition ≤ position) := by
  refine ⟨fun keeps => keeps.reaches id position captureRequired rfl, fun behind => ⟨?_, ?_, ?_⟩⟩
  · intro position' kind input
    cases input
  · intro id' position' captureRequired' input
    cases input
    exact behind
  · intro st image
    cases image

theorem keepsBoundary_install_iff {st : PersistentState} (image : op.loads = some st) :
    KeepsBoundary s op ↔
      (∀ sp, s.rt.currentSafePoint = some sp → st.durableProgress = sp.progressPosition) ∧
        (st.lifecycle = .safePointReached → ∃ sp, s.rt.currentSafePoint = some sp) := by
  refine ⟨fun keeps => keeps.installs st image, fun still => ⟨?_, ?_, ?_⟩⟩
  · rintro position kind rfl
    cases image
  · rintro id position captureRequired rfl
    cases image
  · intro st' image'
    rw [image] at image'
    cases image'
    exact still

theorem keepsBoundary_of_idle (unsuccessful : ¬op.Succeeded (step s op).1) : KeepsBoundary s op where
  publishes position kind input auth forward := by
    subst input
    rw [publishProgress_step, if_pos ⟨auth, forward⟩] at unsuccessful
    exact absurd rfl unsuccessful
  reaches id position captureRequired input := by
    rintro ⟨sp, found⟩
    subst input
    rw [reachSafePoint_step, found] at unsuccessful
    exact absurd rfl unsuccessful
  installs st image := by
    have recovered : op.Succeeded (step s op).1 := by
      cases op with
      | restoreState | restoreBytes | load =>
        simp only [Op.Succeeded, image]
        rfl
      | _ => cases image
    exact absurd recovered unsuccessful

theorem OnBoundary.move_iff (h : OnBoundary s) (moved : Move s op r t) : OnBoundary t ↔ KeepsBoundary s op := by
  have keep (same : t.rt.currentSafePoint = s.rt.currentSafePoint) (still : t.rt.currentPosition = s.rt.currentPosition)
      (entered : t.lifecycle = .safePointReached → s.lifecycle = .safePointReached) : OnBoundary t := by
    refine ⟨fun sp current => ?_, fun reached => ?_⟩
    · rw [still]
      exact h.position sp (same ▸ current)
    · rw [same]
      exact h.reached (entered reached)
  cases moved with
  | @reach id sp position captureRequired found =>
    rw [keepsBoundary_reach_iff]
    constructor
    · intro after _
      exact max_eq_right_iff_le.mp (after.position _ rfl)
    · intro behind
      refine ⟨fun sp' current => ?_, fun _ => ⟨_, rfl⟩⟩
      cases current
      exact max_eq_right_iff_le.mpr (behind ⟨sp, found⟩)
  | @publish position kind auth forward =>
    rw [keepsBoundary_publish_iff]
    constructor
    · rintro after _ _ ⟨sp, current⟩
      have moved : max s.rt.currentPosition position = sp.progressPosition := after.position sp current
      exact max_eq_left_iff_le.mp (moved.trans (h.position sp current).symm)
    · intro still
      refine ⟨fun sp current => ?_, h.reached⟩
      exact (max_eq_left_iff_le.mpr (still auth forward ⟨sp, current⟩)).trans (h.position sp current)
  | @loaded _ st ret image =>
    have same : (s.restored st).rt.currentSafePoint = s.rt.currentSafePoint := s.rt.restored_currentSafePoint st
    have position : (s.restored st).rt.currentPosition = st.durableProgress := s.rt.restored_currentPosition st
    rw [keepsBoundary_install_iff image, ← same, ← position, ← s.restored_lifecycle st]
    exact ⟨fun after => ⟨after.position, after.reached⟩, fun still => ⟨still.1, still.2⟩⟩
  | declare | priority | incarnation | adapter =>
    exact iff_of_true (keep rfl rfl id) (keepsBoundary_of nofun nofun rfl)
  | _ => exact iff_of_true (keep rfl rfl (by intro reached; cases reached)) (keepsBoundary_of nofun nofun rfl)

theorem OnBoundary.step_iff (h : OnBoundary s) (op : Op) : OnBoundary (step s op).2 ↔ KeepsBoundary s op := by
  rcases step_cases s op with moved | ⟨same, unsuccessful⟩
  · exact h.move_iff moved
  · rw [same]
    exact iff_of_true h (keepsBoundary_of_idle unsuccessful)

/-- The safe point that was reached last is valid, also after a recovery. -/
def ReachedValid (s : System) : Prop := ∀ sp, s.rt.currentSafePoint = some sp → sp.state = .valid

theorem ReachedValid.move (h : ReachedValid s) (moved : Move s op r t) : ReachedValid t := by
  cases moved with
  | reach position captureRequired found =>
    intro sp current
    cases current
    rfl
  | @loaded _ st ret image =>
    intro sp current
    have same : (s.restored st).rt.currentSafePoint = s.rt.currentSafePoint := s.rt.restored_currentSafePoint st
    exact h sp (same.symm.trans current)
  | _ => exact h

theorem ReachedValid.step (h : ReachedValid s) (op : Op) : ReachedValid (PreemptionFabric.step s op).2 := by
  rcases step_cases s op with moved | ⟨same, _⟩
  · exact h.move moved
  · rw [same]
    exact h

end

/-- In every run, every state that is reached quiesces at the boundary exactly when no step takes the work off it. -/
theorem quiesces_at_boundary_iff (epoch : CoordinatorEpoch) (policy : PolicyGeneration) (ad : ReferenceAdapters)
    (ops : List Op) :
    (∀ e ∈ traceOf (.construct epoch policy ad) ops, QuiescesAtBoundary e.post) ↔
      ∀ e ∈ traceOf (.construct epoch policy ad) ops, KeepsBoundary e.pre e.input := by
  have start : OnBoundary (.construct epoch policy ad) ∧ ReachedValid (.construct epoch policy ad) := by
    refine ⟨⟨fun sp current => ?_, fun reached => ?_⟩, fun sp current => ?_⟩
    · cases current
    · cases reached
    · cases current
  refine trace_forall_iff step (P := fun u => OnBoundary u ∧ ReachedValid u) (G := fun _ => True) start ?_ ?_ ops
    fun _ _ => trivial
  · rintro u op ⟨boundary, valid⟩ _
    rw [event, ← boundary.step_iff op]
    exact ⟨fun quiesces => onBoundary_of_quiesces quiesces (valid.step op), fun after => after.quiescesAtBoundary⟩
  · rintro u op ⟨boundary, valid⟩ _ keeps
    exact ⟨(boundary.step_iff op).mpr keeps, valid.step op⟩

/-- An execution that publishes past the safe point that it reached, and is asked for a preemption. -/
def advancedSystem : System :=
  systemAfter ((requestOps false).take 3 ++ .publishProgress 20 .durable :: (requestOps false).drop 3)

/-- Work that has advanced past its safe point is assessed as preemptible now, and starts to quiesce. -/
theorem advanced_work_quiesces :
    advancedSystem.rt.currentPosition = 20 ∧
      advancedSystem.rt.currentSafePoint.map SafePoint.boundary = some (⟨7⟩, 10, false) ∧
      (advancedSystem.rt.assess advancedSystem.ad).preemptibility = .preemptibleNow ∧
      (step advancedSystem .beginQuiesce).2.lifecycle = .quiescing ∧ ¬QuiescesAtBoundary advancedSystem := by
  have position : advancedSystem.rt.currentPosition = 20 := by decide +kernel
  have reached : advancedSystem.rt.currentSafePoint.map SafePoint.boundary = some (⟨7⟩, 10, false) := by decide +kernel
  have quiesces : (step advancedSystem .beginQuiesce).2.lifecycle = .quiescing := by decide +kernel
  refine ⟨position, reached, by decide +kernel, quiesces, fun bounded => ?_⟩
  obtain ⟨sp, current, same⟩ := bounded.boundary (by decide +kernel) quiesces
  have behind : sp.progressPosition = 10 := by
    rw [current] at reached
    exact congrArg (·.2.1) (Option.some.inj reached)
  rw [position, behind] at same
  exact absurd same (by decide)

end PreemptionFabric
