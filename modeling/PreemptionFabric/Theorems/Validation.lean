import PreemptionFabric.Store

/-! What the validation of an image accepts, rule by rule. -/

namespace PreemptionFabric

/-- The images that `validate_state` accepts. -/
structure ValidImage (s : PersistentState) : Prop where
  version : s.formatVersion = persistenceVersion
  quiesced : isReleaseReached s.lifecycle = true → s.quiesced = true
  durable : isReleaseReached s.lifecycle = true → s.stateDurable = true
  released : isReleaseReached s.lifecycle = true → s.resourcesReleased = true
  preempted : isResumeReached s.lifecycle = true → s.preempted = true
  preemptedDurable : s.preempted = true → s.stateDurable = true
  checkpoint : s.stateDurable = true → s.checkpointRef.isValid = true ∧ s.checkpointGeneration.isValid = true
  safePoints : validateSafePoints [] s.safePoints = .ok
  receipts : validateReceipts s.releaseReceipts = .ok
  history : validateHistory s.history = .ok

theorem isKnownLifecycle_eq (l : LifecycleState) : isKnownLifecycle l = true := by
  cases l <;> decide

theorem orThen_ok {e next : PersistenceError} : e.orThen next = .ok ↔ e = .ok ∧ next = .ok := by
  rw [PersistenceError.orThen]
  split
  next clear => simp [clear]
  next failed => simp [failed]

/-- Every lifecycle that has reached a boundary is on the main path, so the path's rules apply to it. -/
theorem validateMainPath_ok {s : PersistentState} :
    validateMainPath s = .ok ↔
      (isReleaseReached s.lifecycle = true →
        s.quiesced = true ∧ s.stateDurable = true ∧ s.resourcesReleased = true) ∧
      (isResumeReached s.lifecycle = true → s.preempted = true) := by
  have onPath : isReleaseReached s.lifecycle = true ∨ isResumeReached s.lifecycle = true →
      isOnMainPath s.lifecycle = true := by
    cases s.lifecycle <;> decide
  rw [validateMainPath]
  cases path : isOnMainPath s.lifecycle with
  | false =>
    rw [path] at onPath
    simp only [Bool.false_eq_true, imp_false, not_or] at onPath
    simp [onPath]
  | true =>
    cases isReleaseReached s.lifecycle <;> cases isResumeReached s.lifecycle <;> cases s.quiesced <;>
      cases s.stateDurable <;> cases s.resourcesReleased <;> cases s.preempted <;> simp

theorem validateState_ok {s : PersistentState} : validateState s = .ok ↔ ValidImage s := by
  have known : ¬(!isKnownLifecycle s.lifecycle) = true := by simp [isKnownLifecycle_eq]
  rw [validateState]
  constructor
  · intro accepted
    split at accepted
    next => cases accepted
    next version =>
      rw [orThen_ok, validateMainPath_ok] at accepted
      obtain ⟨⟨release, resume⟩, rest⟩ := accepted
      split at rest
      next => cases rest
      next preempted =>
        split at rest
        next => cases rest
        next checkpoint =>
          rw [orThen_ok, orThen_ok] at rest
          obtain ⟨safePoints, receipts, history⟩ := rest
          refine ⟨not_not.mp version, fun h => (release h).1, fun h => (release h).2.1, fun h => (release h).2.2, resume,
            ?_, ?_, safePoints, receipts, history⟩
          · simpa using preempted
          · simpa using checkpoint
  · intro valid
    have preempted : ¬(s.preempted && !s.stateDurable) = true := by simpa using valid.preemptedDurable
    have checkpoint : ¬(s.stateDurable && !(s.checkpointRef.isValid && s.checkpointGeneration.isValid)) = true := by
      simpa using valid.checkpoint
    rw [if_neg (not_not_intro valid.version), if_neg known, orThen_ok, validateMainPath_ok, if_neg preempted,
      if_neg checkpoint, orThen_ok, orThen_ok]
    exact ⟨⟨fun h => ⟨valid.quiesced h, valid.durable h, valid.released h⟩, valid.preempted⟩, valid.safePoints,
      valid.receipts, valid.history⟩

theorem validImage_of_decode {bytes : List UInt8} {st : PersistentState} (accepted : decode bytes = .ok st) :
    ValidImage st := by
  rw [← validateState_ok]
  rw [decode] at accepted
  split at accepted
  · cases accepted
  · split at accepted
    · cases accepted
    · split at accepted
      next valid =>
        cases accepted
        exact valid
      next => cases accepted

theorem validateSafePoints_of {sps : List PersistentSafePoint} {seen : List UInt64}
    (each : ∀ sp ∈ sps, sp.id.isValid = true ∧ isKnownSafePointState sp.state = true ∧ sp.id.value ∉ seen)
    (distinct : (sps.map (·.id.value)).Nodup) : validateSafePoints seen sps = .ok := by
  induction sps generalizing seen with
  | nil => rfl
  | cons sp sps ih =>
    obtain ⟨valid, known, unseen⟩ := each sp List.mem_cons_self
    obtain ⟨once, distinct⟩ := List.nodup_cons.mp distinct
    have first : ¬seen.contains sp.id.value = true := by simpa using unseen
    rw [validateSafePoints, if_neg (by simp [valid]), if_neg first, if_neg (by simp [known])]
    refine ih (fun other member => ?_) distinct
    obtain ⟨valid, known, unseen⟩ := each other (List.mem_cons_of_mem sp member)
    refine ⟨valid, known, List.not_mem_cons_of_ne_of_not_mem (fun same => ?_) unseen⟩
    exact once (List.mem_map.mpr ⟨other, member, same⟩)

theorem of_validateSafePoints {sps : List PersistentSafePoint} {seen : List UInt64}
    (accepted : validateSafePoints seen sps = .ok) :
    (∀ sp ∈ sps, sp.id.isValid = true ∧ isKnownSafePointState sp.state = true ∧ sp.id.value ∉ seen) ∧
      (sps.map (·.id.value)).Nodup := by
  induction sps generalizing seen with
  | nil => exact ⟨fun _ member => absurd member List.not_mem_nil, List.nodup_nil⟩
  | cons sp sps ih =>
    rw [validateSafePoints] at accepted
    split_ifs at accepted with invalid repeated unknown
    obtain ⟨each, distinct⟩ := ih accepted
    constructor
    · intro other member
      rcases List.mem_cons.mp member with rfl | later
      · refine ⟨by simpa using invalid, by simpa using unknown, by simpa using repeated⟩
      · obtain ⟨valid, known, unseen⟩ := each other later
        exact ⟨valid, known, fun earlier => unseen (List.mem_cons_of_mem _ earlier)⟩
    · refine List.nodup_cons.mpr ⟨fun again => ?_, distinct⟩
      obtain ⟨other, later, same⟩ := List.mem_map.mp again
      obtain ⟨_, _, unseen⟩ := each other later
      exact unseen (same ▸ List.mem_cons_self)

theorem validateHistory_eq (history : List PersistentSuperseded) : validateHistory history = .ok := by
  induction history with
  | nil => rfl
  | cons h history ih => rw [validateHistory, if_neg (by simp [isKnownLifecycle_eq]), ih]

/-! ### Errors -/

theorem orThen_ne {e next other : PersistenceError} (first : e ≠ other) (second : next ≠ other) :
    e.orThen next ≠ other := by
  rw [PersistenceError.orThen]
  split
  · exact second
  · exact first

/-- The validation has no complaint about the length of an image. -/
theorem validateState_ne_truncated (s : PersistentState) : validateState s ≠ .truncated := by
  have path : validateMainPath s ≠ .truncated := by
    rw [validateMainPath]
    split_ifs <;> decide
  have points (sps : List PersistentSafePoint) (seen : List UInt64) : validateSafePoints seen sps ≠ .truncated := by
    induction sps generalizing seen with
    | nil => exact show PersistenceError.ok ≠ .truncated by decide
    | cons sp sps ih =>
      rw [validateSafePoints]
      split_ifs
      · decide
      · decide
      · decide
      · exact ih _
  have receipts (rcpts : List PersistentReleaseReceipt) : validateReceipts rcpts ≠ .truncated := by
    induction rcpts with
    | nil => decide
    | cons rcpt rcpts ih =>
      rw [validateReceipts]
      split_ifs
      · decide
      · decide
      · decide
      · exact ih
  have history : validateHistory s.history ≠ .truncated := by
    rw [validateHistory_eq]
    decide
  rw [validateState]
  split_ifs
  · decide
  · decide
  · exact orThen_ne path (by decide)
  · exact orThen_ne path (by decide)
  · exact orThen_ne path (orThen_ne (points _ _) (orThen_ne (receipts _) history))

end PreemptionFabric
