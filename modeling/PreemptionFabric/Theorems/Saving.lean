import PreemptionFabric.Theorems.Quiescence

/-! Saving a runtime and loading it again. Which reachable states have an image that the decoder accepts, and
    that loading such an image into a new runtime reproduces the runtime that was saved. -/

namespace PreemptionFabric
open KeyedMap

/-! ### The flags behind a lifecycle -/

def LifecycleState.pastQuiesced : LifecycleState → Bool
  | .quiesced | .capturingState | .stateDurable => true
  | l => isReleaseReached l

def LifecycleState.pastDurable : LifecycleState → Bool
  | .stateDurable => true
  | l => isReleaseReached l

def LifecycleState.pastReleased : LifecycleState → Bool
  | .releasePending | .releasing => false
  | l => isReleaseReached l

/-- Without a recovery, the flags that a lifecycle has passed are set. -/
structure Flagged (s : System) : Prop where
  quiesced : s.lifecycle.pastQuiesced = true → s.rt.quiesced = true
  durable : s.lifecycle.pastDurable = true → s.rt.stateDurable = true
  released : s.lifecycle.pastReleased = true → s.rt.resourcesReleased = true

section
variable {u t : System} {op : Op} {r : Returned}

theorem Flagged.free (quiesced : t.lifecycle.pastQuiesced = false) (durable : t.lifecycle.pastDurable = false)
    (released : t.lifecycle.pastReleased = false) : Flagged t := by
  refine ⟨?_, ?_, ?_⟩
  · rw [quiesced]
    nofun
  · rw [durable]
    nofun
  · rw [released]
    nofun

theorem Flagged.all (h : Flagged u) (past : u.lifecycle.pastReleased = true) :
    u.rt.quiesced = true ∧ u.rt.stateDurable = true ∧ u.rt.resourcesReleased = true := by
  have earlier : ∀ l : LifecycleState, l.pastReleased = true → l.pastQuiesced = true ∧ l.pastDurable = true := by
    intro l
    cases l <;> decide
  obtain ⟨quiesced, durable⟩ := earlier _ past
  exact ⟨h.quiesced quiesced, h.durable durable, h.released past⟩

theorem Flagged.move (h : Flagged u) (fresh : op.loads = none) (moved : Move u op r t) : Flagged t := by
  cases moved with
  | quiesced boot before full all => exact ⟨fun _ => rfl, nofun, nofun⟩
  | captureSkipped before needless =>
    exact ⟨fun _ => h.quiesced (by rw [before]; rfl), fun _ => rfl, nofun⟩
  | captureStarted before needed =>
    exact ⟨fun _ => h.quiesced (by rw [before]; rfl), nofun, nofun⟩
  | captured before success completed valid =>
    exact ⟨fun _ => h.quiesced (by rw [before]; rfl), fun _ => rfl, nofun⟩
  | releaseRequested before durable =>
    have past : u.lifecycle.pastQuiesced = true := System.of_either (·.pastQuiesced = true) before rfl rfl
    exact ⟨fun _ => h.quiesced past, fun _ => durable, nofun⟩
  | released before free =>
    exact ⟨fun _ => h.quiesced (by rw [before]; rfl), fun _ => h.durable (by rw [before]; rfl), fun _ => rfl⟩
  | committed before quiesced durable released => exact ⟨fun _ => quiesced, fun _ => durable, fun _ => released⟩
  | loaded ret image =>
    rw [image] at fresh
    cases fresh
  | @reach id sp position captureRequired found =>
    have lifecycle := u.reached_lifecycle id (sp.reachedAt position captureRequired)
    split at lifecycle
    · exact .free (by rw [lifecycle]; rfl) (by rw [lifecycle]; rfl) (by rw [lifecycle]; rfl)
    · exact ⟨by rw [lifecycle]; exact h.quiesced, by rw [lifecycle]; exact h.durable,
        by rw [lifecycle]; exact h.released⟩
  | declare sp => exact ⟨h.quiesced, h.durable, h.released⟩
  | publish kind auth forward => exact ⟨h.quiesced, h.durable, h.released⟩
  | priority g => exact ⟨h.quiesced, h.durable, h.released⟩
  | incarnation worker boot => exact ⟨h.quiesced, h.durable, h.released⟩
  | adapter o => exact ⟨h.quiesced, h.durable, h.released⟩
  | resumeRequested before =>
    obtain ⟨quiesced, durable, released⟩ := h.all (by rw [before]; rfl)
    exact ⟨fun _ => quiesced, fun _ => durable, fun _ => released⟩
  | revalidateBlocked before current blocked =>
    obtain ⟨quiesced, durable, released⟩ := h.all (System.of_either (·.pastReleased = true) before rfl rfl)
    exact ⟨fun _ => quiesced, fun _ => durable, fun _ => released⟩
  | revalidated before current free =>
    obtain ⟨quiesced, durable, released⟩ := h.all (System.of_either (·.pastReleased = true) before rfl rfl)
    exact ⟨fun _ => quiesced, fun _ => durable, fun _ => released⟩
  | restored before current =>
    obtain ⟨quiesced, durable, released⟩ := h.all (by rw [before]; rfl)
    exact ⟨fun _ => quiesced, fun _ => durable, fun _ => released⟩
  | resumed before =>
    obtain ⟨quiesced, durable, released⟩ := h.all (System.of_either (·.pastReleased = true) before rfl rfl)
    exact ⟨fun _ => quiesced, fun _ => durable, fun _ => released⟩
  | _ => exact .free rfl rfl rfl

end

/-! ### The safe points -/

/-- The safe point lies under its own valid id and its state is known. -/
def Storable (id : SafePointId) (sp : SafePoint) : Prop :=
  sp.id = id ∧ id.isValid = true ∧ isKnownSafePointState sp.state = true

theorem Storable.move {u t : System} {op : Op} {r : Returned} (h : All Storable u.rt.safePoints)
    (fresh : op.loads = none) (ids : ∀ sp, op = .declareSafePoint sp → sp.id.isValid = true) (moved : Move u op r t) :
    All Storable t.rt.safePoints := by
  refine moved.safePoints h ?_ ?_ ?_
  · intro sp input
    have known : isKnownSafePointState .declared = true := by decide
    exact ⟨rfl, ids sp input, known⟩
  · rintro id sp position captureRequired ⟨own, valid, _⟩
    have known : isKnownSafePointState .valid = true := by decide
    exact ⟨own, valid, known⟩
  · intro st image
    rw [fresh] at image
    cases image

theorem validateSafePoints_snapshot {rt : PreemptionRuntime} (h : All Storable rt.safePoints) :
    validateSafePoints [] rt.snapshot.safePoints = .ok := by
  have listed : ∀ p ∈ rt.safePoints.toList, Storable p.1 p.2 := fun p member =>
    h p.1 p.2 (Std.ExtTreeMap.mem_toList_iff_getElem?_eq_some.mp member)
  have ids : rt.snapshot.safePoints.map (·.id.value) = rt.safePoints.toList.map (·.1.value) := by
    rw [PreemptionRuntime.snapshot, List.map_map]
    refine List.map_congr_left fun p member => ?_
    exact congrArg Id.value (listed p member).1
  refine validateSafePoints_of ?_ ?_
  · intro psp member
    obtain ⟨p, entry, rfl⟩ := List.mem_map.mp member
    obtain ⟨own, valid, known⟩ := listed p entry
    exact ⟨(congrArg Id.isValid own).trans valid, known, List.not_mem_nil⟩
  · rw [ids, List.Nodup, List.pairwise_map]
    refine rt.safePoints.distinct_keys_toList.imp fun {a b} different same => different ?_
    show compare a.1.value b.1.value = .eq
    rw [same]
    exact Std.ReflOrd.compare_self

/-! ### What can be saved -/

section
variable {l : LifecycleState}

theorem past_of_isReleaseReached (reached : isReleaseReached l = true) :
    l.pastQuiesced = true ∧ l.pastDurable = true ∧
      (l.pastReleased = true ∨ l = .releasePending ∨ l = .releasing) := by
  revert reached
  cases l <;> decide

theorem isPreemptedDurable_of_isResumeReached (reached : isResumeReached l = true) :
    LifecycleStateMachine.isPreemptedDurable ⟨l⟩ = true := by
  revert reached
  cases l <;> decide

theorem isReleaseReached_of_isPreemptedDurable (preempted : LifecycleStateMachine.isPreemptedDurable ⟨l⟩ = true) :
    isReleaseReached l = true := by
  revert preempted
  cases l <;> decide

theorem pastDurable_of_isPreemptedDurable (preempted : LifecycleStateMachine.isPreemptedDurable ⟨l⟩ = true) :
    l.pastDurable = true := by
  revert preempted
  cases l <;> decide

end

theorem decodes_iff_validImage {s : System} (fits : (encodePayload s.rt.snapshot).length < 2 ^ 32) :
    (∃ st, decode s.persistBytes = .ok st) ↔ ValidImage s.rt.snapshot := by
  rw [System.persistBytes, decode_encode fits, ← validateState_ok]
  split
  next valid => exact ⟨fun _ => valid, fun _ => ⟨_, rfl⟩⟩
  next invalid =>
    refine ⟨?_, fun valid => absurd valid invalid⟩
    rintro ⟨st, accepted⟩
    cases accepted

/-- The rules of the validation that the flags and the safe points do not settle. -/
theorem validImage_snapshot_iff {s : System} (flagged : Flagged s) (storable : All Storable s.rt.safePoints) :
    ValidImage s.rt.snapshot ↔
      (s.lifecycle = .releasePending ∨ s.lifecycle = .releasing → s.rt.resourcesReleased = true) ∧
      (s.rt.stateDurable = true → s.rt.checkpointRef.isValid = true ∧ s.rt.checkpointGeneration.isValid = true) := by
  constructor
  · intro valid
    refine ⟨fun releasing => valid.released ?_, valid.checkpoint⟩
    show isReleaseReached s.lifecycle = true
    rcases releasing with lifecycle | lifecycle
    · rw [lifecycle]
      rfl
    · rw [lifecycle]
      rfl
  · rintro ⟨releasing, checkpoint⟩
    exact {
      version := rfl
      quiesced := fun reached => flagged.quiesced (past_of_isReleaseReached reached).1
      durable := fun reached => flagged.durable (past_of_isReleaseReached reached).2.1
      released := fun reached => by
        rcases (past_of_isReleaseReached reached).2.2 with past | under
        · exact flagged.released past
        · exact releasing under
      preempted := isPreemptedDurable_of_isResumeReached
      preemptedDurable := fun preempted => flagged.durable (pastDurable_of_isPreemptedDurable preempted)
      checkpoint := checkpoint
      safePoints := validateSafePoints_snapshot storable
      receipts := rfl
      history := validateHistory_eq _ }

/-- The state is reached from construction without a recovery, by a run that declares valid ids only. -/
def ReachableAfresh (s : System) : Prop :=
  ∃ epoch policy ad ops, s = run (.construct epoch policy ad) ops ∧ (∀ op ∈ ops, op.loads = none) ∧
    ∀ sp, .declareSafePoint sp ∈ ops → sp.id.isValid = true

theorem ReachableAfresh.invariants {s : System} (reachable : ReachableAfresh s) :
    Flagged s ∧ All Storable s.rt.safePoints := by
  obtain ⟨epoch, policy, ad, ops, rfl, fresh, ids⟩ := reachable
  have start : Flagged (.construct epoch policy ad) ∧ All Storable (System.construct epoch policy ad).rt.safePoints :=
    ⟨.free rfl rfl rfl, All.empty⟩
  refine run_invariant (P := fun u => Flagged u ∧ All Storable u.rt.safePoints)
    (G := fun e => e.input.loads = none ∧ ∀ sp, e.input = .declareSafePoint sp → sp.id.isValid = true) start ?_ ops
    fun e member => ?_
  · rintro u op r t ⟨flagged, storable⟩ ⟨fresh, ids⟩ moved
    exact ⟨flagged.move fresh moved, Storable.move storable fresh ids moved⟩
  · have input := Trace.input_mem step member
    exact ⟨fresh e.input input, fun sp declares => ids sp (declares ▸ input)⟩

/-- A state that is reached without a recovery is saved as an image that the decoder accepts exactly when its
    release is not under way (or the flag of an earlier one is still set) and its durable state has a checkpoint. -/
theorem persistBytes_decodes_iff (s : System) (reachable : ReachableAfresh s)
    (fits : (encodePayload s.rt.snapshot).length < 2 ^ 32) :
    (∃ st, decode s.persistBytes = .ok st) ↔
      (s.lifecycle = .releasePending ∨ s.lifecycle = .releasing → s.rt.resourcesReleased = true) ∧
      (s.rt.stateDurable = true → s.rt.checkpointRef.isValid = true ∧ s.rt.checkpointGeneration.isValid = true) := by
  obtain ⟨flagged, storable⟩ := reachable.invariants
  exact (decodes_iff_validImage fits).trans (validImage_snapshot_iff flagged storable)

def systemAfter (ops : List Op) : System := run (.construct ⟨1⟩ ⟨1⟩ quietAdapters) ops

def preemptedSystem : System := systemAfter (requestOps true ++ captureOps ++ releaseOps ++ [.commitPreempted])

theorem persistBytes_decodes_preempted : ∃ st, decode preemptedSystem.persistBytes = .ok st := by
  refine (persistBytes_decodes_iff _ ⟨_, _, _, _, rfl, ?_, ?_⟩ ?_).mpr (by decide +kernel)
  · simp [requestOps, captureOps, releaseOps, Op.loads]
  · simp [requestOps, captureOps, releaseOps, Id.isValid]
  · rw [length_encodePayload]
    decide +kernel

/-- The image of a state whose release is under way is rejected, and so is one whose state needed no capture. -/
theorem releasing_state_not_saved :
    let releasing := systemAfter (requestOps true ++ captureOps ++ [.requestRelease])
    let skipped := systemAfter (requestOps false ++ captureOps ++ releaseOps)
    ReachableAfresh releasing ∧ decode releasing.persistBytes = .error .releaseBeforeQuiescence ∧
      ReachableAfresh skipped ∧ decode skipped.persistBytes = .error .brokenCheckpoint := by
  refine ⟨⟨_, _, _, _, rfl, ?_, ?_⟩, ?_, ⟨_, _, _, _, rfl, ?_, ?_⟩, ?_⟩
  · simp [requestOps, captureOps, Op.loads]
  · simp [requestOps, captureOps, Id.isValid]
  · rw [System.persistBytes, decode_encode (by rw [length_encodePayload]; decide +kernel)]
    decide +kernel
  · simp [requestOps, captureOps, releaseOps, Op.loads]
  · simp [requestOps, captureOps, releaseOps, Id.isValid]
  · rw [System.persistBytes, decode_encode (by rw [length_encodePayload]; decide +kernel)]
    decide +kernel

/-! ### Loading what was saved -/

def System.RequestValid (s : System) : Prop := ∀ req, s.rt.activeRequest = some req → req.id.isValid = true

theorem Reachable.requestValid {s : System} (reachable : Reachable s) : s.RequestValid := by
  obtain ⟨epoch, policy, ad, ops, rfl⟩ := reachable
  have start : (System.construct epoch policy ad).RequestValid := by
    intro req active
    cases active
  refine run_invariant (G := fun _ => True) start ?_ ops fun _ _ => trivial
  intro u op r t valid _ moved
  cases moved with
  | start =>
    intro req active
    cases active
  | accept id generation auth first =>
    rintro req ⟨⟩
    exact id
  | @loaded op st ret image =>
    intro req active
    rw [System.restored, PreemptionRuntime.restored_activeRequest] at active
    split at active
    next identified =>
      cases active
      exact identified
    next => exact valid req active
  | _ => exact valid

theorem restored_safePoints_toPersistent {rt : PreemptionRuntime} (keyed : All (fun id sp => sp.id = id) rt.safePoints)
    (rt' : PreemptionRuntime) :
    (rt'.restored rt.snapshot).snapshot.safePoints = rt.snapshot.safePoints := by
  have rebuilt : (rt'.restored rt.snapshot).safePoints = rt.safePoints.map fun _ sp => sp.toPersistent.toSafePoint := by
    rw [PreemptionRuntime.restored_safePoints]
    exact foldl_insert_toList rt.safePoints SafePoint.toPersistent (·.id) PersistentSafePoint.toSafePoint keyed
  show (rt'.restored rt.snapshot).safePoints.toList.map (fun p => p.2.toPersistent) =
    rt.safePoints.toList.map fun p => p.2.toPersistent
  rw [rebuilt, Std.ExtTreeMap.toList_map, List.map_map]
  rfl

theorem restored_request {s : System} (requested : s.RequestValid) (epoch : CoordinatorEpoch)
    (policy : PolicyGeneration) :
    let rt : PreemptionRuntime := { epoch := epoch, policyGeneration := policy }
    (rt.restored s.rt.snapshot).snapshot.requestId = s.rt.snapshot.requestId ∧
      (rt.restored s.rt.snapshot).snapshot.requestGeneration = s.rt.snapshot.requestGeneration := by
  intro rt
  simp only [PreemptionRuntime.snapshot, PreemptionRuntime.restored_activeRequest]
  cases active : s.rt.activeRequest with
  | none => exact ⟨rfl, rfl⟩
  | some req =>
    have valid := requested req active
    simp only [Option.map_some, Option.getD_some, valid, if_true]
    exact ⟨rfl, rfl⟩

/-- Loading a snapshot into a new runtime reproduces it, up to the epoch and the policy of the new runtime. -/
theorem snapshot_restored {s : System} (keyed : s.Keyed) (requested : s.RequestValid) (epoch : CoordinatorEpoch)
    (policy : PolicyGeneration) (ad : ReferenceAdapters) :
    ((System.construct epoch policy ad).restored s.rt.snapshot).rt.snapshot =
      { s.rt.snapshot with coordinatorEpoch := epoch, policyGeneration := policy } := by
  have points := restored_safePoints_toPersistent keyed (System.construct epoch policy ad).rt
  obtain ⟨request, generation⟩ := restored_request requested epoch policy
  -- Every other field is installed as it was saved, whether the image names a request or not.
  apply PersistentState.ext
  case safePoints => exact points
  case requestId => exact request
  case requestGeneration => exact generation
  all_goals
    simp only [System.restored, PreemptionRuntime.restored]
    split <;> rfl

theorem eq_snapshot_of_decode {s : System} {st : PersistentState} (accepted : decode s.persistBytes = .ok st) :
    st = s.rt.snapshot := by
  have read := decode_encode (fits_of_decode accepted)
  rw [System.persistBytes] at accepted
  rw [accepted] at read
  split at read
  next => exact Except.ok.inj read
  next => cases read

/-- Saving a reachable runtime and loading it into a new one succeeds and reproduces every field that is saved,
    when the decoder accepts the image. -/
theorem restoreBytes_persistBytes (s : System) (reachable : Reachable s) (st : PersistentState)
    (accepted : decode s.persistBytes = .ok st) (epoch : CoordinatorEpoch) (policy : PolicyGeneration)
    (ad : ReferenceAdapters) :
    (step (.construct epoch policy ad) (.restoreBytes s.persistBytes)).1 = .ok (.bool true) ∧
    (step (.construct epoch policy ad) (.restoreBytes s.persistBytes)).2.rt.snapshot =
      { s.rt.snapshot with coordinatorEpoch := epoch, policyGeneration := policy } := by
  rw [restoreBytes_step accepted, eq_snapshot_of_decode accepted]
  exact ⟨rfl, snapshot_restored reachable.keyed reachable.requestValid epoch policy ad⟩

theorem restoreBytes_persistBytes_preempted :
    (step (.construct ⟨2⟩ ⟨3⟩ {}) (.restoreBytes preemptedSystem.persistBytes)).1 = .ok (.bool true) ∧
    (step (.construct ⟨2⟩ ⟨3⟩ {}) (.restoreBytes preemptedSystem.persistBytes)).2.rt.snapshot =
      { preemptedSystem.rt.snapshot with coordinatorEpoch := ⟨2⟩, policyGeneration := ⟨3⟩ } := by
  have fits : (encodePayload preemptedSystem.rt.snapshot).length < 2 ^ 32 := by
    rw [length_encodePayload]
    decide +kernel
  have valid : validateState preemptedSystem.rt.snapshot.versioned = .ok := by decide +kernel
  have accepted := decode_encode_of_valid fits valid
  exact restoreBytes_persistBytes preemptedSystem ⟨_, _, _, _, rfl⟩ _ accepted ⟨2⟩ ⟨3⟩ {}

end PreemptionFabric
