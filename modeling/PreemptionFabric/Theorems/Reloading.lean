import PreemptionFabric.Theorems.Saving

/-! Loading an image and saving it again, for every image that the decoder accepts. The runtime keeps no release
    receipts, no request without an id and no `preempted` flag of its own, so an image survives exactly when it holds
    nothing there that the runtime would not write. -/

namespace PreemptionFabric
open KeyedMap

/-- What is left of an image once it has been loaded and saved again. -/
def PersistentState.reloaded (st : PersistentState) : PersistentState :=
  { st with
    releaseReceipts := []
    preempted := LifecycleStateMachine.isPreemptedDurable ⟨st.lifecycle⟩
    requestGeneration := if st.requestId.isValid then st.requestGeneration else {} }

/-- A reloaded image as a runtime of the given epoch and policy saves it, with its safe points in some order. -/
def PersistentState.reloadedAs (st : PersistentState) (epoch : CoordinatorEpoch) (policy : PolicyGeneration)
    (sps : List PersistentSafePoint) : PersistentState :=
  { st.reloaded with coordinatorEpoch := epoch, policyGeneration := policy, safePoints := sps }

theorem reloaded_eq_iff (st : PersistentState) :
    st.reloaded = st ↔
      st.releaseReceipts = [] ∧ st.preempted = LifecycleStateMachine.isPreemptedDurable ⟨st.lifecycle⟩ ∧
        (st.requestId.isValid = true ∨ st.requestGeneration = {}) := by
  constructor
  · intro same
    refine ⟨(congrArg PersistentState.releaseReceipts same).symm, (congrArg PersistentState.preempted same).symm, ?_⟩
    have generation := congrArg PersistentState.requestGeneration same
    simp only [PersistentState.reloaded] at generation
    split at generation
    next valid => exact .inl valid
    next => exact .inr generation.symm
  · rintro ⟨receipts, preempted, request⟩
    apply PersistentState.ext
    case releaseReceipts => exact receipts.symm
    case preempted => exact preempted.symm
    case requestGeneration =>
      rcases request with valid | unset
      · exact if_pos valid
      · simp only [PersistentState.reloaded, unset, ite_self]
    all_goals rfl

section
variable {st : PersistentState}

theorem restored_safePoints_perm (distinct : (st.safePoints.map (·.id.value)).Nodup) (s : System) :
    (s.restored st).rt.snapshot.safePoints.Perm st.safePoints := by
  have ids : (st.safePoints.map (·.id)).Nodup := by
    refine List.Nodup.of_map Id.value ?_
    rwa [List.map_map]
  have entries : (s.restored st).rt.safePoints.toList.Perm
      (st.safePoints.map fun psp => (psp.id, psp.toSafePoint)) := by
    rw [System.restored, PreemptionRuntime.restored_safePoints]
    exact toList_foldl_insert_perm ids
  have written := entries.map fun p => p.2.toPersistent
  rw [List.map_map] at written
  exact written.trans (List.Perm.of_eq (List.map_id' _))

theorem restored_snapshot_request (st : PersistentState) (epoch : CoordinatorEpoch) (policy : PolicyGeneration)
    (ad : ReferenceAdapters) :
    ((System.construct epoch policy ad).restored st).rt.snapshot.requestId = st.requestId ∧
      ((System.construct epoch policy ad).restored st).rt.snapshot.requestGeneration =
        if st.requestId.isValid then st.requestGeneration else {} := by
  simp only [PreemptionRuntime.snapshot, System.restored, PreemptionRuntime.restored_activeRequest]
  cases valid : st.requestId.isValid with
  | true => exact ⟨rfl, rfl⟩
  | false =>
    have unset : st.requestId = {} := Id.eq_default_of_not_isValid valid
    rw [unset]
    exact ⟨rfl, rfl⟩

/-- The snapshot of a runtime that an image was loaded into. -/
theorem snapshot_reloaded (version : st.formatVersion = persistenceVersion) (epoch : CoordinatorEpoch)
    (policy : PolicyGeneration) (ad : ReferenceAdapters) :
    ((System.construct epoch policy ad).restored st).rt.snapshot =
      st.reloadedAs epoch policy ((System.construct epoch policy ad).restored st).rt.snapshot.safePoints := by
  obtain ⟨request, generation⟩ := restored_snapshot_request st epoch policy ad
  apply PersistentState.ext
  case formatVersion => exact version.symm
  case requestId => exact request
  case requestGeneration => exact generation
  case safePoints => rfl
  all_goals
    simp only [System.restored, PreemptionRuntime.restored]
    split <;> rfl

theorem validateSafePoints_perm {sps sps' : List PersistentSafePoint} (same : sps'.Perm sps)
    (valid : validateSafePoints [] sps = .ok) : validateSafePoints [] sps' = .ok := by
  obtain ⟨each, distinct⟩ := of_validateSafePoints valid
  refine validateSafePoints_of (fun sp member => each sp (same.mem_iff.mp member)) ?_
  exact (same.map (·.id.value)).nodup_iff.mpr distinct

/-- The rules of the validation read only what is kept, and the order of the safe points does not matter to them. -/
theorem validImage_reloaded (valid : ValidImage st) (epoch : CoordinatorEpoch) (policy : PolicyGeneration)
    {sps : List PersistentSafePoint} (same : sps.Perm st.safePoints) :
    ValidImage (st.reloadedAs epoch policy sps) where
  version := valid.version
  quiesced := valid.quiesced
  durable := valid.durable
  released := valid.released
  preempted := isPreemptedDurable_of_isResumeReached
  preemptedDurable := fun preempted => valid.durable (isReleaseReached_of_isPreemptedDurable preempted)
  checkpoint := valid.checkpoint
  safePoints := validateSafePoints_perm same valid.safePoints
  receipts := rfl
  history := valid.history

/-- An accepted image fits its length field. -/
theorem fits_of_accepted {bytes : List UInt8} (accepted : decode bytes = .ok st) :
    (encodePayload st).length < 2 ^ 32 := by
  obtain ⟨payload, _, opened, read⟩ := opened_of_decode accepted
  rw [← length_of_decodePayload read]
  exact (eq_of_sealedPayload opened).1

theorem decode_encode_of_validImage {s : PersistentState} (valid : ValidImage s)
    (fits : (encodePayload s).length < 2 ^ 32) : decode (encode s) = .ok s := by
  have current : s.versioned = s := by
    rw [PersistentState.versioned, ← valid.version]
  rw [decode_encode_of_valid fits, current]
  rw [current]
  exact validateState_ok.mpr valid

/-- A loaded image can be saved: what is read back is the image without what the runtime does not keep. -/
theorem decode_persistBytes_restored {bytes : List UInt8} (accepted : decode bytes = .ok st) (epoch : CoordinatorEpoch)
    (policy : PolicyGeneration) (ad : ReferenceAdapters) :
    ∃ sps : List PersistentSafePoint, sps.Perm st.safePoints ∧
      decode ((System.construct epoch policy ad).restored st).persistBytes = .ok (st.reloadedAs epoch policy sps) := by
  have valid := validImage_of_decode accepted
  have same := restored_safePoints_perm (of_validateSafePoints valid.safePoints).2 (System.construct epoch policy ad)
  refine ⟨_, same, ?_⟩
  rw [System.persistBytes, snapshot_reloaded valid.version]
  refine decode_encode_of_validImage (validImage_reloaded valid epoch policy same) ?_
  have fits := fits_of_accepted accepted
  rw [length_encodePayload] at fits ⊢
  have points := same.length_eq
  simp only [PersistentState.reloadedAs, PersistentState.reloaded, List.length_nil]
  omega

end

/-- Saving the loaded image loses nothing durable: what is read back equals the image up to the epoch, the policy and
    the order of the safe points. -/
def Preserves (st : PersistentState) (s : System) : Prop :=
  ∃ st', decode s.persistBytes = .ok st' ∧ st'.safePoints.Perm st.safePoints ∧
    { st' with
      coordinatorEpoch := st.coordinatorEpoch
      policyGeneration := st.policyGeneration
      safePoints := st.safePoints } = st

/-- Loading an accepted image and saving it again loses nothing exactly when the image has no release receipts, its
    `preempted` flag says what its lifecycle says, and it has no request generation without a request. -/
theorem restoreBytes_preserves_iff (bytes : List UInt8) (st : PersistentState) (accepted : decode bytes = .ok st)
    (epoch : CoordinatorEpoch) (policy : PolicyGeneration) (ad : ReferenceAdapters) :
    Preserves st (step (.construct epoch policy ad) (.restoreBytes bytes)).2 ↔
      st.releaseReceipts = [] ∧ st.preempted = LifecycleStateMachine.isPreemptedDurable ⟨st.lifecycle⟩ ∧
        (st.requestId.isValid = true ∨ st.requestGeneration = {}) := by
  obtain ⟨sps, same, saved⟩ := decode_persistBytes_restored accepted epoch policy ad
  rw [← reloaded_eq_iff, restoreBytes_step accepted]
  constructor
  · rintro ⟨st', again, _, equal⟩
    rw [saved] at again
    cases again
    exact equal
  · intro equal
    exact ⟨_, saved, same, equal⟩

/-- The image of a release, without its receipts. -/
def receiptlessImage : PersistentState := { releasedImage with releaseReceipts := [] }

theorem decode_receiptlessImage : decode (encode receiptlessImage) = .ok receiptlessImage.versioned := by
  refine decode_encode_of_valid ?_ (by decide)
  rw [length_encodePayload]
  decide

/-- Without receipts the image of a release survives, with its safe points and its history. -/
theorem restoreBytes_preserves_receiptless :
    Preserves receiptlessImage.versioned
      (step (.construct ⟨2⟩ ⟨3⟩ {}) (.restoreBytes (encode receiptlessImage))).2 :=
  (restoreBytes_preserves_iff _ _ decode_receiptlessImage ⟨2⟩ ⟨3⟩ {}).mpr (by decide)

/-- The receipt of a release is lost by loading its image and saving it again. -/
theorem released_image_not_preserved :
    decode (encode releasedImage) = .ok releasedImage.versioned ∧ releasedImage.versioned.releaseReceipts ≠ [] ∧
      ¬Preserves releasedImage.versioned
        (step (.construct ⟨2⟩ ⟨3⟩ {}) (.restoreBytes (encode releasedImage))).2 := by
  refine ⟨decode_releasedImage, by decide, ?_⟩
  rintro ⟨st', saved, _, equal⟩
  obtain ⟨sps, _, reloaded⟩ := decode_persistBytes_restored decode_releasedImage ⟨2⟩ ⟨3⟩ {}
  rw [restoreBytes_step decode_releasedImage, reloaded] at saved
  cases saved
  have receipts := congrArg PersistentState.releaseReceipts equal
  cases receipts

end PreemptionFabric
