import PreemptionFabric.Runtime

/-! Saving and loading a runtime (`runtime.cpp`): the snapshot that is persisted, the restore that installs
    one, and their forms over bytes. -/

namespace PreemptionFabric

def SafePoint.toPersistent (sp : SafePoint) : PersistentSafePoint where
  id := sp.id
  generation := sp.generation
  executionId := sp.executionId
  attemptId := sp.attemptId
  workerId := sp.workerId
  workerBootId := sp.workerBootId
  progressPosition := sp.progressPosition
  stateCaptureRequired := sp.stateCaptureRequired
  checkpointRequired := sp.checkpointRequired
  state := sp.state
  order := sp.order

/-- A safe point rebuilt from its persisted part; the rest keeps its defaults. -/
def PersistentSafePoint.toSafePoint (psp : PersistentSafePoint) : SafePoint where
  id := psp.id
  generation := psp.generation
  executionId := psp.executionId
  attemptId := psp.attemptId
  workerId := psp.workerId
  workerBootId := psp.workerBootId
  progressPosition := psp.progressPosition
  stateCaptureRequired := psp.stateCaptureRequired
  checkpointRequired := psp.checkpointRequired
  state := psp.state
  order := psp.order

namespace PreemptionRuntime

def snapshot (rt : PreemptionRuntime) : PersistentState where
  formatVersion := persistenceVersion
  coordinatorEpoch := rt.epoch
  policyGeneration := rt.policyGeneration
  workloadId := rt.workloadId
  workloadGeneration := rt.workloadGeneration
  executionId := rt.executionId
  executionGeneration := rt.executionGeneration
  attemptId := rt.attemptId
  attemptGeneration := rt.attemptGeneration
  workerId := rt.workerId
  workerBootId := rt.workerBoot
  fencedWorkerBoot := rt.fencedWorkerBoot
  lifecycle := rt.machine.state
  requestId := (rt.activeRequest.map (·.id)).getD {}
  requestGeneration := (rt.activeRequest.map (·.generation)).getD {}
  quiesced := rt.quiesced
  quiescenceGeneration := rt.quiescenceGeneration
  stateDurable := rt.stateDurable
  stateCaptureGeneration := rt.stateCaptureGeneration
  checkpointRef := rt.checkpointRef
  checkpointGeneration := rt.checkpointGeneration
  resourcesReleased := rt.resourcesReleased
  releaseGeneration := rt.releaseGeneration
  preempted := rt.machine.isPreemptedDurable
  resumeGeneration := rt.resumeGeneration
  durableProgress := rt.durablePosition
  progressGeneration := rt.durableProgressGeneration
  safePoints := rt.safePoints.toList.map fun (_, sp) => sp.toPersistent
  history := rt.history

/-- The request that `restore` rebuilds from an image. -/
def restoredRequest (rt : PreemptionRuntime) (st : PersistentState) : PreemptionRequest where
  id := st.requestId
  generation := st.requestGeneration
  workloadId := st.workloadId
  workloadGeneration := st.workloadGeneration
  executionId := st.executionId
  executionGeneration := st.executionGeneration
  attemptId := st.attemptId
  attemptGeneration := st.attemptGeneration
  coordinatorEpoch := rt.epoch

/-- The runtime after `restore(const PersistentState&)`. An image without a valid request id leaves the
    active request as it is. -/
def restored (rt : PreemptionRuntime) (st : PersistentState) : PreemptionRuntime :=
  let rt := { rt with
    workloadId := st.workloadId
    workloadGeneration := st.workloadGeneration
    executionId := st.executionId
    executionGeneration := st.executionGeneration
    attemptId := st.attemptId
    attemptGeneration := st.attemptGeneration
    workerId := st.workerId
    workerBoot := st.workerBootId
    fencedWorkerBoot := st.fencedWorkerBoot
    machine := rt.machine.reset st.lifecycle
    quiesced := st.quiesced
    quiescenceGeneration := st.quiescenceGeneration
    stateDurable := st.stateDurable
    stateCaptureGeneration := st.stateCaptureGeneration
    checkpointRef := st.checkpointRef
    checkpointGeneration := st.checkpointGeneration
    resourcesReleased := st.resourcesReleased
    releaseGeneration := st.releaseGeneration
    resumeGeneration := st.resumeGeneration
    durablePosition := st.durableProgress
    durableProgressGeneration := st.progressGeneration
    currentPosition := st.durableProgress
    safePoints := st.safePoints.foldl (fun m psp => m.insert psp.id psp.toSafePoint) ∅
    history := st.history }
  if st.requestId.isValid then
    { rt with
      activeRequest := some (rt.restoredRequest st)
      authoritativeRequestGeneration := st.requestGeneration }
  else
    rt

section Restored
variable (rt : PreemptionRuntime) (st : PersistentState)

@[simp] theorem restored_machine : (rt.restored st).machine = ⟨st.lifecycle⟩ := by
  simp only [restored]; split <;> rfl

@[simp] theorem restored_executionId : (rt.restored st).executionId = st.executionId := by
  simp only [restored]; split <;> rfl

@[simp] theorem restored_attemptId : (rt.restored st).attemptId = st.attemptId := by
  simp only [restored]; split <;> rfl

@[simp] theorem restored_executionGeneration : (rt.restored st).executionGeneration = st.executionGeneration := by
  simp only [restored]; split <;> rfl

@[simp] theorem restored_attemptGeneration : (rt.restored st).attemptGeneration = st.attemptGeneration := by
  simp only [restored]; split <;> rfl

@[simp] theorem restored_workerBoot : (rt.restored st).workerBoot = st.workerBootId := by
  simp only [restored]; split <;> rfl

@[simp] theorem restored_quiesced : (rt.restored st).quiesced = st.quiesced := by
  simp only [restored]; split <;> rfl

@[simp] theorem restored_stateDurable : (rt.restored st).stateDurable = st.stateDurable := by
  simp only [restored]; split <;> rfl

@[simp] theorem restored_checkpointRef : (rt.restored st).checkpointRef = st.checkpointRef := by
  simp only [restored]; split <;> rfl

@[simp] theorem restored_checkpointGeneration : (rt.restored st).checkpointGeneration = st.checkpointGeneration := by
  simp only [restored]; split <;> rfl

@[simp] theorem restored_progressGeneration : (rt.restored st).progressGeneration = rt.progressGeneration := by
  simp only [restored]; split <;> rfl

@[simp] theorem restored_resourcesReleased : (rt.restored st).resourcesReleased = st.resourcesReleased := by
  simp only [restored]; split <;> rfl

@[simp] theorem restored_currentSafePoint : (rt.restored st).currentSafePoint = rt.currentSafePoint := by
  simp only [restored]; split <;> rfl

@[simp] theorem restored_currentPosition : (rt.restored st).currentPosition = st.durableProgress := by
  simp only [restored]; split <;> rfl

theorem restored_policyGeneration : (rt.restored st).policyGeneration = rt.policyGeneration := by
  simp only [restored]; split <;> rfl

theorem restored_priorityGeneration : (rt.restored st).priorityGeneration = rt.priorityGeneration := by
  simp only [restored]; split <;> rfl

theorem restored_authoritativeRequestGeneration :
    (rt.restored st).authoritativeRequestGeneration =
      if st.requestId.isValid then st.requestGeneration else rt.authoritativeRequestGeneration := by
  simp only [restored]; split <;> rfl

theorem restored_activeRequest :
    (rt.restored st).activeRequest =
      if st.requestId.isValid then some (rt.restoredRequest st) else rt.activeRequest := by
  simp only [restored]; split <;> rfl

end Restored

end PreemptionRuntime

/-- The system after `restore(const PersistentState&)`: the image is installed and its attempt is made
    authoritative for its worker boot. -/
def System.restored (s : System) (st : PersistentState) : System where
  rt := s.rt.restored st
  ad := s.ad.setAuthoritative st.executionId st.attemptId st.executionGeneration st.attemptGeneration s.rt.epoch
    st.workerBootId

theorem System.restored_lifecycle (s : System) (st : PersistentState) : (s.restored st).lifecycle = st.lifecycle := by
  simp [System.restored, System.lifecycle]

open PreemptionFabric.Action

def restoreState (st : PersistentState) : Action Unit := do
  setRuntime fun rt => rt.restored st
  let rt ← getRuntime
  setAdapters ((← getAdapters).setAuthoritative rt.executionId rt.attemptId rt.executionGeneration
    rt.attemptGeneration rt.epoch rt.workerBoot)

def System.persistBytes (s : System) : List UInt8 := encode s.rt.snapshot

def restoreBytes (bytes : List UInt8) : Action Bool := do
  match decode bytes with
  | .error _ => return false
  | .ok st =>
    restoreState st
    return true

/-- `load`; the file's bytes, or `none` when it cannot be opened. -/
def load (file : Option (List UInt8)) : Action Bool := do
  match file with
  | none => return false
  | some bytes => restoreBytes bytes

end PreemptionFabric
