import PreemptionFabric.Lib.Observation
import PreemptionFabric.Theorems.Endings
import PreemptionFabric.Theorems.Fence

/-! What of the past a runtime shows. `Alike` relates the runtimes that no run of operations tells apart: they differ
    only in what no operation reads. A start and a recovery keep fields of the runtime before them, and each of them
    can be told from its initial value by some operation. -/

namespace PreemptionFabric
open Observation PreemptionFabric.Action

/-- What later operations read of an active request. -/
def PreemptionRequest.key (req : PreemptionRequest) : PreemptionRequestId × PreemptionRequestGeneration :=
  (req.id, req.generation)

/-- The runtime with another request, progress generation and `resumed_`. -/
def PreemptionRuntime.recast (rt : PreemptionRuntime) (active : Option PreemptionRequest) (progress : ProgressGeneration)
    (resumed : Bool) : PreemptionRuntime :=
  { rt with activeRequest := active, progressGeneration := progress, resumed := resumed }

/-- The runtimes agree on all that an operation reads: of the active request its id and generation, of the progress
    generation its successor. `resumed_` is read by none. -/
inductive RuntimeAlike (rt : PreemptionRuntime) : PreemptionRuntime → Prop
  | recast (active : Option PreemptionRequest) (progress : ProgressGeneration) (resumed : Bool)
      (request : active.map PreemptionRequest.key = rt.activeRequest.map PreemptionRequest.key)
      (next : progress.next = rt.progressGeneration.next) :
      RuntimeAlike rt (rt.recast active progress resumed)

structure Alike (s t : System) : Prop where
  rt : RuntimeAlike s.rt t.rt
  ad : t.ad = s.ad

/-! ### The primitives -/

section
variable {α : Type}

theorem getRuntime_bind {f g : PreemptionRuntime → Action α}
    (h : ∀ rt rt', RuntimeAlike rt rt' → Respects Alike (f rt) (g rt')) :
    Respects Alike (getRuntime >>= f) (getRuntime >>= g) :=
  fun s t alike => h s.rt t.rt alike.rt s t alike

theorem getAdapters_respects : Respects Alike getAdapters getAdapters := by
  intro s t alike
  exact ⟨congrArg Except.ok alike.ad.symm, alike⟩

theorem lifecycle_respects : Respects Alike lifecycle lifecycle := by
  rintro s ⟨rt, ad⟩ ⟨⟨active, progress, resumed, request, next⟩, same⟩
  exact ⟨rfl, .recast active progress resumed request next, same⟩

theorem setAdapters_respects (ad : ReferenceAdapters) : Respects Alike (setAdapters ad) (setAdapters ad) :=
  fun _ _ alike => ⟨rfl, alike.rt, rfl⟩

theorem setRuntime_respects {f g : PreemptionRuntime → PreemptionRuntime}
    (h : ∀ rt rt', RuntimeAlike rt rt' → RuntimeAlike (f rt) (g rt')) : Respects Alike (setRuntime f) (setRuntime g) :=
  fun s t alike => ⟨rfl, h s.rt t.rt alike.rt, alike.ad⟩

/-- An update that neither reads nor writes what the relation leaves open. -/
theorem setRuntime_apart {f : PreemptionRuntime → PreemptionRuntime}
    (apart : ∀ rt active progress resumed, f (rt.recast active progress resumed) = (f rt).recast active progress resumed)
    (request : ∀ rt, (f rt).activeRequest = rt.activeRequest)
    (progress : ∀ rt, (f rt).progressGeneration = rt.progressGeneration) :
    Respects Alike (setRuntime f) (setRuntime f) := by
  refine setRuntime_respects ?_
  rintro rt _ ⟨active, generation, resumed, same, next⟩
  rw [apart]
  refine .recast active generation resumed ?_ ?_
  · rw [request]
    exact same
  · rw [progress]
    exact next

theorem reset_respects (l : LifecycleState) : Respects Alike (reset l) (reset l) :=
  setRuntime_apart (fun _ _ _ _ => rfl) (fun _ => rfl) fun _ => rfl

theorem transition_respects (l : LifecycleState) : Respects Alike (transition l) (transition l) := by
  rintro s ⟨_, ad⟩ ⟨⟨active, progress, resumed, request, next⟩, same⟩
  simp only [transition]
  cases s.rt.machine.transition l with
  | error e => exact ⟨rfl, .recast active progress resumed request next, same⟩
  | ok machine => exact ⟨rfl, .recast active progress resumed request next, same⟩

theorem finish_respects (outcome : PreemptionOutcome) (evidence : List ExplainEntry) :
    Respects Alike (finish outcome evidence) (finish outcome evidence) :=
  .bind lifecycle_respects fun _ => .pure _

end

/-! ### The operations -/

theorem beginQuiesce_respects : Respects Alike beginQuiesce beginQuiesce := by
  unfold beginQuiesce
  refine .bind lifecycle_respects fun l => ?_
  refine .ite (.bind (transition_respects _) fun _ => finish_respects _ _) ?_
  refine .ite ?_ ?_
  · refine getRuntime_bind ?_
    rintro rt _ ⟨active, progress, resumed, request, next⟩
    exact .ite (.bind (transition_respects _) fun _ => finish_respects _ _)
      (.bind (transition_respects _) fun _ => finish_respects _ _)
  · exact .ite (finish_respects _ _) (.ite (finish_respects _ _) (finish_respects _ _))

theorem reportQuiesced_respects (report : QuiescenceReport) :
    Respects Alike (reportQuiesced report) (reportQuiesced report) := by
  unfold reportQuiesced
  refine .bind lifecycle_respects fun l => getRuntime_bind ?_
  rintro rt _ ⟨active, progress, resumed, request, next⟩
  refine .ite (.pure _) (.ite (.pure _) (.bind getAdapters_respects fun ad => .ite (.pure _) ?_))
  refine .bind (transition_respects _) fun _ => .bind ?_ fun _ => finish_respects _ _
  exact setRuntime_apart (fun _ _ _ _ => rfl) (fun _ => rfl) fun _ => rfl

theorem requestStateCapture_respects : Respects Alike requestStateCapture requestStateCapture := by
  unfold requestStateCapture
  refine .bind lifecycle_respects fun l => .ite (.pure _) (getRuntime_bind ?_)
  rintro rt _ ⟨active, progress, resumed, request, next⟩
  refine .ite ?_ ?_
  · refine .bind (transition_respects _) fun _ => .bind ?_ fun _ => finish_respects _ _
    exact setRuntime_apart (fun _ _ _ _ => rfl) (fun _ => rfl) fun _ => rfl
  · refine .bind (transition_respects _) fun _ => .bind (transition_respects _) fun _ => ?_
    exact .bind getAdapters_respects fun ad => .bind (setAdapters_respects _) fun _ => finish_respects _ _

theorem reportStateCaptured_respects (result : CaptureResult) :
    Respects Alike (reportStateCaptured result) (reportStateCaptured result) := by
  unfold reportStateCaptured
  refine .bind lifecycle_respects fun l => .ite (.pure _) (.ite ?_ (.bind getAdapters_respects fun ad => .ite ?_ ?_))
  · exact .bind (transition_respects _) fun _ => finish_respects _ _
  · exact .bind (transition_respects _) fun _ => finish_respects _ _
  · refine .bind (transition_respects _) fun _ => .bind ?_ fun _ => finish_respects _ _
    exact setRuntime_apart (fun _ _ _ _ => rfl) (fun _ => rfl) fun _ => rfl

theorem requestRelease_respects : Respects Alike requestRelease requestRelease := by
  unfold requestRelease
  refine .bind lifecycle_respects fun l => getRuntime_bind ?_
  rintro rt _ ⟨active, progress, resumed, request, next⟩
  refine .ite (.pure _) (.ite (.pure _) (.ite (.bind (transition_respects _) fun _ => ?_) ?_))
  -- The release follows, with or without the transition before it.
  all_goals
    refine .bind (transition_respects _) fun _ => .bind getAdapters_respects fun ad => ?_
    exact .bind (setAdapters_respects _) fun _ => finish_respects _ _

theorem reportReleased_respects : Respects Alike reportReleased reportReleased := by
  unfold reportReleased
  refine .bind lifecycle_respects fun l => .ite (.pure _) (.bind getAdapters_respects fun ad => getRuntime_bind ?_)
  rintro rt _ ⟨active, progress, resumed, request, next⟩
  refine .ite (finish_respects _ _) ?_
  refine .bind (transition_respects _) fun _ => .bind ?_ fun _ => finish_respects _ _
  exact setRuntime_apart (fun _ _ _ _ => rfl) (fun _ => rfl) fun _ => rfl

theorem commitPreempted_respects : Respects Alike commitPreempted commitPreempted := by
  unfold commitPreempted
  refine .bind lifecycle_respects fun l => getRuntime_bind ?_
  rintro rt _ ⟨active, progress, resumed, request, next⟩
  refine .ite (.pure _) (.ite (.pure _) (.bind (transition_respects _) fun _ => .bind ?_ fun _ => ?_))
  · exact setRuntime_apart (fun _ _ _ _ => rfl) (fun _ => rfl) fun _ => rfl
  · exact .bind getAdapters_respects fun ad => .bind (setAdapters_respects _) fun _ => finish_respects _ _

theorem requestResume_respects : Respects Alike requestResume requestResume := by
  unfold requestResume
  refine getRuntime_bind ?_
  rintro rt _ ⟨active, progress, resumed, request, next⟩
  refine .bind lifecycle_respects fun l => .ite (.pure _) ?_
  refine .bind (transition_respects _) fun _ => .bind ?_ fun _ => getRuntime_bind ?_
  · exact setRuntime_apart (fun _ _ _ _ => rfl) (fun _ => rfl) fun _ => rfl
  · rintro rt _ ⟨active, progress, resumed, request, next⟩
    exact .pure _

theorem revalidate_respects : Respects Alike revalidate revalidate := by
  unfold revalidate
  refine .bind lifecycle_respects fun l => getRuntime_bind ?_
  rintro rt _ ⟨active, progress, resumed, request, next⟩
  refine .bind getAdapters_respects fun ad => .ite (.pure _) ?_
  refine .ite (.bind (transition_respects _) fun _ => ?_) ?_
  -- The checks follow, with or without the transition before them.
  all_goals
    refine .ite (.bind (transition_respects _) fun _ => .pure _) (.ite (finish_respects _ _) ?_)
    exact .bind (transition_respects _) fun _ => finish_respects _ _

theorem restore_respects : Respects Alike PreemptionFabric.restore PreemptionFabric.restore := by
  unfold PreemptionFabric.restore
  refine .bind lifecycle_respects fun l => getRuntime_bind ?_
  rintro rt _ ⟨active, progress, resumed, request, next⟩
  refine .ite (.pure _) (.bind getAdapters_respects fun ad => .ite ?_ ?_)
  · exact .bind (transition_respects _) fun _ => .pure _
  · exact .bind (transition_respects _) fun _ => finish_respects _ _

theorem confirmResumed_respects : Respects Alike confirmResumed confirmResumed := by
  unfold confirmResumed
  refine .bind lifecycle_respects fun l => getRuntime_bind ?_
  rintro rt _ ⟨active, progress, resumed, request, next⟩
  refine .ite (.pure _) (.bind getAdapters_respects fun ad => .bind (setAdapters_respects _) fun _ => .ite (.pure _) ?_)
  have marked : Respects Alike (setRuntime fun rt => { rt with resumed := true })
      (setRuntime fun rt => { rt with resumed := true }) := by
    refine setRuntime_respects ?_
    rintro rt _ ⟨active, progress, resumed, request, next⟩
    exact .recast active progress true request next
  refine .ite (.bind (transition_respects _) fun _ => ?_) ?_
  all_goals exact .bind (transition_respects _) fun _ => .bind marked fun _ => finish_respects _ _

theorem complete_respects : Respects Alike complete complete := by
  unfold complete
  refine getRuntime_bind ?_
  rintro rt _ ⟨active, progress, resumed, request, next⟩
  exact .ite (.pure _) (.ite (reset_respects _) (.pure _))

/-- A cancellation records the id and the generation of the active request, and these are the same. -/
theorem cancel_respects : Respects Alike cancel cancel := by
  unfold cancel
  refine getRuntime_bind ?_
  rintro rt _ ⟨active, progress, resumed, request, next⟩
  refine .ite (.pure _) (.ite (.pure _) (.ite (.bind (reset_respects _) fun _ => ?_) (.pure _)))
  simp only [PreemptionRuntime.recast]
  generalize rt.activeRequest = held at request
  cases active with
  | none =>
    cases held with
    | none => exact .pure _
    | some req => cases request
  | some req' =>
    cases held with
    | none => cases request
    | some req =>
      obtain ⟨id, generation⟩ := Prod.mk.inj (Option.some.inj request)
      simp only [id, generation]
      exact setRuntime_apart (fun _ _ _ _ => rfl) (fun _ => rfl) fun _ => rfl

theorem setPriorityGeneration_respects (g : PriorityGeneration) :
    Respects Alike (setPriorityGeneration g) (setPriorityGeneration g) :=
  setRuntime_apart (fun _ _ _ _ => rfl) (fun _ => rfl) fun _ => rfl

theorem setWorkerIncarnation_respects (worker : WorkerId) (boot : WorkerBootId) :
    Respects Alike (setWorkerIncarnation worker boot) (setWorkerIncarnation worker boot) :=
  setRuntime_apart (fun _ _ _ _ => rfl) (fun _ => rfl) fun _ => rfl

theorem declareSafePoint_respects (sp : SafePoint) : Respects Alike (declareSafePoint sp) (declareSafePoint sp) := by
  unfold declareSafePoint
  exact .bind (setRuntime_apart (fun _ _ _ _ => rfl) (fun _ => rfl) fun _ => rfl) fun _ => .pure _

theorem reachSafePoint_respects (id : SafePointId) (position : UInt64) (captureRequired : Bool) :
    Respects Alike (reachSafePoint id position captureRequired) (reachSafePoint id position captureRequired) := by
  unfold reachSafePoint
  refine getRuntime_bind ?_
  rintro rt _ ⟨active, progress, resumed, request, next⟩
  simp only [PreemptionRuntime.recast]
  cases rt.safePoints[id]? with
  | none => exact .throw _
  | some sp =>
    refine .bind (setRuntime_apart (fun _ _ _ _ => rfl) (fun _ => rfl) fun _ => rfl) fun _ => ?_
    exact .bind lifecycle_respects fun l => .ite (transition_respects _) (.pure _)

theorem startExecution_respects (w : WorkloadId) (wg : WorkloadGeneration) (e : ExecutionId) (eg : ExecutionGeneration)
    (a : AttemptId) (ag : AttemptGeneration) (worker : WorkerId) (boot : WorkerBootId) :
    Respects Alike (startExecution w wg e eg a ag worker boot) (startExecution w wg e eg a ag worker boot) := by
  unfold startExecution
  refine .bind (setRuntime_apart (fun _ _ _ _ => rfl) (fun _ => rfl) fun _ => rfl) fun _ => ?_
  refine .bind (reset_respects _) fun _ => .bind (setRuntime_respects ?_) fun _ => getRuntime_bind ?_
  · rintro rt _ ⟨active, progress, resumed, request, next⟩
    exact .recast none progress resumed rfl next
  · rintro rt _ ⟨active, progress, resumed, request, next⟩
    exact .bind getAdapters_respects fun ad => setAdapters_respects _

theorem RuntimeAlike.requestMatchesCurrent {rt rt' : PreemptionRuntime} (alike : RuntimeAlike rt rt')
    (req : PreemptionRequest) : rt'.requestMatchesCurrent req = rt.requestMatchesCurrent req := by
  have byKey : ∀ rt : PreemptionRuntime,
      rt.requestMatchesCurrent req = decide (rt.activeRequest.map PreemptionRequest.key = some req.key) := by
    intro rt
    rw [PreemptionRuntime.requestMatchesCurrent]
    cases rt.activeRequest with
    | none => rfl
    | some active => simp [PreemptionRequest.key]
  obtain ⟨active, progress, resumed, request, next⟩ := alike
  rw [byKey, byKey]
  exact congrArg (fun key => decide (key = some req.key)) request

theorem requestPreemption_respects (req : PreemptionRequest) :
    Respects Alike (requestPreemption req) (requestPreemption req) := by
  unfold requestPreemption
  refine getRuntime_bind fun rt rt' alike => ?_
  have matches' := alike.requestMatchesCurrent req
  obtain ⟨active, progress, resumed, request, next⟩ := alike
  have held : (rt.recast active progress resumed).activeRequest.isSome = rt.activeRequest.isSome := by
    have same := congrArg Option.isSome request
    simp only [Option.isSome_map] at same
    exact same
  rw [held, matches']
  refine .ite (.pure _) (.ite (.pure _) (.ite (.ite (.pure _) (.pure _)) ?_))
  refine .bind (setRuntime_respects ?_) fun _ => .bind (reset_respects _) fun _ => ?_
  · rintro rt _ ⟨active, progress, resumed, request, next⟩
    exact .recast (some req) progress resumed rfl next
  · exact .bind (transition_respects _) fun _ => .bind (transition_respects _) fun _ => .pure _

theorem restored_recast (rt : PreemptionRuntime) (active : Option PreemptionRequest) (progress : ProgressGeneration)
    (resumed : Bool) (st : PersistentState) :
    (rt.recast active progress resumed).restored st =
      (rt.restored st).recast (if st.requestId.isValid then some (rt.restoredRequest st) else active) progress
        resumed := by
  simp only [PreemptionRuntime.restored]
  split
  · rfl
  · rfl

theorem RuntimeAlike.restored {rt rt' : PreemptionRuntime} (alike : RuntimeAlike rt rt') (st : PersistentState) :
    RuntimeAlike (rt.restored st) (rt'.restored st) := by
  obtain ⟨active, progress, resumed, request, next⟩ := alike
  rw [restored_recast]
  refine .recast _ progress resumed ?_ ?_
  · rw [PreemptionRuntime.restored_activeRequest]
    split
    · rfl
    · exact request
  · rw [PreemptionRuntime.restored_progressGeneration]
    exact next

theorem restoreState_respects (st : PersistentState) : Respects Alike (restoreState st) (restoreState st) := by
  unfold restoreState
  refine .bind (setRuntime_respects fun rt rt' alike => alike.restored st) fun _ => getRuntime_bind ?_
  rintro rt _ ⟨active, progress, resumed, request, next⟩
  exact .bind getAdapters_respects fun ad => setAdapters_respects _

theorem restoreBytes_respects (bytes : List UInt8) : Respects Alike (restoreBytes bytes) (restoreBytes bytes) := by
  unfold restoreBytes
  cases decode bytes with
  | error e => exact .pure _
  | ok st => exact .bind (restoreState_respects st) fun _ => .pure _

theorem load_respects (file : Option (List UInt8)) :
    Respects Alike (PreemptionFabric.load file) (PreemptionFabric.load file) := by
  cases file with
  | none => exact .pure _
  | some bytes => exact restoreBytes_respects bytes

/-! ### Steps -/

section
variable {s t : System}

theorem RuntimeAlike.snapshot {rt rt' : PreemptionRuntime} (alike : RuntimeAlike rt rt') :
    rt'.snapshot = rt.snapshot := by
  obtain ⟨active, progress, resumed, request, next⟩ := alike
  have id : active.map (·.id) = rt.activeRequest.map (·.id) := by
    have first := congrArg (Option.map Prod.fst) request
    rwa [Option.map_map, Option.map_map] at first
  have generation : active.map (·.generation) = rt.activeRequest.map (·.generation) := by
    have second := congrArg (Option.map Prod.snd) request
    rwa [Option.map_map, Option.map_map] at second
  simp only [PreemptionRuntime.snapshot, PreemptionRuntime.recast, id, generation]

theorem Alike.answer (alike : Alike s t) (q : Query) : q.answer s = q.answer t := by
  obtain ⟨rt, ad⟩ := t
  obtain ⟨runtime, same⟩ := alike
  have image := runtime.snapshot
  have adapters : ad = s.ad := same
  subst adapters
  obtain ⟨active, progress, resumed, request, next⟩ := runtime
  cases q with
  | snapshot => exact congrArg Answer.image image.symm
  | persistBytes => exact congrArg (fun st => Answer.bytes (encode st)) image.symm
  | _ => rfl

theorem Alike.as {α : Type} {a : Action α} (alike : Alike s t) (h : Respects Alike a a) (wrap : α → Ret) :
    (a.as wrap s).1 = (a.as wrap t).1 ∧ Alike (a.as wrap s).2 (a.as wrap t).2 := by
  obtain ⟨same, kept⟩ := h s t alike
  exact ⟨congrArg (Except.map wrap) same, kept⟩

theorem Alike.accepts_progress (alike : Alike s t) (position : UInt64) :
    t.holdsAuthority = true ∧ t.rt.durablePosition ≤ position ↔
      s.holdsAuthority = true ∧ s.rt.durablePosition ≤ position := by
  obtain ⟨rt, ad⟩ := t
  obtain ⟨⟨active, progress, resumed, request, next⟩, same⟩ := alike
  cases same
  exact Iff.rfl

/-- A publication takes the successor of the progress generation, which is the same. -/
theorem Alike.published (alike : Alike s t) (position : UInt64) (kind : ProgressKind) :
    Alike (s.published position kind) (t.published position kind) := by
  obtain ⟨rt, ad⟩ := t
  obtain ⟨⟨active, progress, resumed, request, next⟩, same⟩ := alike
  refine ⟨?_, same⟩
  simp only [System.published, next]
  exact .recast active _ resumed request rfl

theorem publishProgress_alike (alike : Alike s t) (position : UInt64) (kind : ProgressKind) :
    (step s (.publishProgress position kind)).1 = (step t (.publishProgress position kind)).1 ∧
      Alike (step s (.publishProgress position kind)).2 (step t (.publishProgress position kind)).2 := by
  simp only [publishProgress_step, alike.accepts_progress position]
  split_ifs with accepted
  · exact ⟨rfl, alike.published position kind⟩
  · exact ⟨rfl, alike⟩

theorem step_alike (alike : Alike s t) (op : Op) :
    (step s op).1 = (step t op).1 ∧ Alike (step s op).2 (step t op).2 := by
  cases op with
  | startExecution w wg e eg a ag worker boot =>
    exact alike.as (startExecution_respects w wg e eg a ag worker boot) _
  | declareSafePoint sp => exact alike.as (declareSafePoint_respects sp) _
  | reachSafePoint id position captureRequired => exact alike.as (reachSafePoint_respects id position captureRequired) _
  | publishProgress position kind => exact publishProgress_alike alike position kind
  | requestPreemption req => exact alike.as (requestPreemption_respects req) _
  | beginQuiesce => exact alike.as beginQuiesce_respects _
  | reportQuiesced report => exact alike.as (reportQuiesced_respects report) _
  | requestStateCapture => exact alike.as requestStateCapture_respects _
  | reportStateCaptured result => exact alike.as (reportStateCaptured_respects result) _
  | requestRelease => exact alike.as requestRelease_respects _
  | reportReleased => exact alike.as reportReleased_respects _
  | commitPreempted => exact alike.as commitPreempted_respects _
  | requestResume => exact alike.as requestResume_respects _
  | revalidate => exact alike.as revalidate_respects _
  | restore => exact alike.as restore_respects _
  | confirmResumed => exact alike.as confirmResumed_respects _
  | cancel => exact alike.as cancel_respects _
  | complete => exact alike.as complete_respects _
  | setPriorityGeneration g => exact alike.as (setPriorityGeneration_respects g) _
  | setWorkerIncarnation worker boot => exact alike.as (setWorkerIncarnation_respects worker boot) _
  | restoreState st => exact alike.as (restoreState_respects st) _
  | restoreBytes bytes => exact alike.as (restoreBytes_respects bytes) _
  | load file => exact alike.as (load_respects file) _
  | query q => exact ⟨congrArg (fun a => Except.ok (Ret.answer a)) (alike.answer q), alike⟩
  | adapter o => exact ⟨rfl, alike.rt, congrArg o.apply alike.ad⟩

end

/-! ### What the operations tell apart -/

def Op.isAdapter : Op → Bool
  | .adapter _ => true
  | _ => false

/-- A request that has authority is accepted exactly when none is active. -/
theorem authorizedRequest_accepted_iff (s : System) :
    Op.Succeeded (.requestPreemption s.rt.authorizedRequest) (step s (.requestPreemption s.rt.authorizedRequest)).1 ↔
      s.rt.activeRequest = none := by
  cases held : s.rt.activeRequest with
  | none =>
    rw [requestPreemption_first rfl rfl (authorizedRequest_auth s.rt) held]
    simp [Op.Succeeded]
  | some active =>
    rw [requestPreemption_step held]
    constructor
    · rintro ⟨admission, returned, accepted⟩
      cases returned
      exact absurd accepted (duplicateAdmission_refused _ _ _)
    · intro idle
      cases idle

/-- Every sequence of public operations returns the same results on both systems; with `direct`, the operations are
    interleaved with calls on the adapters. -/
def SameResults (direct : Bool) (s t : System) : Prop :=
  Indistinguishable step (fun op => op.isAdapter = true → direct = true) s t

theorem Alike.sameResults {s t : System} (alike : Alike s t) (direct : Bool) : SameResults direct s t :=
  indistinguishable_of_bisimulation (fun alike _ => step_alike alike _) alike

namespace SameResults
variable {direct : Bool} {s t : System}

theorem returned (h : SameResults direct s t) (op : Op) (runtime : op.isAdapter = false) :
    (step s op).1 = (step t op).1 := by
  refine Indistinguishable.output h fun call => ?_
  rw [runtime] at call
  cases call

theorem left (h : SameResults direct s t) (op : Op) (runtime : op.isAdapter = false) :
    SameResults direct (step s op).2 (step t op).2 := by
  refine Indistinguishable.next h fun call => ?_
  rw [runtime] at call
  cases call

theorem answer (h : SameResults direct s t) (q : Query) : q.answer s = q.answer t :=
  Ret.answer.inj (Except.ok.inj (h.returned (.query q) rfl))

theorem snapshot (h : SameResults direct s t) : s.rt.snapshot = t.rt.snapshot := Answer.image.inj (h.answer .snapshot)

theorem authoritativeRequestGeneration (h : SameResults direct s t) :
    s.rt.authoritativeRequestGeneration = t.rt.authoritativeRequestGeneration :=
  eq_of_heq (Answer.generation.inj (h.answer .authoritativeRequestGeneration)).2

/-- A durable publication shows the successor of the progress generation. -/
theorem progress (h : SameResults direct s t) (held : s.holdsAuthority = true) (held' : t.holdsAuthority = true) :
    t.rt.progressGeneration.next = s.rt.progressGeneration.next := by
  have durable : s.rt.durablePosition = t.rt.durablePosition := congrArg (·.durableProgress) h.snapshot
  have published := h.left (.publishProgress s.rt.durablePosition .durable) rfl
  rw [publishProgress_step, publishProgress_step, if_pos ⟨held, UInt64.le_refl _⟩,
    if_pos ⟨held', UInt64.le_of_eq durable.symm⟩] at published
  exact (congrArg (·.progressGeneration) published.snapshot).symm

/-- A request that has authority shows whether one is active, and the snapshot shows which. -/
theorem request (h : SameResults direct s t) :
    t.rt.activeRequest.map PreemptionRequest.key = s.rt.activeRequest.map PreemptionRequest.key := by
  have image := h.snapshot
  have same : s.rt.authorizedRequest = t.rt.authorizedRequest := by
    have epoch : s.rt.epoch = t.rt.epoch := congrArg (·.coordinatorEpoch) image
    have execution : s.rt.executionId = t.rt.executionId := congrArg (·.executionId) image
    have executionGeneration : s.rt.executionGeneration = t.rt.executionGeneration :=
      congrArg (·.executionGeneration) image
    have attempt : s.rt.attemptId = t.rt.attemptId := congrArg (·.attemptId) image
    have attemptGeneration : s.rt.attemptGeneration = t.rt.attemptGeneration := congrArg (·.attemptGeneration) image
    simp only [PreemptionRuntime.authorizedRequest, epoch, execution, executionGeneration, attempt, attemptGeneration]
  have returned := h.returned (.requestPreemption s.rt.authorizedRequest) rfl
  have shown := authorizedRequest_accepted_iff s
  rw [returned, same, authorizedRequest_accepted_iff t] at shown
  have id : (s.rt.activeRequest.map (·.id)).getD {} = (t.rt.activeRequest.map (·.id)).getD {} :=
    congrArg (·.requestId) image
  have generation : (s.rt.activeRequest.map (·.generation)).getD {} = (t.rt.activeRequest.map (·.generation)).getD {} :=
    congrArg (·.requestGeneration) image
  generalize s.rt.activeRequest = held at shown id generation ⊢
  generalize t.rt.activeRequest = held' at shown id generation ⊢
  cases held with
  | none => rw [shown.mpr rfl]
  | some req =>
    cases held' with
    | none => cases shown.mp rfl
    | some req' => exact congrArg some (Prod.ext id.symm generation.symm)

end SameResults

/-! ### A new execution -/

/-- A newly constructed runtime over the same adapters, with the epoch and the policy and priority generations of the
    old one. The history is left aside: it is the same. -/
def System.renewed (s : System) : System where
  rt := {
    epoch := s.rt.epoch
    policyGeneration := s.rt.policyGeneration
    priorityGeneration := s.rt.priorityGeneration
    history := s.rt.history }
  ad := s.ad

/-- What a start does not set has its initial value. -/
structure Pristine (rt : PreemptionRuntime) : Prop where
  fencedWorkerBoot : rt.fencedWorkerBoot = {}
  authoritativeRequestGeneration : rt.authoritativeRequestGeneration = {}
  safePoints : rt.safePoints = ∅
  currentSafePoint : rt.currentSafePoint = none
  currentPosition : rt.currentPosition = 0
  durablePosition : rt.durablePosition = 0
  progressGeneration : rt.progressGeneration = {}
  durableProgressGeneration : rt.durableProgressGeneration = {}
  quiesced : rt.quiesced = false
  quiescenceGeneration : rt.quiescenceGeneration = {}
  stateDurable : rt.stateDurable = false
  stateCaptureGeneration : rt.stateCaptureGeneration = {}
  checkpointRef : rt.checkpointRef = {}
  checkpointGeneration : rt.checkpointGeneration = {}
  resourcesReleased : rt.resourcesReleased = false
  releaseGeneration : rt.releaseGeneration = {}
  resumeGeneration : rt.resumeGeneration = {}

section
variable {s : System} {w : WorkloadId} {wg : WorkloadGeneration} {e : ExecutionId} {eg : ExecutionGeneration}
  {a : AttemptId} {ag : AttemptGeneration} {worker : WorkerId} {boot : WorkerBootId}

theorem startExecution_step (s : System) :
    step s (.startExecution w wg e eg a ag worker boot) = (.ok .unit, s.started w wg e eg a ag worker boot) := rfl

theorem started_holdsAuthority : (s.started w wg e eg a ag worker boot).holdsAuthority = true := by
  simp [System.holdsAuthority, System.started, ReferenceAdapters.currentAttemptAuthority,
    ReferenceAdapters.setAuthoritative]

theorem Pristine.alike (pristine : Pristine s.rt) :
    Alike (s.started w wg e eg a ag worker boot) (s.renewed.started w wg e eg a ag worker boot) := by
  have recast : (s.renewed.started w wg e eg a ag worker boot).rt =
      (s.started w wg e eg a ag worker boot).rt.recast none {} false := by
    simp only [System.started, System.renewed, PreemptionRuntime.recast, pristine.fencedWorkerBoot,
      pristine.authoritativeRequestGeneration, pristine.safePoints, pristine.currentSafePoint, pristine.currentPosition,
      pristine.durablePosition, pristine.durableProgressGeneration, pristine.quiesced,
      pristine.quiescenceGeneration, pristine.stateDurable, pristine.stateCaptureGeneration, pristine.checkpointRef,
      pristine.checkpointGeneration, pristine.resourcesReleased, pristine.releaseGeneration, pristine.resumeGeneration]
  refine ⟨?_, rfl⟩
  rw [recast]
  refine .recast none {} false rfl ?_
  show Generation.next {} = s.rt.progressGeneration.next
  rw [pristine.progressGeneration]

/-- Each field that a start keeps is shown by an operation. -/
theorem pristine_of_sameResults {direct : Bool}
    (h : SameResults direct (s.started w wg e eg a ag worker boot) (s.renewed.started w wg e eg a ag worker boot)) :
    Pristine s.rt := by
  have image := h.snapshot
  have next := h.progress started_holdsAuthority started_holdsAuthority
  exact {
    fencedWorkerBoot := congrArg (·.fencedWorkerBoot) image
    authoritativeRequestGeneration := h.authoritativeRequestGeneration
    safePoints := by
      have count : s.rt.safePoints.size = 0 := Answer.count.inj (h.answer .safePointCount)
      exact Std.ExtTreeMap.eq_empty_iff_size_eq_zero.mpr count
    currentSafePoint := Answer.safePoint.inj (h.answer .currentSafePoint)
    currentPosition := Answer.position.inj (h.answer .currentPosition)
    durablePosition := congrArg (·.durableProgress) image
    progressGeneration := Generation.eq_default_of_next next.symm
    durableProgressGeneration := congrArg (·.progressGeneration) image
    quiesced := congrArg (·.quiesced) image
    quiescenceGeneration := congrArg (·.quiescenceGeneration) image
    stateDurable := congrArg (·.stateDurable) image
    stateCaptureGeneration := congrArg (·.stateCaptureGeneration) image
    checkpointRef := congrArg (·.checkpointRef) image
    checkpointGeneration := congrArg (·.checkpointGeneration) image
    resourcesReleased := congrArg (·.resourcesReleased) image
    releaseGeneration := congrArg (·.releaseGeneration) image
    resumeGeneration := congrArg (·.resumeGeneration) image }

end

/-- Whatever starts next, the runtime after the start is told apart from a new one exactly when something of an earlier
    execution is left in it. -/
theorem started_isolated_iff (direct : Bool) (s : System) (w : WorkloadId) (wg : WorkloadGeneration) (e : ExecutionId)
    (eg : ExecutionGeneration) (a : AttemptId) (ag : AttemptGeneration) (worker : WorkerId) (boot : WorkerBootId) :
    SameResults direct (step s (.startExecution w wg e eg a ag worker boot)).2
        (step s.renewed (.startExecution w wg e eg a ag worker boot)).2 ↔
      Pristine s.rt := by
  rw [startExecution_step, startExecution_step]
  exact ⟨pristine_of_sameResults, fun pristine => pristine.alike.sameResults direct⟩

def boundarySystem : System :=
  run (.construct ⟨1⟩ ⟨1⟩ quietAdapters)
    [.startExecution ⟨1⟩ ⟨1⟩ ⟨2⟩ ⟨1⟩ ⟨3⟩ ⟨1⟩ ⟨4⟩ ⟨5⟩, .declareSafePoint { id := ⟨7⟩ }, .reachSafePoint ⟨7⟩ 10 false]

/-- Execution 12 is started on a runtime where execution 2 stands at a safe point. Its first preemption quiesces at
    this safe point at once, where a new runtime waits for one. -/
theorem earlier_boundary_inherited :
    let start : Op := .startExecution ⟨1⟩ ⟨1⟩ ⟨12⟩ ⟨1⟩ ⟨13⟩ ⟨1⟩ ⟨4⟩ ⟨5⟩
    let later : List Op :=
      [.requestPreemption { requestOf ⟨8⟩ with executionId := ⟨12⟩, attemptId := ⟨13⟩ }, .beginQuiesce]
    Reachable boundarySystem ∧ boundarySystem.rt.executionId = ⟨2⟩ ∧
      ¬SameResults false (step boundarySystem start).2 (step boundarySystem.renewed start).2 ∧
      (run (step boundarySystem start).2 later).lifecycle = .quiescing ∧
      (run (step boundarySystem.renewed start).2 later).lifecycle = .waitingForSafePoint := by
  refine ⟨⟨_, _, _, _, rfl⟩, by decide +kernel, fun same => ?_, by decide +kernel, by decide +kernel⟩
  rw [startExecution_step, startExecution_step] at same
  exact absurd (pristine_of_sameResults same).currentPosition (by decide +kernel)

/-! ### A loaded image -/

/-- The runtimes agree on what the image does not set: the current safe point, the next progress generation and,
    where the image names no request, the request. -/
structure AgreesOutside (st : PersistentState) (rt rt' : PreemptionRuntime) : Prop where
  currentSafePoint : rt'.currentSafePoint = rt.currentSafePoint
  progress : rt'.progressGeneration.next = rt.progressGeneration.next
  request : st.requestId.isValid = false →
    rt'.activeRequest.map PreemptionRequest.key = rt.activeRequest.map PreemptionRequest.key
  requestGeneration : st.requestId.isValid = false →
    rt'.authoritativeRequestGeneration = rt.authoritativeRequestGeneration

section
variable {st : PersistentState} {s t : System}

theorem AgreesOutside.alike (agrees : AgreesOutside st s.rt t.rt) (epoch : t.rt.epoch = s.rt.epoch)
    (policy : t.rt.policyGeneration = s.rt.policyGeneration)
    (priority : t.rt.priorityGeneration = s.rt.priorityGeneration) (adapters : t.ad = s.ad) :
    Alike (s.restored st) (t.restored st) := by
  have recast : t.rt.restored st =
      (s.rt.restored st).recast (t.rt.restored st).activeRequest t.rt.progressGeneration t.rt.resumed := by
    cases named : st.requestId.isValid with
    | false =>
      simp only [PreemptionRuntime.restored, PreemptionRuntime.recast, named, epoch, policy, priority,
        agrees.currentSafePoint, agrees.requestGeneration named, Bool.false_eq_true, if_false]
      rfl
    | true =>
      simp only [PreemptionRuntime.restored, PreemptionRuntime.recast, named, epoch, policy, priority,
        agrees.currentSafePoint, if_true]
      rfl
  constructor
  · show RuntimeAlike (s.rt.restored st) (t.rt.restored st)
    rw [recast]
    refine .recast _ _ _ ?_ ?_
    · rw [PreemptionRuntime.restored_activeRequest, PreemptionRuntime.restored_activeRequest]
      split
      next => simp [PreemptionRequest.key, PreemptionRuntime.restoredRequest]
      next unnamed => exact agrees.request (Bool.eq_false_iff.mpr unnamed)
    · rw [PreemptionRuntime.restored_progressGeneration]
      exact agrees.progress
  · simp only [System.restored, adapters, epoch]

/-- Each field that an image does not set is shown by an operation. -/
theorem agreesOutside_of_sameResults {direct : Bool} (h : SameResults direct (s.restored st) (t.restored st)) :
    AgreesOutside st s.rt t.rt := by
  have safePoint := Answer.safePoint.inj (h.answer .currentSafePoint)
  have progress := h.progress (restored_holdsAuthority s st) (restored_holdsAuthority t st)
  have request := h.request
  have generation := h.authoritativeRequestGeneration
  simp only [System.restored, PreemptionRuntime.restored_currentSafePoint, PreemptionRuntime.restored_progressGeneration,
    PreemptionRuntime.restored_activeRequest, PreemptionRuntime.restored_authoritativeRequestGeneration]
    at safePoint progress request generation
  refine ⟨safePoint.symm, progress, fun unnamed => ?_, fun unnamed => ?_⟩
  · simpa [unnamed] using request
  · simpa [unnamed] using generation.symm

end

/-- Two runtimes into which the same image is loaded are told apart exactly when they differed in what the image does
    not set. -/
theorem loaded_determined_iff (direct : Bool) (bytes : List UInt8) (st : PersistentState)
    (accepted : decode bytes = .ok st) (s t : System) (epoch : t.rt.epoch = s.rt.epoch)
    (policy : t.rt.policyGeneration = s.rt.policyGeneration)
    (priority : t.rt.priorityGeneration = s.rt.priorityGeneration) (adapters : t.ad = s.ad) :
    SameResults direct (step s (.restoreBytes bytes)).2 (step t (.restoreBytes bytes)).2 ↔
      AgreesOutside st s.rt t.rt := by
  rw [restoreBytes_step accepted, restoreBytes_step accepted]
  constructor
  · exact agreesOutside_of_sameResults
  · intro agrees
    exact (agrees.alike epoch policy priority adapters).sameResults direct

/-- What was requested before does not matter for an image that names its request. -/
theorem loaded_determined_named :
    let t := run (.construct ⟨1⟩ ⟨1⟩ quietAdapters)
      [.startExecution ⟨1⟩ ⟨1⟩ ⟨2⟩ ⟨1⟩ ⟨3⟩ ⟨1⟩ ⟨4⟩ ⟨5⟩, .requestPreemption (requestOf ⟨8⟩)]
    SameResults true (step (.construct ⟨1⟩ ⟨1⟩ t.ad) (.restoreBytes (encode (imageAt .preempted)))).2
      (step t (.restoreBytes (encode (imageAt .preempted)))).2 := by
  intro t
  have determined := loaded_determined_iff true _ _ (decode_imageAt .preempted) (.construct ⟨1⟩ ⟨1⟩ t.ad) t
    (by decide +kernel) (by decide +kernel) (by decide +kernel) rfl
  exact determined.mpr ⟨by decide +kernel, by decide +kernel, nofun, nofun⟩

/-- A runtime that stood at a safe point still stands there after the load, where a new one stands nowhere. -/
theorem earlier_boundary_survives :
    let fresh := System.construct ⟨1⟩ ⟨1⟩ boundarySystem.ad
    Reachable fresh ∧ Reachable boundarySystem ∧ decode (encode (imageAt .preempted)) = .ok (imageAt .preempted) ∧
      boundarySystem.rt.epoch = fresh.rt.epoch ∧ boundarySystem.rt.policyGeneration = fresh.rt.policyGeneration ∧
      boundarySystem.rt.priorityGeneration = fresh.rt.priorityGeneration ∧ boundarySystem.ad = fresh.ad ∧
      ¬SameResults false (step fresh (.restoreBytes (encode (imageAt .preempted)))).2
        (step boundarySystem (.restoreBytes (encode (imageAt .preempted)))).2 := by
  intro fresh
  refine ⟨⟨_, _, _, [], rfl⟩, ⟨_, _, _, _, rfl⟩, decode_imageAt .preempted, by decide +kernel, by decide +kernel,
    by decide +kernel, rfl, fun same => ?_⟩
  rw [restoreBytes_step (decode_imageAt .preempted), restoreBytes_step (decode_imageAt .preempted)] at same
  exact absurd (agreesOutside_of_sameResults same).currentSafePoint (by decide +kernel)

end PreemptionFabric
