import PreemptionFabric.Theorems.Requests
import PreemptionFabric.Theorems.Resume

/-! The attempt in force, which the runtime and the adapters both name. A start and a recovery write its generations
    on both sides. A confirmed resume grants a newer attempt generation that the runtime never takes over: from then
    on a request for the attempt in force is stale, and one for the superseded attempt is not. -/

namespace PreemptionFabric
open PreemptionFabric.Action

/-- The authority that the adapters report for the attempt of the runtime. -/
def System.attemptAuthority (s : System) : AttemptAuthorityView :=
  s.ad.currentAttemptAuthority s.rt.executionId s.rt.attemptId

/-- The request is for the attempt of the runtime under its epoch, from a worker of its boot or of none, and carries
    the execution generation in force. What remains to be compared is its attempt generation. -/
structure System.Addressed (s : System) (req : PreemptionRequest) : Prop where
  id : req.id.isValid = true
  generation : req.generation.isValid = true
  epoch : req.coordinatorEpoch = s.rt.epoch
  execution : req.executionId = s.rt.executionId
  attempt : req.attemptId = s.rt.attemptId
  executionGeneration : req.executionGeneration = s.attemptAuthority.executionGeneration
  boot : req.workerBootId.isValid = true → req.workerBootId = s.rt.workerBoot

def Returned.RejectedStale (r : Returned) : Prop := ∃ a, r = .ok (.admission a) ∧ a.code = .rejectedStale

/-- Where the adapters report the attempt authoritative, its generations are those of the runtime, and a request is
    stale exactly if it carries another attempt generation. -/
structure AgreesOnAttempt (s : System) : Prop where
  execution : s.attemptAuthority.authoritative = true →
    s.attemptAuthority.executionGeneration = s.rt.executionGeneration
  attempt : s.attemptAuthority.authoritative = true → s.attemptAuthority.attemptGeneration = s.rt.attemptGeneration
  admission : s.attemptAuthority.authoritative = true → ∀ req, s.Addressed req →
    ((step s (.requestPreemption req)).1.RejectedStale ↔
      req.attemptGeneration ≠ s.attemptAuthority.attemptGeneration)

/-- A resume is confirmed only when the attempt generation of the runtime cannot be followed by a newer one. -/
def GrantsNothingNewer (e : Event) : Prop :=
  e.input = .confirmResumed → e.pre.lifecycle = .resumeReady ∨ e.pre.lifecycle = .resuming →
    e.pre.rt.attemptGeneration.value = maxValue

/-- Nobody but the runtime changes the authority. -/
def AuthorityUntouched (e : Event) : Prop := ∀ o, e.input = .adapter o → o.changesAuthority = false

section
variable {s u t : System} {op : Op} {r : Returned} {req : PreemptionRequest}

/-! ### Admission -/

/-- A valid request is stale exactly if it fails the check of its authority. -/
theorem requestPreemption_rejectedStale_iff (id : req.id.isValid = true) (generation : req.generation.isValid = true) :
    (step s (.requestPreemption req)).1.RejectedStale ↔ s.rt.validateAuthority req = false := by
  cases auth : s.rt.validateAuthority req with
  | false =>
    simp [step, as_eq, requestPreemption, id, generation, auth, Returned.RejectedStale]
  | true =>
    cases held : s.rt.activeRequest with
    | none => simp [requestPreemption_first id generation auth held, Returned.RejectedStale]
    | some active =>
      rw [requestPreemption_step held req]
      simp only [duplicateAdmission, id, generation, auth, Returned.RejectedStale, Bool.not_true, Bool.or_false,
        Bool.false_eq_true, if_false]
      split_ifs with same
      · simp
      · simp

/-- Where the generations agree, an addressed request has authority exactly if it carries the attempt generation in
    force. -/
theorem AgreesOnAttempt.of_generations
    (generations : s.attemptAuthority.authoritative = true →
      s.attemptAuthority.executionGeneration = s.rt.executionGeneration ∧
        s.attemptAuthority.attemptGeneration = s.rt.attemptGeneration) : AgreesOnAttempt s := by
  refine ⟨fun held => (generations held).1, fun held => (generations held).2, fun held req addressed => ?_⟩
  obtain ⟨execution, attempt⟩ := generations held
  have boot : (!(req.workerBootId.isValid && decide (req.workerBootId ≠ s.rt.workerBoot))) = true := by
    cases valid : req.workerBootId.isValid with
    | false => rfl
    | true => simp [addressed.boot valid]
  have check : s.rt.validateAuthority req = decide (req.attemptGeneration = s.rt.attemptGeneration) := by
    rw [PreemptionRuntime.validateAuthority, boot]
    simp [addressed.epoch, addressed.execution, addressed.attempt, addressed.executionGeneration, execution]
  rw [requestPreemption_rejectedStale_iff addressed.id addressed.generation, check, attempt, decide_eq_false_iff_not]

/-! ### The record of the attempt -/

/-- The attempt as the runtime names it. -/
def PreemptionRuntime.attemptRecord (rt : PreemptionRuntime) : AttemptRecord :=
  ⟨true, rt.executionId, rt.attemptId, rt.executionGeneration, rt.attemptGeneration⟩

/-- What the adapters hold of the attempt that the runtime names: while it is authoritative they hold the same, and
    since the first start or recovery they hold its attempt generation. -/
structure HeldFor (own held : AttemptRecord) : Prop where
  agrees : held.authoritative = true → own.execution = held.execution → own.attempt = held.attempt → held = own
  current : held.attemptGeneration = own.attemptGeneration ∨ own.attemptGeneration = {}

theorem HeldFor.refl (record : AttemptRecord) : HeldFor record record := ⟨fun _ _ _ => rfl, .inl rfl⟩

theorem HeldFor.agreesOnAttempt (held : HeldFor s.rt.attemptRecord s.ad.attemptRecord) : AgreesOnAttempt s := by
  refine .of_generations fun authoritative => ?_
  simp only [System.attemptAuthority, ReferenceAdapters.currentAttemptAuthority, Bool.and_eq_true,
    decide_eq_true_eq] at authoritative
  obtain ⟨⟨claimed, execution⟩, attempt⟩ := authoritative
  have same := held.agrees claimed execution attempt
  exact ⟨congrArg (·.generation) same, congrArg (·.attemptGeneration) same⟩

/-- At the greatest generation a confirmed resume grants what the runtime already names. -/
theorem HeldFor.resumed (held : HeldFor u.rt.attemptRecord u.ad.attemptRecord)
    (last : u.rt.attemptGeneration.value = maxValue) : u.resumed.ad.attemptRecord = u.resumed.rt.attemptRecord := by
  rcases held.current with current | unset
  · have same : u.ad.attemptAttemptGen = u.rt.attemptGeneration := current
    have kept : u.ad.attemptAttemptGen.next = u.rt.attemptGeneration := by
      rw [same]
      exact Generation.next_eq_self_iff.mpr last
    exact congrArg (AttemptRecord.mk true u.rt.executionId u.rt.attemptId u.rt.executionGeneration) kept
  · have zero : u.rt.attemptGeneration = {} := unset
    rw [zero] at last
    cases last

/-- A confirmed resume leaves the two sides in agreement exactly if it grants nothing newer. -/
theorem HeldFor.resumed_agrees_iff (held : HeldFor u.rt.attemptRecord u.ad.attemptRecord) :
    AgreesOnAttempt u.resumed ↔ u.rt.attemptGeneration.value = maxValue := by
  constructor
  · intro agrees
    have granted : u.resumed.attemptAuthority.authoritative = true := by
      simp [System.attemptAuthority, System.resumed, ReferenceAdapters.currentAttemptAuthority,
        ReferenceAdapters.grantFreshAttemptAuthority]
    have attempt : u.ad.attemptAttemptGen.next = u.rt.attemptGeneration := agrees.attempt granted
    rcases held.current with current | unset
    · have same : u.ad.attemptAttemptGen = u.rt.attemptGeneration := current
      rw [same] at attempt
      exact Generation.next_eq_self_iff.mp attempt
    · have zero : u.rt.attemptGeneration = {} := unset
      rw [zero] at attempt
      exact absurd attempt (Generation.next_ne_default _)
  · intro last
    apply HeldFor.agreesOnAttempt
    rw [held.resumed last]
    exact .refl _

theorem HeldFor.move (held : HeldFor u.rt.attemptRecord u.ad.attemptRecord)
    (untouched : AuthorityUntouched ⟨u, op, r, t⟩) (newer : GrantsNothingNewer ⟨u, op, r, t⟩) (moved : Move u op r t) :
    HeldFor t.rt.attemptRecord t.ad.attemptRecord := by
  cases moved with
  | start => exact .refl _
  | releaseRequested =>
    have kept : u.releaseRequested.ad.attemptRecord = u.ad.attemptRecord := releaseLeases_attemptRecord _ _
    rw [kept]
    exact held
  | committed => exact ⟨nofun, held.current⟩
  | resumed before =>
    rw [held.resumed (newer rfl before)]
    exact .refl _
  | @loaded _ st ret image =>
    have named : (u.restored st).ad.attemptRecord = (u.restored st).rt.attemptRecord := by
      simp [System.restored, PreemptionRuntime.attemptRecord, ReferenceAdapters.attemptRecord,
        ReferenceAdapters.setAuthoritative]
    rw [named]
    exact .refl _
  | adapter o =>
    have kept : (o.apply u.ad).attemptRecord = u.ad.attemptRecord := AdapterOp.apply_attemptRecord _ (untouched o rfl)
    rw [kept]
    exact held
  | _ => exact held

theorem HeldFor.of_step (held : HeldFor u.rt.attemptRecord u.ad.attemptRecord)
    (untouched : AuthorityUntouched (Trace.event step u op)) (newer : GrantsNothingNewer (Trace.event step u op)) :
    HeldFor (step u op).2.rt.attemptRecord (step u op).2.ad.attemptRecord := by
  rcases step_cases u op with moved | ⟨same, _⟩
  · exact held.move untouched newer moved
  · rw [same]
    exact held

/-- A step keeps the agreement exactly if it grants nothing newer. -/
theorem step_agrees_iff (held : HeldFor u.rt.attemptRecord u.ad.attemptRecord)
    (untouched : AuthorityUntouched (Trace.event step u op)) :
    AgreesOnAttempt (step u op).2 ↔ GrantsNothingNewer (Trace.event step u op) := by
  constructor
  · intro agrees input ready
    have confirm : op = .confirmResumed := input
    rw [confirm, confirmResumed_ready (s := u) ready] at agrees
    exact held.resumed_agrees_iff.mp agrees
  · intro newer
    exact (held.of_step untouched newer).agreesOnAttempt

end

/-- In a run from construction in which nobody else changes the authority, the runtime and the adapters agree on the
    attempt in every state exactly when no resume is confirmed below the greatest attempt generation. -/
theorem attempt_agreement_iff (epoch : CoordinatorEpoch) (policy : PolicyGeneration) (ad : ReferenceAdapters)
    (unclaimed : ad.attemptAuthoritative = false) (ops : List Op)
    (untouched : ∀ o, .adapter o ∈ ops → o.changesAuthority = false) :
    (∀ e ∈ traceOf (.construct epoch policy ad) ops, AgreesOnAttempt e.post) ↔
      ∀ e ∈ traceOf (.construct epoch policy ad) ops, GrantsNothingNewer e := by
  have start : HeldFor (System.construct epoch policy ad).rt.attemptRecord ad.attemptRecord := by
    refine ⟨fun claimed => ?_, .inr rfl⟩
    have none : ad.attemptAuthoritative = true := claimed
    rw [unclaimed] at none
    cases none
  refine Trace.trace_forall_iff step (P := fun u => HeldFor u.rt.attemptRecord u.ad.attemptRecord)
    (G := AuthorityUntouched) start ?_ ?_ ops ?_
  · exact fun u op held guard => step_agrees_iff held guard
  · exact fun u op held guard newer => held.of_step guard newer
  · exact fun e member o call => untouched o (call ▸ Trace.input_mem step member)

/-- A capture and a release, up to the resume that is ready to be confirmed. -/
def readyOps : List Op := requestOps true ++ captureOps ++ releaseOps ++ resumeOps

theorem attempt_agreement_ready :
    (run (.construct ⟨1⟩ ⟨1⟩ quietAdapters) readyOps).lifecycle = .resumeReady ∧
      ∀ e ∈ traceOf (.construct ⟨1⟩ ⟨1⟩ quietAdapters) readyOps, AgreesOnAttempt e.post := by
  refine ⟨by decide +kernel, ?_⟩
  refine (attempt_agreement_iff ⟨1⟩ ⟨1⟩ quietAdapters rfl readyOps ?_).mpr ?_
  · simp [readyOps, requestOps, captureOps, releaseOps, resumeOps]
  · intro e member confirm
    have issued := Trace.input_mem step member
    rw [confirm] at issued
    simp [readyOps, requestOps, captureOps, releaseOps, resumeOps] at issued

/-- The resumed attempt has generation 2 and the runtime still names 1: the request for the attempt in force is
    stale, and the one for the superseded attempt is not. Nobody calls the adapters but the runtime. -/
theorem resumed_attempt_disagrees :
    ∃ ops, (∀ o, .adapter o ∉ ops) ∧
      let s := run (.construct ⟨1⟩ ⟨1⟩ quietAdapters) ops
      s.attemptAuthority.authoritative = true ∧ s.attemptAuthority.attemptGeneration = ⟨2⟩ ∧
        s.rt.attemptGeneration = ⟨1⟩ ∧ ¬AgreesOnAttempt s ∧
        (step s (.requestPreemption { requestOf ⟨9⟩ with attemptGeneration := ⟨2⟩ })).1.RejectedStale ∧
        ¬(step s (.requestPreemption (requestOf ⟨9⟩))).1.RejectedStale := by
  refine ⟨readyOps ++ [.confirmResumed], ?_, by decide +kernel, by decide +kernel, by decide +kernel, ?_, ?_, ?_⟩
  · simp [readyOps, requestOps, captureOps, releaseOps, resumeOps]
  · intro agrees
    exact absurd (agrees.attempt (by decide +kernel)) (by decide +kernel)
  · exact (requestPreemption_rejectedStale_iff rfl rfl).mpr (by decide +kernel)
  · intro stale
    exact absurd ((requestPreemption_rejectedStale_iff rfl rfl).mp stale) (by decide +kernel)

end PreemptionFabric
