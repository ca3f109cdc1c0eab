import PreemptionFabric.Theorems.Fence
import PreemptionFabric.Theorems.Validation

/-! The evidence behind RESUMED. In a run without recovery a resume is requested, revalidated and restored after
    the last commit, under a checkpoint that was accepted each time, and the confirmation renews the attempt
    generation. After a recovery the revalidation can be missing: an image is installed in the middle of its
    resume. -/

namespace PreemptionFabric
open Trace

/-! ### After a recovery -/

/-- A `revalidate` that returned `kSafePreemptionCompleted`. -/
def Revalidates (e : Event) : Prop := e.input = .revalidate ∧ e.input.Succeeded e.output

/-- A step after a recovery: no `start_execution` and no further recovery; a call on the adapters only if
    `direct` calls are made. -/
structure Continues (direct : Bool) (op : Op) : Prop where
  start : op.isStart = false
  recovery : op.loads = none
  call : ∀ o, op = .adapter o → direct = true

/-- From `s` on, RESUMED is not reached without a successful `revalidate`. -/
def RecomputesResume (direct : Bool) (s : System) : Prop :=
  ∀ ops, (∀ op ∈ ops, Continues direct op) → (run s ops).lifecycle = .resumed → ∃ e ∈ traceOf s ops, Revalidates e

/-- RESUMED is out of reach without a revalidation: a resume that is already restoring is stopped by a rejected
    checkpoint, which no operation of the runtime makes valid. -/
structure NeedsRevalidation (direct : Bool) (u : System) : Prop where
  ready : u.lifecycle ≠ .resumeReady
  resuming : u.lifecycle ≠ .resuming
  resumed : u.lifecycle ≠ .resumed
  restoring : u.lifecycle = .restoring → direct = false ∧ checkpointRejected u.rt u.ad = true

section
variable {direct : Bool} {u t : System} {op : Op} {r : Returned}

theorem NeedsRevalidation.away (ready : t.lifecycle ≠ .resumeReady) (resuming : t.lifecycle ≠ .resuming)
    (resumed : t.lifecycle ≠ .resumed) (restoring : t.lifecycle ≠ .restoring) : NeedsRevalidation direct t :=
  ⟨ready, resuming, resumed, fun lifecycle => absurd lifecycle restoring⟩

theorem NeedsRevalidation.move (h : NeedsRevalidation direct u) (continues : Continues direct op)
    (moved : Move u op r t) : NeedsRevalidation direct t ∨ Revalidates ⟨u, op, r, t⟩ := by
  cases moved with
  | revalidated before current free => exact .inr ⟨rfl, _, rfl, rfl⟩
  | restored before current =>
    -- The checkpoint was rejected, so this restore did not succeed.
    obtain ⟨_, rejected⟩ := h.restoring before
    rw [current] at rejected
    cases rejected
  | resumed before =>
    rcases before with lifecycle | lifecycle
    · exact absurd lifecycle h.ready
    · exact absurd lifecycle h.resuming
  | loaded ret image =>
    have recovery := continues.recovery
    rw [image] at recovery
    cases recovery
  | adapter o =>
    refine .inl ⟨h.ready, h.resuming, h.resumed, fun lifecycle => ?_⟩
    obtain ⟨closed, _⟩ := h.restoring lifecycle
    rw [continues.call o rfl] at closed
    cases closed
  | reach position captureRequired found =>
    exact .inl ⟨fun after => h.ready (System.lifecycle_of_reached after nofun),
      fun after => h.resuming (System.lifecycle_of_reached after nofun),
      fun after => h.resumed (System.lifecycle_of_reached after nofun),
      fun after => h.restoring (System.lifecycle_of_reached after nofun)⟩
  | declare sp => exact .inl ⟨h.ready, h.resuming, h.resumed, h.restoring⟩
  | publish kind auth forward => exact .inl ⟨h.ready, h.resuming, h.resumed, h.restoring⟩
  | priority g => exact .inl ⟨h.ready, h.resuming, h.resumed, h.restoring⟩
  | incarnation worker boot => exact .inl ⟨h.ready, h.resuming, h.resumed, h.restoring⟩
  | _ => exact .inl (.away nofun nofun nofun nofun)

theorem NeedsRevalidation.run (h : NeedsRevalidation direct u) (ops : List Op)
    (continues : ∀ op ∈ ops, Continues direct op) :
    NeedsRevalidation direct (run u ops) ∨ ∃ e ∈ traceOf u ops, Revalidates e := by
  refine run_history (P := fun tr v => NeedsRevalidation direct v ∨ ∃ e ∈ tr, Revalidates e)
    (G := fun e => Continues direct e.input) (.inl h) ?_ ?_ ops
    fun e member => continues e.input (Trace.input_mem step member)
  · intro tr v op r t holds guard moved
    rcases holds with needs | ⟨e, member, revalidates⟩
    · rcases needs.move guard moved with needs | revalidates
      · exact .inl needs
      · exact .inr ⟨_, List.mem_append_right _ List.mem_cons_self, revalidates⟩
    · exact .inr ⟨e, List.mem_append_left _ member, revalidates⟩
  · intro tr v op r holds _
    rcases holds with needs | ⟨e, member, revalidates⟩
    · exact .inl needs
    · exact .inr ⟨e, List.mem_append_left _ member, revalidates⟩

theorem NeedsRevalidation.recomputes (h : NeedsRevalidation direct u) : RecomputesResume direct u := by
  intro ops continues lifecycle
  rcases h.run ops continues with needs | revalidated
  · exact absurd lifecycle needs.resumed
  · exact revalidated

theorem not_recomputes_of_run (ops : List Op) (continues : ∀ op ∈ ops, Continues direct op)
    (skips : .revalidate ∉ ops) (reaches : (PreemptionFabric.run u ops).lifecycle = .resumed) :
    ¬RecomputesResume direct u := by
  intro recomputes
  obtain ⟨e, member, input, _⟩ := recomputes ops continues reaches
  have mentioned := Trace.input_mem step member
  rw [input] at mentioned
  exact skips mentioned

theorem restore_continues : Continues direct .restore := by
  refine ⟨rfl, rfl, fun o input => ?_⟩
  cases input

theorem confirmResumed_continues : Continues direct .confirmResumed := by
  refine ⟨rfl, rfl, fun o input => ?_⟩
  cases input

/-- A resume that is ready is confirmed at once. -/
theorem not_recomputes_of_ready (ready : u.lifecycle = .resumeReady ∨ u.lifecycle = .resuming) :
    ¬RecomputesResume direct u := by
  refine not_recomputes_of_run [.confirmResumed] ?_ (by simp) ?_
  · simp only [List.mem_singleton, forall_eq]
    exact confirmResumed_continues
  · rw [run_cons, confirmResumed_ready ready]
    rfl

theorem run_restore_confirm (before : u.lifecycle = .restoring) (current : checkpointRejected u.rt u.ad = false) :
    (PreemptionFabric.run u [.restore, .confirmResumed]).lifecycle = .resumed := by
  rw [run_cons, restore_current before current, run_cons, confirmResumed_ready (.inl rfl)]
  rfl

theorem not_recomputes_of_current (before : u.lifecycle = .restoring)
    (current : checkpointRejected u.rt u.ad = false) : ¬RecomputesResume direct u := by
  refine not_recomputes_of_run [.restore, .confirmResumed] ?_ (by simp) (run_restore_confirm before current)
  simp only [List.mem_cons, List.not_mem_nil, or_false, forall_eq_or_imp, forall_eq]
  exact ⟨restore_continues, confirmResumed_continues⟩

theorem not_recomputes_of_direct (before : u.lifecycle = .restoring) : ¬RecomputesResume true u := by
  let v : System := { u with ad := { u.ad with
    checkpointValid := true, currentCheckpointGen := u.rt.checkpointGeneration } }
  have current : checkpointRejected v.rt v.ad = false := by
    simp [v, checkpointRejected, ReferenceAdapters.validateCheckpoint]
  refine not_recomputes_of_run [.adapter (.setCheckpointValid true),
    .adapter (.setCurrentCheckpointGeneration u.rt.checkpointGeneration), .restore, .confirmResumed] ?_ (by simp)
    (run_restore_confirm (u := v) before current)
  simp only [List.mem_cons, List.not_mem_nil, or_false, forall_eq_or_imp, forall_eq]
  exact ⟨⟨rfl, rfl, fun _ _ => rfl⟩, ⟨rfl, rfl, fun _ _ => rfl⟩, restore_continues, confirmResumed_continues⟩

end

theorem checkpointRejected_restored {st : PersistentState} (s : System) (reference : st.checkpointRef.isValid = true) :
    checkpointRejected (s.restored st).rt (s.restored st).ad =
      !s.ad.validateCheckpoint st.checkpointRef st.checkpointGeneration := by
  simp [checkpointRejected, System.restored, reference, ReferenceAdapters.validateCheckpoint,
    ReferenceAdapters.setAuthoritative]

theorem checkpointRef_of_restoring {bytes : List UInt8} {st : PersistentState} (accepted : decode bytes = .ok st)
    (restoring : st.lifecycle = .restoring) : st.checkpointRef.isValid = true := by
  have valid := validImage_of_decode accepted
  have durable := valid.durable (by rw [restoring]; rfl)
  exact (valid.checkpoint durable).1

/-- Which images have their resume recomputed: those that are not yet ready to resume, nor restoring under a
    checkpoint that the service accepts (or can be made to accept, where it is called directly). -/
theorem restoreBytes_recomputes_iff (bytes : List UInt8) (st : PersistentState) (accepted : decode bytes = .ok st)
    (unresumed : st.lifecycle ≠ .resumed) (s : System) (direct : Bool) :
    RecomputesResume direct (step s (.restoreBytes bytes)).2 ↔
      st.lifecycle ≠ .resumeReady ∧ st.lifecycle ≠ .resuming ∧
        (st.lifecycle = .restoring →
          direct = false ∧ s.ad.validateCheckpoint st.checkpointRef st.checkpointGeneration = false) := by
  rw [restoreBytes_step accepted]
  have lifecycle := System.restored_lifecycle s st
  constructor
  · intro recomputes
    refine ⟨?_, ?_, ?_⟩
    · intro ready
      exact not_recomputes_of_ready (.inl (lifecycle.trans ready)) recomputes
    · intro resuming
      exact not_recomputes_of_ready (.inr (lifecycle.trans resuming)) recomputes
    · intro restoring
      have before := lifecycle.trans restoring
      constructor
      · cases direct with
        | false => rfl
        | true => exact absurd recomputes (not_recomputes_of_direct before)
      · cases valid : s.ad.validateCheckpoint st.checkpointRef st.checkpointGeneration with
        | false => rfl
        | true =>
          have current := checkpointRejected_restored s (checkpointRef_of_restoring accepted restoring)
          rw [valid] at current
          exact absurd recomputes (not_recomputes_of_current before current)
  · rintro ⟨ready, resuming, restoring⟩
    refine NeedsRevalidation.recomputes ⟨?_, ?_, ?_, ?_⟩
    · rwa [lifecycle]
    · rwa [lifecycle]
    · rwa [lifecycle]
    · intro before
      rw [lifecycle] at before
      obtain ⟨closed, rejected⟩ := restoring before
      rw [checkpointRejected_restored s (checkpointRef_of_restoring accepted before), rejected]
      exact ⟨closed, rfl⟩

/-- An image that awaits its revalidation has it recomputed; a restoring one with a stale checkpoint does too. -/
theorem restoreBytes_recomputes_pending :
    RecomputesResume true (step (.construct ⟨2⟩ ⟨1⟩ {}) (.restoreBytes (encode (imageAt .resumePending)))).2 ∧
    RecomputesResume false (step (.construct ⟨2⟩ ⟨1⟩ { currentCheckpointGen := ⟨2⟩ })
      (.restoreBytes (encode (imageAt .restoring)))).2 := by
  constructor
  · refine (restoreBytes_recomputes_iff _ _ (decode_imageAt .resumePending) nofun _ true).mpr ⟨nofun, nofun, nofun⟩
  · refine (restoreBytes_recomputes_iff _ _ (decode_imageAt .restoring) nofun _ false).mpr ⟨nofun, nofun, fun _ => ?_⟩
    exact ⟨rfl, rfl⟩

/-- A RESUME_READY image is loaded and confirmed: RESUMED without any revalidation. -/
theorem resumeReady_image_not_recomputed :
    ∃ bytes st, decode bytes = .ok st ∧ st.lifecycle = .resumeReady ∧
      ¬RecomputesResume false (step (.construct ⟨2⟩ ⟨1⟩ {}) (.restoreBytes bytes)).2 := by
  refine ⟨encode (imageAt .resumeReady), imageAt .resumeReady, decode_imageAt .resumeReady, rfl, ?_⟩
  rw [restoreBytes_step (decode_imageAt .resumeReady)]
  exact not_recomputes_of_ready (.inl (System.restored_lifecycle _ _))

/-! ### Without a recovery -/

/-- A successful `commit_preempted`. -/
def Commits (e : Event) : Prop := e.input = .commitPreempted ∧ e.input.Succeeded e.output

/-- A `start_execution`, or a `cancel` or `complete` that had an effect. -/
def Interrupts (e : Event) : Prop :=
  e.input.isStart = true ∨ (e.input = .cancel ∨ e.input = .complete) ∧ e.post.lifecycle ≠ e.pre.lifecycle

/-- A `request_resume` that returned `kResumeRevalidationRequired`. -/
def RequestsResume (e : Event) : Prop := e.input = .requestResume ∧ e.input.Succeeded e.output

/-- A successful `revalidate` at which the checkpoint service accepted the checkpoint, if there is one. -/
def RevalidatesCheckpoint (ref : CheckpointRef) (generation : CheckpointGeneration) (e : Event) : Prop :=
  Revalidates e ∧ (ref.isValid = true → e.pre.ad.validateCheckpoint ref generation = true)

/-- A successful `restore()` at which the checkpoint service accepted the checkpoint, if there is one. -/
def RestoresCheckpoint (ref : CheckpointRef) (generation : CheckpointGeneration) (e : Event) : Prop :=
  (e.input = .restore ∧ e.input.Succeeded e.output) ∧
    (ref.isValid = true → e.pre.ad.restore ref generation = true)

/-- The evidence that stands behind each lifecycle of a resume, for a checkpoint. -/
def resumeEvidence (ref : CheckpointRef) (generation : CheckpointGeneration) :
    LifecycleState → Option (List (Event → Prop))
  | .preempted => some []
  | .resumePending | .revalidating => some [RequestsResume]
  | .restoring => some [RequestsResume, RevalidatesCheckpoint ref generation]
  | .resumeReady | .resuming =>
    some [RequestsResume, RevalidatesCheckpoint ref generation, RestoresCheckpoint ref generation]
  | _ => none

/-- Since the last commit nothing interrupted, the trace holds this evidence in order, and the attempt
    generation is still the one of the commit. -/
def ResumeEvidence (kinds : List (Event → Prop)) (current : AttemptGeneration) (tr : List Event) : Prop :=
  Since Commits (fun commit rest => (∀ e ∈ rest, ¬Interrupts e) ∧ InOrder kinds rest ∧
    current = commit.pre.ad.attemptAttemptGen) tr

theorem ResumeEvidence.later {kinds kinds' : List (Event → Prop)} {current : AttemptGeneration} {tr : List Event}
    {e : Event} (h : ResumeEvidence kinds current tr) (other : ¬Commits e) (calm : ¬Interrupts e)
    (more : ∀ rest, InOrder kinds rest → InOrder kinds' (rest ++ [e])) : ResumeEvidence kinds' current (tr ++ [e]) := by
  refine Since.snoc other ?_ h
  rintro commit rest _ ⟨quiet, ordered, same⟩
  exact ⟨List.forall_mem_append.mpr ⟨quiet, List.forall_mem_singleton.mpr calm⟩, more rest ordered, same⟩

def ResumeShown (tr : List Event) (s : System) : Prop :=
  ∀ kinds, resumeEvidence s.rt.checkpointRef s.rt.checkpointGeneration s.lifecycle = some kinds →
    ResumeEvidence kinds s.ad.attemptAttemptGen tr

def Op.disturbs : Op → Bool
  | .startExecution .. | .commitPreempted | .cancel | .complete => true
  | _ => false

section
variable {tr : List Event} {u t : System} {op : Op} {r : Returned}

theorem not_commits_of_calm (calm : op.disturbs = false) : ¬Commits ⟨u, op, r, t⟩ := by
  rintro ⟨input, _⟩
  cases input
  cases calm

theorem not_interrupts_of_calm (calm : op.disturbs = false) : ¬Interrupts ⟨u, op, r, t⟩ := by
  rintro (start | ⟨cancel | complete, _⟩)
  · cases op with
    | startExecution => cases calm
    | _ => cases start
  · cases cancel
    cases calm
  · cases complete
    cases calm

theorem ResumeShown.idle (h : ResumeShown tr u) (unsuccessful : ¬op.Succeeded r) :
    ResumeShown (tr ++ [⟨u, op, r, u⟩]) u := by
  refine fun kinds shown => (h kinds shown).later ?_ ?_ fun rest ordered => ordered.append _
  · rintro ⟨_, succeeded⟩
    exact unsuccessful succeeded
  · rintro (start | ⟨_, effective⟩)
    · cases op with
      | startExecution => exact unsuccessful trivial
      | _ => cases start
    · exact effective rfl

theorem ResumeShown.pass (h : ResumeShown tr u) (calm : op.disturbs = false)
    (generation : t.ad.attemptAttemptGen = u.ad.attemptAttemptGen)
    (less : ∀ kinds, resumeEvidence t.rt.checkpointRef t.rt.checkpointGeneration t.lifecycle = some kinds →
      resumeEvidence u.rt.checkpointRef u.rt.checkpointGeneration u.lifecycle = some kinds) :
    ResumeShown (tr ++ [⟨u, op, r, t⟩]) t := by
  intro kinds shown
  rw [generation]
  exact (h kinds (less kinds shown)).later (not_commits_of_calm calm) (not_interrupts_of_calm calm)
    fun rest ordered => ordered.append _

theorem ResumeShown.advance {kinds : List (Event → Prop)} {kind : Event → Prop} (h : ResumeShown tr u)
    (calm : op.disturbs = false) (generation : t.ad.attemptAttemptGen = u.ad.attemptAttemptGen)
    (before : resumeEvidence u.rt.checkpointRef u.rt.checkpointGeneration u.lifecycle = some kinds)
    (after : resumeEvidence t.rt.checkpointRef t.rt.checkpointGeneration t.lifecycle = some (kinds ++ [kind]))
    (shown : kind ⟨u, op, r, t⟩) : ResumeShown (tr ++ [⟨u, op, r, t⟩]) t := by
  intro kinds' same
  rw [after] at same
  cases same
  rw [generation]
  exact (h kinds before).later (not_commits_of_calm calm) (not_interrupts_of_calm calm)
    fun rest ordered => ordered.snoc shown

theorem validateCheckpoint_of_current {rt : PreemptionRuntime} {ad : ReferenceAdapters}
    (current : checkpointRejected rt ad = false) (reference : rt.checkpointRef.isValid = true) :
    ad.validateCheckpoint rt.checkpointRef rt.checkpointGeneration = true := by
  simpa [checkpointRejected, reference] using current

theorem ResumeShown.move (h : ResumeShown tr u) (fresh : op.loads = none)
    (foreign : ∀ o, op = .adapter o → o.changesAuthority = false) (moved : Move u op r t) :
    ResumeShown (tr ++ [⟨u, op, r, t⟩]) t := by
  cases moved with
  | committed before quiesced durable released =>
    intro kinds shown
    cases shown
    exact Since.last ⟨rfl, _, rfl, rfl⟩ ⟨by simp, trivial, rfl⟩
  | resumeRequested before =>
    exact h.advance rfl rfl (congrArg _ before) rfl ⟨rfl, _, rfl, rfl⟩
  | revalidateBlocked before current blocked =>
    refine h.pass rfl rfl fun kinds shown => ?_
    rcases before with lifecycle | lifecycle
    · rw [lifecycle]
      exact shown
    · rw [lifecycle]
      exact shown
  | revalidated before current free =>
    have evidence : resumeEvidence u.rt.checkpointRef u.rt.checkpointGeneration u.lifecycle =
        some [RequestsResume] :=
      System.of_either (resumeEvidence _ _ · = some _) before rfl rfl
    exact h.advance rfl rfl evidence rfl ⟨⟨rfl, _, rfl, rfl⟩, validateCheckpoint_of_current current⟩
  | restored before current =>
    exact h.advance rfl rfl (congrArg _ before) rfl ⟨⟨rfl, _, rfl, rfl⟩, validateCheckpoint_of_current current⟩
  | loaded ret image =>
    rw [image] at fresh
    cases fresh
  | reach position captureRequired found =>
    refine h.pass rfl rfl fun kinds shown => ?_
    rw [System.reached_lifecycle] at shown
    split at shown
    · cases shown
    · exact shown
  | declare sp => exact h.pass rfl rfl fun _ shown => shown
  | publish kind auth forward => exact h.pass rfl rfl fun _ shown => shown
  | priority g => exact h.pass rfl rfl fun _ shown => shown
  | incarnation worker boot => exact h.pass rfl rfl fun _ shown => shown
  | adapter o =>
    have same := AdapterOp.apply_sameAuthority u.ad (foreign o rfl)
    exact h.pass rfl same.generation fun _ shown => shown
  | _ =>
    intro kinds shown
    cases shown

end

/-- Whenever `confirm_resumed` moves to RESUMED in a run from construction without recovery, in which nobody
    else changes the attempt authority, then since the last commit nothing interrupted, a resume was requested,
    revalidated and restored in this order, each time under the checkpoint of the runtime, and the attempt
    generation is now newer than at the commit. -/
theorem confirmResumed_evidence (epoch : CoordinatorEpoch) (policy : PolicyGeneration) (ad : ReferenceAdapters)
    (ops : List Op) (fresh : ∀ op ∈ ops, op.loads = none)
    (foreign : ∀ o, .adapter o ∈ ops → o.changesAuthority = false)
    (before : (run (.construct epoch policy ad) ops).lifecycle ≠ .resumed)
    (after : (step (run (.construct epoch policy ad) ops) .confirmResumed).2.lifecycle = .resumed) :
    let s := run (.construct epoch policy ad) ops
    Since Commits
      (fun commit rest => (∀ e ∈ rest, ¬Interrupts e) ∧
        InOrder [RequestsResume, RevalidatesCheckpoint s.rt.checkpointRef s.rt.checkpointGeneration,
          RestoresCheckpoint s.rt.checkpointRef s.rt.checkpointGeneration] rest ∧
        (commit.pre.ad.attemptAttemptGen.value < maxValue →
          commit.pre.ad.attemptAttemptGen.value < (step s .confirmResumed).2.ad.attemptAttemptGen.value))
      (traceOf (.construct epoch policy ad) ops) := by
  intro s
  have shown : ResumeShown (traceOf (.construct epoch policy ad) ops) s := by
    refine run_history (G := fun e => e.input.loads = none ∧ ∀ o, e.input = .adapter o → o.changesAuthority = false)
      nofun (fun h guard moved => h.move guard.1 guard.2 moved) ResumeShown.idle ops fun e member => ?_
    have input := Trace.input_mem step member
    exact ⟨fresh e.input input, fun o call => foreign o (call ▸ input)⟩
  obtain ⟨ready, left⟩ : (s.lifecycle = .resumeReady ∨ s.lifecycle = .resuming) ∧
      (step s .confirmResumed).2 = s.resumed := by
    rcases step_cases s .confirmResumed with moved | ⟨same, _⟩
    · exact moved.confirm
    · rw [same] at after
      exact absurd after before
  have evidence : resumeEvidence s.rt.checkpointRef s.rt.checkpointGeneration s.lifecycle =
      some [RequestsResume, RevalidatesCheckpoint s.rt.checkpointRef s.rt.checkpointGeneration,
        RestoresCheckpoint s.rt.checkpointRef s.rt.checkpointGeneration] :=
    System.of_either (resumeEvidence _ _ · = some _) ready rfl rfl
  refine Since.mono ?_ (shown _ evidence)
  rintro commit rest _ ⟨quiet, ordered, same⟩
  refine ⟨quiet, ordered, fun below => ?_⟩
  rw [left, ← same]
  rw [← same] at below
  exact Generation.next_of_lt below

def resumeOps : List Op := [.commitPreempted, .requestResume, .revalidate, .restore]

theorem confirmResumed_evidence_capture :
    let s := run (.construct ⟨1⟩ ⟨1⟩ quietAdapters) (requestOps true ++ captureOps ++ releaseOps ++ resumeOps)
    Since Commits
      (fun commit rest => (∀ e ∈ rest, ¬Interrupts e) ∧
        InOrder [RequestsResume, RevalidatesCheckpoint s.rt.checkpointRef s.rt.checkpointGeneration,
          RestoresCheckpoint s.rt.checkpointRef s.rt.checkpointGeneration] rest ∧
        (commit.pre.ad.attemptAttemptGen.value < maxValue →
          commit.pre.ad.attemptAttemptGen.value < (step s .confirmResumed).2.ad.attemptAttemptGen.value))
      (traceOf (.construct ⟨1⟩ ⟨1⟩ quietAdapters) (requestOps true ++ captureOps ++ releaseOps ++ resumeOps)) := by
  refine confirmResumed_evidence ⟨1⟩ ⟨1⟩ quietAdapters (requestOps true ++ captureOps ++ releaseOps ++ resumeOps)
    ?_ ?_ (by decide +kernel) (by decide +kernel)
  · simp [requestOps, captureOps, releaseOps, resumeOps, Op.loads]
  · simp [requestOps, captureOps, releaseOps, resumeOps]

end PreemptionFabric
