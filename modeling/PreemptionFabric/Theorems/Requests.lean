import PreemptionFabric.Theorems.Preempted

/-! A single authoritative request per scope. The active request is set by the request that is accepted first and
    cleared by nothing but a start, so that within a scope every later request is answered from it and changes
    nothing. Across scopes nothing compares the generations of the requests. -/

namespace PreemptionFabric
open PreemptionFabric.Action

/-- The step stays in the scope: it starts no execution and installs no image. -/
structure Op.InScope (op : Op) : Prop where
  start : op.isStart = false
  recovery : op.loads = none

section
variable {s u t : System} {op : Op} {r : Returned} {active : PreemptionRequest}

theorem Move.activeRequest (moved : Move u op r t) (scope : op.InScope) (held : u.rt.activeRequest = some active) :
    t.rt.activeRequest = some active := by
  cases moved with
  | start => cases scope.start
  | accept id generation auth first =>
    rw [held] at first
    cases first
  | loaded ret image =>
    have recovery := scope.recovery
    rw [image] at recovery
    cases recovery
  | _ => exact held

theorem step_activeRequest (scope : op.InScope) (held : s.rt.activeRequest = some active) :
    (step s op).2.rt.activeRequest = some active := by
  rcases step_cases s op with moved | ⟨same, _⟩
  · exact moved.activeRequest scope held
  · rw [same]
    exact held

/-- What a request is answered while another one is active. -/
def duplicateAdmission (rt : PreemptionRuntime) (active req : PreemptionRequest) : RequestAdmission :=
  if !req.id.isValid || !req.generation.isValid then { code := .rejectedInvalid }
  else if !rt.validateAuthority req then { code := .rejectedStale }
  else if req.id = active.id ∧ req.generation = active.generation then
    { code := .idempotentDuplicate, requestId := req.id, generation := req.generation }
  else { code := .conflictingDuplicate }

theorem requestMatchesCurrent_iff {rt : PreemptionRuntime} {req : PreemptionRequest}
    (held : rt.activeRequest = some active) :
    rt.requestMatchesCurrent req = true ↔ req.id = active.id ∧ req.generation = active.generation := by
  rw [PreemptionRuntime.requestMatchesCurrent, held]
  simp only [Bool.and_eq_true, decide_eq_true_eq]
  exact and_congr eq_comm eq_comm

theorem requestPreemption_step (held : s.rt.activeRequest = some active) (req : PreemptionRequest) :
    step s (.requestPreemption req) = (.ok (.admission (duplicateAdmission s.rt active req)), s) := by
  simp only [step, as_eq, requestPreemption, runOn_bind, runOn_getRuntime, runOn_ite, runOn_pure, held,
    Option.isSome_some, if_true, requestMatchesCurrent_iff held, duplicateAdmission]
  split_ifs with invalid stale same
  · rfl
  · rfl
  · rfl
  · rfl

/-- The request of the scope is held after the step that accepts it. -/
theorem activeRequest_of_accepted {req : PreemptionRequest}
    (accepted : Op.Succeeded (.requestPreemption req) (step s (.requestPreemption req)).1) :
    (step s (.requestPreemption req)).2.rt.activeRequest = some req := by
  have moved := move_of_succeeded (.requestPreemption req) accepted
  generalize (step s (.requestPreemption req)).1 = r at moved
  generalize (step s (.requestPreemption req)).2 = t at moved
  cases moved with
  | accept id generation auth first => rfl
  | loaded ret image => cases image

end

/-! ### Later requests -/

/-- A request that is answered from the active request `active`: it is not accepted, changes nothing, and where it
    is valid and has authority it is a duplicate, idempotent exactly if it repeats `active`. -/
structure AnswersFrom (active : PreemptionRequest) (e : Event) (req : PreemptionRequest) : Prop where
  refused : ¬Accepts e
  unchanged : e.post = e.pre
  duplicate : req.id.isValid = true → req.generation.isValid = true → e.pre.rt.validateAuthority req = true →
    ∃ a, e.output = .ok (.admission a) ∧
      (a.code = .idempotentDuplicate ↔ req.id = active.id ∧ req.generation = active.generation) ∧
      (a.code = .conflictingDuplicate ↔ ¬(req.id = active.id ∧ req.generation = active.generation))

section
variable {s : System} {active : PreemptionRequest}

theorem duplicateAdmission_refused (rt : PreemptionRuntime) (active req : PreemptionRequest) :
    (duplicateAdmission rt active req).code ≠ .accepted := by
  rw [duplicateAdmission]
  split_ifs with invalid stale same
  · exact fun h => nomatch h
  · exact fun h => nomatch h
  · exact fun h => nomatch h
  · exact fun h => nomatch h

theorem answersFrom_event (held : s.rt.activeRequest = some active) (req : PreemptionRequest) :
    AnswersFrom active (Trace.event step s (.requestPreemption req)) req := by
  have answer := requestPreemption_step held req
  refine ⟨?_, ?_, ?_⟩
  · rintro ⟨req', input, a, output, accepted⟩
    cases input
    rw [Trace.event, answer] at output
    cases output
    exact duplicateAdmission_refused s.rt active req accepted
  · exact congrArg Prod.snd answer
  · intro id generation auth
    refine ⟨_, congrArg Prod.fst answer, ?_⟩
    have authorized : s.rt.validateAuthority req = true := auth
    rw [duplicateAdmission, if_neg (by simp [id, generation]), if_neg (by simp [authorized])]
    split
    next same => simp [same]
    next other => simp [other]

theorem answersFrom_of_held (held : s.rt.activeRequest = some active) (ops : List Op)
    (scope : ∀ op ∈ ops, op.InScope) :
    ∀ e ∈ traceOf s ops, ∀ req, e.input = .requestPreemption req → AnswersFrom active e req := by
  refine (Trace.trace_induction step (P := fun u => u.rt.activeRequest = some active)
    (G := fun e => e.input.InScope) held (fun u op held inScope => ⟨step_activeRequest inScope held, ?_⟩) ops
    fun e member => scope e.input (Trace.input_mem step member)).2
  intro req input
  cases input
  exact answersFrom_event held req

end

/-- Of any two requests in a scope, if the earlier one was accepted then the later one is answered from it. -/
theorem requestPreemption_single (s : System) (ops : List Op) (scope : ∀ op ∈ ops, op.InScope) :
    (traceOf s ops).Pairwise fun e e' => ∀ active req, e.input = .requestPreemption active →
      e.input.Succeeded e.output → e'.input = .requestPreemption req → AnswersFrom active e' req := by
  induction ops generalizing s with
  | nil => exact List.Pairwise.nil
  | cons op ops ih =>
    refine List.Pairwise.cons ?_ (ih _ fun other member => scope other (List.mem_cons_of_mem op member))
    intro e' later active req input accepted input'
    have first : op = .requestPreemption active := input
    subst first
    have held := activeRequest_of_accepted accepted
    exact answersFrom_of_held held ops (fun other member => scope other (List.mem_cons_of_mem _ member)) e' later req
      input'

/-- A newly started execution. -/
def startedSystem : System :=
  run (.construct ⟨1⟩ ⟨1⟩ quietAdapters) [.startExecution ⟨1⟩ ⟨1⟩ ⟨2⟩ ⟨1⟩ ⟨3⟩ ⟨1⟩ ⟨4⟩ ⟨5⟩]

def requestOf (id : PreemptionRequestId) : PreemptionRequest where
  id := id
  generation := ⟨1⟩
  executionId := ⟨2⟩
  executionGeneration := ⟨1⟩
  attemptId := ⟨3⟩
  attemptGeneration := ⟨1⟩
  coordinatorEpoch := ⟨1⟩

/-- A request is accepted, repeated, and followed by another one after its cancellation. -/
theorem requestPreemption_single_cancelled :
    (traceOf startedSystem [.requestPreemption (requestOf ⟨8⟩), .requestPreemption (requestOf ⟨8⟩), .cancel,
      .requestPreemption (requestOf ⟨9⟩)]).Pairwise fun e e' => ∀ active req, e.input = .requestPreemption active →
        e.input.Succeeded e.output → e'.input = .requestPreemption req → AnswersFrom active e' req := by
  refine requestPreemption_single startedSystem _ fun op member => ?_
  simp only [List.mem_cons, List.not_mem_nil, or_false] at member
  rcases member with rfl | rfl | rfl | rfl
  · exact ⟨rfl, rfl⟩
  · exact ⟨rfl, rfl⟩
  · exact ⟨rfl, rfl⟩
  · exact ⟨rfl, rfl⟩

/-! ### Generations across scopes -/

section
variable {s u t : System} {op : Op} {r : Returned}

/-- A request that is valid and has authority is accepted where none is active. -/
theorem requestPreemption_first {req : PreemptionRequest} (id : req.id.isValid = true)
    (generation : req.generation.isValid = true) (auth : s.rt.validateAuthority req = true)
    (first : s.rt.activeRequest = none) :
    step s (.requestPreemption req) = (.ok (.admission ⟨.accepted, req.id, req.generation⟩), s.accepted req) := by
  have valid : (!req.id.isValid || !req.generation.isValid) = false := by simp [id, generation]
  simp only [step, as_eq, requestPreemption, runOn_bind, runOn_getRuntime, runOn_pure, runOn_setRuntime,
    runOn_reset, valid, auth, first, Option.isSome_none, Bool.not_true, Bool.false_eq_true, if_false]
  rw [runOn_transition_of rfl rfl]
  simp only
  rw [runOn_transition_of rfl rfl]
  rfl

/-- A request that would be accepted is not below the authoritative generation. -/
def RenewsGeneration (e : Event) : Prop :=
  ∀ req, e.input = .requestPreemption req → req.id.isValid = true → req.generation.isValid = true →
    e.pre.rt.validateAuthority req = true → e.pre.rt.activeRequest = none →
    e.pre.rt.authoritativeRequestGeneration.value ≤ req.generation.value

/-- The authoritative generation never decreases, and no accepted request is below one that was accepted earlier. -/
structure GenerationsAscend (tr : List Event) : Prop where
  keeps : ∀ e ∈ tr,
    e.pre.rt.authoritativeRequestGeneration.value ≤ e.post.rt.authoritativeRequestGeneration.value
  accepted : tr.Pairwise fun e e' => ∀ req req', e.input = .requestPreemption req → Accepts e →
    e'.input = .requestPreemption req' → Accepts e' → req.generation.value ≤ req'.generation.value

/-- What an event makes of the authoritative generation. -/
def SetsGeneration (e : Event) : Prop :=
  (∃ req, e.input = .requestPreemption req ∧ req.id.isValid = true ∧ req.generation.isValid = true ∧
    e.pre.rt.validateAuthority req = true ∧ e.pre.rt.activeRequest = none ∧
    e.post.rt.authoritativeRequestGeneration = req.generation) ∨
  ¬Accepts e ∧ e.post.rt.authoritativeRequestGeneration = e.pre.rt.authoritativeRequestGeneration

theorem Move.setsGeneration (moved : Move u op r t) (scope : op.loads = none) : SetsGeneration ⟨u, op, r, t⟩ := by
  cases moved with
  | accept id generation auth first => exact .inl ⟨_, rfl, id, generation, auth, first, rfl⟩
  | loaded ret image =>
    rw [image] at scope
    cases scope
  | _ => exact .inr ⟨not_accepts (by simp), rfl⟩

theorem step_setsGeneration (s : System) (op : Op) (scope : op.loads = none) :
    SetsGeneration (Trace.event step s op) := by
  rcases step_cases s op with moved | ⟨same, unsuccessful⟩
  · exact moved.setsGeneration scope
  · rw [Trace.event, same]
    refine .inr ⟨?_, rfl⟩
    rintro ⟨_, _, succeeded⟩
    exact unsuccessful succeeded

end

/-- The generations of the accepted requests ascend in a run exactly when no request comes below the authoritative
    generation while it could be accepted. -/
theorem requestGeneration_ascends_iff (s : System) (ops : List Op) (fresh : ∀ op ∈ ops, op.loads = none) :
    GenerationsAscend (traceOf s ops) ↔ ∀ e ∈ traceOf s ops, RenewsGeneration e := by
  have sets : ∀ e ∈ traceOf s ops, SetsGeneration e :=
    Trace.trace_forall step (G := fun e => e.input.loads = none) step_setsGeneration (trace_loads_none fresh)
  constructor
  · intro ascend e member req input id generation auth first
    have keeps := ascend.keeps e member
    rw [Trace.eq_event step member, input, Trace.event, requestPreemption_first id generation auth first] at keeps
    exact keeps
  · intro renews
    have keeps : ∀ e ∈ traceOf s ops,
        e.pre.rt.authoritativeRequestGeneration.value ≤ e.post.rt.authoritativeRequestGeneration.value := by
      intro e member
      rcases sets e member with ⟨req, input, id, generation, auth, first, set⟩ | ⟨_, kept⟩
      · rw [set]
        exact renews e member req input id generation auth first
      · rw [kept]
        exact UInt64.le_refl _
    have chain := (Trace.trace_ascending step
      (R := fun u v => u.rt.authoritativeRequestGeneration.value ≤ v.rt.authoritativeRequestGeneration.value)
      (fun _ => UInt64.le_refl _) UInt64.le_trans keeps).2
    refine ⟨keeps, chain.imp_of_mem ?_⟩
    intro e e' member member' above req req' input accepts input' accepts'
    rcases sets e member with ⟨earlier, same, _, _, _, _, set⟩ | ⟨other, _⟩
    · rcases sets e' member' with ⟨later, same', id, generation, auth, first, _⟩ | ⟨other, _⟩
      · rw [input] at same
        rw [input'] at same'
        cases same
        cases same'
        rw [set] at above
        exact UInt64.le_trans above (renews e' member' _ input' id generation auth first)
      · exact absurd accepts' other
    · exact absurd accepts other

/-- Two attempts of one execution, with a request of the given generation in each. -/
def attemptOps (first second : PreemptionRequestGeneration) : List Op :=
  [.startExecution ⟨1⟩ ⟨1⟩ ⟨2⟩ ⟨1⟩ ⟨3⟩ ⟨1⟩ ⟨4⟩ ⟨5⟩, .requestPreemption { requestOf ⟨8⟩ with generation := first },
    .startExecution ⟨1⟩ ⟨1⟩ ⟨2⟩ ⟨1⟩ ⟨3⟩ ⟨2⟩ ⟨4⟩ ⟨5⟩,
    .requestPreemption { requestOf ⟨9⟩ with generation := second, attemptGeneration := ⟨2⟩ }]

theorem requestGeneration_ascends_renewed :
    GenerationsAscend (traceOf (.construct ⟨1⟩ ⟨1⟩ quietAdapters) (attemptOps ⟨5⟩ ⟨6⟩)) := by
  refine (requestGeneration_ascends_iff _ _ (by simp [attemptOps, Op.loads])).mpr ?_
  intro e member req input
  simp only [attemptOps, traceOf, Trace.trace, List.mem_cons, List.not_mem_nil, or_false] at member
  rcases member with rfl | rfl | rfl | rfl
  · cases input
  · cases input
    decide +kernel
  · cases input
  · cases input
    decide +kernel

/-- A request of generation 1 is accepted for the second attempt after one of generation 5 for the first. -/
theorem old_generation_accepted :
    (∀ op ∈ attemptOps ⟨5⟩ ⟨1⟩, op.loads = none) ∧
      ¬GenerationsAscend (traceOf (.construct ⟨1⟩ ⟨1⟩ quietAdapters) (attemptOps ⟨5⟩ ⟨1⟩)) := by
  refine ⟨by simp [attemptOps, Op.loads], fun ascend => ?_⟩
  have keeps := ascend.keeps (Trace.event step (run (.construct ⟨1⟩ ⟨1⟩ quietAdapters) ((attemptOps ⟨5⟩ ⟨1⟩).take 3))
    (.requestPreemption { requestOf ⟨9⟩ with attemptGeneration := ⟨2⟩ })) ?_
  · revert keeps
    decide +kernel
  · simp only [attemptOps, traceOf, Trace.trace]
    exact .tail _ (.tail _ (.tail _ (.head _)))

end PreemptionFabric
