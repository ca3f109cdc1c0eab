import PreemptionFabric.Theorems.Step

/-! Priority-inversion evidence along runs. It is judged by the policy that the runtime was constructed with and by the
    priority generation that was set last: no other operation, and no image that is loaded, has a say in it. -/

namespace PreemptionFabric

/-! ### What the evidence is judged by -/

/-- The priority generation after a step. -/
def Op.priority (g : PriorityGeneration) : Op → PriorityGeneration
  | .setPriorityGeneration g' => g'
  | _ => g

/-- The priority generation that was set last; a new runtime has an invalid one. -/
def lastPriority (ops : List Op) : PriorityGeneration := ops.foldl Op.priority {}

theorem Op.priority_of_loads {op : Op} {st : PersistentState} (image : op.loads = some st) (g : PriorityGeneration) :
    op.priority g = g := by
  cases op with
  | setPriorityGeneration g' => cases image
  | _ => rfl

theorem Op.priority_of_idle {op : Op} {r : Returned} (unsuccessful : ¬op.Succeeded r) (g : PriorityGeneration) :
    op.priority g = g := by
  cases op with
  | setPriorityGeneration g' => exact absurd trivial unsuccessful
  | _ => rfl

theorem Move.generations {u t : System} {op : Op} {r : Returned} (moved : Move u op r t) :
    t.rt.policyGeneration = u.rt.policyGeneration ∧
      t.rt.priorityGeneration = op.priority u.rt.priorityGeneration := by
  cases moved with
  | loaded r image =>
    rw [Op.priority_of_loads image]
    exact ⟨u.rt.restored_policyGeneration _, u.rt.restored_priorityGeneration _⟩
  | _ => exact ⟨rfl, rfl⟩

theorem step_generations (s : System) (op : Op) :
    (step s op).2.rt.policyGeneration = s.rt.policyGeneration ∧
      (step s op).2.rt.priorityGeneration = op.priority s.rt.priorityGeneration := by
  rcases step_cases s op with moved | ⟨same, unsuccessful⟩
  · exact moved.generations
  · rw [same, Op.priority_of_idle unsuccessful]
    exact ⟨rfl, rfl⟩

theorem run_generations (s : System) (ops : List Op) :
    (run s ops).rt.policyGeneration = s.rt.policyGeneration ∧
      (run s ops).rt.priorityGeneration = ops.foldl Op.priority s.rt.priorityGeneration := by
  induction ops generalizing s with
  | nil => exact ⟨rfl, rfl⟩
  | cons op ops ih =>
    obtain ⟨policy, priority⟩ := step_generations s op
    obtain ⟨later, last⟩ := ih (step s op).2
    rw [run_cons, later, last, policy, priority]
    exact ⟨rfl, rfl⟩

/-! ### The evidence -/

namespace PriorityInversionInput

/-- The input names a resource, its holder and the work that it blocks, under the policy in force. -/
structure Admissible (input : PriorityInversionInput) (policy : PolicyGeneration) : Prop where
  resource : input.resource ≠ .invalid
  holder : input.holderWorkload.isValid = true
  blocked : input.blockedWorkload.isValid = true
  policy : input.policyGeneration = policy

/-- The input was observed under the priority relationship `g`. -/
def CurrentAt (input : PriorityInversionInput) (g : PriorityGeneration) : Prop :=
  input.priorityGeneration.isValid = true ∧ input.priorityGeneration = g

/-- A safe preemption of the holder would help, as far as the caller knows. -/
structure Resolvable (input : PriorityInversionInput) : Prop where
  authoritative : input.holderAuthoritative = true
  preemptible : isConcretelyPreemptible input.holderPreemptibility = true
  provenance : input.provenance ≠ .unknown

end PriorityInversionInput

section
variable {s : System} {input : PriorityInversionInput}

/-- The guards of the assessment, in the order in which it makes them. -/
theorem assessment_cases (s : System) (input : PriorityInversionInput) :
    ¬input.Admissible s.rt.policyGeneration ∧ (s.priorityInversionAssessment input).ok = false ∧
        (s.priorityInversionAssessment input).stale = false ∨
      input.Admissible s.rt.policyGeneration ∧ ¬input.CurrentAt s.rt.priorityGeneration ∧
        (s.priorityInversionAssessment input).ok = false ∧ (s.priorityInversionAssessment input).stale = true ∨
      input.Admissible s.rt.policyGeneration ∧ input.CurrentAt s.rt.priorityGeneration ∧
        (s.priorityInversionAssessment input).ok = true ∧ (s.priorityInversionAssessment input).stale = false := by
  rw [System.priorityInversionAssessment]
  split
  next malformed =>
    refine .inl ⟨fun admissible => ?_, rfl, rfl⟩
    simp [admissible.resource, admissible.holder, admissible.blocked] at malformed
  next wellFormed =>
    simp only [Bool.or_eq_true, decide_eq_true_eq, Bool.not_eq_true', not_or, Bool.not_eq_false] at wellFormed
    obtain ⟨⟨resource, holder⟩, blocked⟩ := wellFormed
    split
    next other => exact .inl ⟨fun admissible => other admissible.policy, rfl, rfl⟩
    next policy =>
      have admissible : input.Admissible s.rt.policyGeneration := ⟨resource, holder, blocked, not_not.mp policy⟩
      split
      next old =>
        refine .inr (.inl ⟨admissible, fun current => ?_, rfl, rfl⟩)
        simp only [Bool.or_eq_true, decide_eq_true_eq, Bool.not_eq_true'] at old
        rcases old with invalid | other
        · rw [current.1] at invalid
          cases invalid
        · exact other current.2
      next current =>
        simp only [Bool.or_eq_true, decide_eq_true_eq, Bool.not_eq_true', not_or, Bool.not_eq_false,
          not_not] at current
        exact .inr (.inr ⟨admissible, current, rfl, rfl⟩)

theorem assessment_provenance (s : System) (input : PriorityInversionInput) :
    (s.priorityInversionAssessment input).provenance = input.provenance := by
  rw [System.priorityInversionAssessment]
  split_ifs <;> rfl

/-- What an admitted input comes to. -/
theorem assessment_resolves_iff (ok : (s.priorityInversionAssessment input).ok = true) :
    (s.priorityInversionAssessment input).resolution = .safePreemptionResolves ↔
      input.holderAuthoritative = true ∧ isConcretelyPreemptible input.holderPreemptibility = true := by
  rw [System.priorityInversionAssessment] at ok ⊢
  split at ok
  next => cases ok
  next wellFormed =>
    split at ok
    next => cases ok
    next policy =>
      split at ok
      next => cases ok
      next current =>
        rw [if_neg wellFormed, if_neg policy, if_neg current]
        cases held : input.holderAuthoritative with
        | false => simp
        | true =>
          cases class_eq : input.holderPreemptibility <;> simp [isUnknownPreemptibility, isConcretelyPreemptible]

end

/-- Along every run the evidence is stale exactly when it is admissible and was not observed under the priority
    generation set last, and a preemption is recommended exactly for current evidence of an inversion that a safe
    preemption would resolve. -/
theorem recommends_iff (epoch : CoordinatorEpoch) (policy : PolicyGeneration) (ad : ReferenceAdapters) (ops : List Op)
    (input : PriorityInversionInput) :
    (((run (.construct epoch policy ad) ops).priorityInversionAssessment input).stale = true ↔
        input.Admissible policy ∧ ¬input.CurrentAt (lastPriority ops)) ∧
      (((run (.construct epoch policy ad) ops).priorityInversionAssessment input).positiveRecommendation = true ↔
        input.Admissible policy ∧ input.CurrentAt (lastPriority ops) ∧ input.Resolvable) := by
  generalize reached : run (.construct epoch policy ad) ops = s
  obtain ⟨samePolicy, samePriority⟩ := run_generations (.construct epoch policy ad) ops
  rw [reached] at samePolicy samePriority
  have guards := assessment_cases s input
  rw [show s.rt.policyGeneration = policy from samePolicy,
    show s.rt.priorityGeneration = lastPriority ops from samePriority] at guards
  rw [PriorityInversionEvidence.positiveRecommendation, assessment_provenance]
  simp only [Bool.and_eq_true, Bool.not_eq_true', decide_eq_true_eq]
  rcases guards with ⟨malformed, ok, stale⟩ | ⟨admissible, old, ok, stale⟩ | ⟨admissible, current, ok, stale⟩
  · rw [ok, stale]
    simp [malformed]
  · rw [ok, stale]
    simp [admissible, old]
  · rw [assessment_resolves_iff ok, ok, stale]
    refine ⟨by simp [current], ?_⟩
    constructor
    · rintro ⟨⟨_, authoritative, preemptible⟩, provenance⟩
      exact ⟨admissible, current, authoritative, preemptible, provenance⟩
    · rintro ⟨_, _, resolvable⟩
      exact ⟨⟨⟨rfl, rfl⟩, resolvable.authoritative, resolvable.preemptible⟩, resolvable.provenance⟩

end PreemptionFabric
