import PreemptionFabric.Theorems.Saving

/-! Progress accounting. A runtime keeps the position reached and the durable one, with a generation for each; they
    are written by publications, by safe points that are reached and by recoveries, and by nothing else. A recovery
    installs the generation of the durable progress but not the counter it was taken from, so after a restart the
    generations start over. -/

namespace PreemptionFabric

/-! ### The progress of a runtime -/

/-- The progress that a runtime keeps. -/
@[ext] structure Progress where
  current : UInt64
  durable : UInt64
  generation : ProgressGeneration
  durableGeneration : ProgressGeneration

namespace Progress

def reaching (p : Progress) (position : UInt64) : Progress := { p with current := max p.current position }

def publishing (p : Progress) (position : UInt64) (kind : ProgressKind) : Progress where
  current := max p.current position
  durable := if kind = .durable then position else p.durable
  generation := p.generation.next
  durableGeneration := if kind = .durable then p.generation.next else p.durableGeneration

/-- The counter of the generations is not part of an image. -/
def loading (p : Progress) (st : PersistentState) : Progress where
  current := st.durableProgress
  durable := st.durableProgress
  generation := p.generation
  durableGeneration := st.progressGeneration

end Progress

def System.progress (s : System) : Progress :=
  ⟨s.rt.currentPosition, s.rt.durablePosition, s.rt.progressGeneration, s.rt.durableProgressGeneration⟩

section
variable {s u t : System} {op : Op} {r : Returned}

theorem restored_progress (s : System) (st : PersistentState) : (s.restored st).progress = s.progress.loading st := by
  simp only [System.restored, PreemptionRuntime.restored, System.progress, Progress.loading]
  split <;> rfl

/-- What a step makes of the progress. -/
theorem Move.progress (moved : Move u op r t) :
    t.progress = u.progress ∨
    (∃ id position captureRequired, op = .reachSafePoint id position captureRequired ∧
      t.progress = u.progress.reaching position) ∨
    (∃ position kind, op = .publishProgress position kind ∧ r = .ok (.bool true) ∧ u.holdsAuthority = true ∧
      u.rt.durablePosition ≤ position ∧ t.progress = u.progress.publishing position kind) ∨
    ∃ st, op.loads = some st ∧ t.progress = u.progress.loading st := by
  cases moved with
  | reach position captureRequired found => exact .inr (.inl ⟨_, position, captureRequired, rfl, rfl⟩)
  | publish kind auth forward => exact .inr (.inr (.inl ⟨_, kind, rfl, rfl, auth, forward, rfl⟩))
  | @loaded op st ret image => exact .inr (.inr (.inr ⟨st, image, restored_progress u st⟩))
  | _ => exact .inl rfl

end

/-! ### Positions -/

theorem le_max_position (a b : UInt64) : a ≤ max a b ∧ b ≤ max a b := by
  show a ≤ (if a ≤ b then b else a) ∧ b ≤ (if a ≤ b then b else a)
  split
  next le => exact ⟨le, UInt64.le_refl b⟩
  next gt => exact ⟨UInt64.le_refl a, UInt64.le_of_lt (UInt64.not_le.mp gt)⟩

section
variable {s u t : System} {op : Op} {r : Returned}

theorem Move.durable_le (moved : Move u op r t) (h : u.progress.durable ≤ u.progress.current) :
    t.progress.durable ≤ t.progress.current := by
  rcases moved.progress with same | ⟨_, position, _, _, reached⟩ | ⟨position, kind, _, _, _, _, published⟩ |
    ⟨st, _, loaded⟩
  · rw [same]
    exact h
  · rw [reached]
    exact UInt64.le_trans h (le_max_position _ position).1
  · rw [published]
    by_cases durable : kind = .durable
    · simp only [Progress.publishing, if_pos durable]
      exact (le_max_position _ position).2
    · simp only [Progress.publishing, if_neg durable]
      exact UInt64.le_trans h (le_max_position _ position).1
  · rw [loaded]
    exact UInt64.le_refl _

theorem Reachable.durable_le (reachable : Reachable s) : s.rt.durablePosition ≤ s.rt.currentPosition := by
  obtain ⟨epoch, policy, ad, ops, rfl⟩ := reachable
  have start : (System.construct epoch policy ad).progress.durable ≤ (System.construct epoch policy ad).progress.current :=
    UInt64.le_refl 0
  exact run_invariant (P := fun u => u.progress.durable ≤ u.progress.current) (G := fun _ => True) start
    (fun h _ moved => moved.durable_le h) ops fun _ _ => trivial

theorem assess_maxRollback (rt : PreemptionRuntime) (ad : ReferenceAdapters) :
    (rt.assess ad).plan.maxRollback =
      if rt.durablePosition < rt.currentPosition then rt.currentPosition - rt.durablePosition else 0 := by
  simp only [PreemptionRuntime.assess]
  split
  · split <;> rfl
  · rfl
  · split <;> rfl

/-- The rollback of the plan is the distance of the positions. -/
theorem maxRollback_add (h : s.rt.durablePosition ≤ s.rt.currentPosition) :
    (s.rt.assess s.ad).plan.maxRollback.toNat + s.rt.durablePosition.toNat = s.rt.currentPosition.toNat := by
  rw [assess_maxRollback]
  split
  next => rw [UInt64.toNat_sub_of_le _ _ h, Nat.sub_add_cancel (UInt64.le_iff_toNat_le.mp h)]
  next level =>
    have same : s.rt.currentPosition = s.rt.durablePosition := UInt64.le_antisymm (UInt64.not_lt.mp level) h
    rw [same]
    exact Nat.zero_add _

/-- What a step without a recovery may do to the positions: they do not decrease, a durable publication that is
    accepted sets the durable one and nothing else changes it, and only the authoritative attempt publishes. -/
structure AccountsProgress (e : Event) : Prop where
  current : e.pre.rt.currentPosition ≤ e.post.rt.currentPosition
  durable : e.pre.rt.durablePosition ≤ e.post.rt.durablePosition
  changed : e.post.rt.durablePosition ≠ e.pre.rt.durablePosition →
    ∃ position, e.input = .publishProgress position .durable ∧ e.output = .ok (.bool true)
  published : ∀ position, e.input = .publishProgress position .durable → e.output = .ok (.bool true) →
    e.post.rt.durablePosition = position
  authorized : ∀ position kind, e.input = .publishProgress position kind → e.output = .ok (.bool true) →
    e.pre.holdsAuthority = true

/-- A step that publishes nothing keeps the durable position, and advances the current one at most. -/
theorem AccountsProgress.quiet (other : ∀ position kind, op = .publishProgress position kind → r ≠ .ok (.bool true))
    (current : u.rt.currentPosition ≤ t.rt.currentPosition) (durable : t.rt.durablePosition = u.rt.durablePosition) :
    AccountsProgress ⟨u, op, r, t⟩ where
  current := current
  durable := durable ▸ UInt64.le_refl _
  changed := fun changed => absurd durable changed
  published := fun position input output => absurd output (other position .durable input)
  authorized := fun position kind input output => absurd output (other position kind input)

theorem publishProgress_accounts (s : System) (position : UInt64) (kind : ProgressKind) :
    AccountsProgress (Trace.event step s (.publishProgress position kind)) := by
  rw [Trace.event, publishProgress_step]
  split
  next accepted =>
    obtain ⟨auth, forward⟩ := accepted
    have set : (s.published position kind).rt.durablePosition =
      if kind = .durable then position else s.rt.durablePosition := rfl
    refine ⟨(le_max_position _ position).1, ?_, ?_, ?_, fun _ _ _ _ => auth⟩
    · show s.rt.durablePosition ≤ (s.published position kind).rt.durablePosition
      rw [set]
      split
      · exact forward
      · exact UInt64.le_refl _
    · intro changed
      refine ⟨position, ?_, rfl⟩
      by_cases durable : kind = .durable
      · rw [durable]
      · exact absurd (set.trans (if_neg durable)) changed
    · intro position' input _
      cases input
      rfl
  next refused =>
    refine .quiet (fun _ _ _ accepted => ?_) (UInt64.le_refl _) rfl
    cases accepted

theorem step_accountsProgress (s : System) (op : Op) (scope : op.loads = none) :
    AccountsProgress (Trace.event step s op) := by
  by_cases publishes : ∃ position kind, op = .publishProgress position kind
  · obtain ⟨position, kind, rfl⟩ := publishes
    exact publishProgress_accounts s position kind
  · have other : ∀ position kind, op = .publishProgress position kind → (step s op).1 ≠ .ok (.bool true) :=
      fun position kind input => absurd ⟨position, kind, input⟩ publishes
    rcases step_cases s op with moved | ⟨same, _⟩
    · rcases moved.progress with kept | ⟨_, position, _, _, reached⟩ | ⟨position, kind, input, _⟩ | ⟨st, image, _⟩
      · have current := congrArg Progress.current kept
        exact .quiet other (UInt64.le_of_eq current.symm) (congrArg Progress.durable kept)
      · have current : (step s op).2.rt.currentPosition = max s.rt.currentPosition position :=
          congrArg Progress.current reached
        refine .quiet other ?_ (congrArg Progress.durable reached)
        rw [current]
        exact (le_max_position _ position).1
      · exact absurd ⟨position, kind, input⟩ publishes
      · rw [image] at scope
        cases scope
    · rw [Trace.event, same]
      exact .quiet other (UInt64.le_refl _) rfl

end

/-- In every reachable state, recoveries included, the rollback of the plan is the distance of the positions; and in
    every run without recovery the positions advance as they should. -/
theorem progress_accounting :
    (∀ s, Reachable s → s.rt.durablePosition ≤ s.rt.currentPosition ∧
      (s.rt.assess s.ad).plan.maxRollback.toNat + s.rt.durablePosition.toNat = s.rt.currentPosition.toNat) ∧
    ∀ s ops, (∀ op ∈ ops, op.loads = none) → ∀ e ∈ traceOf s ops, AccountsProgress e := by
  constructor
  · intro s reachable
    exact ⟨reachable.durable_le, maxRollback_add reachable.durable_le⟩
  · intro s ops fresh
    exact Trace.trace_forall step (G := fun e => e.input.loads = none) step_accountsProgress (trace_loads_none fresh)

/-- A start, a publication, and a safe point that lies ahead of it. -/
def advanceOps : List Op :=
  [.startExecution ⟨1⟩ ⟨1⟩ ⟨2⟩ ⟨1⟩ ⟨3⟩ ⟨1⟩ ⟨4⟩ ⟨5⟩, .publishProgress 10 .durable, .declareSafePoint { id := ⟨7⟩ },
    .reachSafePoint ⟨7⟩ 25 false]

theorem progress_accounting_ahead :
    (((systemAfter advanceOps).rt.assess (systemAfter advanceOps).ad).plan.maxRollback.toNat +
        (systemAfter advanceOps).rt.durablePosition.toNat = (systemAfter advanceOps).rt.currentPosition.toNat) ∧
      ∀ e ∈ traceOf (.construct ⟨1⟩ ⟨1⟩ quietAdapters) advanceOps, AccountsProgress e := by
  constructor
  · exact (progress_accounting.1 (systemAfter advanceOps) ⟨_, _, _, _, rfl⟩).2
  · exact progress_accounting.2 _ advanceOps (by simp [advanceOps, Op.loads])

/-! ### Generations across restarts -/

/-- A step of a service: an operation, or a restart, which saves the runtime and loads the bytes into a newly
    constructed one. -/
inductive ServiceStep
  | op (op : Op)
  | restart (epoch : CoordinatorEpoch) (policy : PolicyGeneration) (ad : ReferenceAdapters)

def serviceStep (s : System) : ServiceStep → Returned × System
  | .op op => step s op
  | .restart epoch policy ad => step (.construct epoch policy ad) (.restoreBytes s.persistBytes)

abbrev ServiceEvent := Trace.Event System ServiceStep Returned

/-- No image is installed but at a restart, and there the bytes are accepted. -/
def ServiceEvent.Admitted (e : ServiceEvent) : Prop :=
  match e.input with
  | .op op => op.loads = none
  | .restart .. => e.output = .ok (.bool true)

/-- A durable publication that was accepted. -/
def ServiceEvent.PublishesDurable (e : ServiceEvent) : Prop :=
  ∃ position, e.input = .op (.publishProgress position .durable) ∧ e.output = .ok (.bool true)

/-- The progress generation that a snapshot records. -/
def System.recorded (s : System) : UInt64 := s.rt.snapshot.progressGeneration.value

/-- The recorded generation never decreases, and every durable publication exceeds all that were recorded before it,
    short of the greatest generation there is. -/
structure Advancing (tr : List ServiceEvent) : Prop where
  keeps : ∀ e ∈ tr, e.pre.recorded ≤ e.post.recorded
  exceeds : ∀ before e rest, tr = before ++ e :: rest → e.PublishesDurable →
    ∀ e' ∈ before ++ [e], e'.pre.recorded < maxValue → e'.pre.recorded < e.post.recorded

/-- The counter of the generations has caught up with the generation of the durable progress, or is about to end. -/
def System.CaughtUp (s : System) : Prop :=
  s.rt.durableProgressGeneration.value ≤ s.rt.progressGeneration.value ∨ maxValue - 1 ≤ s.rt.progressGeneration.value

section
variable {s u t : System} {e : ServiceEvent}

/-- A durable publication that is accepted records the successor of the counter. -/
theorem recorded_published {position : UInt64}
    (accepted : (step s (.publishProgress position .durable)).1 = .ok (.bool true)) :
    (step s (.publishProgress position .durable)).2.recorded = s.rt.progressGeneration.next.value := by
  rw [publishProgress_step] at accepted ⊢
  split
  next => rfl
  next refused =>
    rw [if_neg refused] at accepted
    cases accepted

theorem recorded_step {op : Op} (scope : op.loads = none)
    (other : ¬∃ position, op = .publishProgress position .durable ∧ (step s op).1 = .ok (.bool true)) :
    (step s op).2.recorded = s.recorded := by
  rcases step_cases s op with moved | ⟨same, _⟩
  · rcases moved.progress with kept | ⟨_, _, _, _, reached⟩ | ⟨position, kind, input, output, _, _, published⟩ |
      ⟨st, image, _⟩
    · exact congrArg (fun p => p.durableGeneration.value) kept
    · exact congrArg (fun p => p.durableGeneration.value) reached
    · have transient : kind ≠ .durable := by
        rintro rfl
        exact other ⟨position, input, output⟩
      refine (congrArg (fun p => p.durableGeneration.value) published).trans ?_
      simp only [Progress.publishing, if_neg transient]
      rfl
    · rw [image] at scope
      cases scope
  · rw [same]

theorem admitted_of_loaded {epoch : CoordinatorEpoch} {policy : PolicyGeneration} {ad : ReferenceAdapters}
    (loaded : (serviceStep s (.restart epoch policy ad)).1 = .ok (.bool true)) :
    ServiceEvent.Admitted (Trace.event serviceStep s (.restart epoch policy ad)) := loaded

theorem recorded_restart {epoch : CoordinatorEpoch} {policy : PolicyGeneration} {ad : ReferenceAdapters}
    (loaded : (serviceStep s (.restart epoch policy ad)).1 = .ok (.bool true)) :
    (serviceStep s (.restart epoch policy ad)).2.recorded = s.recorded := by
  rw [serviceStep] at loaded ⊢
  cases accepted : decode s.persistBytes with
  | error e =>
    rw [restoreBytes_rejected accepted] at loaded
    cases loaded
  | ok st =>
    rw [restoreBytes_step accepted, eq_snapshot_of_decode accepted]
    exact congrArg (fun p => p.durableGeneration.value) (restored_progress _ _)

/-- What an event of a service records: a durable publication the successor of the counter, anything else nothing. -/
def ServiceEvent.Records (e : ServiceEvent) : Prop :=
  e.PublishesDurable ∧ e.post.recorded = e.pre.rt.progressGeneration.next.value ∨
    ¬e.PublishesDurable ∧ e.post.recorded = e.pre.recorded

theorem recorded_event (s : System) (i : ServiceStep) (admitted : ServiceEvent.Admitted (Trace.event serviceStep s i)) :
    ServiceEvent.Records (Trace.event serviceStep s i) := by
  by_cases publishes : ServiceEvent.PublishesDurable (Trace.event serviceStep s i)
  · obtain ⟨position, input, accepted⟩ := id publishes
    have publication : i = .op (.publishProgress position .durable) := input
    subst publication
    exact .inl ⟨publishes, recorded_published accepted⟩
  · refine .inr ⟨publishes, ?_⟩
    cases i with
    | op op =>
      refine recorded_step admitted ?_
      rintro ⟨position, rfl, accepted⟩
      exact publishes ⟨position, rfl, accepted⟩
    | restart epoch policy ad => exact recorded_restart admitted

theorem caughtUp_iff (s : System) :
    s.CaughtUp ↔ s.recorded ≤ s.rt.progressGeneration.next.value ∧
      (s.recorded < maxValue → s.recorded < s.rt.progressGeneration.next.value) := by
  have next := Generation.next_value s.rt.progressGeneration
  have bound := s.rt.progressGeneration.value.toNat_lt
  have bound' := s.rt.durableProgressGeneration.value.toNat_lt
  have top : maxValue.toNat = 2 ^ 64 - 1 := rfl
  have below : (maxValue - 1).toNat = 2 ^ 64 - 2 := rfl
  simp only [System.CaughtUp, System.recorded, PreemptionRuntime.snapshot, UInt64.le_iff_toNat_le,
    UInt64.lt_iff_toNat_lt]
  omega

end

/-- In a service with restarts the recorded generation advances exactly when every durable publication that is
    accepted finds the counter of its runtime caught up with the durable progress. -/
theorem progressGeneration_advancing_iff (s : System) (steps : List ServiceStep)
    (admitted : ∀ e ∈ Trace.trace serviceStep s steps, ServiceEvent.Admitted e) :
    Advancing (Trace.trace serviceStep s steps) ↔
      ∀ e ∈ Trace.trace serviceStep s steps, ServiceEvent.PublishesDurable e → e.pre.CaughtUp := by
  have records := Trace.trace_forall serviceStep (Q := ServiceEvent.Records) recorded_event admitted
  constructor
  · intro advancing e member publishes
    obtain ⟨before, rest, split⟩ := List.append_of_mem member
    have exceeds := advancing.exceeds before e rest split publishes e (by simp)
    have keeps := advancing.keeps e member
    rcases records e member with ⟨_, published⟩ | ⟨other, _⟩
    · rw [published] at exceeds keeps
      exact (caughtUp_iff e.pre).mpr ⟨keeps, exceeds⟩
    · exact absurd publishes other
  · intro caughtUp
    have keeps : ∀ e ∈ Trace.trace serviceStep s steps, e.pre.recorded ≤ e.post.recorded := by
      intro e member
      rcases records e member with ⟨publishes, published⟩ | ⟨_, kept⟩
      · rw [published]
        exact ((caughtUp_iff e.pre).mp (caughtUp e member publishes)).1
      · exact UInt64.le_of_eq kept.symm
    have chain := (Trace.trace_ascending serviceStep (R := fun u v => u.recorded ≤ v.recorded)
      (fun u => UInt64.le_refl u.recorded) UInt64.le_trans keeps).2
    refine ⟨keeps, fun before e rest split publishes => ?_⟩
    have member : e ∈ Trace.trace serviceStep s steps := by
      rw [split]
      simp
    have exceeds : e.pre.recorded < maxValue → e.pre.recorded < e.post.recorded := by
      rcases records e member with ⟨_, published⟩ | ⟨other, _⟩
      · rw [published]
        exact ((caughtUp_iff e.pre).mp (caughtUp e member publishes)).2
      · exact absurd publishes other
    intro e' earlier short
    -- Everything recorded earlier is at most what stands before the publication.
    have least : e'.pre.recorded ≤ e.pre.recorded := by
      rcases List.mem_append.mp earlier with before' | last
      · have started : e' ∈ Trace.trace serviceStep s steps := by
          rw [split]
          exact List.mem_append_left _ before'
        rw [split] at chain
        have after := (List.pairwise_append.mp chain).2.2 e' before' e List.mem_cons_self
        exact UInt64.le_trans (keeps e' started) after
      · rw [List.mem_singleton.mp last]
        exact UInt64.le_refl _
    by_cases full : e.pre.recorded < maxValue
    · exact UInt64.lt_of_le_of_lt least (exceeds full)
    · exact UInt64.lt_of_lt_of_le short (UInt64.le_trans (UInt64.not_lt.mp full) (keeps e member))

/-- An execution with two durable publications. -/
def publishedSystem : System :=
  systemAfter [.startExecution ⟨1⟩ ⟨1⟩ ⟨2⟩ ⟨1⟩ ⟨3⟩ ⟨1⟩ ⟨4⟩ ⟨5⟩, .publishProgress 10 .durable, .publishProgress 20 .durable]

def restartedSystem : System := (System.construct ⟨2⟩ ⟨1⟩ {}).restored publishedSystem.rt.snapshot

theorem restart_published :
    serviceStep publishedSystem (.restart ⟨2⟩ ⟨1⟩ {}) = (.ok (.bool true), restartedSystem) := by
  have fits : (encodePayload publishedSystem.rt.snapshot).length < 2 ^ 32 := by
    rw [length_encodePayload]
    decide +kernel
  have valid : validateState publishedSystem.rt.snapshot.versioned = .ok := by decide +kernel
  have accepted : decode publishedSystem.persistBytes = .ok publishedSystem.rt.snapshot.versioned :=
    decode_encode_of_valid fits valid
  rw [serviceStep, restoreBytes_step accepted]
  rfl

def catchUpSteps : List ServiceStep :=
  [.restart ⟨2⟩ ⟨1⟩ {}, .op (.publishProgress 21 .attempted), .op (.publishProgress 22 .attempted),
    .op (.publishProgress 30 .durable)]

theorem trace_restart (steps : List ServiceStep) :
    Trace.trace serviceStep publishedSystem (.restart ⟨2⟩ ⟨1⟩ {} :: steps) =
      Trace.event serviceStep publishedSystem (.restart ⟨2⟩ ⟨1⟩ {}) :: Trace.trace serviceStep restartedSystem steps := by
  rw [Trace.trace, restart_published]

theorem admitted_restart {steps : List ServiceStep}
    (later : ∀ e ∈ Trace.trace serviceStep restartedSystem steps, ServiceEvent.Admitted e) :
    ∀ e ∈ Trace.trace serviceStep publishedSystem (.restart ⟨2⟩ ⟨1⟩ {} :: steps), ServiceEvent.Admitted e := by
  rw [trace_restart]
  intro e member
  rcases List.mem_cons.mp member with rfl | member
  · exact admitted_of_loaded (by rw [restart_published])
  · exact later e member

/-- After a restart two more publications let the counter catch up. -/
theorem progressGeneration_advancing_caughtUp :
    Advancing (Trace.trace serviceStep publishedSystem catchUpSteps) := by
  refine (progressGeneration_advancing_iff publishedSystem catchUpSteps (admitted_restart ?_)).mpr ?_
  · intro e member
    simp only [Trace.trace, List.mem_cons, List.not_mem_nil, or_false] at member
    rcases member with rfl | rfl | rfl
    · rfl
    · rfl
    · rfl
  · rw [catchUpSteps, trace_restart]
    intro e member publishes
    obtain ⟨position, input, _⟩ := publishes
    simp only [Trace.trace, List.mem_cons, List.not_mem_nil, or_false] at member
    rcases member with rfl | rfl | rfl | rfl
    · cases input
    · cases input
    · cases input
    · left
      decide +kernel

/-- The first durable publication after a restart records a generation that is behind the one saved. -/
theorem restarted_generation_goes_back :
    let steps : List ServiceStep := [.restart ⟨2⟩ ⟨1⟩ {}, .op (.publishProgress 30 .durable)]
    Reachable publishedSystem ∧
      (∀ e ∈ Trace.trace serviceStep publishedSystem steps, ServiceEvent.Admitted e) ∧
      publishedSystem.recorded = 2 ∧ (Trace.exec serviceStep publishedSystem steps).recorded = 1 ∧
      ¬Advancing (Trace.trace serviceStep publishedSystem steps) := by
  intro steps
  have before : restartedSystem.recorded = 2 := by decide +kernel
  have after : (serviceStep restartedSystem (.op (.publishProgress 30 .durable))).2.recorded = 1 := by decide +kernel
  refine ⟨⟨_, _, _, _, rfl⟩, admitted_restart ?_, by decide +kernel, ?_, ?_⟩
  · intro e member
    rw [List.mem_singleton.mp member]
    rfl
  · simp only [steps, Trace.exec, restart_published]
    exact after
  · intro advancing
    have keeps := advancing.keeps (Trace.event serviceStep restartedSystem (.op (.publishProgress 30 .durable)))
    rw [trace_restart] at keeps
    have backward := keeps (by simp [Trace.trace])
    rw [Trace.event, before, after] at backward
    exact absurd backward (by decide)

end PreemptionFabric
