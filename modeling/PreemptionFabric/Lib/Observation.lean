import PreemptionFabric.Lib.Trace

/-! Telling states apart by what a machine returns. Two states are indistinguishable when no run of admitted inputs
    returns different results from them; a bisimulation proves it. For machines whose steps are actions that may
    throw, `Respects` relates two actions run from related states, with a rule for each way to build one. -/

namespace Observation

section Machines
variable {σ ι ο : Type} (step : σ → ι → ο × σ) (admitted : ι → Prop)

/-- What a run returns, step by step. -/
def outputs (s : σ) (is : List ι) : List ο := (Trace.trace step s is).map (·.output)

def Indistinguishable (s t : σ) : Prop := ∀ is, (∀ i ∈ is, admitted i) → outputs step s is = outputs step t is

variable {step admitted} {s t : σ} {i : ι}

theorem outputs_cons (s : σ) (i : ι) (is : List ι) :
    outputs step s (i :: is) = (step s i).1 :: outputs step (step s i).2 is := rfl

theorem Indistinguishable.output (h : Indistinguishable step admitted s t) (hi : admitted i) :
    (step s i).1 = (step t i).1 := by
  have one := h [i] (by simpa using hi)
  exact (List.cons.inj one).1

theorem Indistinguishable.next (h : Indistinguishable step admitted s t) (hi : admitted i) :
    Indistinguishable step admitted (step s i).2 (step t i).2 := by
  intro is his
  have run := h (i :: is) (List.forall_mem_cons.mpr ⟨hi, his⟩)
  exact (List.cons.inj run).2

/-- A relation that every admitted input keeps, returning the same on both sides, relates indistinguishable states. -/
theorem indistinguishable_of_bisimulation {R : σ → σ → Prop}
    (hR : ∀ {s t i}, R s t → admitted i → (step s i).1 = (step t i).1 ∧ R (step s i).2 (step t i).2) (h : R s t) :
    Indistinguishable step admitted s t := by
  intro is his
  induction is generalizing s t with
  | nil => rfl
  | cons i is ih =>
    obtain ⟨hi, his⟩ := List.forall_mem_cons.mp his
    obtain ⟨same, kept⟩ := hR h hi
    rw [outputs_cons, outputs_cons, same, ih kept his]

end Machines

/-! ### Actions that may throw -/

section Actions
variable {σ ε α β : Type} {R : σ → σ → Prop} {a b : ExceptT ε (StateM σ) α}

/-- From related states the actions return or throw the same, and leave related states. -/
def Respects (R : σ → σ → Prop) (a b : ExceptT ε (StateM σ) α) : Prop :=
  ∀ s t, R s t → (a s).1 = (b t).1 ∧ R (a s).2 (b t).2

theorem Respects.pure (x : α) : Respects R (Pure.pure x : ExceptT ε (StateM σ) α) (Pure.pure x) :=
  fun _ _ h => ⟨rfl, h⟩

theorem Respects.throw (e : ε) :
    Respects R (MonadExcept.throw e : ExceptT ε (StateM σ) α) (MonadExcept.throw e) :=
  fun _ _ h => ⟨rfl, h⟩

/-- What both sides return is passed on; where both throw, nothing follows. -/
theorem Respects.bind {f g : α → ExceptT ε (StateM σ) β} (hab : Respects R a b)
    (hfg : ∀ x, Respects R (f x) (g x)) : Respects R (a >>= f) (b >>= g) := by
  intro s t h
  obtain ⟨same, kept⟩ := hab s t h
  show ((ExceptT.bind a f : ExceptT ε (StateM σ) β) s).1 = ((ExceptT.bind b g : ExceptT ε (StateM σ) β) t).1 ∧
    R ((ExceptT.bind a f : ExceptT ε (StateM σ) β) s).2 ((ExceptT.bind b g : ExceptT ε (StateM σ) β) t).2
  simp only [ExceptT.bind, ExceptT.mk, Bind.bind, StateT.bind]
  rcases left : a s with ⟨r, s'⟩
  rcases right : b t with ⟨r', t'⟩
  rw [left, right] at same kept
  have equal : r = r' := same
  subst equal
  cases r with
  | error e => exact ⟨rfl, kept⟩
  | ok x => exact hfg x s' t' kept

theorem Respects.ite {c : Prop} [Decidable c] {a' b' : ExceptT ε (StateM σ) α} (hab : Respects R a b)
    (hab' : Respects R a' b') : Respects R (if c then a else a') (if c then b else b') := by
  split
  · exact hab
  · exact hab'

end Actions

end Observation
