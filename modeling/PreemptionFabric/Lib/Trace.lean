import Mathlib.Data.List.Induction

/-! Runs of a deterministic machine and what their traces show. A machine is a step function from a state and
    an input to an output and a next state; the trace of a run lists its events. `history_induction` proves
    a relation between the trace so far and the state reached; `After`, `Since` and `InOrder` say where in a
    trace evidence stands. -/

namespace Trace

/-- One step of a run: the state before it, its input, its output and the state after it. -/
structure Event (σ ι ο : Type) where
  pre : σ
  input : ι
  output : ο
  post : σ

section Runs
variable {σ ι ο : Type} (step : σ → ι → ο × σ)

def event (s : σ) (i : ι) : Event σ ι ο := ⟨s, i, (step s i).1, (step s i).2⟩

def exec (s : σ) : List ι → σ
  | [] => s
  | i :: is => exec (step s i).2 is

def trace (s : σ) : List ι → List (Event σ ι ο)
  | [] => []
  | i :: is => event step s i :: trace (step s i).2 is

theorem exec_append (s : σ) (is js : List ι) : exec step s (is ++ js) = exec step (exec step s is) js := by
  induction is generalizing s with
  | nil => rfl
  | cons i is ih => exact ih (step s i).2

theorem trace_append (s : σ) (is js : List ι) :
    trace step s (is ++ js) = trace step s is ++ trace step (exec step s is) js := by
  induction is generalizing s with
  | nil => rfl
  | cons i is ih => exact congrArg (event step s i :: ·) (ih (step s i).2)

theorem input_mem {s : σ} {is : List ι} {e : Event σ ι ο} (h : e ∈ trace step s is) : e.input ∈ is := by
  induction is generalizing s with
  | nil => cases h
  | cons i is ih =>
    rcases List.mem_cons.mp h with rfl | h
    · exact List.mem_cons_self
    · exact List.mem_cons_of_mem i (ih h)

theorem eq_event {s : σ} {is : List ι} {e : Event σ ι ο} (h : e ∈ trace step s is) : e = event step e.pre e.input := by
  induction is generalizing s with
  | nil => cases h
  | cons i is ih =>
    rcases List.mem_cons.mp h with rfl | h
    · rfl
    · exact ih h

theorem event_mem (s : σ) (is : List ι) (i : ι) : event step (exec step s is) i ∈ trace step s (is ++ [i]) := by
  rw [trace_append]
  exact List.mem_append_right _ List.mem_cons_self

/-- What holds of every step that `G` admits holds of every event of a run whose steps `G` admits. -/
theorem trace_forall {G Q : Event σ ι ο → Prop} (hstep : ∀ u i, G (event step u i) → Q (event step u i)) {s : σ}
    {is : List ι} (hG : ∀ e ∈ trace step s is, G e) : ∀ e ∈ trace step s is, Q e := by
  intro e member
  have admitted := hG e member
  rw [eq_event step member] at admitted ⊢
  exact hstep e.pre e.input admitted

/-- A relation between the trace so far and the state, kept by every step that `G` admits, holds after
    every run whose steps `G` admits. -/
theorem history_induction {P : List (Event σ ι ο) → σ → Prop} {G : Event σ ι ο → Prop} {s : σ} (h0 : P [] s)
    (hstep : ∀ tr u i, P tr u → G (event step u i) → P (tr ++ [event step u i]) (step u i).2) (is : List ι)
    (hG : ∀ e ∈ trace step s is, G e) : P (trace step s is) (exec step s is) := by
  induction is using List.reverseRecOn with
  | nil => exact h0
  | append_singleton is i ih =>
    rw [trace_append] at hG ⊢
    rw [exec_append]
    have hpre := ih fun e he => hG e (List.mem_append_left _ he)
    have hlast : G (event step (exec step s is) i) := hG _ (List.mem_append_right _ List.mem_cons_self)
    exact hstep _ _ i hpre hlast

/-- What holds before every step of a run holds of every event: `P` is kept, and `Q` follows from it. -/
theorem trace_induction {P : σ → Prop} {G Q : Event σ ι ο → Prop} {s : σ} (h0 : P s)
    (hstep : ∀ u i, P u → G (event step u i) → P (step u i).2 ∧ Q (event step u i)) (is : List ι)
    (hG : ∀ e ∈ trace step s is, G e) : P (exec step s is) ∧ ∀ e ∈ trace step s is, Q e := by
  refine history_induction step (P := fun tr u => P u ∧ ∀ e ∈ tr, Q e) ⟨h0, by simp⟩ ?_ is hG
  rintro tr u i ⟨hu, htr⟩ hi
  obtain ⟨hp, hq⟩ := hstep u i hu hi
  refine ⟨hp, fun e he => ?_⟩
  rcases List.mem_append.mp he with he | he
  · exact htr e he
  · rw [List.mem_singleton.mp he]
    exact hq

/-- Two properties of events that agree wherever `P` holds before the step, and that both keep `P`, hold of the same
    runs. -/
theorem trace_forall_iff {P : σ → Prop} {G Q Q' : Event σ ι ο → Prop} {s : σ} (h0 : P s)
    (hstep : ∀ u i, P u → G (event step u i) → (Q (event step u i) ↔ Q' (event step u i)))
    (hkeep : ∀ u i, P u → G (event step u i) → Q' (event step u i) → P (step u i).2) (is : List ι)
    (hG : ∀ e ∈ trace step s is, G e) : (∀ e ∈ trace step s is, Q e) ↔ ∀ e ∈ trace step s is, Q' e := by
  induction is generalizing s with
  | nil => simp [trace]
  | cons i is ih =>
    have guard := hG _ List.mem_cons_self
    have first := hstep s i h0 guard
    simp only [trace, List.forall_mem_cons, first, and_congr_right_iff]
    exact fun kept => ih (hkeep s i h0 guard kept) fun e later => hG e (List.mem_cons_of_mem _ later)

/-- When every event of a run ascends in a preorder on the states, so does the run: every event starts above the
    start of the run, and above the end of every event before it. -/
theorem trace_ascending {R : σ → σ → Prop} (refl : ∀ u, R u u) (trans : ∀ {u v w}, R u v → R v w → R u w) {s : σ}
    {is : List ι} (ascends : ∀ e ∈ trace step s is, R e.pre e.post) :
    (∀ e ∈ trace step s is, R s e.pre) ∧ (trace step s is).Pairwise fun e e' => R e.post e'.pre := by
  induction is generalizing s with
  | nil => exact ⟨by simp [trace], List.Pairwise.nil⟩
  | cons i is ih =>
    have first : R s (step s i).2 := ascends _ List.mem_cons_self
    obtain ⟨above, chain⟩ := ih fun e later => ascends e (List.mem_cons_of_mem _ later)
    refine ⟨fun e member => ?_, List.Pairwise.cons above chain⟩
    rcases List.mem_cons.mp member with rfl | later
    · exact refl s
    · exact trans first (above e later)

/-- Such a run ends above its start. -/
theorem exec_ascending {R : σ → σ → Prop} (refl : ∀ u, R u u) (trans : ∀ {u v w}, R u v → R v w → R u w) {s : σ}
    {is : List ι} (ascends : ∀ e ∈ trace step s is, R e.pre e.post) : R s (exec step s is) := by
  induction is generalizing s with
  | nil => exact refl s
  | cons i is ih =>
    have first : R s (step s i).2 := ascends _ List.mem_cons_self
    exact trans first (ih fun e later => ascends e (List.mem_cons_of_mem _ later))

/-- A machine that another one matches step by step, as far as `f` shows of its outputs, is matched by it over every
    run. -/
theorem simulation {τ ο' : Type} {step' : τ → ι → ο' × τ} {R : σ → τ → Prop} (f : ο → ο')
    (hstep : ∀ {u v} i, R u v → f (step u i).1 = (step' v i).1 ∧ R (step u i).2 (step' v i).2) {s : σ} {t : τ}
    (h0 : R s t) (is : List ι) :
    (trace step s is).map (fun e => f e.output) = (trace step' t is).map Event.output ∧
      R (exec step s is) (exec step' t is) := by
  induction is generalizing s t with
  | nil => exact ⟨rfl, h0⟩
  | cons i is ih =>
    obtain ⟨shown, related⟩ := hstep i h0
    obtain ⟨later, ended⟩ := ih related
    refine ⟨?_, ended⟩
    rw [trace, trace, List.map_cons, List.map_cons, later]
    exact congrArg (· :: _) shown

end Runs

/-! ### Evidence in a trace -/

section Evidence
variable {ε : Type} {p : ε → Prop} {q q' : ε → List ε → Prop} {tr tr' : List ε} {e : ε}

/-- Some `p` occurs in the trace, and what follows it satisfies `q`. -/
def After (p : ε → Prop) (q : ε → List ε → Prop) (tr : List ε) : Prop :=
  ∃ before e rest, tr = before ++ e :: rest ∧ p e ∧ q e rest

/-- Some `p` occurs in the trace, and what follows its last occurrence satisfies `q`. -/
def Since (p : ε → Prop) (q : ε → List ε → Prop) (tr : List ε) : Prop :=
  After p (fun e rest => (∀ x ∈ rest, ¬p x) ∧ q e rest) tr

/-- The trace holds events of the given kinds, in the given order. -/
def InOrder : List (ε → Prop) → List ε → Prop
  | [], _ => True
  | p :: ps, tr => After p (fun _ rest => InOrder ps rest) tr

theorem After.mono (hq : ∀ e rest, p e → q e rest → q' e rest) (h : After p q tr) : After p q' tr := by
  obtain ⟨before, e, rest, htr, hp, hrest⟩ := h
  exact ⟨before, e, rest, htr, hp, hq e rest hp hrest⟩

theorem After.last (hp : p e) (hq : q e []) : After p q (tr ++ [e]) := ⟨tr, e, [], rfl, hp, hq⟩

theorem After.append (hq : ∀ x rest, p x → q x rest → q' x (rest ++ tr')) (h : After p q tr) :
    After p q' (tr ++ tr') := by
  obtain ⟨before, x, rest, rfl, hp, hrest⟩ := h
  exact ⟨before, x, rest ++ tr', by simp, hp, hq x rest hp hrest⟩

theorem Since.last (hp : p e) (hq : q e []) : Since p q (tr ++ [e]) := After.last hp ⟨by simp, hq⟩

theorem Since.mono (hq : ∀ e rest, p e → q e rest → q' e rest) (h : Since p q tr) : Since p q' tr :=
  After.mono (fun e rest hp hr => ⟨hr.1, hq e rest hp hr.2⟩) h

/-- An event that is not a `p` extends what follows the last one. -/
theorem Since.snoc (hp : ¬p e) (hq : ∀ x rest, p x → q x rest → q' x (rest ++ [e])) (h : Since p q tr) :
    Since p q' (tr ++ [e]) := by
  refine After.append (fun x rest hx hr => ⟨fun y hy => ?_, hq x rest hx hr.2⟩) h
  rcases List.mem_append.mp hy with hy | hy
  · exact hr.1 y hy
  · rw [List.mem_singleton.mp hy]
    exact hp

theorem InOrder.append {ps : List (ε → Prop)} (h : InOrder ps tr) (tr' : List ε) : InOrder ps (tr ++ tr') := by
  induction ps generalizing tr with
  | nil => trivial
  | cons p ps ih => exact After.append (fun _ _ _ hr => ih hr) h

theorem InOrder.snoc {ps : List (ε → Prop)} (h : InOrder ps tr) (hp : p e) : InOrder (ps ++ [p]) (tr ++ [e]) := by
  induction ps generalizing tr with
  | nil => exact After.last hp trivial
  | cons p' ps ih => exact After.append (fun _ _ _ hr => ih hr) h

end Evidence

end Trace
