import Mathlib.Data.List.Chain

/-! Paths through a relation: lists whose neighbours are related. `gate_mem` is the rule of dominance, that a region
    which is entered only through a gate is reached after the gate. -/

namespace Path
variable {α : Type} {r : α → α → Prop} {p : α → Prop}

/-- A region that is entered only through a gate is, on a path that starts outside it, reached after the gate. -/
theorem gate_mem {gate : α} (entered : ∀ a b, r a b → p b → p a ∨ a = gate) {start a : α}
    {path before after : List α} (legal : (start :: path).IsChain r) (outside : ¬p start)
    (split : start :: path = before ++ a :: after) (inside : p a) : gate ∈ before := by
  -- Walk back from `a` until the path is outside the region.
  induction before using List.reverseRecOn generalizing a after with
  | nil =>
    have same : start = a := (List.cons.inj split).1
    rw [same] at outside
    exact absurd inside outside
  | append_singleton earlier previous ih =>
    rw [List.append_assoc] at split
    have edge : r previous a := by
      rw [split] at legal
      exact (List.isChain_append_cons_cons.mp legal).2.1
    rcases entered previous a edge inside with back | rfl
    · exact List.mem_append_left _ (ih split back)
    · exact List.mem_append_right _ List.mem_cons_self

/-- What follows `a` lies in a region that is not left and that every edge from `a` leads into. -/
theorem forall_after (closed : ∀ x y, r x y → p x → p y) {a : α} (leaves : ∀ y, r a y → p y)
    {after : List α} (legal : (a :: after).IsChain r) : ∀ b ∈ after, p b := by
  cases after with
  | nil => simp
  | cons next rest =>
    obtain ⟨edge, tail⟩ := List.isChain_cons_cons.mp legal
    exact tail.induction p (next :: rest) closed fun _ => leaves next edge

end Path
