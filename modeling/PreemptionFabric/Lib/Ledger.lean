import Mathlib.Logic.Function.Basic

/-! Two families of 64-bit counters between which units are moved. The counters wrap; a transfer that asks only for
    units that are there is exact all the same, because the sum of the two counters of a key always fits. -/

namespace Ledger
variable {κ : Type} {total left right left' right' : κ → UInt64}

/-- The exact sum of the two counters of each key is the total of the key. -/
def Balanced (total left right : κ → UInt64) : Prop := ∀ k, (left k).toNat + (right k).toNat = (total k).toNat

/-- Units of a key move from the first counter to the second without wrapping, or nothing moves. -/
def Moves (k : κ) (units : UInt64) (left right left' right' : κ → UInt64) : Prop :=
  left' = left ∧ right' = right ∨
    (left' k).toNat + units.toNat = (left k).toNat ∧ (right' k).toNat = (right k).toNat + units.toNat ∧
      ∀ j, j ≠ k → left' j = left j ∧ right' j = right j

theorem Balanced.swap (h : Balanced total left right) : Balanced total right left := by
  intro k
  rw [Nat.add_comm]
  exact h k

theorem Moves.balanced {k : κ} {units : UInt64} (h : Balanced total left right)
    (moves : Moves k units left right left' right') : Balanced total left' right' := by
  intro j
  have before := h j
  rcases moves with ⟨rfl, rfl⟩ | ⟨debited, credited, others⟩
  · exact before
  · by_cases same : j = k
    · rw [same] at before ⊢
      omega
    · obtain ⟨left, right⟩ := others j same
      rw [left, right]
      exact before

/-- Taking units that are there from one counter and adding them to the other wraps neither. -/
theorem Balanced.transfer [DecidableEq κ] (h : Balanced total left right) (k : κ) {units : UInt64}
    (enough : units ≤ left k) :
    Moves k units left right (Function.update left k (left k - units)) (Function.update right k (right k + units)) := by
  have sum := h k
  have fits := (total k).toNat_lt
  have bound := UInt64.le_iff_toNat_le.mp enough
  refine .inr ⟨?_, ?_, fun j other => ?_⟩
  · rw [Function.update_self, UInt64.toNat_sub_of_le _ _ enough]
    omega
  · rw [Function.update_self, UInt64.toNat_add]
    omega
  · rw [Function.update_of_ne other, Function.update_of_ne other]
    exact ⟨rfl, rfl⟩

end Ledger
