import PreemptionFabric.Lib.KeyedMap
import PreemptionFabric.Theorems.Step

/-! The safe points that a runtime keeps. They are written by declarations, by boundaries reached and by
    recoveries; every one of them lies under its own id. -/

namespace PreemptionFabric
open KeyedMap

@[simp] theorem PreemptionRuntime.restored_safePoints (rt : PreemptionRuntime) (st : PersistentState) :
    (rt.restored st).safePoints = st.safePoints.foldl (fun m psp => m.insert psp.id psp.toSafePoint) ∅ := by
  simp only [restored]; split <;> rfl

section
variable {Q : SafePointId → SafePoint → Prop} {u t : System} {op : Op} {r : Returned}

/-- What holds of the safe points that are declared or installed, and is kept when one is reached, holds of all
    the safe points that are kept. -/
theorem Move.safePoints (h : All Q u.rt.safePoints)
    (declared : ∀ sp, op = .declareSafePoint sp → Q sp.id { sp with state := .declared })
    (reached : ∀ id sp position captureRequired, Q id sp → Q id (sp.reachedAt position captureRequired))
    (installed : ∀ st, op.loads = some st → ∀ psp ∈ st.safePoints, Q psp.id psp.toSafePoint)
    (moved : Move u op r t) : All Q t.rt.safePoints := by
  cases moved with
  | declare sp => exact h.insert (declared sp rfl)
  | reach position captureRequired found => exact h.insert (reached _ _ position captureRequired (h _ _ found))
  | loaded ret image =>
    rw [System.restored, PreemptionRuntime.restored_safePoints]
    exact All.empty.foldl_insert (installed _ image)
  | _ => exact h

end

/-- Every safe point lies under its own id. -/
def System.Keyed (s : System) : Prop := All (fun id sp => sp.id = id) s.rt.safePoints

theorem Reachable.keyed {s : System} (reachable : Reachable s) : s.Keyed := by
  obtain ⟨epoch, policy, ad, ops, rfl⟩ := reachable
  have start : (System.construct epoch policy ad).Keyed := All.empty
  refine run_invariant (G := fun _ => True) start ?_ ops fun _ _ => trivial
  intro u op r t keyed _ moved
  refine moved.safePoints keyed ?_ ?_ ?_
  · intro sp _
    rfl
  · intro id sp position captureRequired same
    exact same
  · intro st _ psp _
    rfl

end PreemptionFabric
