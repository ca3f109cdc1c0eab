import PreemptionFabric.Lib.Enumeration
import Mathlib.Order.Defs.LinearOrder

/-! Strongly typed authority identities and generations (`core/identity.hpp`). An `Id` selects an entity
    and a `Generation` a version of it; both are 64-bit values tagged by a domain, so that a value of one
    domain cannot stand where another is required. Zero is the invalid value. -/

namespace PreemptionFabric

inductive Domain
  | preemptionRequest | preemptionPlan | workload | execution | attempt | worker | coordinator | safePoint
  | quiescence | progress | stateCapture | checkpoint | resourceContract | resume | dependency | priority
  | policy | authority

/-- `kMaxValue` of both templates. -/
def maxValue : UInt64 := 0xFFFFFFFFFFFFFFFF

structure Generation (tag : Domain) where
  value : UInt64 := 0
deriving DecidableEq, Repr, Inhabited

structure Id (tag : Domain) where
  value : UInt64 := 0
deriving DecidableEq, Repr, Inhabited

namespace Generation
variable {tag : Domain}

def isValid (g : Generation tag) : Bool := g.value != 0

/-- Saturating increment. -/
def next (g : Generation tag) : Generation tag := if g.value = maxValue then g else ⟨g.value + 1⟩

end Generation

namespace Id
variable {tag : Domain}

def isValid (i : Id tag) : Bool := i.value != 0

theorem eq_default_of_not_isValid {i : Id tag} (invalid : i.isValid = false) : i = {} := by
  cases i with
  | mk value =>
    have zero : value = 0 := by simpa [isValid] using invalid
    rw [zero]

instance : Ord (Id tag) := ⟨fun a b => compare a.value b.value⟩

instance : Std.TransOrd (Id tag) where
  eq_swap {a b} := Std.OrientedOrd.eq_swap (a := a.value) (b := b.value)
  isLE_trans {a b c} := Std.TransOrd.isLE_trans (a := a.value) (b := b.value) (c := c.value)

instance : Std.LawfulEqOrd (Id tag) where
  eq_of_compare {a b} h := by
    have hv : a.value = b.value := Std.LawfulEqOrd.eq_of_compare h
    cases a
    cases b
    exact congrArg Id.mk hv

end Id

/-! ### The types of the domains -/

abbrev PreemptionRequestId := Id .preemptionRequest
abbrev PreemptionRequestGeneration := Generation .preemptionRequest
abbrev PreemptionPlanId := Id .preemptionPlan
abbrev PreemptionPlanGeneration := Generation .preemptionPlan
abbrev WorkloadId := Id .workload
abbrev WorkloadGeneration := Generation .workload
abbrev ExecutionId := Id .execution
abbrev ExecutionGeneration := Generation .execution
abbrev AttemptId := Id .attempt
abbrev AttemptGeneration := Generation .attempt
abbrev WorkerId := Id .worker
abbrev WorkerBootId := Id .worker
abbrev CoordinatorEpoch := Generation .coordinator
abbrev SafePointId := Id .safePoint
abbrev SafePointGeneration := Generation .safePoint
abbrev QuiescenceGeneration := Generation .quiescence
abbrev ProgressGeneration := Generation .progress
abbrev StateCaptureId := Id .stateCapture
abbrev StateCaptureGeneration := Generation .stateCapture
abbrev CheckpointRef := Id .checkpoint
abbrev CheckpointGeneration := Generation .checkpoint
abbrev ResourceContractId := Id .resourceContract
abbrev ResourceContractGeneration := Generation .resourceContract
abbrev ReleaseGeneration := Generation .resourceContract
abbrev ResumeId := Id .resume
abbrev ResumeGeneration := Generation .resume
abbrev DependencyId := Id .dependency
abbrev DependencyGeneration := Generation .dependency
abbrev PriorityGeneration := Generation .priority
abbrev PolicyGeneration := Generation .policy
abbrev AuthorityGeneration := Generation .authority

/-! ### Facts -/

theorem maxValue_toNat : maxValue.toNat = 18446744073709551615 := rfl

namespace Generation
variable {tag : Domain} {g : Generation tag}

theorem next_value (g : Generation tag) : g.next.value.toNat = min (g.value.toNat + 1) maxValue.toNat := by
  have bound := g.value.toNat_lt
  have top := maxValue_toNat
  rw [next]
  split
  next last =>
    rw [last]
    omega
  next below =>
    have less : g.value.toNat ≠ maxValue.toNat := fun same => below (UInt64.toNat_inj.mp same)
    simp only [UInt64.toNat_add, UInt64.reduceToNat]
    omega

theorem next_of_lt (h : g.value < maxValue) : g.value < g.next.value := by
  have next := next_value g
  rw [UInt64.lt_iff_toNat_lt] at h ⊢
  omega

theorem next_eq_self_iff : g.next = g ↔ g.value = maxValue := by
  constructor
  · intro same
    have next := next_value g
    have bound := g.value.toNat_lt
    have top := maxValue_toNat
    rw [same] at next
    rw [← UInt64.toNat_inj]
    omega
  · intro last
    rw [next, if_pos last]

theorem next_ne_default (g : Generation tag) : g.next ≠ {} := by
  intro default
  have next := next_value g
  have top := maxValue_toNat
  have zero : g.next.value.toNat = 0 := by
    rw [default]
    rfl
  omega

theorem eq_default_of_next (first : g.next = next {}) : g = {} := by
  have next := next_value g
  have top := maxValue_toNat
  have one : g.next.value.toNat = 1 := by
    rw [first]
    rfl
  have zero : g.value = 0 := by
    rw [← UInt64.toNat_inj]
    show g.value.toNat = 0
    omega
  exact congrArg Generation.mk zero

end Generation

end PreemptionFabric
