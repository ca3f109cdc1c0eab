import PreemptionFabric.Lib.Trace
import PreemptionFabric.Theorems.Resources

/-! The generation of a contract, which fences late releases. A release never changes it. A reacquisition writes it
    before it looks whether it can succeed, takes any generation that the caller supplies, and like an advance it adds
    in 64 bits: so a call that fails can move the generation, and a superseded generation can come back. -/

namespace PreemptionFabric
open Trace

namespace ReferenceAdapters
variable {ad : ReferenceAdapters} {e : ExecutionId} {rc : ResourceClass} {units : UInt64}
  {expected contract : ResourceContractGeneration}

theorem requestRelease_failed (failed : (ad.requestRelease e rc units expected).1.success = false) :
    (ad.requestRelease e rc units expected).2 = ad := by
  rw [requestRelease_eq] at failed ⊢
  split_ifs at failed ⊢ with holds
  rfl

theorem requestRelease_contractGen : (ad.requestRelease e rc units expected).2.contractGen = ad.contractGen := by
  obtain ⟨reserved, released, after⟩ := ad.requestRelease_frame e rc units expected
  rw [after]

theorem reacquire_contractGen :
    (ad.reacquire e rc units contract).2.contractGen = ad.reacquiredGeneration contract := by
  rcases ad.reacquire_cases e rc units contract with ⟨_, after⟩ | ⟨_, after⟩ | ⟨_, after⟩
  · rw [after]
  · rw [after]
  · rw [after]

theorem reacquire_success_iff :
    (ad.reacquire e rc units contract).1.success = true ↔ e = ad.contractExecution ∧ units ≤ ad.released rc := by
  rcases ad.reacquire_cases e rc units contract with ⟨foreign, after⟩ | ⟨⟨_, short⟩, after⟩ | ⟨holds, after⟩
  · rw [after]
    exact iff_of_false Bool.false_ne_true fun holds => foreign holds.1
  · rw [after]
    exact iff_of_false Bool.false_ne_true fun holds => UInt64.not_lt.mpr holds.2 short
  · rw [after]
    exact iff_of_true rfl holds

theorem reacquire_failed (failed : (ad.reacquire e rc units contract).1.success = false) :
    (ad.reacquire e rc units contract).2.reserved = ad.reserved ∧
      (ad.reacquire e rc units contract).2.released = ad.released := by
  rcases ad.reacquire_cases e rc units contract with ⟨_, after⟩ | ⟨_, after⟩ | ⟨_, after⟩
  · rw [after]
    exact ⟨rfl, rfl⟩
  · rw [after]
    exact ⟨rfl, lookup_credit_zero ad.releasedUnits rc⟩
  · rw [after] at failed
    cases failed

end ReferenceAdapters

/-! ### Calls -/

/-- What a call on the broker returns for its success. -/
def AdapterOp.succeeds (ad : ReferenceAdapters) : AdapterOp → Bool
  | .requestRelease e rc units expected => (ad.requestRelease e rc units expected).1.success
  | .reacquire e rc units contract => (ad.reacquire e rc units contract).1.success
  | _ => true

def brokerStep (ad : ReferenceAdapters) (o : AdapterOp) : Bool × ReferenceAdapters := (o.succeeds ad, o.apply ad)

abbrev BrokerEvent := Trace.Event ReferenceAdapters AdapterOp Bool

namespace BrokerEvent

/-- A call that fails changes neither the generation nor an account, and no call takes the generation back. -/
structure Disciplined (e : BrokerEvent) : Prop where
  unchanged : e.output = false → e.post.contractGen = e.pre.contractGen ∧
    e.post.reserved = e.pre.reserved ∧ e.post.released = e.pre.released
  ascending : e.pre.contractGen.value ≤ e.post.contractGen.value

/-- Calls that keep the generation in order: a reacquisition that cannot succeed supplies the current generation, one
    that can succeed does not supply an older one, and no addition wraps. -/
def Orderly (e : BrokerEvent) : Prop :=
  match e.input with
  | .reacquire execution rc units contract =>
    if execution = e.pre.contractExecution ∧ units ≤ e.pre.released rc then
      if contract.isValid then e.pre.contractGen.value ≤ contract.value else e.pre.contractGen.value ≠ maxValue
    else
      contract.isValid = true ∧ contract = e.pre.contractGen
  | .advanceContract by' => e.pre.contractGen.value.toNat + by'.toNat < 2 ^ 64
  | _ => True

section
variable {ad : ReferenceAdapters}

theorem le_add_iff (a b : UInt64) : a ≤ a + b ↔ a.toNat + b.toNat < 2 ^ 64 := by
  have left := a.toNat_lt
  have right := b.toNat_lt
  rw [UInt64.le_iff_toNat_le, UInt64.toNat_add]
  constructor
  · intro ascends
    by_contra wraps
    omega
  · intro fits
    rw [Nat.mod_eq_of_lt fits]
    omega

theorem requestRelease_disciplined (e : ExecutionId) (rc : ResourceClass) (units : UInt64)
    (expected : ResourceContractGeneration) :
    Disciplined (event brokerStep ad (.requestRelease e rc units expected)) where
  unchanged failed := by
    have same : (event brokerStep ad (.requestRelease e rc units expected)).post = ad :=
      ReferenceAdapters.requestRelease_failed failed
    rw [same]
    exact ⟨rfl, rfl, rfl⟩
  ascending := by
    have same : (event brokerStep ad (.requestRelease e rc units expected)).post.contractGen = ad.contractGen :=
      ReferenceAdapters.requestRelease_contractGen
    rw [same]
    exact UInt64.le_refl _

theorem advanceContract_disciplined_iff (by' : UInt64) :
    Disciplined (event brokerStep ad (.advanceContract by')) ↔
      Orderly (event brokerStep ad (.advanceContract by')) := by
  show _ ↔ ad.contractGen.value.toNat + by'.toNat < 2 ^ 64
  rw [← le_add_iff]
  constructor
  · exact fun disciplined => disciplined.ascending
  · intro ascends
    refine ⟨fun failed => ?_, ascends⟩
    cases failed

theorem le_reacquiredGeneration_iff (contract : ResourceContractGeneration) :
    ad.contractGen.value ≤ (ad.reacquiredGeneration contract).value ↔
      if contract.isValid then ad.contractGen.value ≤ contract.value else ad.contractGen.value ≠ maxValue := by
  rw [ReferenceAdapters.reacquiredGeneration]
  split_ifs with supplied
  · rfl
  · show ad.contractGen.value ≤ ad.contractGen.value + 1 ↔ _
    have fits := ad.contractGen.value.toNat_lt
    have one : (1 : UInt64).toNat = 1 := rfl
    rw [le_add_iff, one, ne_eq, ← UInt64.toNat_inj, maxValue_toNat]
    omega

theorem reacquiredGeneration_eq_iff (contract : ResourceContractGeneration) :
    ad.reacquiredGeneration contract = ad.contractGen ↔ contract.isValid = true ∧ contract = ad.contractGen := by
  rw [ReferenceAdapters.reacquiredGeneration]
  split_ifs with supplied
  · simp [supplied]
  · refine iff_of_false (fun same => ?_) fun holds => supplied holds.1
    have value : ad.contractGen.value + 1 = ad.contractGen.value := congrArg Generation.value same
    exact absurd value (by simp)

theorem reacquire_disciplined_iff (e : ExecutionId) (rc : ResourceClass) (units : UInt64)
    (contract : ResourceContractGeneration) :
    Disciplined (event brokerStep ad (.reacquire e rc units contract)) ↔
      Orderly (event brokerStep ad (.reacquire e rc units contract)) := by
  have written : (event brokerStep ad (.reacquire e rc units contract)).post.contractGen =
      ad.reacquiredGeneration contract := ReferenceAdapters.reacquire_contractGen
  have returned : (event brokerStep ad (.reacquire e rc units contract)).output = true ↔
      e = ad.contractExecution ∧ units ≤ ad.released rc := ReferenceAdapters.reacquire_success_iff
  show _ ↔ if e = ad.contractExecution ∧ units ≤ ad.released rc then
      if contract.isValid then ad.contractGen.value ≤ contract.value else ad.contractGen.value ≠ maxValue
    else contract.isValid = true ∧ contract = ad.contractGen
  rw [← le_reacquiredGeneration_iff, ← reacquiredGeneration_eq_iff]
  split_ifs with holds
  · constructor
    · intro disciplined
      rw [← written]
      exact disciplined.ascending
    · intro ascends
      rw [← written] at ascends
      refine ⟨fun failed => ?_, ascends⟩
      rw [returned.mpr holds] at failed
      cases failed
  · have failed : (event brokerStep ad (.reacquire e rc units contract)).output = false :=
      Bool.eq_false_iff.mpr (mt returned.mp holds)
    constructor
    · intro disciplined
      rw [← written]
      exact (disciplined.unchanged failed).1
    · intro same
      rw [← written] at same
      refine ⟨fun _ => ⟨same, ReferenceAdapters.reacquire_failed failed⟩, ?_⟩
      rw [same]
      exact UInt64.le_refl _

theorem orderly_of_supplied {e : ExecutionId} {rc : ResourceClass} {units : UInt64}
    {contract : ResourceContractGeneration} (own : e = ad.contractExecution) (enough : units ≤ ad.released rc)
    (supplied : contract.isValid = true) (later : ad.contractGen.value ≤ contract.value) :
    Orderly (event brokerStep ad (.reacquire e rc units contract)) := by
  have holds := And.intro own enough
  simp only [Orderly, event, if_pos holds, if_pos supplied]
  exact later

theorem disciplined_iff {o : AdapterOp} (broker : o.isBrokerCall = true) :
    Disciplined (event brokerStep ad o) ↔ Orderly (event brokerStep ad o) := by
  cases o with
  | requestRelease e rc units expected => exact iff_of_true (requestRelease_disciplined e rc units expected) trivial
  | reacquire e rc units contract => exact reacquire_disciplined_iff e rc units contract
  | advanceContract by' => exact advanceContract_disciplined_iff by'
  | _ => cases broker

end

end BrokerEvent

/-! ### Runs -/

/-- The generation of the contract after the calls. -/
def generationAfter (ad : ReferenceAdapters) (calls : List AdapterOp) : ResourceContractGeneration :=
  (exec brokerStep ad calls).contractGen

/-- Every call of the run is disciplined; so the generation never decreases, and one that has been superseded is not
    current again. -/
structure DisciplinedRun (ad : ReferenceAdapters) (calls : List AdapterOp) : Prop where
  each : ∀ e ∈ trace brokerStep ad calls, BrokerEvent.Disciplined e
  ascending : ∀ front back, front ++ back = calls →
    (generationAfter ad front).value ≤ (generationAfter ad calls).value
  superseded : ∀ front middle back, front ++ middle ++ back = calls →
    generationAfter ad (front ++ middle) ≠ generationAfter ad front → generationAfter ad calls ≠ generationAfter ad front

theorem generationAfter_le {ad : ReferenceAdapters} {front back : List AdapterOp}
    (each : ∀ e ∈ trace brokerStep ad (front ++ back), BrokerEvent.Disciplined e) :
    (generationAfter ad front).value ≤ (generationAfter ad (front ++ back)).value := by
  rw [trace_append] at each
  rw [generationAfter, generationAfter, exec_append]
  exact exec_ascending brokerStep (R := fun u v => u.contractGen.value ≤ v.contractGen.value)
    (fun u => UInt64.le_refl _) (fun below above => UInt64.le_trans below above)
    fun e member => (each e (List.mem_append_right _ member)).ascending

/-- The generation of the broker is disciplined in a run of calls on it exactly when every call keeps it in order. -/
theorem broker_disciplined_iff (ad : ReferenceAdapters) (calls : List AdapterOp)
    (broker : ∀ o ∈ calls, o.isBrokerCall = true) :
    DisciplinedRun ad calls ↔ ∀ e ∈ trace brokerStep ad calls, BrokerEvent.Orderly e := by
  have each : (∀ e ∈ trace brokerStep ad calls, BrokerEvent.Disciplined e) ↔
      ∀ e ∈ trace brokerStep ad calls, BrokerEvent.Orderly e := by
    refine forall₂_congr fun e member => ?_
    have call := broker e.input (input_mem brokerStep member)
    rw [eq_event brokerStep member]
    exact BrokerEvent.disciplined_iff call
  constructor
  · intro run
    exact each.mp run.each
  · intro orderly
    have disciplined := each.mpr orderly
    refine ⟨disciplined, ?_, ?_⟩
    · rintro front back rfl
      exact generationAfter_le disciplined
    · rintro front middle back rfl superseded again
      have later := generationAfter_le disciplined
      have earlier : (generationAfter ad front).value ≤ (generationAfter ad (front ++ middle)).value := by
        refine generationAfter_le fun e member => disciplined e ?_
        rw [trace_append]
        exact List.mem_append_left _ member
      rw [again] at later
      exact superseded (congrArg Generation.mk (UInt64.le_antisymm later earlier))

/-- A contract of generation 1 on device memory. -/
def memoryContract : ReferenceAdapters := ReferenceAdapters.setContract {} ⟨2⟩ ⟨1⟩ [⟨.deviceMemory, 100⟩]

/-- A release, a new generation, a late release that is refused, and a reacquisition under the next generation. -/
def orderlyCalls : List AdapterOp :=
  [.requestRelease ⟨2⟩ .deviceMemory 60 ⟨1⟩, .advanceContract 1, .requestRelease ⟨2⟩ .deviceMemory 40 ⟨1⟩,
    .reacquire ⟨2⟩ .deviceMemory 20 ⟨3⟩]

theorem broker_disciplined_memory : DisciplinedRun memoryContract orderlyCalls := by
  refine (broker_disciplined_iff memoryContract orderlyCalls (by decide)).mpr ?_
  simp only [orderlyCalls, trace, List.forall_mem_cons]
  refine ⟨trivial, ?_, trivial, ?_, List.forall_mem_nil _⟩
  · simp only [BrokerEvent.Orderly, event]
    decide +kernel
  · exact BrokerEvent.orderly_of_supplied (by decide +kernel) (by decide +kernel) rfl (by decide +kernel)

/-- A reacquisition for another execution fails and brings the first generation back: a late release is current. -/
theorem failed_reacquire_restores_generation :
    let late : List AdapterOp := [.advanceContract 1, .reacquire ⟨9⟩ .deviceMemory 1 ⟨1⟩]
    ¬DisciplinedRun memoryContract late ∧
      AdapterOp.succeeds (exec brokerStep memoryContract [.advanceContract 1]) (.reacquire ⟨9⟩ .deviceMemory 1 ⟨1⟩) =
        false ∧
      (generationAfter memoryContract [.advanceContract 1], generationAfter memoryContract late) = (⟨2⟩, ⟨1⟩) ∧
      AdapterOp.succeeds (exec brokerStep memoryContract late) (.requestRelease ⟨2⟩ .deviceMemory 100 ⟨1⟩) = true := by
  intro late
  refine ⟨fun run => ?_, by decide +kernel, by decide +kernel, by decide +kernel⟩
  have ascends := run.ascending [.advanceContract 1] [.reacquire ⟨9⟩ .deviceMemory 1 ⟨1⟩] rfl
  exact absurd ascends (by decide +kernel)

end PreemptionFabric
