import PreemptionFabric.Runtime
import PreemptionFabric.Lib.Ledger

/-! The accounts of the resource broker. A contract fixes what is reserved; from then on a release and a reacquisition
    move units between the two accounts of a class, and nothing is lost or gained. -/

namespace PreemptionFabric
open Ledger

/-- A call that works on a contract, without setting one. -/
def AdapterOp.isBrokerCall : AdapterOp → Bool
  | .requestRelease .. | .reacquire .. | .advanceContract _ => true
  | _ => false

namespace ReferenceAdapters

/-! ### Accounts -/

theorem lookup_insert (m : Account) (c : ResourceClass) (n : UInt64) :
    lookup (m.insert c n) = Function.update (lookup m) c n := by
  funext c'
  rw [lookup, Std.ExtTreeMap.getElem?_insert, Function.update_apply]
  by_cases same : c' = c
  · rw [same, if_pos Std.ReflCmp.compare_self, if_pos rfl]
    rfl
  · rw [if_neg (fun equal => same (Std.LawfulEqCmp.eq_of_compare equal).symm), if_neg same]
    rfl

theorem lookup_credit (m : Account) (c : ResourceClass) (units : UInt64) :
    lookup (credit m c units) = Function.update (lookup m) c (lookup m c + units) := lookup_insert m c _

theorem lookup_debit (m : Account) (c : ResourceClass) (units : UInt64) :
    lookup (debit m c units) = Function.update (lookup m) c (lookup m c - units) := lookup_insert m c _

/-- To look up an absent class creates it, and changes no account. -/
theorem lookup_credit_zero (m : Account) (c : ResourceClass) : lookup (credit m c 0) = lookup m := by
  rw [lookup_credit, UInt64.add_zero, Function.update_eq_self]

theorem lookup_empty : lookup ∅ = fun _ => 0 := by
  funext c
  simp [lookup]

/-! ### Calls -/

section
variable (ad : ReferenceAdapters) (e : ExecutionId) (rc : ResourceClass) (units : UInt64)

/-- A release moves units of a class that the contract names, or changes nothing. -/
theorem requestRelease_eq (expected : ResourceContractGeneration) :
    ad.requestRelease e rc units expected =
      if e = ad.contractExecution ∧ expected = ad.contractGen ∧ rc ∈ ad.reservedUnits ∧ units ≤ ad.reserved rc then
        ({ releaseGeneration := ad.contractGen, workerBootId := ad.attemptBoot, success := true },
          { ad with
            reservedUnits := debit ad.reservedUnits rc units
            releasedUnits := credit ad.releasedUnits rc units })
      else
        ({ releaseGeneration := ad.contractGen, workerBootId := ad.attemptBoot }, ad) := by
  rw [requestRelease]
  split_ifs with mismatch holds holds
  · rcases mismatch with foreign | stale
    · exact absurd holds.1 foreign
    · exact absurd holds.2.1 stale
  · rfl
  · obtain ⟨n, found⟩ := Option.isSome_iff_exists.mp (Std.ExtTreeMap.mem_iff_isSome_getElem?.mp holds.2.2.1)
    have held : lookup ad.reservedUnits rc = n := by simp [lookup, found]
    have enough : ¬n < units := by
      rw [← held]
      exact UInt64.not_lt.mpr holds.2.2.2
    simp only [found, if_neg enough, debit, held]
  · obtain ⟨own, current⟩ := not_or.mp mismatch
    cases found : ad.reservedUnits[rc]? with
    | none => rfl
    | some n =>
      have short : n < units := by
        refine UInt64.not_le.mp fun enough => holds ⟨not_ne_iff.mp own, not_ne_iff.mp current, ?_, ?_⟩
        · exact Std.ExtTreeMap.mem_iff_isSome_getElem?.mpr (by rw [found]; rfl)
        · simpa [reserved, lookup, found] using enough
      exact if_pos short

/-- A release moves units that are reserved, or changes nothing. -/
theorem requestRelease_cases (expected : ResourceContractGeneration) :
    (ad.requestRelease e rc units expected).2 = ad ∨
      (e = ad.contractExecution ∧ expected = ad.contractGen ∧ units ≤ ad.reserved rc) ∧
        (ad.requestRelease e rc units expected).2 = { ad with
          reservedUnits := debit ad.reservedUnits rc units
          releasedUnits := credit ad.releasedUnits rc units } := by
  rw [requestRelease_eq]
  split_ifs with holds
  · exact .inr ⟨⟨holds.1, holds.2.1, holds.2.2.2⟩, rfl⟩
  · exact .inl rfl

/-- The generation that a reacquisition writes: the one that the caller supplies, or the next one. -/
def reacquiredGeneration (contract : ResourceContractGeneration) : ResourceContractGeneration :=
  if contract.isValid then contract else generationAdvance ad.contractGen 1

/-- A reacquisition sets the generation of the contract, whether it succeeds or not; it moves units that were released,
    or changes no account. -/
theorem reacquire_cases (contract : ResourceContractGeneration) :
    (e ≠ ad.contractExecution ∧ ad.reacquire e rc units contract =
      ({ contractGeneration := ad.reacquiredGeneration contract, workerBootId := ad.attemptBoot },
        { ad with contractGen := ad.reacquiredGeneration contract })) ∨
    ((e = ad.contractExecution ∧ ad.released rc < units) ∧ ad.reacquire e rc units contract =
      ({ contractGeneration := ad.reacquiredGeneration contract, workerBootId := ad.attemptBoot },
        { ad with
          contractGen := ad.reacquiredGeneration contract, releasedUnits := credit ad.releasedUnits rc 0 })) ∨
    ((e = ad.contractExecution ∧ units ≤ ad.released rc) ∧ ad.reacquire e rc units contract =
      ({ contractGeneration := ad.reacquiredGeneration contract, workerBootId := ad.attemptBoot, success := true },
        { ad with
          contractGen := ad.reacquiredGeneration contract
          releasedUnits := debit (credit ad.releasedUnits rc 0) rc units
          reservedUnits := credit ad.reservedUnits rc units })) := by
  simp only [reacquire, lookup_credit_zero, reacquiredGeneration]
  generalize (if contract.isValid = true then contract else generationAdvance ad.contractGen 1) = generation
  split_ifs with foreign short
  · exact .inl ⟨foreign, rfl⟩
  · exact .inr (.inl ⟨⟨not_ne_iff.mp foreign, short⟩, rfl⟩)
  · exact .inr (.inr ⟨⟨not_ne_iff.mp foreign, UInt64.not_lt.mp short⟩, rfl⟩)

/-- A release changes the two accounts and nothing else. -/
theorem requestRelease_frame (expected : ResourceContractGeneration) :
    ∃ reserved released, (ad.requestRelease e rc units expected).2 =
      { ad with reservedUnits := reserved, releasedUnits := released } := by
  rcases ad.requestRelease_cases e rc units expected with same | ⟨_, moved⟩
  · exact ⟨ad.reservedUnits, ad.releasedUnits, same⟩
  · exact ⟨_, _, moved⟩

/-- A reacquisition changes the accounts and the generation of the contract, and nothing else. -/
theorem reacquire_frame (contract : ResourceContractGeneration) :
    ∃ generation reserved released, (ad.reacquire e rc units contract).2 =
      { ad with contractGen := generation, reservedUnits := reserved, releasedUnits := released } := by
  rcases ad.reacquire_cases e rc units contract with ⟨_, same⟩ | ⟨_, created⟩ | ⟨_, moved⟩
  · exact ⟨_, ad.reservedUnits, ad.releasedUnits, congrArg Prod.snd same⟩
  · exact ⟨_, ad.reservedUnits, _, congrArg Prod.snd created⟩
  · exact ⟨_, _, _, congrArg Prod.snd moved⟩

end

section
variable {base : ResourceClass → UInt64} {ad : ReferenceAdapters}

theorem requestRelease_moves (h : Balanced base ad.reserved ad.released) (e : ExecutionId) (rc : ResourceClass)
    (units : UInt64) (expected : ResourceContractGeneration) :
    Moves rc units ad.reserved ad.released (ad.requestRelease e rc units expected).2.reserved
      (ad.requestRelease e rc units expected).2.released := by
  rcases ad.requestRelease_cases e rc units expected with same | ⟨⟨_, _, enough⟩, moved⟩
  · rw [same]
    exact .inl ⟨rfl, rfl⟩
  · have debited := lookup_debit ad.reservedUnits rc units
    have credited := lookup_credit ad.releasedUnits rc units
    rw [moved]
    show Moves rc units _ _ (lookup (debit ad.reservedUnits rc units)) (lookup (credit ad.releasedUnits rc units))
    rw [debited, credited]
    exact h.transfer rc enough

theorem reacquire_moves (h : Balanced base ad.reserved ad.released) (e : ExecutionId) (rc : ResourceClass)
    (units : UInt64) (contract : ResourceContractGeneration) :
    Moves rc units ad.released ad.reserved (ad.reacquire e rc units contract).2.released
      (ad.reacquire e rc units contract).2.reserved := by
  rcases ad.reacquire_cases e rc units contract with ⟨_, same⟩ | ⟨_, created⟩ | ⟨⟨_, enough⟩, moved⟩
  · rw [same]
    exact .inl ⟨rfl, rfl⟩
  · rw [created]
    exact .inl ⟨lookup_credit_zero ad.releasedUnits rc, rfl⟩
  · rw [moved]
    show Moves rc units _ _ (lookup (debit (credit ad.releasedUnits rc 0) rc units))
      (lookup (credit ad.reservedUnits rc units))
    rw [lookup_debit, lookup_credit_zero, lookup_credit]
    exact h.swap.transfer rc enough

/-- The calls on a contract keep the books balanced. -/
theorem balanced_apply (h : Balanced base ad.reserved ad.released) {o : AdapterOp} (broker : o.isBrokerCall = true) :
    Balanced base (o.apply ad).reserved (o.apply ad).released := by
  cases o with
  | requestRelease e rc units expected => exact (requestRelease_moves h e rc units expected).balanced h
  | reacquire e rc units contract => exact ((reacquire_moves h e rc units contract).balanced h.swap).swap
  | advanceContract by' => exact h
  | _ => cases broker

theorem balanced_calls (h : Balanced base ad.reserved ad.released) (calls : List AdapterOp)
    (broker : ∀ o ∈ calls, o.isBrokerCall = true) :
    Balanced base (calls.foldl AdapterOp.apply ad).reserved (calls.foldl AdapterOp.apply ad).released := by
  induction calls generalizing ad with
  | nil => exact h
  | cons o calls ih =>
    have after := balanced_apply h (broker o List.mem_cons_self)
    exact ih after fun o' later => broker o' (List.mem_cons_of_mem o later)

theorem setContract_balanced (ad : ReferenceAdapters) (e : ExecutionId) (g : ResourceContractGeneration)
    (leases : List ResourceLease) :
    Balanced (ad.setContract e g leases).reserved (ad.setContract e g leases).reserved
      (ad.setContract e g leases).released := by
  intro c
  have none : (ad.setContract e g leases).released c = 0 := congrFun lookup_empty c
  rw [none]
  rfl

end

/-- Between `base` and `ad` the accounts are exact: reserved and released units of each class add up to what was
    reserved, a further release or reacquisition moves units without wrapping, and a release that is stale, for another
    execution or for more than is reserved moves nothing. -/
structure AccountsExactly (base ad : ReferenceAdapters) : Prop where
  conserved : ∀ c, (ad.reserved c).toNat + (ad.released c).toNat = (base.reserved c).toNat
  releases : ∀ e rc units expected,
    Moves rc units ad.reserved ad.released (ad.requestRelease e rc units expected).2.reserved
      (ad.requestRelease e rc units expected).2.released
  reacquires : ∀ e rc units contract,
    Moves rc units ad.released ad.reserved (ad.reacquire e rc units contract).2.released
      (ad.reacquire e rc units contract).2.reserved
  refuses : ∀ e rc units expected,
    expected ≠ ad.contractGen ∨ e ≠ ad.contractExecution ∨ ad.reserved rc < units →
      ∀ c, (ad.requestRelease e rc units expected).2.reserved c = ad.reserved c ∧
        (ad.requestRelease e rc units expected).2.released c = ad.released c

/-- After a contract is set, the accounts are exact along every sequence of calls on it. -/
theorem accounts_exactly (ad : ReferenceAdapters) (e : ExecutionId) (g : ResourceContractGeneration)
    (leases : List ResourceLease) (calls : List AdapterOp) (broker : ∀ o ∈ calls, o.isBrokerCall = true) :
    AccountsExactly (ad.setContract e g leases) (calls.foldl AdapterOp.apply (ad.setContract e g leases)) := by
  have balanced := balanced_calls (setContract_balanced ad e g leases) calls broker
  generalize calls.foldl AdapterOp.apply (ad.setContract e g leases) = after at balanced ⊢
  refine ⟨balanced, requestRelease_moves balanced, reacquire_moves balanced, fun e' rc units expected refused c => ?_⟩
  rcases after.requestRelease_cases e' rc units expected with same | ⟨⟨own, current, enough⟩, _⟩
  · rw [same]
    exact ⟨rfl, rfl⟩
  · rcases refused with stale | foreign | short
    · exact absurd current stale
    · exact absurd own foreign
    · exact absurd enough (UInt64.not_le.mpr short)

end ReferenceAdapters

/-- The release of the leases of a contract changes the two accounts and nothing else. -/
theorem releaseLeases_frame (ad : ReferenceAdapters) (e : ExecutionId) :
    ∃ reserved released, releaseLeases ad e =
      { ad with reservedUnits := reserved, releasedUnits := released } := by
  rw [releaseLeases]
  generalize (ad.currentContract e).generation = generation
  generalize (ad.currentContract e).leases = leases
  -- Each lease is released on the adapters that the leases before it left.
  induction leases generalizing ad with
  | nil => exact ⟨ad.reservedUnits, ad.releasedUnits, rfl⟩
  | cons lease leases ih =>
    obtain ⟨reserved, released, first⟩ := ad.requestRelease_frame e lease.resource lease.units generation
    obtain ⟨reserved', released', rest⟩ := ih (ad.requestRelease e lease.resource lease.units generation).2
    refine ⟨reserved', released', rest.trans ?_⟩
    rw [first]

/-- Releases, also refused ones, a reacquisition and a new generation of a contract on two classes. -/
def accountingCalls : List AdapterOp :=
  [.requestRelease ⟨2⟩ .deviceMemory 60 ⟨1⟩, .requestRelease ⟨2⟩ .deviceMemory 60 ⟨1⟩, .advanceContract 1,
    .requestRelease ⟨2⟩ .hostMemory 5 ⟨1⟩, .reacquire ⟨2⟩ .deviceMemory 20 ⟨3⟩, .reacquire ⟨9⟩ .deviceMemory 1 {}]

theorem accounts_exactly_two_classes :
    ReferenceAdapters.AccountsExactly
      (ReferenceAdapters.setContract {} ⟨2⟩ ⟨1⟩ [⟨.deviceMemory, 100⟩, ⟨.hostMemory, 5⟩])
      (accountingCalls.foldl AdapterOp.apply
        (ReferenceAdapters.setContract {} ⟨2⟩ ⟨1⟩ [⟨.deviceMemory, 100⟩, ⟨.hostMemory, 5⟩])) :=
  ReferenceAdapters.accounts_exactly {} ⟨2⟩ ⟨1⟩ [⟨.deviceMemory, 100⟩, ⟨.hostMemory, 5⟩] accountingCalls (by decide)

end PreemptionFabric
