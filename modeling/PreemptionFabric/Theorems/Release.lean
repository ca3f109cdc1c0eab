import PreemptionFabric.Theorems.Resources
import PreemptionFabric.Theorems.Preempted

/-! The release of resources. The runtime asks for every lease of the contract as it stood before the first request,
    and looks at no single answer. Each class has one lease, so a request finds what the contract said and takes all of
    it: where the contract is that of the execution, the accounts are empty after the loop, and everything has moved
    exactly once. -/

namespace PreemptionFabric
open Ledger ReferenceAdapters

/-! ### Leases -/

section Leases
variable {ad : ReferenceAdapters} {e : ExecutionId} {leases : List ResourceLease}

theorem mem_currentContract_iff {lease : ResourceLease} :
    lease ∈ (ad.currentContract e).leases ↔ ad.reservedUnits[lease.resource]? = some lease.units := by
  rw [← Std.ExtTreeMap.mem_toList_iff_getElem?_eq_some]
  constructor
  · intro listed
    obtain ⟨entry, member, rfl⟩ := List.mem_map.mp listed
    exact member
  · intro member
    exact List.mem_map.mpr ⟨_, member, rfl⟩

theorem exists_lease (e : ExecutionId) {c : ResourceClass} (holds : ad.reserved c ≠ 0) :
    ∃ lease ∈ (ad.currentContract e).leases, lease.resource = c := by
  cases found : ad.reservedUnits[c]? with
  | none => exact absurd (by rw [reserved, lookup, found]; rfl) holds
  | some n => exact ⟨⟨c, n⟩, mem_currentContract_iff.mpr found, rfl⟩

/-- A class without a lease has nothing reserved, so the report looks at every class. -/
theorem hasReservedLease_iff : hasReservedLease ad e = true ↔ ∃ c, ad.reserved c ≠ 0 := by
  rw [hasReservedLease, List.any_eq_true]
  constructor
  · rintro ⟨lease, _, holds⟩
    exact ⟨lease.resource, bne_iff_ne.mp holds⟩
  · rintro ⟨c, holds⟩
    obtain ⟨lease, listed, rfl⟩ := exists_lease e holds
    exact ⟨lease, listed, bne_iff_ne.mpr holds⟩

/-- A request for a lease of its own contract moves all that is reserved of the class. -/
theorem requestRelease_lease {lease : ResourceLease} (own : e = ad.contractExecution)
    (found : ad.reservedUnits[lease.resource]? = some lease.units) :
    (ad.requestRelease e lease.resource lease.units ad.contractGen).2 = { ad with
      reservedUnits := debit ad.reservedUnits lease.resource lease.units
      releasedUnits := credit ad.releasedUnits lease.resource lease.units } := by
  have named : lease.resource ∈ ad.reservedUnits := by
    rw [Std.ExtTreeMap.mem_iff_isSome_getElem?, found]
    rfl
  have enough : lease.units ≤ ad.reserved lease.resource := by
    rw [reserved, lookup, found]
    exact UInt64.le_refl _
  rw [requestRelease_eq, if_pos ⟨own, rfl, named, enough⟩]

/-- A request for one class leaves the leases of the others as they were. -/
theorem debit_getElem?_of_ne {m : Account} {c c' : ResourceClass} (units : UInt64) (other : c ≠ c') :
    (debit m c units)[c']? = m[c']? := by
  rw [debit, Std.ExtTreeMap.getElem?_insert, if_neg fun equal => other (Std.LawfulEqCmp.eq_of_compare equal)]

/-- Requests for leases of distinct classes, each for what is reserved of its class, move all of it and nothing else. -/
theorem release_each {generation : ResourceContractGeneration} (own : e = ad.contractExecution)
    (current : generation = ad.contractGen) (distinct : (leases.map (·.resource)).Nodup)
    (found : ∀ lease ∈ leases, ad.reservedUnits[lease.resource]? = some lease.units) (c : ResourceClass) :
    let after := leases.foldl (fun ad' lease => (ad'.requestRelease e lease.resource lease.units generation).2) ad
    after.reserved c = (if c ∈ leases.map (·.resource) then 0 else ad.reserved c) ∧
      after.released c = if c ∈ leases.map (·.resource) then ad.released c + ad.reserved c else ad.released c := by
  induction leases generalizing ad with
  | nil => exact ⟨rfl, rfl⟩
  | cons lease leases ih =>
    -- The rest of the leases is requested of the adapters that the first request left.
    subst own current
    rw [List.map_cons, List.nodup_cons] at distinct
    obtain ⟨single, distinct⟩ := distinct
    have first := found lease List.mem_cons_self
    have held : ad.reserved lease.resource = lease.units := by
      rw [reserved, lookup, first]
      rfl
    have kept : ∀ lease' ∈ leases,
        (debit ad.reservedUnits lease.resource lease.units)[lease'.resource]? = some lease'.units := by
      intro lease' later
      have other : lease.resource ≠ lease'.resource := by
        intro same
        rw [same] at single
        exact single (List.mem_map_of_mem later)
      rw [debit_getElem?_of_ne lease.units other]
      exact found lease' (List.mem_cons_of_mem lease later)
    rw [List.foldl_cons, requestRelease_lease rfl first]
    obtain ⟨reservedLater, releasedLater⟩ := @ih { ad with
      reservedUnits := debit ad.reservedUnits lease.resource lease.units
      releasedUnits := credit ad.releasedUnits lease.resource lease.units } rfl rfl distinct kept
    simp only [List.map_cons, List.mem_cons, reservedLater, releasedLater]
    rw [reserved, released, lookup_debit, lookup_credit]
    by_cases same : c = lease.resource
    · rw [same, if_neg single, if_neg single, if_pos (.inl rfl), if_pos (.inl rfl), Function.update_self,
        Function.update_self, held]
      refine ⟨?_, rfl⟩
      rw [← held]
      exact UInt64.sub_self _
    · simp only [same, false_or, Function.update_of_ne same]
      exact ⟨rfl, rfl⟩

theorem nodup_classes : ((ad.currentContract e).leases.map (·.resource)).Nodup := by
  rw [currentContract, List.map_map, List.Nodup, List.pairwise_map]
  refine Std.ExtTreeMap.distinct_keys_toList.imp fun {entry entry'} distinct same => distinct ?_
  have same : entry.1 = entry'.1 := same
  rw [same]
  exact Std.ReflCmp.compare_self

/-- The release of its own contract empties every account, and each unit is released once. -/
theorem releaseLeases_own (own : e = ad.contractExecution) (c : ResourceClass) :
    (releaseLeases ad e).reserved c = 0 ∧ (releaseLeases ad e).released c = ad.released c + ad.reserved c := by
  have current : (ad.currentContract e).generation = ad.contractGen := rfl
  obtain ⟨reserved, released⟩ := release_each own current nodup_classes
    (fun lease listed => (mem_currentContract_iff (e := e)).mp listed) c
  rw [releaseLeases, reserved, released]
  split_ifs with named
  · exact ⟨rfl, rfl⟩
  · have nothing : ad.reserved c = 0 := by
      by_contra holds
      obtain ⟨lease, listed, rfl⟩ := exists_lease e holds
      exact named (List.mem_map_of_mem listed)
    rw [nothing, UInt64.add_zero]
    exact ⟨rfl, rfl⟩

/-- The broker refuses every request of another execution. -/
theorem releaseLeases_foreign (foreign : e ≠ ad.contractExecution) : releaseLeases ad e = ad := by
  refine List.foldl_fixed' (fun lease => ?_) _
  rcases ad.requestRelease_cases e lease.resource lease.units (ad.currentContract e).generation with
    same | ⟨⟨own, _⟩, _⟩
  · exact same
  · exact absurd own foreign

end Leases

/-! ### Books -/

/-- What is reserved and what is released of a class add up without wrapping. -/
def Balances (ad : ReferenceAdapters) : Prop := ∃ base, Balanced base ad.reserved ad.released

section Books
variable {ad : ReferenceAdapters}

theorem Balances.fits (h : Balances ad) (c : ResourceClass) :
    (ad.released c + ad.reserved c).toNat = (ad.released c).toNat + (ad.reserved c).toNat := by
  obtain ⟨base, balanced⟩ := h
  have sum := balanced c
  have bound := (base c).toNat_lt
  rw [UInt64.toNat_add]
  omega

theorem Balances.apply (h : Balances ad) (o : AdapterOp) : Balances (o.apply ad) := by
  obtain ⟨base, balanced⟩ := h
  cases o with
  | requestRelease e rc units expected => exact ⟨base, balanced_apply balanced rfl⟩
  | reacquire e rc units contract => exact ⟨base, balanced_apply balanced rfl⟩
  | setContract e g leases => exact ⟨_, setContract_balanced ad e g leases⟩
  | _ => exact ⟨base, balanced⟩

theorem Balances.calls (h : Balances ad) (calls : List AdapterOp) : Balances (calls.foldl AdapterOp.apply ad) := by
  induction calls generalizing ad with
  | nil => exact h
  | cons o calls ih => exact ih (h.apply o)

/-- The requests for the leases of a contract are calls of the broker. -/
theorem Balances.releaseLeases (h : Balances ad) (e : ExecutionId) : Balances (releaseLeases ad e) := by
  have calls := h.calls ((ad.currentContract e).leases.map fun lease =>
    .requestRelease e lease.resource lease.units (ad.currentContract e).generation)
  rw [List.foldl_map] at calls
  exact calls

theorem balances_empty : Balances {} := by
  refine ⟨fun _ => 0, fun c => ?_⟩
  rw [reserved, released, lookup_empty]
  rfl

end Books

/-! ### Runs -/

section Runs
variable {s : System}

theorem Move.balances {t : System} {op : Op} {r : Returned} (h : Balances s.ad) (moved : Move s op r t) :
    Balances t.ad := by
  cases moved with
  | releaseRequested before durable => exact h.releaseLeases s.rt.executionId
  | adapter o => exact h.apply o
  | _ => exact h

/-- The adapters are built empty, so their accounts add up in every run. -/
theorem run_balances (epoch : CoordinatorEpoch) (policy : PolicyGeneration) (setup : List AdapterOp) (ops : List Op) :
    Balances (run (.construct epoch policy (setup.foldl AdapterOp.apply {})) ops).ad := by
  have start : Balances (System.construct epoch policy (setup.foldl AdapterOp.apply {})).ad :=
    balances_empty.calls setup
  exact run_invariant (P := fun u => Balances u.ad) (G := fun _ => True) start
    (fun holds _ moved => moved.balances holds) ops fun _ _ => trivial

theorem hasReservedLease_eq_false {ad : ReferenceAdapters} {e : ExecutionId} :
    hasReservedLease ad e = false ↔ ∀ c, ad.reserved c = 0 := by
  rw [Bool.eq_false_iff, Ne, hasReservedLease_iff, not_exists]
  exact forall_congr' fun c => not_ne_iff

theorem Move.reportsReleased {t : System} {r : Returned} (moved : Move s .reportReleased r t) :
    s.lifecycle = .releasing ∧ hasReservedLease s.ad s.rt.executionId = false := by
  cases moved with
  | released before free => exact ⟨before, free⟩
  | loaded ret image => cases image

theorem reportReleased_free (before : s.lifecycle = .releasing) (nothing : ∀ c, s.ad.reserved c = 0) :
    step s .reportReleased =
      (.ok (.result ⟨.safePreemptionCompleted, .resourcesReleased, []⟩), s.resourcesReleased) := by
  have free : ¬hasReservedLease s.ad s.rt.executionId = true :=
    Bool.eq_false_iff.mp (hasReservedLease_eq_false.mpr nothing)
  rw [reportReleased_due before, if_neg free]

theorem reserved_of_reportReleased (succeeded : (step s .reportReleased).1.HasOutcome .safePreemptionCompleted) :
    ∀ c, s.ad.reserved c = 0 :=
  hasReservedLease_eq_false.mp (move_of_succeeded .reportReleased succeeded).reportsReleased.2

/-- A request for the contract of another execution leaves the adapters as they were. -/
theorem requestRelease_foreign (foreign : s.ad.contractExecution ≠ s.rt.executionId) :
    (step s .requestRelease).2.ad = s.ad := by
  rcases step_cases s .requestRelease with moved | ⟨same, _⟩
  · generalize (step s .requestRelease).1 = r, (step s .requestRelease).2 = t at moved
    cases moved with
    | releaseRequested before durable => exact releaseLeases_foreign foreign.symm
    | loaded ret image => cases image
  · rw [same]

end Runs

/-- The release from `s` is exact. Where it is due, the contract is that of the execution, and the calls between the
    request and the report change neither the adapters nor the lifecycle, the report ends it: nothing is reserved any
    more, and what was reserved is released. A report that succeeds finds nothing reserved, and what is reserved under a
    contract of another execution stays reserved and makes the report fail. -/
structure ReleasesExactly (s : System) : Prop where
  complete : s.lifecycle = .stateDurable ∨ s.lifecycle = .releasePending → s.rt.stateDurable = true →
    s.ad.contractExecution = s.rt.executionId → ∀ between : List Op,
      let requested := (step s .requestRelease).2
      let later := run requested between
      later.ad = requested.ad → later.lifecycle = requested.lifecycle →
        (step later .reportReleased).1.HasOutcome .safePreemptionCompleted ∧
        (step later .reportReleased).2.lifecycle = .resourcesReleased ∧
        ∀ c, (step later .reportReleased).2.ad.reserved c = 0 ∧
          ((step later .reportReleased).2.ad.released c).toNat = (s.ad.released c).toNat + (s.ad.reserved c).toNat
  sound : (step s .reportReleased).1.HasOutcome .safePreemptionCompleted → ∀ c, s.ad.reserved c = 0
  foreign : s.ad.contractExecution ≠ s.rt.executionId → (∃ c, s.ad.reserved c ≠ 0) →
    (∀ c, (step s .requestRelease).2.ad.reserved c = s.ad.reserved c ∧
      (step s .requestRelease).2.ad.released c = s.ad.released c) ∧
    ¬(step s .reportReleased).1.HasOutcome .safePreemptionCompleted ∧
    ¬(step (step s .requestRelease).2 .reportReleased).1.HasOutcome .safePreemptionCompleted

theorem releases_exactly (epoch : CoordinatorEpoch) (policy : PolicyGeneration) (setup : List AdapterOp)
    (ops : List Op) : ReleasesExactly (run (.construct epoch policy (setup.foldl AdapterOp.apply {})) ops) := by
  have books := run_balances epoch policy setup ops
  generalize run (.construct epoch policy (setup.foldl AdapterOp.apply {})) ops = s at books ⊢
  refine ⟨?_, reserved_of_reportReleased, ?_⟩
  · intro before durable own between requested later adapters lifecycle
    have first : requested = s.releaseRequested := congrArg Prod.snd (requestRelease_due before durable)
    have accounts : ∀ c, later.ad.reserved c = 0 ∧ later.ad.released c = s.ad.released c + s.ad.reserved c := by
      rw [adapters, first]
      exact releaseLeases_own own.symm
    have due : later.lifecycle = .releasing := by
      rw [lifecycle, first]
      rfl
    rw [reportReleased_free due fun c => (accounts c).1]
    refine ⟨⟨_, rfl, rfl⟩, rfl, fun c => ⟨(accounts c).1, ?_⟩⟩
    rw [← books.fits c, ← (accounts c).2]
    rfl
  · rintro foreign ⟨c, holds⟩
    have kept := requestRelease_foreign foreign
    refine ⟨fun c => ?_, fun succeeded => ?_, fun succeeded => ?_⟩
    · rw [kept]
      exact ⟨rfl, rfl⟩
    · exact holds (reserved_of_reportReleased succeeded c)
    · have nothing := reserved_of_reportReleased succeeded c
      rw [kept] at nothing
      exact holds nothing

/-- A quiet worker and a contract on two classes, one of which has two leases and is released in part. -/
def leasedCalls : List AdapterOp :=
  categories.map (.setQuiesced · true) ++
    [.setContract ⟨2⟩ ⟨1⟩ [⟨.deviceMemory, 60⟩, ⟨.hostMemory, 5⟩, ⟨.deviceMemory, 40⟩],
      .requestRelease ⟨2⟩ .deviceMemory 30 ⟨1⟩]

example :
    let s := run (.construct ⟨1⟩ ⟨1⟩ (leasedCalls.foldl AdapterOp.apply {})) (requestOps true ++ captureOps)
    let t := run s releaseOps
    (s.ad.reserved .deviceMemory, s.ad.released .deviceMemory) = (70, 30) ∧ t.lifecycle = .resourcesReleased ∧
      (t.ad.reserved .deviceMemory, t.ad.released .deviceMemory) = (0, 100) ∧ t.ad.released .hostMemory = 5 := by
  decide +kernel

end PreemptionFabric
