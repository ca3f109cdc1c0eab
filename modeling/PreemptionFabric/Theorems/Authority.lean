import PreemptionFabric.Theorems.Resources
import PreemptionFabric.Theorems.Step

/-! The attempt authority that the adapters hold: which calls change it, and which operations of the runtime. -/

namespace PreemptionFabric

/-- The adapters hold the same attempt authority, of the same generation. -/
structure SameAuthority (ad ad' : ReferenceAdapters) : Prop where
  authoritative : ad'.attemptAuthoritative = ad.attemptAuthoritative
  generation : ad'.attemptAttemptGen = ad.attemptAttemptGen

/-- What the adapters hold of the attempt: who has the authority, and under which generations. -/
structure AttemptRecord where
  authoritative : Bool
  execution : ExecutionId
  attempt : AttemptId
  generation : ExecutionGeneration
  attemptGeneration : AttemptGeneration

def ReferenceAdapters.attemptRecord (ad : ReferenceAdapters) : AttemptRecord :=
  ⟨ad.attemptAuthoritative, ad.attemptExecution, ad.attemptAttempt, ad.attemptGen, ad.attemptAttemptGen⟩

theorem SameAuthority.of_attemptRecord {ad ad' : ReferenceAdapters} (same : ad'.attemptRecord = ad.attemptRecord) :
    SameAuthority ad ad' :=
  ⟨congrArg (·.authoritative) same, congrArg (·.attemptGeneration) same⟩

/-! ### Calls on the adapters -/

def AdapterOp.grants : AdapterOp → Bool
  | .setAuthoritative .. | .grantFreshAttemptAuthority .. => true
  | _ => false

def AdapterOp.changesAuthority : AdapterOp → Bool
  | .revokeAuthority | .fenceAttempt .. => true
  | o => o.grants

namespace ReferenceAdapters
variable (ad : ReferenceAdapters)

theorem requestRelease_attemptRecord (e : ExecutionId) (rc : ResourceClass) (units : UInt64)
    (expected : ResourceContractGeneration) :
    (ad.requestRelease e rc units expected).2.attemptRecord = ad.attemptRecord := by
  obtain ⟨_, _, same⟩ := ad.requestRelease_frame e rc units expected
  rw [same]
  rfl

theorem reacquire_attemptRecord (e : ExecutionId) (rc : ResourceClass) (units : UInt64)
    (contract : ResourceContractGeneration) :
    (ad.reacquire e rc units contract).2.attemptRecord = ad.attemptRecord := by
  obtain ⟨_, _, _, same⟩ := ad.reacquire_frame e rc units contract
  rw [same]
  rfl

end ReferenceAdapters

theorem releaseLeases_attemptRecord (ad : ReferenceAdapters) (e : ExecutionId) :
    (releaseLeases ad e).attemptRecord = ad.attemptRecord := by
  obtain ⟨_, _, same⟩ := releaseLeases_frame ad e
  rw [same]
  rfl

theorem releaseLeases_sameAuthority (ad : ReferenceAdapters) (e : ExecutionId) :
    SameAuthority ad (releaseLeases ad e) :=
  .of_attemptRecord (releaseLeases_attemptRecord ad e)

theorem AdapterOp.apply_attemptRecord {o : AdapterOp} (ad : ReferenceAdapters) (h : o.changesAuthority = false) :
    (o.apply ad).attemptRecord = ad.attemptRecord := by
  cases o with
  | setAuthoritative | revokeAuthority | fenceAttempt | grantFreshAttemptAuthority => cases h
  | requestRelease e rc units expected => exact ad.requestRelease_attemptRecord e rc units expected
  | reacquire e rc units contract => exact ad.reacquire_attemptRecord e rc units contract
  | _ => rfl

theorem AdapterOp.apply_sameAuthority {o : AdapterOp} (ad : ReferenceAdapters) (h : o.changesAuthority = false) :
    SameAuthority ad (o.apply ad) :=
  .of_attemptRecord (apply_attemptRecord ad h)

/-- Only a grant opens a fence. -/
theorem AdapterOp.apply_fenced {o : AdapterOp} {ad : ReferenceAdapters} (h : o.grants = false)
    (fenced : ad.attemptAuthoritative = false) : (o.apply ad).attemptAuthoritative = false := by
  cases changes : o.changesAuthority with
  | false => exact (apply_sameAuthority ad changes).authoritative.trans fenced
  | true =>
    cases o with
    | revokeAuthority | fenceAttempt => rfl
    | setAuthoritative | grantFreshAttemptAuthority => cases h
    | _ => cases changes

end PreemptionFabric
