import PreemptionFabric.Enums

/-! The guarded preemption lifecycle state machine (`lifecycle/lifecycle.hpp`, `util/error.hpp`). Every
    edge is listed in `frontier`; `transition` throws on any other, and `reset` bypasses the table. -/

namespace PreemptionFabric

structure PreemptionError where
  code : String
  message : String
deriving DecidableEq, Repr

/-- `throw_invalid_transition` -/
def invalidTransition (source target : LifecycleState) : PreemptionError :=
  ⟨"illegal_transition",
    "illegal lifecycle transition from " ++ source.toString ++ " to " ++ target.toString⟩

structure LifecycleStateMachine where
  state : LifecycleState := .invalid
deriving DecidableEq, Repr

namespace LifecycleStateMachine

/-- The exclusive set of states reachable from each source. -/
def frontier : LifecycleState → List LifecycleState
  | .invalid => []
  | .requested => [.validatingAuthority, .cancelled, .superseded]
  | .validatingAuthority => [.assessing, .cancelled, .superseded, .failed]
  | .assessing =>
    [.deferred, .waitingForSafePoint, .quiescing, .captureRequired, .cancelled, .superseded, .failed]
  | .deferred => [.waitingForSafePoint, .cancelled, .superseded]
  | .waitingForSafePoint => [.safePointReached, .cancelled, .superseded, .failed]
  | .safePointReached => [.quiescing, .cancelled, .superseded]
  | .quiescing => [.quiesced, .cancelled, .failed, .superseded]
  | .quiesced => [.captureRequired, .releasePending, .failed, .superseded]
  | .captureRequired => [.capturingState, .failed, .superseded]
  | .capturingState => [.stateDurable, .failed, .superseded, .cancelled]
  | .stateDurable => [.releasePending, .failed, .superseded]
  | .releasePending => [.releasing, .failed, .superseded]
  | .releasing => [.resourcesReleased, .failed, .superseded]
  | .resourcesReleased => [.preempted, .superseded]
  | .preempted => [.resumePending, .superseded]
  | .resumePending => [.revalidating, .cancelled, .superseded]
  | .revalidating => [.restoring, .resumeReady, .cancelled, .superseded, .failed]
  | .restoring => [.resumeReady, .failed, .cancelled, .superseded]
  | .resumeReady => [.resuming, .cancelled, .superseded]
  | .resuming => [.resumed, .failed, .cancelled, .superseded]
  -- Terminal states have no outgoing edges.
  | .resumed | .cancelled | .aborted | .failed | .superseded => []

def isAllowed (source target : LifecycleState) : Bool := (frontier source).contains target

def transition (m : LifecycleStateMachine) (target : LifecycleState) :
    Except PreemptionError LifecycleStateMachine :=
  if isAllowed m.state target then .ok ⟨target⟩ else .error (invalidTransition m.state target)

def isTerminal (m : LifecycleStateMachine) : Bool :=
  m.state = .cancelled || m.state = .aborted || m.state = .failed || m.state = .superseded || m.state = .resumed

/-- Has this lifecycle reached (and committed) a durable preempted boundary? -/
def isPreemptedDurable (m : LifecycleStateMachine) : Bool :=
  m.state = .preempted || m.state = .resumePending || m.state = .revalidating || m.state = .restoring ||
    m.state = .resumeReady || m.state = .resuming || m.state = .resumed

def reset (_ : LifecycleStateMachine) (s : LifecycleState) : LifecycleStateMachine := ⟨s⟩

end LifecycleStateMachine

end PreemptionFabric
