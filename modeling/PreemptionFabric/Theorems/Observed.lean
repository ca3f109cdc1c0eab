import PreemptionFabric.Theorems.Images

/-! The lifecycles that are ever observed. An operation passes through some lifecycles without stopping there, and
    nothing defers or supersedes a request: six of the lifecycles are the state of no run, unless an image that holds
    one is loaded. -/

namespace PreemptionFabric

/-- The lifecycle between two operations of some run without recovery. -/
def LifecycleState.observed : LifecycleState → Bool
  | .requested | .validatingAuthority | .deferred | .captureRequired | .resuming | .superseded => false
  | _ => true

theorem observed_of_successor {l l' : LifecycleState} (observed : l.observed = true) (next : l' ∈ l.successors) :
    l'.observed = true := by
  have all : l.observed = true → l.successors.all LifecycleState.observed = true := by
    cases l <;> decide
  exact List.all_eq_true.mp (all observed) l' next

theorem Move.observed {u t : System} {op : Op} {r : Returned} (moved : Move u op r t) (fresh : op.loads = none)
    (observed : u.lifecycle.observed = true) : t.lifecycle.observed = true := by
  cases start : op.isStart with
  | true =>
    rw [moved.of_start fresh start]
    rfl
  | false =>
    rcases moved.lifecycle ⟨start, fresh⟩ with same | next | ⟨accepts, _⟩
    · rw [same]
      exact observed
    · exact observed_of_successor observed next
    · rw [(moved.of_accepts accepts).1]
      rfl

/-- The whole way of one preemption, from its request to the resume. -/
def wholeRoute : List Op :=
  requestOps true ++ captureOps ++ releaseOps ++
    [.commitPreempted, .requestResume, .revalidate, .restore, .confirmResumed]

/-- A request before any safe point is declared, and the safe point that it waits for. -/
def waitingRoute : List Op :=
  [.startExecution ⟨1⟩ ⟨1⟩ ⟨2⟩ ⟨1⟩ ⟨3⟩ ⟨1⟩ ⟨4⟩ ⟨5⟩,
    .requestPreemption {
      id := ⟨8⟩, generation := ⟨1⟩, executionId := ⟨2⟩, executionGeneration := ⟨1⟩, attemptId := ⟨3⟩
      attemptGeneration := ⟨1⟩, coordinatorEpoch := ⟨1⟩ },
    .beginQuiesce, .declareSafePoint { id := ⟨7⟩ }, .reachSafePoint ⟨7⟩ 10 true]

/-- A run to each lifecycle that is observed. -/
def routeTo : LifecycleState → List Op
  | .assessing => requestOps true
  | .waitingForSafePoint => waitingRoute.take 3
  | .safePointReached => waitingRoute
  | .quiescing => wholeRoute.take 5
  | .quiesced => wholeRoute.take 6
  | .capturingState => wholeRoute.take 7
  | .stateDurable => wholeRoute.take 8
  | .releasePending => requestOps false ++ captureOps.take 3
  | .releasing => wholeRoute.take 9
  | .resourcesReleased => wholeRoute.take 10
  | .preempted => wholeRoute.take 11
  | .resumePending => wholeRoute.take 12
  | .revalidating => wholeRoute.take 12 ++ [.adapter (.setResumeDependency { status := .stale }), .revalidate]
  | .restoring => wholeRoute.take 13
  | .resumeReady => wholeRoute.take 14
  | .resumed => wholeRoute
  | .failed => requestOps true ++ captureOps.take 3 ++ [.reportStateCaptured {}]
  | .cancelled => requestOps true ++ [.cancel]
  | .aborted => requestOps true ++ [.complete]
  | _ => []

theorem run_routeTo {l : LifecycleState} (observed : l.observed = true) :
    (run (.construct ⟨1⟩ ⟨1⟩ quietAdapters) (routeTo l)).lifecycle = l := by
  cases l with
  | requested => cases observed
  | validatingAuthority => cases observed
  | deferred => cases observed
  | captureRequired => cases observed
  | resuming => cases observed
  | superseded => cases observed
  | _ => decide +kernel

theorem routeTo_fresh (l : LifecycleState) : ∀ op ∈ routeTo l, op.loads = none := by
  have all : (routeTo l).all (fun op => op.loads.isNone) = true := by cases l <;> rfl
  intro op listed
  exact Option.isNone_iff_eq_none.mp (List.all_eq_true.mp all op listed)

/-- A lifecycle is that of some run without recovery exactly when it is not one of the six; with an image that is
    accepted, every lifecycle is. -/
theorem observed_iff (l : LifecycleState) :
    ((∃ epoch policy ad ops, (∀ op ∈ ops, op.loads = none) ∧
        (run (.construct epoch policy ad) ops).lifecycle = l) ↔ l.observed = true) ∧
      ∃ bytes, (step (.construct ⟨1⟩ ⟨1⟩ {}) (.restoreBytes bytes)).1 = .ok (.bool true) ∧
        (run (.construct ⟨1⟩ ⟨1⟩ {}) [.restoreBytes bytes]).lifecycle = l := by
  refine ⟨⟨?_, fun observed => ⟨⟨1⟩, ⟨1⟩, quietAdapters, routeTo l, routeTo_fresh l, run_routeTo observed⟩⟩,
    encode (imageAt l), ?_, ?_⟩
  · rintro ⟨epoch, policy, ad, ops, fresh, rfl⟩
    exact run_invariant (P := fun u => u.lifecycle.observed = true) (G := fun e => e.input.loads = none) rfl
      (fun observed fresh moved => moved.observed fresh observed) ops (trace_loads_none fresh)
  · rw [restoreBytes_step (decode_imageAt l)]
  · rw [run_cons, run_nil, restoreBytes_step (decode_imageAt l)]
    exact System.restored_lifecycle _ _

end PreemptionFabric
