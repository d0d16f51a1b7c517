import Dispatch.Bolt.Conservation
import Mathlib.Data.List.Pairwise

/-! # How often a job is paid

A settlement that is rejected gives its batch back, whether or not its
transaction has been executed, and whether or not it still will be.
-/

namespace Dispatch.Bolt

open Coordinator (PayoutCall)

def PaidAtMostOnce (state : State) : Prop :=
  ∀ jobId firstId secondId first second,
    state.executed.get? firstId = some first →
    state.executed.get? secondId = some second →
    jobId ∈ first.payout.jobIds → jobId ∈ second.payout.jobIds →
    firstId = secondId

def State.Retains (state : State) (attempt : Attempt) : Prop :=
  state.inFlight.get? attempt.id = some attempt ∨
    attempt ∈ (state.settled ++ state.failed).map Prod.fst

instance (state : State) (attempt : Attempt) :
    Decidable (state.Retains attempt) :=
  inferInstanceAs (Decidable (_ ∨ _))

def Repays (state : State) : Event → Prop
  | .reject id _ =>
    ∃ attempt ∈ state.inFlight.get? id,
      attempt.payout.retryCount + 1 < maxRetries ∧
        state.executed.get? id ≠ none
  | .execute id =>
    ∃ attempt ∈ state.submitted.get? id, ¬ state.Retains attempt
  | _ => False

instance (state : State) : DecidablePred (Repays state)
  | .reject _ _ | .execute _ => inferInstanceAs (Decidable (∃ _ ∈ _, _))
  | .queuePayout _ | .settleTimer | .resume | .submit _ | .confirm _ _
  | .shutdown => inferInstanceAs (Decidable False)

/-! ## What becomes of an attempt -/

section Moves

variable {event : Event} {state next : State} {added : List PayoutCall}
  {attempt : Attempt}

theorem State.Retains.mono (retains : state.Retains attempt)
    (inFlight : next.inFlight = state.inFlight)
    (settled : state.settled ⊆ next.settled)
    (failed : state.failed ⊆ next.failed) : next.Retains attempt := by
  rcases retains with flying | reported
  · refine .inl ?_
    rw [inFlight]
    exact flying
  · refine .inr ?_
    rw [List.map_append, List.mem_append] at reported ⊢
    rcases reported with isSettled | isFailed
    · exact .inl (List.map_subset _ settled isSettled)
    · exact .inr (List.map_subset _ failed isFailed)

theorem State.Retains.land {landed : Attempt} (retains : state.Retains attempt)
    (landing : state.inFlight.get? landed.id = some landed)
    (other : attempt ≠ landed) :
    State.Retains { state with
      inFlight := state.inFlight.delete landed.id } attempt := by
  rcases retains with flying | reported
  · refine .inl ?_
    rw [OrderedMap.get?_delete, if_neg]
    · exact flying
    · intro same
      rw [← same, flying] at landing
      exact other (Option.some.inj landing)
  · exact .inr reported

theorem failed_settlementFailed (attempt : Attempt) (error : String)
    (state : State) :
    state.failed ⊆ (settlementFailed attempt error state).failed := by
  rcases settlementFailed_cases attempt error state with ⟨_, outcome⟩ |
    ⟨_, outcome⟩
  · rw [outcome]
    rcases requeue_cases attempt.workerPubkey (retried attempt.payout)
      state with ⟨_, same⟩ | ⟨_, _, same⟩
    · rw [same]
      exact List.Subset.refl _
    · rw [same]
      exact List.Subset.refl _
  · rw [outcome]
    exact List.subset_append_left _ _

theorem Move.retains (move : Move event state added next)
    (numbered : Numbered state) (retains : state.Retains attempt) :
    next.Retains attempt ∨ ∃ id error, event = .reject id error ∧
      state.inFlight.get? id = some attempt ∧
      attempt.payout.retryCount + 1 < maxRetries := by
  cases move with
  | idle => exact .inl retains
  | create => exact .inl retains
  | push => exact .inl retains
  | refused found =>
    refine .inl (retains.mono ?_ ?_ ?_)
    · rw [settlementFailed_eq]
      rfl
    · rw [settlementFailed_eq]
      exact List.Subset.refl _
    · exact failed_settlementFailed _ _ (taken _ state)
  | started found =>
    rcases retains with flying | reported
    · have below := (numbered.inFlight _ _ flying).2
      refine .inl (.inl ?_)
      rw [OrderedMap.get?_set, if_neg (by omega)]
      exact flying
    · exact .inl (.inr reported)
  | submit => exact .inl retains
  | execute => exact .inl retains
  | @confirm id txHash landed balances confirms flying =>
    have landing := flying
    rw [← (numbered.inFlight _ _ flying).1] at landing
    by_cases isLanded : attempt = landed
    · simp [State.Retains, isLanded]
    · exact .inl ((retains.land landing isLanded).mono rfl
        (List.subset_append_left _ _) (List.Subset.refl _))
  | @reject id error landed rejects flying =>
    have landing := flying
    rw [← (numbered.inFlight _ _ flying).1] at landing
    by_cases isLanded : attempt = landed
    · subst isLanded
      rcases settlementFailed_cases attempt error
        { state with inFlight := state.inFlight.delete attempt.id } with
        ⟨more, _⟩ | ⟨_, outcome⟩
      · exact .inr ⟨id, error, rejects, flying, more⟩
      · rw [rejected, outcome]
        simp [State.Retains]
    · refine .inl ((retains.land landing isLanded).mono ?_ ?_ ?_)
      · rw [rejected, settlementFailed_eq]
      · rw [rejected, settlementFailed_eq]
        exact List.Subset.refl _
      · exact failed_settlementFailed _ _ _

theorem Move.executed {id : Nat} (move : Move event state added next)
    (found : next.executed.get? id = some attempt) :
    state.executed.get? id = some attempt ∨
      event = .execute id ∧ state.submitted.get? id = some attempt := by
  cases move with
  | idle => exact .inl found
  | create => exact .inl found
  | push => exact .inl found
  | refused =>
    rw [settlementFailed_eq] at found
    exact .inl found
  | started => exact .inl found
  | submit => exact .inl found
  | execute executes known =>
    rw [OrderedMap.get?_set] at found
    split at found
    · next same =>
        cases found
        exact .inr ⟨same ▸ executes, same ▸ known⟩
    · exact .inl found
  | confirm => exact .inl found
  | reject =>
    rw [rejected, settlementFailed_eq] at found
    exact .inl found

end Moves

/-! ## Executed transactions keep their batches -/

def ExecutedRetained (state : State) : Prop :=
  ∀ id attempt, state.executed.get? id = some attempt → state.Retains attempt

theorem Move.executedRetained {event : Event} {state next : State}
    {added : List PayoutCall} (move : Move event state added next)
    (safe : ¬ Repays state event) (numbered : Numbered state)
    (retained : ExecutedRetained state) : ExecutedRetained next := by
  intro id attempt found
  rcases move.executed found with earlier | ⟨executes, known⟩
  · rcases move.retains numbered (retained id attempt earlier) with
      kept | ⟨rejectedId, error, rejects, flying, more⟩
    · exact kept
    · -- An executed attempt that is given back is what `safe` excludes.
      have sameId : rejectedId = id :=
        (numbered.inFlight _ _ flying).1.symm.trans
          (numbered.executed _ _ earlier).1
      subst rejects sameId
      refine absurd ⟨attempt, flying, more, ?_⟩ safe
      rw [earlier]
      exact Option.some_ne_none attempt
  · subst executes
    have current : state.Retains attempt := by
      by_contra givenBack
      exact safe ⟨attempt, known, givenBack⟩
    rcases move.retains numbered current with kept | ⟨_, _, rejects, _⟩
    · exact kept
    · cases rejects

theorem step_executedRetained {config : Config} {state : State}
    {event : Event} (reachable : (machine config).Reachable state)
    (retained : ExecutedRetained state) (safe : ¬ Repays state event) :
    ExecutedRetained ((machine config).step state event) := by
  have numbered := reachable_numbered reachable
  rcases step_moves config state event with ⟨middle, first, second⟩
  have between := first.executedRetained safe numbered retained
  exact second.executedRetained id (first.numbered numbered) between

/-! ## Payments -/

section Runs

variable {config : Config} {events : List Event} {state : State}

def State.retained (state : State) : List Attempt :=
  state.inFlight.values ++ (state.settled ++ state.failed).map Prod.fst

theorem mem_retained {attempt : Attempt} (retains : state.Retains attempt) :
    attempt ∈ state.retained := by
  rcases retains with flying | reported
  · apply List.mem_append_left
    exact List.mem_map_of_mem ((OrderedMap.get?_eq_some_iff _ _ _).mp flying)
  · exact List.mem_append_right _ reported

def DistinctJobs (state : State) : Prop :=
  (state.retained.flatMap fun attempt => attempt.payout.jobIds).Nodup

theorem retained_jobIds (state : State) :
    (state.retained.flatMap fun attempt => attempt.payout.jobIds) =
      (state.inFlightJobs ++ state.settledJobs ++ state.failedJobs).map
        Prod.snd := by
  simp [State.retained, State.inFlightJobs, State.settledJobs,
    State.failedJobs, State.onSettled, State.onFailed, PendingPayout.jobs,
    List.map_flatMap, List.flatMap_map, Function.comp_def]

theorem distinctJobs
    (run : (machine config).Run State.initial events state)
    (distinct : ((queuedBy events).map PayoutCall.jobId).Nodup) :
    DistinctJobs state := by
  have permutation : (state.pendingJobs ++ (state.inFlightJobs ++
      state.settledJobs ++ state.failedJobs)).Perm
        ((queuedBy events).map job) := by
    rw [List.perm_iff_count]
    intro which
    rw [← occurrences_run run which, State.occurrences]
    simp only [List.count_append]
    omega
  have allDistinct := (permutation.map Prod.snd).nodup_iff.mpr (by
    rw [List.map_map]
    exact distinct)
  rw [List.map_append] at allDistinct
  rw [DistinctJobs, retained_jobIds]
  exact allDistinct.of_append_right

theorem paidAtMostOnce (numbered : Numbered state)
    (retained : ExecutedRetained state) (distinct : DistinctJobs state) :
    PaidAtMostOnce state := by
  intro jobId firstId secondId first second executedFirst executedSecond
    inFirst inSecond
  have isFirst := (numbered.executed _ _ executedFirst).1
  have isSecond := (numbered.executed _ _ executedSecond).1
  have disjoint := (List.nodup_flatMap.mp distinct).2
  have symmetric : Std.Symm (Function.onFun List.Disjoint
      fun attempt : Attempt => attempt.payout.jobIds) :=
    ⟨fun _ _ apart _ left right => apart right left⟩
  by_contra different
  have differ : first ≠ second := by
    intro same
    apply different
    rw [← isFirst, ← isSecond, same]
  exact disjoint.forall (mem_retained (retained _ _ executedFirst))
    (mem_retained (retained _ _ executedSecond)) differ inFirst inSecond

theorem paid_along (run : (machine config).Run State.initial events state)
    (distinct : ((queuedBy events).map PayoutCall.jobId).Nodup)
    (safe : (machine config).Steps (fun state event => ¬ Repays state event)
      .initial events) :
    (machine config).Along PaidAtMostOnce .initial events := by
  have retained : (machine config).Along
      (fun state => Numbered state ∧ ExecutedRetained state) .initial
        events := by
    refine run.along ?_ .start ⟨numbered_initial, nofun⟩ safe
    intro before event reachable holds enabled safeNow
    exact ⟨reachable_numbered (reachable.step enabled),
      step_executedRetained reachable holds.2 safeNow⟩
  have jobs : (machine config).Along DistinctJobs .initial events := by
    refine run.along_of_prefixes ?_
    intro first second middle split earlier
    apply distinctJobs earlier
    rw [← split, queuedBy, List.flatMap_append, List.map_append] at distinct
    exact distinct.of_append_left
  exact retained.combine
    (fun _ holds distinctNow => paidAtMostOnce holds.1 holds.2 distinctNow)
    jobs

end Runs

/-- Both distributors pay a job at most once as long as no batch whose
transaction is executed is given back. -/
theorem paid_at_most_once_unless_repaid (distributor : Distributor)
    {events : List Event} {state : State}
    (run : distributor.machine.Run .initial events state)
    (distinct : ((queuedBy events).map PayoutCall.jobId).Nodup)
    (safe : distributor.machine.Steps
      (fun state event => ¬ Repays state event) .initial events) :
    distributor.machine.Along PaidAtMostOnce .initial events :=
  paid_along run distinct safe

namespace Sample

def worker : String :=
  "d75a980182b10ab7d54bfed3c964073a0ee172f3daa62325af021a68f707511a"

def submitted : List Event :=
  [.queuePayout
    { workerPubkey := worker, jobId := "job", amount := 1 / 1000 },
    .settleTimer, .submit 0]

def rejectedAndPaid : List Event :=
  [.reject 0 "Timed out while waiting for transaction", .resume, .settleTimer,
    .submit 1, .execute 1]

end Sample

theorem paid_at_most_once_unless_repaid_lost :
    let events := Sample.submitted ++ Sample.rejectedAndPaid
    (Distributor.bolt fun _ => none).machine.Along PaidAtMostOnce .initial
        events ∧
      (Distributor.wrappedBolt fun _ => none).machine.Along PaidAtMostOnce
        .initial events :=
  ⟨paid_at_most_once_unless_repaid _ (Machine.Run.of_steps (by decide +kernel))
      (by decide) (by decide +kernel),
    paid_at_most_once_unless_repaid _ (Machine.Run.of_steps (by decide +kernel))
      (by decide) (by decide +kernel)⟩

theorem job_paid_twice :
    let events := Sample.submitted ++ [.execute 0] ++ Sample.rejectedAndPaid
    let bolt := (Distributor.bolt fun _ => none).machine
    let wrapped := (Distributor.wrappedBolt fun _ => none).machine
    ((queuedBy events).map PayoutCall.jobId).Nodup ∧
      (bolt.Run .initial events (bolt.exec .initial events) ∧
        ¬ PaidAtMostOnce (bolt.exec .initial events)) ∧
      wrapped.Run .initial events (wrapped.exec .initial events) ∧
        ¬ PaidAtMostOnce (wrapped.exec .initial events) := by
  refine ⟨by decide, ⟨.of_steps (by decide +kernel), ?_⟩,
    .of_steps (by decide +kernel), ?_⟩
  · intro once
    exact absurd (once "job" 0 1 _ _ rfl rfl (by decide) (by decide))
      (by decide)
  · intro once
    exact absurd (once "job" 0 1 _ _ rfl rfl (by decide) (by decide))
      (by decide)

end Dispatch.Bolt
