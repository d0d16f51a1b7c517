import Dispatch.Bolt.Moves
import Mathlib.Tactic.Ring

/-! # No payout is lost or reported twice

A job id that is queued is handed from batch to batch until it is reported, and
the total of a batch goes with its job ids.
-/

namespace Dispatch.Bolt

open Coordinator (PayoutCall)

/-! ## Every batch

A property of batches that survives the ways in which one is made holds of all
batches of a run. -/

structure Batches (Property : String → PendingPayout → Prop) (state : State) :
    Prop where
  pending : ∀ workerPubkey payout,
    state.pendingPayouts.get? workerPubkey = some payout →
    Property workerPubkey payout
  inFlight : ∀ id attempt, state.inFlight.get? id = some attempt →
    Property attempt.workerPubkey attempt.payout
  settled : ∀ entry ∈ state.settled,
    Property entry.1.workerPubkey entry.1.payout
  failed : ∀ entry ∈ state.failed,
    Property entry.1.workerPubkey entry.1.payout

structure RetryClosed (Property : String → PendingPayout → Prop) : Prop where
  retry : ∀ {workerPubkey payout}, Property workerPubkey payout →
    Property workerPubkey (retried payout)
  merge : ∀ {workerPubkey payout current}, Property workerPubkey payout →
    Property workerPubkey current →
    Property workerPubkey (merged payout current)

structure Admits (Property : String → PendingPayout → Prop)
    (call : PayoutCall) : Prop where
  create : Property call.workerPubkey (created call)
  push : ∀ {existing}, Property call.workerPubkey existing →
    Property call.workerPubkey (pushed call existing)

section Batches

variable {Property : String → PendingPayout → Prop} {state next : State}

theorem Batches.initial : Batches Property .initial where
  pending _ _ found := nomatch found
  inFlight _ _ found := nomatch found
  settled _ member := nomatch member
  failed _ member := nomatch member

theorem Batches.set (batches : Batches Property state) {workerPubkey : String}
    {payout : PendingPayout} (holds : Property workerPubkey payout) :
    Batches Property { state with
      pendingPayouts := state.pendingPayouts.set workerPubkey payout } :=
  { batches with
    pending := by
      intro other stored found
      rw [OrderedMap.get?_set] at found
      split at found
      · next same =>
          cases found
          rw [same]
          exact holds
      · exact batches.pending other stored found }

theorem Batches.taken (batches : Batches Property state)
    (workerPubkey : String) : Batches Property (taken workerPubkey state) :=
  { batches with
    pending := by
      intro other stored found
      rw [Bolt.taken, OrderedMap.get?_delete] at found
      split at found
      · cases found
      · exact batches.pending other stored found }

theorem Batches.land (batches : Batches Property state) (id : Nat) :
    Batches Property { state with inFlight := state.inFlight.delete id } :=
  { batches with
    inFlight := by
      intro other attempt found
      rw [OrderedMap.get?_delete] at found
      split at found
      · cases found
      · exact batches.inFlight other attempt found }

theorem Batches.settlementFailed (batches : Batches Property state)
    (closed : RetryClosed Property) {attempt : Attempt}
    (holds : Property attempt.workerPubkey attempt.payout) (error : String) :
    Batches Property (settlementFailed attempt error state) := by
  rcases settlementFailed_cases attempt error state with ⟨_, outcome⟩ |
    ⟨_, outcome⟩
  · have again := closed.retry holds
    rw [outcome]
    rcases requeue_cases attempt.workerPubkey (retried attempt.payout)
      state with ⟨_, same⟩ | ⟨current, found, same⟩
    · rw [same]
      exact batches.set again
    · rw [same]
      exact batches.set (closed.merge again
        (batches.pending attempt.workerPubkey current found))
  · rw [outcome]
    refine { batches with failed := ?_ }
    intro entry member
    rcases List.mem_append.mp member with earlier | new
    · exact batches.failed entry earlier
    · rw [List.mem_singleton.mp new]
      exact holds

theorem Move.batches {event : Event} {added : List PayoutCall}
    (move : Move event state added next) (closed : RetryClosed Property)
    (admits : ∀ call ∈ added, Admits Property call)
    (batches : Batches Property state) : Batches Property next := by
  cases move with
  | idle => exact { batches with }
  | @create call absent =>
    exact batches.set (admits call List.mem_cons_self).create
  | @push call existing found =>
    have holds := batches.pending call.workerPubkey existing found
    exact batches.set ((admits call List.mem_cons_self).push holds)
  | @refused workerPubkey error payout found =>
    have holds := batches.pending workerPubkey payout found
    exact (batches.taken workerPubkey).settlementFailed closed holds error
  | @started workerPubkey payout found =>
    have holds := batches.pending workerPubkey payout found
    refine { batches.taken workerPubkey with inFlight := ?_ }
    intro id attempt flying
    rw [OrderedMap.get?_set] at flying
    split at flying
    · cases flying
      exact holds
    · exact batches.inFlight id attempt flying
  | submit => exact { batches with }
  | execute => exact { batches with }
  | @confirm id txHash attempt balances confirms flying =>
    have holds := batches.inFlight id attempt flying
    refine { batches.land attempt.id with settled := ?_ }
    intro entry member
    rcases List.mem_append.mp member with earlier | new
    · exact batches.settled entry earlier
    · rw [List.mem_singleton.mp new]
      exact holds
  | @reject id error attempt rejects flying =>
    have holds := batches.inFlight id attempt flying
    exact (batches.land attempt.id).settlementFailed closed holds error

end Batches

/-! ## Batches are kept under the key they are for -/

def Keyed (workerPubkey : String) (payout : PendingPayout) : Prop :=
  payout.workerPubkey = workerPubkey

theorem Move.keyed {event : Event} {state next : State}
    {added : List PayoutCall} (move : Move event state added next)
    (keyed : Batches Keyed state) : Batches Keyed next := by
  have closed : RetryClosed Keyed :=
    { retry := fun keyed => keyed, merge := fun _ keyed => keyed }
  apply move.batches closed _ keyed
  intro call _
  exact { create := rfl, push := fun keyed => keyed }

theorem reachable_keyed {config : Config} {state : State}
    (reachable : (machine config).Reachable state) : Batches Keyed state :=
  reachable_invariant (Batches Keyed) reachable .initial
    fun _ _ _ _ move => move.keyed

/-! ## Where job ids are -/

def PendingPayout.jobs (payout : PendingPayout) : List (String × String) :=
  payout.jobIds.map fun jobId => (payout.workerPubkey, jobId)

namespace State

variable (state : State)

def pendingJobs : List (String × String) :=
  state.pendingPayouts.values.flatMap PendingPayout.jobs

def inFlightJobs : List (String × String) :=
  state.inFlight.values.flatMap fun attempt => attempt.payout.jobs

def settledJobs : List (String × String) :=
  state.onSettled.flatMap fun result =>
    result.jobIds.map fun jobId => (result.workerPubkey, jobId)

def failedJobs : List (String × String) :=
  state.onFailed.flatMap fun report =>
    report.jobIds.map fun jobId => (report.workerPubkey, jobId)

def occurrences (job : String × String) : Nat :=
  state.pendingJobs.count job + state.inFlightJobs.count job +
    state.settledJobs.count job + state.failedJobs.count job

theorem count_pendingJobs (job : String × String) :
    state.pendingJobs.count job =
      state.pendingPayouts.sum fun payout => payout.jobs.count job := by
  rw [pendingJobs, List.count_flatMap]
  rfl

theorem count_inFlightJobs (job : String × String) :
    state.inFlightJobs.count job =
      state.inFlight.sum fun attempt => attempt.payout.jobs.count job := by
  rw [inFlightJobs, List.count_flatMap]
  rfl

theorem occurrences_eq (job : String × String) :
    state.occurrences job =
      (state.pendingPayouts.sum fun payout => payout.jobs.count job) +
        (state.inFlight.sum fun attempt => attempt.payout.jobs.count job) +
        state.settledJobs.count job + state.failedJobs.count job := by
  rw [occurrences, count_pendingJobs, count_inFlightJobs]

end State

@[simp] theorem jobs_retried (payout : PendingPayout) :
    (retried payout).jobs = payout.jobs :=
  rfl

theorem jobs_pushed {call : PayoutCall} {existing : PendingPayout}
    (keyed : Keyed call.workerPubkey existing) :
    (pushed call existing).jobs =
      existing.jobs ++ [(call.workerPubkey, call.jobId)] := by
  simp only [PendingPayout.jobs, pushed, List.map_append]
  rw [keyed]
  rfl

theorem jobs_merged {workerPubkey : String} {payout current : PendingPayout}
    (keyed : Keyed workerPubkey payout)
    (currentKeyed : Keyed workerPubkey current) :
    (merged payout current).jobs = payout.jobs ++ current.jobs := by
  simp only [PendingPayout.jobs, merged, List.map_append]
  rw [keyed, currentKeyed]

section Occurrences

variable {state : State} (job : String × String)

theorem occurrences_set_fresh {workerPubkey : String}
    (absent : state.pendingPayouts.get? workerPubkey = none)
    (payout : PendingPayout) :
    State.occurrences { state with
        pendingPayouts := state.pendingPayouts.set workerPubkey payout } job =
      state.occurrences job + payout.jobs.count job := by
  rw [State.occurrences_eq, State.occurrences_eq, OrderedMap.sum_set,
    OrderedMap.sum_delete_of_fresh _ absent]
  simp only [State.settledJobs, State.failedJobs, State.onSettled,
    State.onFailed]
  omega

theorem occurrences_set_found {workerPubkey : String} {old : PendingPayout}
    (found : state.pendingPayouts.get? workerPubkey = some old)
    (payout : PendingPayout) :
    State.occurrences { state with
        pendingPayouts := state.pendingPayouts.set workerPubkey payout } job +
        old.jobs.count job =
      state.occurrences job + payout.jobs.count job := by
  have split := OrderedMap.sum_delete
    (fun payout : PendingPayout => payout.jobs.count job) found
  rw [State.occurrences_eq, State.occurrences_eq, OrderedMap.sum_set, split]
  simp only [State.settledJobs, State.failedJobs, State.onSettled,
    State.onFailed]
  omega

theorem occurrences_taken {workerPubkey : String} {payout : PendingPayout}
    (found : state.pendingPayouts.get? workerPubkey = some payout) :
    (taken workerPubkey state).occurrences job + payout.jobs.count job =
      state.occurrences job := by
  have split := OrderedMap.sum_delete
    (fun payout : PendingPayout => payout.jobs.count job) found
  rw [State.occurrences_eq, State.occurrences_eq, split]
  simp only [taken, State.settledJobs, State.failedJobs, State.onSettled,
    State.onFailed]
  omega

theorem occurrences_land {id : Nat} {attempt : Attempt}
    (flying : state.inFlight.get? id = some attempt) :
    State.occurrences { state with inFlight := state.inFlight.delete id } job +
        attempt.payout.jobs.count job =
      state.occurrences job := by
  have split := OrderedMap.sum_delete
    (fun attempt : Attempt => attempt.payout.jobs.count job) flying
  rw [State.occurrences_eq, State.occurrences_eq, split]
  simp only [State.settledJobs, State.failedJobs, State.onSettled,
    State.onFailed]
  omega

theorem occurrences_settlementFailed (keyed : Batches Keyed state)
    {attempt : Attempt} (own : Keyed attempt.workerPubkey attempt.payout)
    (error : String) :
    (settlementFailed attempt error state).occurrences job =
      state.occurrences job + attempt.payout.jobs.count job := by
  rcases settlementFailed_cases attempt error state with ⟨_, outcome⟩ |
    ⟨_, outcome⟩
  · rw [outcome]
    rcases requeue_cases attempt.workerPubkey (retried attempt.payout)
      state with ⟨absent, same⟩ | ⟨current, found, same⟩
    · rw [same, occurrences_set_fresh job absent, jobs_retried]
    · have currentKeyed := keyed.pending _ _ found
      have replaced := occurrences_set_found job found
        (merged (retried attempt.payout) current)
      have ownRetried : Keyed attempt.workerPubkey (retried attempt.payout) :=
        own
      rw [jobs_merged ownRetried currentKeyed, jobs_retried,
        List.count_append] at replaced
      rw [same]
      omega
  · have reported : attempt.payout.jobs = attempt.payout.jobIds.map
        fun jobId => (attempt.workerPubkey, jobId) := by
      rw [PendingPayout.jobs, own]
    rw [outcome, reported]
    simp only [State.occurrences, State.pendingJobs, State.inFlightJobs,
      State.settledJobs, State.failedJobs, State.onSettled, State.onFailed,
      List.map_append, List.flatMap_append, List.count_append, List.map_cons,
      List.map_nil, List.flatMap_cons, List.flatMap_nil, List.append_nil]
    omega

end Occurrences

def job (call : PayoutCall) : String × String :=
  (call.workerPubkey, call.jobId)

theorem Move.occurrences {event : Event} {state next : State}
    {added : List PayoutCall} (move : Move event state added next)
    (keyed : Batches Keyed state) (numbered : Numbered state)
    (which : String × String) :
    next.occurrences which =
      state.occurrences which + (added.map job).count which := by
  cases move with
  | idle => rfl
  | create absent =>
    rw [occurrences_set_fresh which absent]
    rfl
  | @push call existing found =>
    have existingKeyed := keyed.pending _ _ found
    have replaced := occurrences_set_found which found (pushed call existing)
    rw [jobs_pushed existingKeyed, List.count_append] at replaced
    rw [List.map_cons, List.map_nil, job]
    omega
  | @refused workerPubkey error payout found =>
    have own := keyed.pending _ _ found
    have without := occurrences_taken which found
    rw [occurrences_settlementFailed which (keyed.taken workerPubkey) own]
    rw [List.map_nil, List.count_nil]
    exact without
  | @started workerPubkey payout found =>
    have without := occurrences_taken which found
    have fresh := numbered.inFlight.fresh
    rw [State.occurrences_eq] at without ⊢
    rw [OrderedMap.sum_set, OrderedMap.sum_delete_of_fresh _ fresh,
      List.map_nil, List.count_nil]
    simp only [taken, nextAttempt, State.settledJobs, State.failedJobs,
      State.onSettled, State.onFailed] at without ⊢
    omega
  | submit => rfl
  | execute => rfl
  | @confirm id txHash attempt balances confirms flying =>
    have same := (numbered.inFlight _ _ flying).1
    rw [same]
    have without := occurrences_land which flying
    rw [List.map_nil, List.count_nil]
    simp only [State.occurrences, State.pendingJobs, State.inFlightJobs,
      State.settledJobs, State.failedJobs, State.onSettled, State.onFailed,
      List.map_append, List.flatMap_append, List.count_append, List.map_cons,
      List.map_nil, List.flatMap_cons, List.flatMap_nil, List.append_nil]
      at without ⊢
    rw [PendingPayout.jobs] at without
    omega
  | @reject id error attempt rejects flying =>
    have same := (numbered.inFlight _ _ flying).1
    have own := keyed.inFlight _ _ flying
    have without := occurrences_land which flying
    rw [rejected, same,
      occurrences_settlementFailed which (keyed.land id) own, List.map_nil,
      List.count_nil]
    exact without

/-! ## Whole runs -/

def queuedBy (events : List Event) : List PayoutCall :=
  events.flatMap Event.queued

def amountOf (queued : List PayoutCall) (jobId : String) : ℚ :=
  ((queued.filter fun call => call.jobId = jobId).map PayoutCall.amount).sum

def Sums (amount : String → ℚ) (_ : String) (payout : PendingPayout) : Prop :=
  payout.total = (payout.jobIds.map amount).sum

structure Conserved (queued : List PayoutCall) (state : State) : Prop where
  once : ∀ call ∈ queued,
    state.pendingJobs.count (job call) + state.inFlightJobs.count (job call) +
      state.settledJobs.count (job call) + state.failedJobs.count (job call) = 1
  known : ∀ which ∈ state.pendingJobs ++ state.inFlightJobs ++
    state.settledJobs ++ state.failedJobs, ∃ call ∈ queued, which = job call
  totals : Batches (Sums (amountOf queued)) state

section Amounts

variable {amount : String → ℚ}

theorem sums_retryClosed : RetryClosed (Sums amount) where
  retry sums := sums
  merge := by
    intro workerPubkey payout current sums currentSums
    unfold Sums at sums currentSums ⊢
    simp only [merged, List.map_append, List.sum_append]
    rw [sums, currentSums]
    ring

theorem sums_admits {call : PayoutCall}
    (right : amount call.jobId = call.amount) : Admits (Sums amount) call where
  create := by simp [Sums, created, right]
  push := by
    intro existing sums
    unfold Sums at sums ⊢
    simp [pushed, sums, right]

theorem amountOf_eq {queued : List PayoutCall}
    (distinct : (queued.map PayoutCall.jobId).Nodup) {call : PayoutCall}
    (member : call ∈ queued) : amountOf queued call.jobId = call.amount := by
  unfold amountOf
  induction queued with
  | nil => cases member
  | cons first rest induction =>
    rw [List.map_cons, List.nodup_cons] at distinct
    rcases List.mem_cons.mp member with same | later
    · subst same
      have others : rest.filter (fun other => other.jobId = call.jobId) =
          [] := by
        apply List.filter_eq_nil_iff.mpr
        intro other otherMember equal
        apply distinct.1
        rw [← of_decide_eq_true equal]
        exact List.mem_map_of_mem otherMember
      simp [others]
    · have different : first.jobId ≠ call.jobId := by
        intro equal
        apply distinct.1
        rw [equal]
        exact List.mem_map_of_mem later
      rw [List.filter_cons_of_neg (by simpa using different)]
      exact induction distinct.2 later

end Amounts

section Runs

variable {config : Config} {events : List Event} {start state : State}

theorem step_occurrences (reachable : (machine config).Reachable state)
    (event : Event) (which : String × String) :
    ((machine config).step state event).occurrences which =
      state.occurrences which + (event.queued.map job).count which := by
  have keyed := reachable_keyed reachable
  have numbered := reachable_numbered reachable
  rcases step_moves config state event with ⟨middle, first, second⟩
  rw [second.occurrences (first.keyed keyed) (first.numbered numbered),
    first.occurrences keyed numbered, List.map_nil, List.count_nil]
  omega

theorem occurrences_run
    (run : (machine config).Run State.initial events state)
    (which : String × String) :
    state.occurrences which = ((queuedBy events).map job).count which := by
  have total := run.accumulates (fun state => state.occurrences which)
    (fun event => (event.queued.map job).count which)
    (fun _ event reached _ => step_occurrences reached event which) .start
  have nothing : State.initial.occurrences which = 0 := rfl
  rw [queuedBy, List.map_flatMap, List.count_flatMap]
  rw [nothing, Nat.zero_add] at total
  exact total

theorem totals_run {amount : String → ℚ}
    (run : (machine config).Run start events state)
    (right : ∀ call ∈ queuedBy events, amount call.jobId = call.amount)
    (base : Batches (Sums amount) start) : Batches (Sums amount) state := by
  induction run with
  | nil => exact base
  | @cons before final event events enabled rest induction =>
    have rightNow : ∀ call ∈ event.queued,
        amount call.jobId = call.amount := by
      intro call member
      exact right call (List.mem_append_left _ member)
    have rightLater : ∀ call ∈ queuedBy events,
        amount call.jobId = call.amount := by
      intro call member
      exact right call (List.mem_append_right _ member)
    apply induction rightLater
    rcases step_moves config before event with ⟨middle, first, second⟩
    apply second.batches sums_retryClosed (fun _ member => nomatch member)
    apply first.batches sums_retryClosed _ base
    intro call member
    exact sums_admits (rightNow call member)

theorem conserved (run : (machine config).Run State.initial events state)
    (distinct : ((queuedBy events).map PayoutCall.jobId).Nodup) :
    Conserved (queuedBy events) state where
  once call member := by
    have distinctJobs : ((queuedBy events).map job).Nodup := by
      apply List.Nodup.of_map Prod.snd
      rw [List.map_map]
      exact distinct
    have total := occurrences_run run (job call)
    rw [List.count_eq_one_of_mem distinctJobs (List.mem_map_of_mem member)]
      at total
    exact total
  known which member := by
    have total := occurrences_run run which
    have positive : 0 < state.occurrences which := by
      have counted := List.count_pos_iff.mpr member
      simp only [List.count_append] at counted
      exact counted
    rw [total] at positive
    rcases List.mem_map.mp (List.count_pos_iff.mp positive) with
      ⟨call, queued, same⟩
    exact ⟨call, queued, same.symm⟩
  totals := totals_run run (fun _ member => amountOf_eq distinct member) .initial

end Runs

/-- Both distributors conserve what is queued, whatever is settled when and
whatever the chain does. -/
theorem payouts_conserved (distributor : Distributor) {events : List Event}
    {state : State} (run : distributor.machine.Run .initial events state)
    (distinct : ((queuedBy events).map PayoutCall.jobId).Nodup) :
    Conserved (queuedBy events) state :=
  conserved run distinct

theorem payouts_conserved_merged :
    let worker :=
      "d75a980182b10ab7d54bfed3c964073a0ee172f3daa62325af021a68f707511a"
    let payout (jobId : String) : Event := .queuePayout
      { workerPubkey := worker, jobId := jobId, amount := 1 / 1000 }
    let events := [payout "first", payout "second", payout "third", .submit 0,
      .reject 0 "Transaction was not confirmed in 30.00 seconds"]
    let state := (Distributor.bolt fun _ => none).machine.exec .initial events
    state.pendingJobs =
        [(worker, "first"), (worker, "second"), (worker, "third")] ∧
      Conserved (queuedBy events) state := by
  refine ⟨by decide +kernel, ?_⟩
  exact payouts_conserved _ (Machine.Run.of_steps (by decide +kernel))
    (by decide)

end Dispatch.Bolt
