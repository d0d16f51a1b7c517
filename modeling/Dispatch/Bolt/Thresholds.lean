import Dispatch.Bolt.Retries

/-! # Settling at the threshold

A batch is to be settled as soon as it has `JOBS_THRESHOLD` jobs.
-/

namespace Dispatch.Bolt

open Coordinator (PayoutCall)

def BelowThreshold (config : Config) (workerPubkey : String) (state : State) :
    Prop :=
  ∀ payout, state.pendingPayouts.get? workerPubkey = some payout →
    payout.jobIds.length < config.JOBS_THRESHOLD

def Settles (config : Config) (call : PayoutCall) (existing : PendingPayout) :
    Prop :=
  config.settleError call.workerPubkey (existing.total + call.amount) = none ∨
    maxRetries ≤ existing.retryCount + 1

def SettlesAtOnce (call : PayoutCall) (state : State)
    (distributor : Distributor) : Prop :=
  match distributor with
  | .bolt _ =>
    ∃ existing, state.pendingPayouts.get? call.workerPubkey = some existing ∧
      Settles distributor.config call existing
  | .wrappedBolt _ =>
    ∀ existing, state.pendingPayouts.get? call.workerPubkey =
        some existing →
      existing.jobIds.length + 1 < WrappedBoltDistributor.JOBS_THRESHOLD ∨
        Settles distributor.config call existing

section Queueing

variable {config : Config} {state : State}

theorem belowThreshold_of_none {workerPubkey : String}
    (absent : state.pendingPayouts.get? workerPubkey = none) :
    BelowThreshold config workerPubkey state := by
  intro payout found
  rw [absent] at found
  cases found

theorem belowThreshold_some_iff {workerPubkey : String}
    {payout : PendingPayout}
    (found : state.pendingPayouts.get? workerPubkey = some payout) :
    BelowThreshold config workerPubkey state ↔
      payout.jobIds.length < config.JOBS_THRESHOLD := by
  simp [BelowThreshold, found]

theorem not_belowThreshold {workerPubkey : String} {jobIds : List String}
    (pending : (state.pendingPayouts.get? workerPubkey).map
      PendingPayout.jobIds = some jobIds)
    (reached : config.JOBS_THRESHOLD ≤ jobIds.length) :
    ¬ BelowThreshold config workerPubkey state := by
  obtain ⟨payout, found, rfl⟩ := Option.map_eq_some_iff.mp pending
  rw [belowThreshold_some_iff found]
  exact Nat.not_lt.mpr reached

theorem settleWorker_pending (config : Config) {workerPubkey : String}
    {payout : PendingPayout}
    (found : state.pendingPayouts.get? workerPubkey = some payout)
    (jobs : payout.jobIds.length ≠ 0) :
    (settleWorker config workerPubkey state).1.pendingPayouts.get?
        workerPubkey =
      if config.settleError workerPubkey payout.total ≠ none ∧
          payout.retryCount + 1 < maxRetries
      then some (retried payout) else none := by
  have emptied : (taken workerPubkey state).pendingPayouts.get? workerPubkey =
      none := by simp [taken]
  simp only [settleWorker, found, if_neg jobs]
  cases refused : config.settleError workerPubkey payout.total with
  | none => simp
  | some error =>
    rcases settlementFailed_cases (nextAttempt workerPubkey payout state)
      error (taken workerPubkey state) with ⟨more, same⟩ | ⟨spent, same⟩
    · rcases requeue_cases workerPubkey (retried payout)
        (taken workerPubkey state) with ⟨_, outcome⟩ | ⟨_, present, _⟩
      · simp only [nextAttempt, taken] at same more outcome
        simp [same, outcome, more]
      · rw [emptied] at present
        cases present
    · simp only [nextAttempt, taken] at same spent
      simp [same, Nat.not_lt.mpr spent]

theorem queuePayout_below_of_absent {call : PayoutCall}
    (absent : state.pendingPayouts.get? call.workerPubkey = none) :
    BelowThreshold config call.workerPubkey (queuePayout config call state) ↔
      1 < config.JOBS_THRESHOLD := by
  have started : (queuePayout config call state).pendingPayouts.get?
      call.workerPubkey = some (created call) := by
    simp [queuePayout, absent, created]
  exact belowThreshold_some_iff started

theorem queuePayout_below_of_found {call : PayoutCall}
    {existing : PendingPayout}
    (found : state.pendingPayouts.get? call.workerPubkey = some existing) :
    BelowThreshold config call.workerPubkey (queuePayout config call state) ↔
      existing.jobIds.length + 1 < config.JOBS_THRESHOLD ∨
        Settles config call existing := by
  have count : (pushed call existing).jobIds.length =
      existing.jobIds.length + 1 := by simp [pushed]
  have stored : ({ state with
      pendingPayouts := state.pendingPayouts.set call.workerPubkey
        (pushed call existing) } : State).pendingPayouts.get?
        call.workerPubkey = some (pushed call existing) := by simp
  rw [queuePayout_of_found found, count]
  split
  · next reached =>
      have settled := settleWorker_pending config stored (by simp [count])
      by_cases returned : config.settleError call.workerPubkey
            (pushed call existing).total ≠ none ∧
          (pushed call existing).retryCount + 1 < maxRetries
      · rw [if_pos returned] at settled
        rw [belowThreshold_some_iff settled]
        simp only [retried, count]
        have refused := returned.1
        have more : existing.retryCount + 1 < maxRetries := returned.2
        constructor
        · intro fewer
          omega
        · rintro (fewer | accepted | spent)
          · omega
          · exact absurd accepted refused
          · omega
      · rw [if_neg returned] at settled
        refine iff_of_true (belowThreshold_of_none settled) (.inr ?_)
        by_contra stays
        rw [Settles, not_or, Nat.not_le] at stays
        exact returned stays
  · next fewer =>
      rw [belowThreshold_some_iff stored, count]
      exact iff_of_true (Nat.lt_of_not_ge fewer)
        (.inl (Nat.lt_of_not_ge fewer))

end Queueing

/-- When `queuePayout` returns, what is pending for the worker is below the
threshold if the batch that the call completes goes to settlement and stays
there. With `BoltDistributor` the worker must have had a batch before. -/
theorem queuePayout_below_threshold_iff (distributor : Distributor)
    (call : PayoutCall) (state : State) :
    BelowThreshold distributor.config call.workerPubkey
        (queuePayout distributor.config call state) ↔
      SettlesAtOnce call state distributor := by
  cases distributor with
  | bolt publicKeyError =>
    cases found : state.pendingPayouts.get? call.workerPubkey with
    | none =>
      rw [queuePayout_below_of_absent found]
      simp [SettlesAtOnce, found, Distributor.config,
        BoltDistributor.config, BoltDistributor.JOBS_THRESHOLD]
    | some existing =>
      rw [queuePayout_below_of_found found]
      simp [SettlesAtOnce, found, Distributor.config,
        BoltDistributor.config, BoltDistributor.JOBS_THRESHOLD]
  | wrappedBolt bigIntError =>
    cases found : state.pendingPayouts.get? call.workerPubkey with
    | none =>
      rw [queuePayout_below_of_absent found]
      simp [SettlesAtOnce, found, Distributor.config,
        WrappedBoltDistributor.config,
        WrappedBoltDistributor.JOBS_THRESHOLD]
    | some existing =>
      rw [queuePayout_below_of_found found]
      simp [SettlesAtOnce, found, Distributor.config,
        WrappedBoltDistributor.config]

namespace Sample

def bigIntError (total : ℚ) : Option String :=
  if total * 10 ^ 9 < 2 ^ 1024 then none
  else some ("The number Infinity cannot be converted to a BigInt " ++
    "because it is not an integer")

def hugePayout (jobId : String) : PayoutCall :=
  { workerPubkey := worker, jobId := jobId, amount := 10 ^ 300 }

def hugePayouts : State :=
  (Distributor.wrappedBolt bigIntError).machine.exec .initial
    (["a", "b", "c", "d"].map fun jobId => .queuePayout (hugePayout jobId))

end Sample

theorem first_payout_not_settled :
    let bolt := Distributor.bolt fun _ => none
    let call : PayoutCall :=
      { workerPubkey := Sample.worker, jobId := "job", amount := 1 / 1000 }
    let next := queuePayout bolt.config call .initial
    let wrapped := Distributor.wrappedBolt Sample.bigIntError
    let huge := queuePayout wrapped.config (Sample.hugePayout "e")
      Sample.hugePayouts
    (bolt.machine.Reachable .initial ∧ bolt.config.JOBS_THRESHOLD = 1 ∧
      (next.pendingPayouts.get? Sample.worker).map PendingPayout.jobIds =
        some ["job"] ∧
      ¬ BelowThreshold bolt.config Sample.worker next) ∧
      wrapped.machine.Reachable Sample.hugePayouts ∧
        wrapped.config.JOBS_THRESHOLD = 5 ∧
        (huge.pendingPayouts.get? Sample.worker).map PendingPayout.jobIds =
          some ["a", "b", "c", "d", "e"] ∧
        ¬ BelowThreshold wrapped.config Sample.worker huge := by
  have first : ((queuePayout (BoltDistributor.config fun _ => none)
      { workerPubkey := Sample.worker, jobId := "job", amount := 1 / 1000 }
      .initial).pendingPayouts.get? Sample.worker).map PendingPayout.jobIds =
      some ["job"] := by
    decide +kernel
  have huge : ((queuePayout (WrappedBoltDistributor.config Sample.bigIntError)
      (Sample.hugePayout "e") Sample.hugePayouts).pendingPayouts.get?
        Sample.worker).map PendingPayout.jobIds =
      some ["a", "b", "c", "d", "e"] := by
    decide +kernel
  exact ⟨⟨.start, rfl, first, not_belowThreshold first (by decide)⟩,
    ⟨_, .of_steps (by decide +kernel)⟩, rfl, huge,
    not_belowThreshold huge (by decide)⟩

end Dispatch.Bolt
