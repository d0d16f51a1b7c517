import Dispatch.Bolt.Payment

/-! # How often a settlement is tried

Failed attempts are counted with the batch.
-/

namespace Dispatch.Bolt

open Coordinator (PayoutCall)

/-! ## Failed attempts -/

def settleWorkerFailures (config : Config) (workerPubkey : String)
    (state : State) : List Attempt :=
  match state.pendingPayouts.get? workerPubkey with
  | none => []
  | some payout =>
    if payout.jobIds.length = 0 then []
    else
      match config.settleError workerPubkey payout.total with
      | some _ => [nextAttempt workerPubkey payout state]
      | none => []

def passFailures (config : Config) (workers : List String) (state : State) :
    List Attempt :=
  match workers with
  | [] => []
  | workerPubkey :: _ => settleWorkerFailures config workerPubkey state

def failedAttempts (config : Config) (state : State) : Event → List Attempt
  | .queuePayout call =>
    match state.pendingPayouts.get? call.workerPubkey with
    | some existing =>
      if (pushed call existing).jobIds.length ≥ config.JOBS_THRESHOLD then
        settleWorkerFailures config call.workerPubkey { state with
          pendingPayouts := state.pendingPayouts.set call.workerPubkey
            (pushed call existing) }
      else
        []
    | none => []
  | .settleTimer =>
    match state.pass with
    | some _ => []
    | none => passFailures config state.pendingPayouts.keys state
  | .resume =>
    match state.pass with
    | some pass => passFailures config pass.rest state
    | none => []
  | .reject id _ => (state.inFlight.get? id).toList
  | .submit _ | .execute _ | .confirm _ _ | .shutdown => []

def tally (failed : List Attempt) (jobId : String) : Nat :=
  failed.countP fun attempt => jobId ∈ attempt.payout.jobIds

structure Accounted (failed : List Attempt) (state : State) : Prop where
  reported : ∀ jobId, jobId ∈ state.failedJobs.map Prod.snd ↔
    tally failed jobId = maxRetries
  bounded : ∀ jobId, tally failed jobId ≤ maxRetries

/-! ## Job ids wherever they are -/

namespace State

def jobIds (state : State) : List String :=
  (state.pendingJobs ++ (state.inFlightJobs ++
    (state.settledJobs ++ state.failedJobs))).map Prod.snd

theorem mem_jobIds (state : State) (jobId : String) :
    jobId ∈ state.jobIds ↔
      (∃ payout ∈ state.pendingPayouts.values, jobId ∈ payout.jobIds) ∨
      (∃ attempt ∈ state.inFlight.values, jobId ∈ attempt.payout.jobIds) ∨
      (∃ entry ∈ state.settled, jobId ∈ entry.1.payout.jobIds) ∨
      ∃ entry ∈ state.failed, jobId ∈ entry.1.payout.jobIds := by
  simp [jobIds, pendingJobs, inFlightJobs, settledJobs, failedJobs, onSettled,
    onFailed, PendingPayout.jobs, List.map_flatMap, List.flatMap_map,
    Function.comp_def]

end State

def Miscounts (state : State) : Event → Prop
  | .queuePayout call =>
    call.jobId ∈ state.jobIds ∨
      ∃ existing ∈ state.pendingPayouts.get? call.workerPubkey,
        existing.retryCount ≠ 0
  | .reject id _ =>
    ∃ attempt ∈ state.inFlight.get? id,
      attempt.payout.retryCount + 1 < maxRetries ∧
        ∃ current ∈ state.pendingPayouts.get? attempt.workerPubkey,
          current.retryCount ≠ attempt.payout.retryCount + 1
  | _ => False

instance (state : State) : DecidablePred (Miscounts state)
  | .queuePayout _ => inferInstanceAs (Decidable (_ ∨ _))
  | .reject _ _ => inferInstanceAs (Decidable (∃ _ ∈ _, _))
  | .settleTimer | .resume | .submit _ | .execute _ | .confirm _ _
  | .shutdown => inferInstanceAs (Decidable False)

section JobIds

variable {state next : State}

theorem jobIds_perm {added : List (String × String)}
    (counts : ∀ which, next.occurrences which =
      state.occurrences which + added.count which) :
    next.jobIds.Perm (state.jobIds ++ added.map Prod.snd) := by
  unfold State.jobIds
  rw [← List.map_append]
  apply List.Perm.map
  rw [List.perm_iff_count]
  intro which
  have total := counts which
  simp only [State.occurrences, List.count_append] at total ⊢
  omega

@[simp] theorem map_snd_jobs (payout : PendingPayout) :
    payout.jobs.map Prod.snd = payout.jobIds := by
  simp [PendingPayout.jobs, Function.comp_def]

theorem Move.jobIds {event : Event} {added : List PayoutCall}
    (move : Move event state added next) (keyed : Batches Keyed state)
    (numbered : Numbered state) :
    next.jobIds.Perm (state.jobIds ++ added.map PayoutCall.jobId) := by
  have moved := jobIds_perm (move.occurrences keyed numbered)
  rw [List.map_map] at moved
  exact moved

theorem jobIds_land {id : Nat} {attempt : Attempt}
    (flying : state.inFlight.get? id = some attempt) :
    state.jobIds.Perm (State.jobIds { state with
      inFlight := state.inFlight.delete id } ++ attempt.payout.jobIds) := by
  rw [← map_snd_jobs]
  exact jobIds_perm fun which => (occurrences_land which flying).symm

theorem jobIds_taken {workerPubkey : String} {payout : PendingPayout}
    (found : state.pendingPayouts.get? workerPubkey = some payout) :
    state.jobIds.Perm ((taken workerPubkey state).jobIds ++
      payout.jobIds) := by
  rw [← map_snd_jobs]
  exact jobIds_perm fun which => (occurrences_taken which found).symm

theorem not_mem_rest {ids rest own : List String} (distinct : ids.Nodup)
    (split : ids.Perm (rest ++ own)) : ∀ jobId ∈ own, jobId ∉ rest := by
  have apart := (List.nodup_append.mp (split.nodup_iff.mp distinct)).2.2
  intro jobId isOwn isRest
  exact apart jobId isRest jobId isOwn rfl

end JobIds

/-! ## Batches that carry the right count -/

structure Tallied (failed : List Attempt) (payout : PendingPayout) : Prop where
  counted : ∀ jobId ∈ payout.jobIds, tally failed jobId = payout.retryCount
  retryable : payout.retryCount < maxRetries

structure Counts (failed : List Attempt) (state : State) : Prop where
  pending : ∀ workerPubkey payout,
    state.pendingPayouts.get? workerPubkey = some payout →
    Tallied failed payout
  inFlight : ∀ id attempt, state.inFlight.get? id = some attempt →
    Tallied failed attempt.payout
  settled : ∀ entry ∈ state.settled, Tallied failed entry.1.payout
  failed : ∀ entry ∈ state.failed, ∀ jobId ∈ entry.1.payout.jobIds,
    tally failed jobId = maxRetries

section Counts

variable {failed : List Attempt} {state : State}

theorem tally_append_of_not_mem {attempt : Attempt} {jobId : String}
    (other : jobId ∉ attempt.payout.jobIds) :
    tally (failed ++ [attempt]) jobId = tally failed jobId := by
  simp [tally, other]

theorem tally_append_of_mem {attempt : Attempt} {jobId : String}
    (own : jobId ∈ attempt.payout.jobIds) :
    tally (failed ++ [attempt]) jobId = tally failed jobId + 1 := by
  simp [tally, own]

theorem Tallied.other {payout : PendingPayout}
    (tallied : Tallied failed payout) {attempt : Attempt}
    (apart : ∀ jobId ∈ payout.jobIds, jobId ∉ attempt.payout.jobIds) :
    Tallied (failed ++ [attempt]) payout where
  counted jobId member := by
    rw [tally_append_of_not_mem (apart jobId member)]
    exact tallied.counted jobId member
  retryable := tallied.retryable

theorem Tallied.retried {attempt : Attempt}
    (tallied : Tallied failed attempt.payout)
    (more : attempt.payout.retryCount + 1 < maxRetries) :
    Tallied (failed ++ [attempt]) (retried attempt.payout) where
  counted jobId member := by
    rw [tally_append_of_mem member, tallied.counted jobId member]
    rfl
  retryable := more

theorem Tallied.merged {payout current : PendingPayout}
    (tallied : Tallied failed payout) (currentTallied : Tallied failed current)
    (even : current.retryCount = payout.retryCount) :
    Tallied failed (merged payout current) where
  counted jobId member := by
    rcases List.mem_append.mp member with first | second
    · exact (tallied.counted jobId first).trans even.symm
    · exact currentTallied.counted jobId second
  retryable := currentTallied.retryable

theorem Counts.set (counts : Counts failed state) {workerPubkey : String}
    {payout : PendingPayout} (tallied : Tallied failed payout) :
    Counts failed { state with
      pendingPayouts := state.pendingPayouts.set workerPubkey payout } :=
  { counts with
    pending := by
      intro other stored found
      rw [OrderedMap.get?_set] at found
      split at found
      · cases found
        exact tallied
      · exact counts.pending other stored found }

theorem Counts.taken (counts : Counts failed state) (workerPubkey : String) :
    Counts failed (taken workerPubkey state) :=
  { counts with
    pending := by
      intro other stored found
      rw [Bolt.taken, OrderedMap.get?_delete] at found
      split at found
      · cases found
      · exact counts.pending other stored found }

theorem Counts.land (counts : Counts failed state) (id : Nat) :
    Counts failed { state with inFlight := state.inFlight.delete id } :=
  { counts with
    inFlight := by
      intro other attempt found
      rw [OrderedMap.get?_delete] at found
      split at found
      · cases found
      · exact counts.inFlight other attempt found }

theorem Counts.other (counts : Counts failed state) {attempt : Attempt}
    (apart : ∀ jobId ∈ attempt.payout.jobIds, jobId ∉ state.jobIds) :
    Counts (failed ++ [attempt]) state where
  pending workerPubkey payout found := by
    apply (counts.pending workerPubkey payout found).other
    intro jobId member own
    apply apart jobId own
    have stored := (OrderedMap.mem_values_iff _ _).mpr ⟨_, found⟩
    exact (state.mem_jobIds jobId).mpr (.inl ⟨payout, stored, member⟩)
  inFlight id flying found := by
    apply (counts.inFlight id flying found).other
    intro jobId member own
    apply apart jobId own
    have stored := (OrderedMap.mem_values_iff _ _).mpr ⟨_, found⟩
    exact (state.mem_jobIds jobId).mpr
      (.inr (.inl ⟨flying, stored, member⟩))
  settled entry stored := by
    apply (counts.settled entry stored).other
    intro jobId member own
    apply apart jobId own
    exact (state.mem_jobIds jobId).mpr
      (.inr (.inr (.inl ⟨entry, stored, member⟩)))
  failed entry stored jobId member := by
    have other : jobId ∉ attempt.payout.jobIds := by
      intro own
      apply apart jobId own
      exact (state.mem_jobIds jobId).mpr
        (.inr (.inr (.inr ⟨entry, stored, member⟩)))
    rw [tally_append_of_not_mem other]
    exact counts.failed entry stored jobId member

theorem Counts.settlementFailed (counts : Counts failed state)
    {attempt : Attempt} (tallied : Tallied failed attempt.payout)
    (apart : ∀ jobId ∈ attempt.payout.jobIds, jobId ∉ state.jobIds)
    (even : attempt.payout.retryCount + 1 < maxRetries →
      ∀ current ∈ state.pendingPayouts.get? attempt.workerPubkey,
        current.retryCount = attempt.payout.retryCount + 1)
    (error : String) :
    Counts (failed ++ [attempt]) (settlementFailed attempt error state) := by
  have others := counts.other apart
  rcases settlementFailed_cases attempt error state with ⟨more, outcome⟩ |
    ⟨spent, outcome⟩
  · have again := tallied.retried more
    rw [outcome]
    rcases requeue_cases attempt.workerPubkey (retried attempt.payout)
      state with ⟨_, same⟩ | ⟨current, found, same⟩
    · rw [same]
      exact others.set again
    · rw [same]
      exact others.set (again.merged (others.pending _ current found)
        (even more current found))
  · rw [outcome]
    refine { others with failed := ?_ }
    intro entry member jobId own
    rcases List.mem_append.mp member with earlier | new
    · exact others.failed entry earlier jobId own
    · rw [List.mem_singleton.mp new] at own
      have tried := tallied.counted jobId own
      have below := tallied.retryable
      rw [tally_append_of_mem own]
      omega

end Counts

/-! ## Settlements keep the count -/

section Settlements

variable {config : Config} {failed : List Attempt} {state : State}

theorem Counts.settleWorker (counts : Counts failed state)
    (distinct : state.jobIds.Nodup) (workerPubkey : String) :
    Counts (failed ++ settleWorkerFailures config workerPubkey state)
      (settleWorker config workerPubkey state).1 := by
  unfold Bolt.settleWorker settleWorkerFailures
  cases found : state.pendingPayouts.get? workerPubkey with
  | none =>
    rw [List.append_nil]
    exact counts
  | some payout =>
    have tallied := counts.pending workerPubkey payout found
    have others := counts.taken workerPubkey
    dsimp only
    split
    · rw [List.append_nil]
      exact counts
    · cases config.settleError workerPubkey payout.total with
      | some error =>
        -- The batch has just been taken out, so none is there to merge.
        have apart := not_mem_rest distinct (jobIds_taken found)
        apply others.settlementFailed tallied apart
        intro _ current present
        simp [Bolt.taken, nextAttempt, OrderedMap.get?_delete] at present
      | none =>
        rw [List.append_nil]
        refine { others with inFlight := ?_ }
        intro id attempt flying
        rw [OrderedMap.get?_set] at flying
        split at flying
        · cases flying
          exact tallied
        · exact counts.inFlight id attempt flying

theorem Counts.continuePass (counts : Counts failed state)
    (distinct : state.jobIds.Nodup) (workers : List String) :
    Counts (failed ++ passFailures config workers state)
      (continuePass config workers state) := by
  cases workers with
  | nil =>
    rw [passFailures, List.append_nil]
    exact { counts with }
  | cons workerPubkey rest =>
    exact { counts.settleWorker distinct workerPubkey with }

theorem queuePayout_of_found {call : PayoutCall} {existing : PendingPayout}
    (found : state.pendingPayouts.get? call.workerPubkey = some existing) :
    queuePayout config call state =
      if (pushed call existing).jobIds.length ≥ config.JOBS_THRESHOLD then
        (settleWorker config call.workerPubkey { state with
          pendingPayouts := state.pendingPayouts.set call.workerPubkey
            (pushed call existing) }).1
      else
        { state with
          pendingPayouts := state.pendingPayouts.set call.workerPubkey
            (pushed call existing) } := by
  rw [queuePayout, found]
  rfl

theorem Counts.queuePayout (counts : Counts failed state)
    (keyed : Batches Keyed state) (numbered : Numbered state)
    (distinct : state.jobIds.Nodup) {call : PayoutCall}
    (fresh : call.jobId ∉ state.jobIds)
    (untried : tally failed call.jobId = 0)
    (even : ∀ existing ∈ state.pendingPayouts.get? call.workerPubkey,
      existing.retryCount = 0) :
    Counts (failed ++ failedAttempts config state (.queuePayout call))
      (queuePayout config call state) := by
  cases found : state.pendingPayouts.get? call.workerPubkey with
  | none =>
    simp only [Bolt.queuePayout, failedAttempts, found, List.append_nil]
    apply counts.set
    exact { counted := by simpa using untried, retryable := Nat.zero_lt_succ 2 }
  | some existing =>
    have tallied := counts.pending call.workerPubkey existing found
    have begun : Tallied failed (pushed call existing) :=
      { counted := by
          intro jobId member
          rcases List.mem_append.mp member with earlier | new
          · exact tallied.counted jobId earlier
          · rw [List.mem_singleton.mp new, untried]
            exact (even existing found).symm
        retryable := tallied.retryable }
    have longer : Counts failed { state with
        pendingPayouts := state.pendingPayouts.set call.workerPubkey
          (pushed call existing) } := counts.set begun
    rw [queuePayout_of_found found]
    simp only [failedAttempts, found]
    split
    · have move : Move (.queuePayout call) state [call] _ := .push found
      have moved := move.jobIds keyed numbered
      apply longer.settleWorker
      rw [moved.nodup_iff]
      exact List.nodup_append.mpr ⟨distinct, List.nodup_singleton _, by
        intro jobId member other isNew equal
        rw [List.map_cons, List.map_nil, List.mem_singleton] at isNew
        exact fresh (isNew ▸ equal ▸ member)⟩
    · rw [List.append_nil]
      exact longer

theorem Counts.rejected (counts : Counts failed state)
    (numbered : Numbered state) (distinct : state.jobIds.Nodup) {id : Nat}
    {attempt : Attempt} (flying : state.inFlight.get? id = some attempt)
    {error : String} (even : ¬ Miscounts state (.reject id error)) :
    Counts (failed ++ [attempt]) (rejected attempt error state) := by
  have same := (numbered.inFlight id attempt flying).1
  have apart := not_mem_rest distinct (jobIds_land flying)
  rw [Bolt.rejected, same]
  apply (counts.land id).settlementFailed (counts.inFlight id attempt flying)
    apart
  intro more current found
  by_contra uneven
  exact even ⟨attempt, flying, more, current, found, uneven⟩

theorem Counts.step (counts : Counts failed state)
    (reachable : (machine config).Reachable state)
    (distinct : state.jobIds.Nodup)
    (known : ∀ jobId, tally failed jobId ≠ 0 → jobId ∈ state.jobIds)
    {event : Event} (even : ¬ Miscounts state event) :
    Counts (failed ++ failedAttempts config state event)
      ((machine config).step state event) := by
  have keyed := reachable_keyed reachable
  have numbered := reachable_numbered reachable
  simp only [machine]
  cases event with
  | queuePayout call =>
    rcases not_or.mp even with ⟨fresh, untriedBatch⟩
    apply counts.queuePayout keyed numbered distinct fresh
    · by_contra tried
      exact fresh (known call.jobId tried)
    · intro existing found
      by_contra tried
      exact untriedBatch ⟨existing, found, tried⟩
  | settleTimer =>
    simp only [handle, settleAll, failedAttempts]
    cases state.pass with
    | some pass =>
      rw [List.append_nil]
      exact counts
    | none => exact counts.continuePass distinct _
  | resume =>
    simp only [handle, failedAttempts]
    cases state.pass with
    | some pass => exact counts.continuePass distinct pass.rest
    | none =>
      rw [List.append_nil]
      exact counts
  | submit id =>
    simp only [handle, withAttempt, failedAttempts, List.append_nil]
    split <;> exact { counts with }
  | execute id =>
    simp only [handle, withAttempt, failedAttempts, List.append_nil]
    split <;> exact { counts with }
  | confirm id txHash =>
    simp only [handle, withAttempt, failedAttempts, List.append_nil]
    split
    · next attempt flying =>
        refine { counts.land attempt.id with settled := ?_ }
        intro entry member
        rcases List.mem_append.mp member with earlier | new
        · exact counts.settled entry earlier
        · rw [List.mem_singleton.mp new]
          exact counts.inFlight id attempt flying
    · exact counts
  | reject id error =>
    simp only [handle, withAttempt, failedAttempts]
    cases flying : state.inFlight.get? id with
    | none =>
      rw [Option.toList_none, List.append_nil]
      exact counts
    | some attempt =>
      exact counts.rejected numbered distinct flying even
  | shutdown =>
    simp only [handle, failedAttempts, List.append_nil]
    exact { counts with }

end Settlements

/-! ## Whole runs -/

section Runs

variable {config : Config} {failed : List Attempt} {state : State}

theorem step_jobIds (reachable : (machine config).Reachable state)
    (event : Event) :
    ((machine config).step state event).jobIds.Perm
      (state.jobIds ++ event.queued.map PayoutCall.jobId) := by
  have moved := jobIds_perm fun which =>
    step_occurrences reachable event which
  rw [List.map_map] at moved
  exact moved

theorem settleWorkerFailures_jobIds {workerPubkey jobId : String}
    {attempt : Attempt}
    (member : attempt ∈ settleWorkerFailures config workerPubkey state)
    (own : jobId ∈ attempt.payout.jobIds) : jobId ∈ state.jobIds := by
  unfold settleWorkerFailures at member
  cases found : state.pendingPayouts.get? workerPubkey with
  | none => simp [found] at member
  | some payout =>
    have stored := (OrderedMap.mem_values_iff _ _).mpr ⟨_, found⟩
    have isNext : attempt = nextAttempt workerPubkey payout state := by
      simp only [found] at member
      split at member
      · cases member
      · split at member
        · exact List.mem_singleton.mp member
        · cases member
    rw [isNext] at own
    exact (state.mem_jobIds jobId).mpr (.inl ⟨payout, stored, own⟩)

theorem passFailures_jobIds {workers : List String} {jobId : String}
    {attempt : Attempt} (member : attempt ∈ passFailures config workers state)
    (own : jobId ∈ attempt.payout.jobIds) : jobId ∈ state.jobIds := by
  cases workers with
  | nil => cases member
  | cons workerPubkey rest => exact settleWorkerFailures_jobIds member own

theorem failedAttempts_jobIds (reachable : (machine config).Reachable state)
    {event : Event} {jobId : String} {attempt : Attempt}
    (member : attempt ∈ failedAttempts config state event)
    (own : jobId ∈ attempt.payout.jobIds) :
    jobId ∈ state.jobIds ++ event.queued.map PayoutCall.jobId := by
  cases event with
  | queuePayout call =>
    simp only [failedAttempts] at member
    cases found : state.pendingPayouts.get? call.workerPubkey with
    | none => simp [found] at member
    | some existing =>
      have move : Move (.queuePayout call) state [call] _ := .push found
      have moved := move.jobIds (reachable_keyed reachable)
        (reachable_numbered reachable)
      simp only [found] at member
      split at member
      · exact moved.mem_iff.mp (settleWorkerFailures_jobIds member own)
      · cases member
  | settleTimer =>
    simp only [failedAttempts] at member
    cases unsettled : state.pass with
    | some pass => simp [unsettled] at member
    | none =>
      rw [unsettled] at member
      exact List.mem_append_left _ (passFailures_jobIds member own)
  | resume =>
    simp only [failedAttempts] at member
    cases settling : state.pass with
    | some pass =>
      rw [settling] at member
      exact List.mem_append_left _ (passFailures_jobIds member own)
    | none => simp [settling] at member
  | reject id error =>
    have flying := Option.mem_toList.mp member
    have stored := (OrderedMap.mem_values_iff _ _).mpr ⟨_, flying⟩
    exact List.mem_append_left _ ((state.mem_jobIds jobId).mpr
      (.inr (.inl ⟨attempt, stored, own⟩)))
  | submit id => cases member
  | execute id => cases member
  | confirm id txHash => cases member
  | shutdown => cases member

structure Counting (failed : List Attempt) (state : State) : Prop where
  counts : Counts failed state
  distinct : state.jobIds.Nodup
  known : ∀ jobId, tally failed jobId ≠ 0 → jobId ∈ state.jobIds

theorem Counting.initial : Counting [] .initial where
  counts :=
    { pending := fun _ _ found => nomatch found
      inFlight := fun _ _ found => nomatch found
      settled := fun _ member => nomatch member
      failed := fun _ member => nomatch member }
  distinct := List.nodup_nil
  known _ tried := absurd rfl tried

theorem Counting.step (counting : Counting failed state)
    (reachable : (machine config).Reachable state) {event : Event}
    (even : ¬ Miscounts state event) :
    Counting (failed ++ failedAttempts config state event)
      ((machine config).step state event) where
  counts := counting.counts.step reachable counting.distinct counting.known
    even
  distinct := by
    rw [(step_jobIds reachable event).nodup_iff]
    refine List.nodup_append.mpr ⟨counting.distinct, ?_, ?_⟩
    · cases event with
      | queuePayout call => exact List.nodup_singleton _
      | _ => exact List.nodup_nil
    · intro jobId member other queued equal
      cases event with
      | queuePayout call =>
        have isNew := List.mem_singleton.mp queued
        exact even (.inl (isNew ▸ equal ▸ member))
      | _ => cases queued
  known jobId tried := by
    rw [(step_jobIds reachable event).mem_iff]
    have positive := Nat.pos_of_ne_zero tried
    rcases List.countP_pos_iff.mp positive with ⟨attempt, member, own⟩
    have own := of_decide_eq_true own
    rcases List.mem_append.mp member with earlier | new
    · have before : 0 < tally failed jobId :=
        List.countP_pos_iff.mpr ⟨attempt, earlier, decide_eq_true own⟩
      exact List.mem_append_left _ (counting.known jobId before.ne')
    · exact failedAttempts_jobIds reachable new own

theorem mem_failedJobs {jobId : String} :
    jobId ∈ state.failedJobs.map Prod.snd ↔
      ∃ entry ∈ state.failed, jobId ∈ entry.1.payout.jobIds := by
  simp [State.failedJobs, State.onFailed, List.map_flatMap, List.flatMap_map,
    Function.comp_def]

theorem Counting.tally_lt_or (counting : Counting failed state)
    {jobId : String} (tried : tally failed jobId ≠ 0) :
    tally failed jobId < maxRetries ∨
      tally failed jobId = maxRetries ∧
        jobId ∈ state.failedJobs.map Prod.snd := by
  have below : ∀ {payout : PendingPayout}, Tallied failed payout →
      jobId ∈ payout.jobIds → tally failed jobId < maxRetries := by
    intro payout tallied member
    rw [tallied.counted jobId member]
    exact tallied.retryable
  have counts := counting.counts
  rcases (state.mem_jobIds jobId).mp (counting.known jobId tried) with
    ⟨payout, stored, member⟩ | ⟨attempt, stored, member⟩ |
    ⟨entry, stored, member⟩ | ⟨entry, stored, member⟩
  · rcases (OrderedMap.mem_values_iff _ _).mp stored with ⟨key, found⟩
    exact .inl (below (counts.pending key payout found) member)
  · rcases (OrderedMap.mem_values_iff _ _).mp stored with ⟨id, flying⟩
    exact .inl (below (counts.inFlight id attempt flying) member)
  · exact .inl (below (counts.settled entry stored) member)
  · exact .inr ⟨counts.failed entry stored jobId member,
      mem_failedJobs.mpr ⟨entry, stored, member⟩⟩

theorem Counting.accounted (counting : Counting failed state) :
    Accounted failed state where
  reported jobId := by
    constructor
    · intro reported
      rcases mem_failedJobs.mp reported with ⟨entry, stored, member⟩
      exact counting.counts.failed entry stored jobId member
    · intro spent
      have tried : tally failed jobId ≠ 0 := by
        rw [spent]
        decide
      rcases counting.tally_lt_or tried with below | ⟨_, reported⟩
      · omega
      · exact reported
  bounded jobId := by
    by_cases tried : tally failed jobId = 0
    · omega
    · rcases counting.tally_lt_or tried with below | ⟨spent, _⟩
      · exact below.le
      · exact spent.le

end Runs

/-- With either distributor, a job is reported when its third attempt has
failed, as long as no step miscounts. -/
theorem retries_accounted_unless_miscounted (distributor : Distributor)
    {events : List Event} {state : State}
    (run : distributor.machine.Run .initial events state)
    (even : distributor.machine.Steps
      (fun state event => ¬ Miscounts state event) .initial events) :
    Accounted (distributor.machine.observe
      (failedAttempts distributor.config) .initial events) state := by
  have counting := run.observes
    (fun _ _ _ reachable counting _ even => counting.step reachable even)
    .start even Counting.initial
  rw [List.nil_append] at counting
  exact counting.accounted

namespace Sample

def queue (jobId : String) : Event :=
  .queuePayout { workerPubkey := worker, jobId := jobId, amount := 1 / 1000 }

def tried (id : Nat) : List Event :=
  [.settleTimer, .reject id "Insufficient funds"]

end Sample

theorem retries_accounted_alone :
    let events := Sample.queue "job" :: (Sample.tried 0 ++
      .resume :: Sample.tried 1 ++ .resume :: Sample.tried 2)
    let distributor := Distributor.wrappedBolt fun _ => none
    let machine := distributor.machine
    (machine.exec .initial events).failedJobs = [(Sample.worker, "job")] ∧
      Accounted (machine.observe
        (failedAttempts distributor.config) .initial events)
        (machine.exec .initial events) :=
  ⟨by decide +kernel, retries_accounted_unless_miscounted _
    (Machine.Run.of_steps (by decide +kernel)) (by decide +kernel)⟩

theorem not_accounted_of_reported {failed : List Attempt} {state : State}
    {jobId : String} (reported : jobId ∈ state.failedJobs.map Prod.snd)
    (once : tally failed jobId = 1) :
    tally failed jobId = 1 ∧ ¬ Accounted failed state := by
  refine ⟨once, ?_⟩
  intro accounted
  have spent := (accounted.reported jobId).mp reported
  rw [once] at spent
  exact absurd spent (by decide)

theorem job_reported_after_one_attempt :
    let events := Sample.queue "first" :: (Sample.tried 0 ++
      .resume :: Sample.tried 1 ++
      .resume :: Sample.queue "second" :: Sample.tried 2)
    let bolt := Distributor.bolt fun _ => none
    let wrapped := Distributor.wrappedBolt fun _ => none
    let failed (distributor : Distributor) := distributor.machine.observe
      (failedAttempts distributor.config) .initial events
    let final (distributor : Distributor) :=
      distributor.machine.exec .initial events
    (bolt.machine.Run .initial events (final bolt) ∧
      tally (failed bolt) "second" = 1 ∧
        ¬ Accounted (failed bolt) (final bolt)) ∧
      wrapped.machine.Run .initial events (final wrapped) ∧
        tally (failed wrapped) "second" = 1 ∧
          ¬ Accounted (failed wrapped) (final wrapped) := by
  refine ⟨⟨.of_steps (by decide +kernel), ?_⟩,
    .of_steps (by decide +kernel), ?_⟩
  · exact not_accounted_of_reported (by decide +kernel) (by decide +kernel)
  · exact not_accounted_of_reported (by decide +kernel) (by decide +kernel)

end Dispatch.Bolt
