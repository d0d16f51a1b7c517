import Dispatch.Coordinator.Receipts

/-! # What a polled receipt attests

A poll shows one of the receipts stored for a job.
-/

namespace Dispatch.Coordinator

open WorkerHub

def Attests (sha256Hex : String → String) (workerPubkey : Option String)
    (result : Option JsonText) (receipt : Receipt) : Prop :=
  workerPubkey = some receipt.providerPubkey ∧
    result.map sha256Hex = some receipt.outputHash

/-! ## Where completed rows come from -/

section Completed

variable {jobs : OrderedMap String JobRow} {writtenId jobId : String}
  {row : JobRow}

theorem kept_of_modify {change : JobRow → JobRow}
    (unfinished : ∀ row, (change row).status ≠ .completed)
    (stored : (jobs.modify writtenId change).get? jobId = some row)
    (completed : row.status = .completed) : jobs.get? jobId = some row := by
  rw [OrderedMap.get?_modify] at stored
  split at stored
  · rcases Option.map_eq_some_iff.mp stored with ⟨before, _, same⟩
    rw [← same] at completed
    exact absurd completed (unfinished before)
  · exact stored

theorem kept_of_set {written : JobRow} (unfinished : written.status ≠ .completed)
    (stored : (jobs.set writtenId written).get? jobId = some row)
    (completed : row.status = .completed) : jobs.get? jobId = some row := by
  rw [OrderedMap.get?_set] at stored
  split at stored
  · cases stored
    exact absurd completed unfinished
  · exact stored

theorem kept_of_dropped {state next : State} (dropped : Dropped state next)
    (stored : next.jobs.get? jobId = some row)
    (completed : row.status = .completed) :
    state.jobs.get? jobId = some row := by
  rcases dropped.rows jobId with same | ⟨_, _, before, _, _, _, lost, _⟩
  · rw [← same, stored]
  · rw [lost, Option.some.injEq] at stored
    rw [← stored] at completed
    cases completed

end Completed

theorem effect_completed {env : Environment} {input : Input}
    {state next : State} {board : JobBoard}
    (represents : Represents env state board)
    (effect : Effect env input state next) {jobId : String} {row : JobRow}
    (stored : next.jobs.get? jobId = some row)
    (completed : row.status = .completed) :
    state.jobs.get? jobId = some row ∨
      ∃ msg worker, Completes state input msg worker ∧ msg.jobId = jobId ∧
        row.workerPubkey = some worker.pubkey ∧ row.result = msg.output := by
  cases effect with
  | quiet quiet => exact .inl (quiet.jobs ▸ stored)
  | register event quiet => exact .inl (quiet.jobs ▸ stored)
  | receipt event accepted =>
    rw [(insertReceipt_ok accepted).2] at stored
    exact .inl stored
  | @complete ws msg workerId worker _ event holds real accepted =>
    rcases storeResult_ok accepted with ⟨references, receipts, _, storedState⟩
    rcases represents.row_of_holds holds real with ⟨before, found, _, _, key⟩
    simp only [resetWorker, State.updateWorker, rewarded_jobs, storedState,
      OrderedMap.get?_modify] at stored
    split at stored
    · next same =>
        rw [same, found, Option.map_some, Option.some.injEq] at stored
        refine .inr ⟨msg, worker, ⟨⟨ws, event⟩, ⟨workerId, holds⟩, real,
          references⟩, same.symm, ?_, ?_⟩
        · rw [← stored]
          exact key
        · rw [← stored]
          rfl
    · exact .inl stored
  | completeDemo =>
    rw [rewarded_jobs] at stored
    exact .inl stored
  | reject =>
    exact .inl (kept_of_modify (by simp [rejectedRow]) stored completed)
  | rejectDemo => exact .inl stored
  | @disconnect ws workerId connections event =>
    exact .inl (kept_of_dropped
      (disconnect_dropped workerId connections state) stored completed)
  | prune =>
    exact .inl (kept_of_dropped (pruneStale_dropped input.now state) stored
      completed)
  | commitAssigned =>
    rw [jobAssigned_eq] at stored
    have kept := kept_of_modify (by simp [assignedRow]) stored completed
    exact .inl (kept_of_set (by simp [JobRequest.row]) kept completed)
  | commitRefused =>
    have kept := kept_of_modify (by simp) stored completed
    exact .inl (kept_of_set (by simp [JobRequest.row]) kept completed)
  | commitWaiting =>
    exact .inl (kept_of_set (by simp [JobRequest.row]) stored completed)
  | retryCleared => exact .inl stored
  | retryAssigned =>
    rw [jobAssigned_eq] at stored
    exact .inl (kept_of_modify (by simp [assignedRow]) stored completed)
  | retryFailed =>
    exact .inl (kept_of_modify (by simp) stored completed)
  | retryCounted => exact .inl stored
  | demo =>
    simp only [demoAssigned, State.updateWorker, State.send_jobs] at stored
    exact .inl stored

section Steps

variable {env : Environment} {state : State} {input : Input}

theorem step_completed (reachable : (machine env).Reachable state)
    {jobId : String} {row : JobRow}
    (stored : ((machine env).step state input).jobs.get? jobId = some row)
    (completed : row.status = .completed) :
    state.jobs.get? jobId = some row ∨
      ∃ msg worker, Completes state input msg worker ∧ msg.jobId = jobId ∧
        row.workerPubkey = some worker.pubkey ∧ row.result = msg.output := by
  rcases (board_simulation env).reachable reachable with ⟨board, represents⟩
  have issued := represents.issue input.uuid
  rcases effect_completed issued (step_effect env state input) stored
    completed with before | ⟨msg, worker, completes, rest⟩
  · exact .inl before
  · exact .inr ⟨msg, worker, completes.of_issue, rest⟩

theorem Completes.row (reachable : (machine env).Reachable state)
    {msg : JobCompleteMsg} {worker : TrackedWorker}
    (completes : Completes state input msg worker) :
    ∃ row, state.jobs.get? msg.jobId = some row ∧ row.status = .assigned ∧
      row.workerPubkey = some worker.pubkey := by
  rcases (board_simulation env).reachable reachable with ⟨board, represents⟩
  rcases completes.holds with ⟨workerId, holds⟩
  rcases represents.row_of_holds holds completes.real with
    ⟨row, stored, assigned, _, key⟩
  exact ⟨row, stored, assigned, key⟩

theorem Completes.unique (reachable : (machine env).Reachable state)
    {left right : JobCompleteMsg} {leftWorker rightWorker : TrackedWorker}
    (leftCompletes : Completes state input left leftWorker)
    (rightCompletes : Completes state input right rightWorker) :
    left = right ∧ leftWorker = rightWorker := by
  rcases (board_simulation env).reachable reachable with ⟨board, represents⟩
  rcases leftCompletes.event with ⟨_, leftEvent⟩
  rcases rightCompletes.event with ⟨_, rightEvent⟩
  rw [leftEvent] at rightEvent
  cases rightEvent
  rcases leftCompletes.holds with ⟨_, leftHolds⟩
  rcases rightCompletes.holds with ⟨_, rightHolds⟩
  have found := represents.find_of_holds leftHolds
  rw [represents.find_of_holds rightHolds] at found
  cases found
  exact ⟨rfl, rfl⟩

end Steps

/-! ## What is stored -/

theorem stored_as_sent {env : Environment} {state : State}
    (reachable : (machine env).Reachable state) :
    ∀ id stored, state.receipts.get? id = some stored →
      ∃ receipt signature pubkey,
        stored = receiptRow env receipt signature pubkey := by
  apply reachable.invariant (fun state => ∀ id stored,
    state.receipts.get? id = some stored → ∃ receipt signature pubkey,
      stored = receiptRow env receipt signature pubkey)
  · intro id stored found
    cases found
  · intro before input reached known enabled
    have newer : ∀ receipt signature pubkey id stored,
        (before.receipts.set input.uuid.text
          (receiptRow env receipt signature pubkey)).get? id = some stored →
        ∃ receipt signature pubkey,
          stored = receiptRow env receipt signature pubkey := by
      intro receipt signature pubkey id stored found
      rw [OrderedMap.get?_set] at found
      split at found
      · cases found
        exact ⟨receipt, signature, pubkey, rfl⟩
      · exact known id stored found
    have step := step_receipts env before input
    generalize ((machine env).step before input).receipts = receipts at step ⊢
    cases step with
    | same => exact known
    | submitted => exact newer _ _ _
    | bundled => exact newer _ _ _

section Polls

variable {env : Environment} {sha256Hex : String → String} {state : State}

theorem pollJob_completed {jobId : String} {row : JobRow}
    {stored : ReceiptRow} {receipt : Receipt}
    (rowStored : state.jobs.get? jobId = some row)
    (completed : row.status = .completed)
    (selected : env.selectRow (receiptsOf state jobId) = some stored)
    (reads : Receipt.parse? stored.receiptJson = some receipt) :
    pollJob env jobId state =
      .found jobId .completed (row.result.filter (· ≠ ""))
        (some { receipt := receipt, signature := stored.signature,
                verified := stored.verified }) row.createdAt
        row.completedAt := by
  simp only [pollJob, rowStored, completed, if_true, selected, reads]

theorem receiptsOf_reads (reachable : (machine env).Reachable state)
    {jobId : String} {stored : ReceiptRow}
    (listed : stored ∈ receiptsOf state jobId) :
    stored.jobId = jobId ∧ (∃ id, state.receipts.get? id = some stored) ∧
      ∃ receipt, Receipt.parse? stored.receiptJson = some receipt ∧
        receipt.jobId = stored.jobId := by
  have kept := List.mem_filter.mp listed
  rcases List.mem_map.mp kept.1 with ⟨entry, member, same⟩
  have found : state.receipts.get? entry.1 = some stored := by
    rw [← same]
    exact (OrderedMap.get?_eq_some_iff ..).mpr member
  rcases stored_as_sent reachable _ _ found with
    ⟨receipt, signature, pubkey, sent⟩
  refine ⟨of_decide_eq_true kept.2, ⟨entry.1, found⟩, receipt, ?_⟩
  rw [sent, receiptRow, Receipt.parse?_stringify]
  exact ⟨rfl, rfl⟩

theorem pollJob_result (reachable : (machine env).Reachable state)
    {jobId : String} {row : JobRow}
    (rowStored : state.jobs.get? jobId = some row)
    (completed : row.status = .completed) :
    ∃ receipt, pollJob env jobId state =
      .found jobId .completed (row.result.filter (· ≠ "")) receipt
        row.createdAt row.completedAt := by
  cases selected : env.selectRow (receiptsOf state jobId) with
  | none =>
    exact ⟨none, by
      simp only [pollJob, rowStored, completed, if_true, selected]⟩
  | some stored =>
    rcases receiptsOf_reads reachable (env.selectRow_mem _ _ selected) with
      ⟨_, _, receipt, reads, _⟩
    exact ⟨_, pollJob_completed rowStored completed selected reads⟩

end Polls

/-! ## Whole runs -/

section Runs

variable {env : Environment} {sha256Hex : String → String} {state : State}
  {input : Input}

theorem completes_outcome (reachable : (machine env).Reachable state)
    (enabled : (machine env).Enabled state input) {msg : JobCompleteMsg}
    {worker : TrackedWorker} (completes : Completes state input msg worker) :
    let next := (machine env).step state input
    next.jobs = state.jobs.modify msg.jobId (completedRow input.now msg.output) ∧
      Bundled env input.uuid msg worker state next.receipts := by
  rcases completes with ⟨⟨ws, event⟩, ⟨workerId, holds⟩, real, references⟩
  rcases step_completes reachable enabled event holds real references with
    ⟨stored, accepted, outcome⟩
  rcases storeResult_ok accepted with ⟨_, receipts, added, storedState⟩
  rw [outcome]
  simp only [resetWorker, State.updateWorker, rewarded_jobs, rewarded_receipts,
    storedState]
  refine ⟨rfl, ?_⟩
  cases added with
  | nothing none => exact .nothing none
  | receipt bundled => exact .receipt bundled

end Runs

end Dispatch.Coordinator
