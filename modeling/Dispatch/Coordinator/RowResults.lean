import Dispatch.Coordinator.Lifecycle

/-! # Results of jobs that are not completed

A row has a result before its job is completed only if the job has failed, and
then it is one of three texts.
-/

namespace Dispatch.Coordinator

open WorkerHub

def failureResults : List JsonText :=
  [noTrustedWorkerResult, noEligibleWorkerResult,
    "\x7b\"error\":\"worker_disconnected\"\x7d"]

def PlainResult (row : JobRow) : Prop :=
  row.status ≠ .completed →
    ∀ text, row.result = some text → text ∈ failureResults

def PlainResults (state : State) : Prop :=
  ∀ jobId row, state.jobs.get? jobId = some row → PlainResult row

section Steps

variable {state next : State}

theorem PlainResults.of_modify (plain : PlainResults state)
    {writtenId : String} {change : JobRow → JobRow}
    (written : ∀ row, state.jobs.get? writtenId = some row →
      PlainResult (change row))
    (jobs : next.jobs = state.jobs.modify writtenId change) :
    PlainResults next := by
  intro jobId row stored
  rw [jobs, OrderedMap.get?_modify] at stored
  split at stored
  · next same =>
      rcases Option.map_eq_some_iff.mp stored with ⟨before, found, changed⟩
      rw [← changed]
      exact written before (same ▸ found)
  · exact plain _ _ stored

theorem PlainResults.of_dropped (plain : PlainResults state)
    (dropped : Dropped state next) : PlainResults next := by
  intro jobId row stored
  rcases dropped.rows jobId with same | ⟨_, _, before, _, _, _, lost, _⟩
  · rw [same] at stored
    exact plain _ _ stored
  · rw [lost, Option.some.injEq] at stored
    rw [← stored]
    intro _ text result
    cases result
    simp [failureResults]

theorem PlainResults.submitted (plain : PlainResults state) (input : Input)
    (request : JobRequest) :
    PlainResults (submitted input request state) := by
  intro jobId row stored
  rw [Coordinator.submitted, OrderedMap.get?_set] at stored
  split at stored
  · cases stored
    intro _ text result
    cases result
  · exact plain _ _ stored

theorem plain_failed {row : JobRow} {text : JsonText}
    (listed : text ∈ failureResults) :
    PlainResult { row with status := .failed, result := some text } := by
  intro _ other result
  cases result
  exact listed

theorem effect_plain {env : Environment} {input : Input} {board : JobBoard}
    (represents : Represents env state board) (plain : PlainResults state)
    (effect : Effect env input state next) : PlainResults next := by
  -- A row that is taken or given back has no result of a worker.
  have unfinished : ∀ {row : JobRow} {status : JobStatus}
      {pubkey : Option String}, PlainResult row → row.status ≠ .completed →
      PlainResult { row with status := status, workerPubkey := pubkey } := by
    intro row status pubkey before unsettled _
    exact before unsettled
  cases effect with
  | quiet quiet =>
    intro jobId row stored
    exact plain _ _ (quiet.jobs ▸ stored)
  | register event quiet =>
    intro jobId row stored
    exact plain _ _ (quiet.jobs ▸ stored)
  | receipt event accepted =>
    rw [(insertReceipt_ok accepted).2]
    exact plain
  | complete event holds real accepted =>
    rcases storeResult_ok accepted with ⟨_, receipts, _, storedState⟩
    refine plain.of_modify ?_ (by
      rw [resetWorker, State.updateWorker, rewarded_jobs, storedState])
    intro row _ different
    exact absurd rfl different
  | completeDemo =>
    intro jobId row stored
    rw [rewarded_jobs] at stored
    exact plain _ _ stored
  | reject event holds real =>
    refine plain.of_modify ?_ rfl
    intro row stored
    rcases represents.row_of_holds holds real with ⟨held, found, assigned, _⟩
    rw [stored, Option.some.injEq] at found
    exact unfinished (plain _ _ stored) (by simp [found, assigned])
  | rejectDemo => exact plain
  | @disconnect ws workerId connections event =>
    exact plain.of_dropped (disconnect_dropped workerId connections state)
  | prune => exact plain.of_dropped (pruneStale_dropped input.now state)
  | @commitAssigned tier body request workerId worker event valid claimed =>
    refine (plain.submitted input request).of_modify ?_ (by
      rw [jobAssigned_eq])
    intro row stored
    rw [submitted_get, Option.some.injEq] at stored
    rw [← stored]
    intro _ text result
    cases result
  | @commitRefused tier body request =>
    refine (plain.submitted input request).of_modify ?_ (by
      rw [failJob, State.updateJob])
    intro row _
    exact plain_failed (by simp [failureResults])
  | @commitWaiting tier body request => exact plain.submitted input request
  | retryCleared => exact plain
  | retryAssigned event live stored pending claimed =>
    refine plain.of_modify ?_ (by
      rw [clearInterval, jobAssigned_eq]
      rfl)
    intro row found
    rw [stored, Option.some.injEq] at found
    exact unfinished (plain _ _ (found ▸ stored)) (by simp [← found, pending])
  | retryFailed =>
    refine plain.of_modify ?_ (by
      rw [clearInterval, failJob, State.updateJob, counted])
    intro row _
    exact plain_failed (by simp [failureResults])
  | retryCounted => exact plain
  | demo =>
    intro jobId row stored
    simp only [demoAssigned, State.updateWorker, State.send_jobs] at stored
    exact plain _ _ stored

end Steps

theorem plain_results {env : Environment} {state : State}
    (reachable : (machine env).Reachable state) : PlainResults state := by
  apply reachable.invariant PlainResults
  · intro jobId row stored
    cases stored
  · intro before input reached plain enabled
    rcases (board_simulation env).reachable reached with ⟨board, represents⟩
    exact effect_plain (represents.issue input.uuid) plain
      (step_effect env before input)

end Dispatch.Coordinator
