import Dispatch.Coordinator.Lifecycle

/-! # Payouts and feedback

Each completed job is paid for and reported exactly once, whatever messages are
repeated, late or out of order.
-/

namespace Dispatch.Coordinator

open WorkerHub

/-! ## Calls -/

namespace State

end State

structure ExactlyOnce (state : State) (accepted : List String)
    (calls : List (String × String)) : Prop where
  completed : ∀ jobId row, state.jobs.get? jobId = some row →
    row.status = .completed → (calls.map Prod.fst).count jobId = 1 ∧
      ∀ call ∈ calls, call.1 = jobId → row.workerPubkey = some call.2
  demo : ∀ jobId ∈ accepted, (calls.map Prod.fst).count jobId = 1
  only : ∀ call ∈ calls,
    (isDemoJob call.1 = false ∧ ∃ row, state.jobs.get? call.1 = some row ∧
      row.status = .completed) ∨
    (isDemoJob call.1 = true ∧ call.1 ∈ accepted)

/-! ## The calls follow the ledger -/

def Follows (calls : List (String × String))
    (ledger : List (String × JobRecord)) : Prop :=
  (calls.map fun call => (call.1, some call.2)) =
    ledger.map fun entry => (entry.1, entry.2.payee)

theorem follows_of_due {Call : Type} {calls : List Call}
    {ledger : List (String × JobRecord)}
    {due : String × JobRecord → Option Call} {read : Call → String × String}
    (reads : ∀ entry call, due entry = some call →
      ((read call).1, some (read call).2) = (entry.1, entry.2.payee))
    (made : calls.map some = ledger.map due) :
    Follows (calls.map read) ledger := by
  induction calls generalizing ledger with
  | nil =>
    have empty := List.map_eq_nil_iff.mp made.symm
    subst empty
    rfl
  | cons call calls induction =>
    cases ledger with
    | nil => cases made
    | cons entry ledger =>
      rw [List.map_cons, List.map_cons] at made
      rcases List.cons.inj made with ⟨first, rest⟩
      have later := induction rest
      unfold Follows at later ⊢
      rw [List.map_cons, List.map_cons, List.map_cons, later,
        reads entry call first.symm]

theorem follows_payouts {calls : List PayoutCall}
    {ledger : List (String × JobRecord)}
    (made : calls.map some = ledger.map payoutFor) :
    Follows (calls.map fun call => (call.jobId, call.workerPubkey))
      ledger := by
  apply follows_of_due _ made
  intro entry call due
  rcases Option.map_eq_some_iff.mp due with ⟨pubkey, payee, same⟩
  rw [← same, payee]

theorem Follows.jobs_eq {calls : List (String × String)}
    {ledger : List (String × JobRecord)} (follows : Follows calls ledger) :
    calls.map Prod.fst = ledger.map Prod.fst := by
  have jobs := congrArg (List.map Prod.fst) follows
  rwa [List.map_map, List.map_map] at jobs

theorem Follows.entry {calls : List (String × String)}
    {ledger : List (String × JobRecord)} (follows : Follows calls ledger)
    {call : String × String} (member : call ∈ calls) :
    ∃ record, (call.1, record) ∈ ledger ∧ record.payee = some call.2 := by
  have listed : (call.1, some call.2) ∈ ledger.map fun entry =>
      (entry.1, entry.2.payee) := by
    rw [← follows]
    exact List.mem_map_of_mem member
  rcases List.mem_map.mp listed with ⟨⟨job, record⟩, stored, same⟩
  rw [Prod.mk.injEq] at same
  exact ⟨record, same.1 ▸ stored, same.2⟩

theorem Represents.exactlyOnce {env : Environment} {state : State}
    {board : JobBoard} (represents : Represents env state board)
    {calls : List (String × String)} {accepted : List String}
    (follows : Follows calls board.ledger)
    (demos : (calls.map Prod.fst).filter isDemoJob = accepted) :
    ExactlyOnce state accepted calls where
  completed jobId row stored completed := by
    have listed : (jobId, JobRecord.row row) ∈ board.ledger := by
      rcases represents.row_stage jobId row stored with ⟨stage, staged, rowStage⟩
      cases rowStage with
      | finished => exact (board.mem_ledger ..).mpr staged
      | waiting status => rw [status] at completed; cases completed
      | held status => rw [status] at completed; cases completed
      | failed status => rw [status] at completed; cases completed
    constructor
    · rw [follows.jobs_eq]
      exact List.count_eq_one_of_mem board.ledger_nodup
        (List.mem_map_of_mem listed)
    · intro call member same
      rcases follows.entry member with ⟨record, recordListed, payee⟩
      rw [same, board.mem_ledger] at recordListed
      rw [board.mem_ledger, recordListed] at listed
      cases listed
      exact payee
  demo jobId member := by
    rw [← demos, List.mem_filter, follows.jobs_eq] at member
    rw [follows.jobs_eq]
    exact List.count_eq_one_of_mem board.ledger_nodup member.1
  only call member := by
    cases demo : isDemoJob call.1 with
    | true =>
      refine .inr ⟨rfl, ?_⟩
      rw [← demos]
      exact List.mem_filter.mpr ⟨List.mem_map_of_mem member, demo⟩
    | false =>
      refine .inl ⟨rfl, ?_⟩
      rcases follows.entry member with ⟨record, listed, _⟩
      have finished := (board.mem_ledger ..).mp listed
      cases stored : state.jobs.get? call.1 with
      | none =>
        rw [represents.no_row call.1 stored demo] at finished
        cases finished
      | some row =>
        rcases represents.row_stage call.1 row stored with
          ⟨stage, staged, rowStage⟩
        rw [finished, Option.some.injEq] at staged
        rw [← staged] at rowStage
        exact ⟨row, rfl, rowStage.status_eq⟩

/-! ## Which demo jobs are paid -/

structure NoCalls (state next : State) : Prop where
  bolt : next.boltPayouts = state.boltPayouts
  wrappedBolt : next.wrappedBoltPayouts = state.wrappedBoltPayouts
  feedback : next.feedback = state.feedback

theorem noCalls_of_effect {env : Environment} {input : Input}
    {state next : State} (effect : Effect env input state next)
    (other : ∀ ws msg, input.event ≠ .frame ws (.jobComplete msg)) :
    NoCalls state next := by
  cases effect with
  | quiet quiet =>
    exact ⟨quiet.boltPayouts, quiet.wrappedBoltPayouts, quiet.feedback⟩
  | register event quiet =>
    exact ⟨quiet.boltPayouts, quiet.wrappedBoltPayouts, quiet.feedback⟩
  | receipt event stored =>
    rw [(insertReceipt_ok stored).2]
    exact ⟨rfl, rfl, rfl⟩
  | complete event => exact absurd event (other _ _)
  | completeDemo event => exact absurd event (other _ _)
  | reject => exact ⟨rfl, rfl, rfl⟩
  | rejectDemo => exact ⟨rfl, rfl, rfl⟩
  | disconnect =>
    rw [handleDisconnect_eq]
    exact ⟨rfl, rfl, rfl⟩
  | prune =>
    rw [pruneStale_eq]
    exact ⟨rfl, rfl, rfl⟩
  | commitAssigned =>
    rw [jobAssigned_eq]
    exact ⟨rfl, rfl, rfl⟩
  | commitRefused => exact ⟨rfl, rfl, rfl⟩
  | commitWaiting => exact ⟨rfl, rfl, rfl⟩
  | retryCleared => exact ⟨rfl, rfl, rfl⟩
  | retryAssigned =>
    rw [jobAssigned_eq]
    exact ⟨rfl, rfl, rfl⟩
  | retryFailed => exact ⟨rfl, rfl, rfl⟩
  | retryCounted => exact ⟨rfl, rfl, rfl⟩
  | demo => constructor <;> simp [demoAssigned]

namespace DemosPaid

variable {env : Environment} {state next : State} {accepted : List String}

end DemosPaid

end Dispatch.Coordinator
