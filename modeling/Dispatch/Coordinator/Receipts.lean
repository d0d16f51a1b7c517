import Dispatch.Coordinator.RetryLoops

/-! # Receipts

What the receipts table can be relied on for.
-/

namespace Dispatch.Coordinator

open WorkerHub

/-! ## How receipts are stored -/

structure Completes (state : State) (input : Input) (msg : JobCompleteMsg)
    (worker : TrackedWorker) : Prop where
  event : ∃ ws, input.event = .frame ws (.jobComplete msg)
  holds : ∃ workerId, Holds state workerId worker msg.jobId
  real : isDemoJob msg.jobId = false
  references : References state msg

inductive ReceiptStep (env : Environment) (input : Input) (state : State) :
    OrderedMap String ReceiptRow → Prop
  | same : ReceiptStep env input state state.receipts
  | submitted {ws : SocketId} {msg : ReceiptSubmitMsg}
      (event : input.event = .frame ws (.receiptSubmit msg)) :
      ReceiptStep env input state (state.receipts.set input.uuid.text
        (receiptRow env msg.receipt msg.signature msg.receipt.providerPubkey))
  | bundled {msg : JobCompleteMsg} {worker : TrackedWorker}
      {receipt : Receipt} {signature : String}
      (completes : Completes state input msg worker)
      (bundled : bundle msg = some (receipt, signature)) :
      ReceiptStep env input state (state.receipts.set input.uuid.text
        (receiptRow env receipt signature worker.pubkey))

theorem handleReceiptSubmit_ok {env : Environment} {id : Uuid}
    {msg : ReceiptSubmitMsg} {state next : State}
    (stored : handleReceiptSubmit env id msg state = .ok next) :
    next = { state with
      receipts := state.receipts.set id.text (receiptRow env msg.receipt
        msg.signature msg.receipt.providerPubkey) } := by
  have outcome := (insertReceipt_ok stored).2
  cases found : findByPubkey state msg.receipt.providerPubkey with
  | none =>
    rw [found] at outcome
    exact outcome
  | some entry =>
    have key : entry.2.pubkey = msg.receipt.providerPubkey :=
      of_decide_eq_true (OrderedMap.get?_of_find? found).2
    rw [found] at outcome
    rw [outcome, ← key]
    simp only [receiptRow, key]

theorem effect_receipts {env : Environment} {input : Input}
    {state next : State} (effect : Effect env input state next) :
    ReceiptStep env input state next.receipts := by
  cases effect with
  | quiet quiet =>
    rw [quiet.receipts]
    exact .same
  | register event quiet =>
    rw [quiet.receipts]
    exact .same
  | receipt event stored =>
    rw [handleReceiptSubmit_ok stored]
    exact .submitted event
  | complete event holds real accepted =>
    rcases storeResult_ok accepted with ⟨references, receipts, bundled,
      storedState⟩
    rw [resetWorker, State.updateWorker, rewarded_receipts, storedState]
    cases bundled with
    | nothing => exact .same
    | receipt bundled =>
      exact .bundled ⟨⟨_, event⟩, ⟨_, holds⟩, real, references⟩ bundled
  | completeDemo =>
    rw [rewarded_receipts]
    exact .same
  | reject => exact .same
  | rejectDemo => exact .same
  | disconnect =>
    rw [handleDisconnect_eq]
    exact .same
  | prune =>
    rw [pruneStale_eq]
    exact .same
  | commitAssigned =>
    rw [jobAssigned_eq]
    exact .same
  | commitRefused => exact .same
  | commitWaiting => exact .same
  | retryCleared => exact .same
  | retryAssigned =>
    rw [jobAssigned_eq]
    exact .same
  | retryFailed => exact .same
  | retryCounted => exact .same
  | demo =>
    simp only [demoAssigned, State.updateWorker, State.send_receipts]
    exact .same

section Runs

variable {env : Environment} {state : State} {input : Input}

theorem Completes.of_issue {msg : JobCompleteMsg} {worker : TrackedWorker}
    (completes : Completes (state.issue input.uuid) input msg worker) :
    Completes state input msg worker := by
  rcases completes with ⟨event, ⟨workerId, holds⟩, real, references⟩
  exact ⟨event, ⟨workerId, holds.tracked, holds.active⟩, real, references⟩

theorem step_receipts (env : Environment) (state : State) (input : Input) :
    ReceiptStep env input state ((machine env).step state input).receipts := by
  have step := effect_receipts (step_effect env state input)
  generalize ((machine env).step state input).receipts = receipts at step
  cases step with
  | same => exact .same
  | submitted event => exact .submitted event
  | bundled completes bundled => exact .bundled completes.of_issue bundled

theorem receipt_issued (reachable : (machine env).Reachable state) :
    ∀ id row, state.receipts.get? id = some row →
      ∃ uuid ∈ state.issued, id = uuid.text := by
  apply reachable.invariant (fun state => ∀ id row,
    state.receipts.get? id = some row → ∃ uuid ∈ state.issued, id = uuid.text)
  · intro id row stored
    cases stored
  · intro before event reached known enabled
    have issued := step_issued env before event
    have older : ∀ id row, before.receipts.get? id = some row →
        ∃ uuid ∈ ((machine env).step before event).issued, id = uuid.text := by
      intro id row stored
      rcases known id row stored with ⟨uuid, member, same⟩
      exact ⟨uuid, issued ▸ List.mem_cons_of_mem _ member, same⟩
    have newer : ∀ added id row,
        (before.receipts.set event.uuid.text added).get? id = some row →
        ∃ uuid ∈ ((machine env).step before event).issued, id = uuid.text := by
      intro added id row stored
      rw [OrderedMap.get?_set] at stored
      split at stored
      · next same => exact ⟨event.uuid, issued ▸ List.mem_cons_self, same⟩
      · exact older id row stored
    have step := step_receipts env before event
    generalize ((machine env).step before event).receipts = receipts at step ⊢
    cases step with
    | same => exact older
    | submitted => exact newer _
    | bundled => exact newer _

theorem fresh_receipt (reachable : (machine env).Reachable state)
    (enabled : (machine env).Enabled state input) :
    state.receipts.get? input.uuid.text = none := by
  cases stored : state.receipts.get? input.uuid.text with
  | none => rfl
  | some row =>
    rcases receipt_issued reachable _ row stored with ⟨uuid, member, same⟩
    have equal : input.uuid = uuid := Uuid.ext same
    exact absurd (equal ▸ member) enabled.1

end Runs

/-! ## Verified receipts can be verified again -/

section Reverify

variable {env : Environment} {state : State} {input : Input}

theorem step_completes (reachable : (machine env).Reachable state)
    (enabled : (machine env).Enabled state input) {msg : JobCompleteMsg}
    {workerId : String} {worker : TrackedWorker} {ws : SocketId}
    (event : input.event = .frame ws (.jobComplete msg))
    (holds : Holds state workerId worker msg.jobId)
    (real : isDemoJob msg.jobId = false) (references : References state msg) :
    ∃ stored, storeResult env input.now input.uuid msg worker
        (state.issue input.uuid) = .ok stored ∧
      (machine env).step state input =
        resetWorker (rewarded env worker msg.jobId stored) workerId := by
  rcases (board_simulation env).reachable reachable with ⟨board, represents⟩
  have fresh := fresh_receipt reachable enabled
  have accepts : ∃ stored, storeResult env input.now input.uuid msg worker
      (state.issue input.uuid) = .ok stored :=
    storeResult_accepts env input.now worker fresh references
  rcases accepts with ⟨stored, accepted⟩
  have found : findByActiveJob (state.issue input.uuid) msg.jobId =
      some (workerId, worker) := represents.find_of_holds holds
  refine ⟨stored, accepted, ?_⟩
  simp only [machine, handle, event, handleMessage, handleJobComplete, found,
    real, accepted]
  rfl

end Reverify

end Dispatch.Coordinator
