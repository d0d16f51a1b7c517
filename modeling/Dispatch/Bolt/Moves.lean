import Dispatch.Bolt.Distributor

/-! # What an event can do to the batches

Every event of a distributor is one of the moves below, or one followed by
another that does not involve the chain.
-/

namespace Dispatch.Bolt

open Coordinator (PayoutCall)

def Event.queued : Event → List PayoutCall
  | queuePayout call => [call]
  | _ => []

def taken (workerPubkey : String) (state : State) : State :=
  { state with
    pendingPayouts := state.pendingPayouts.delete workerPubkey
    attempts := state.attempts + 1 }

def nextAttempt (workerPubkey : String) (payout : PendingPayout)
    (state : State) : Attempt :=
  { id := state.attempts, workerPubkey := workerPubkey, payout := payout }

def created (call : PayoutCall) : PendingPayout :=
  { workerPubkey := call.workerPubkey, jobIds := [call.jobId],
    total := call.amount, retryCount := 0 }

def pushed (call : PayoutCall) (existing : PendingPayout) : PendingPayout :=
  { existing with
    jobIds := existing.jobIds ++ [call.jobId]
    total := existing.total + call.amount }

def merged (payout current : PendingPayout) : PendingPayout :=
  { current with
    jobIds := payout.jobIds ++ current.jobIds
    total := current.total + payout.total }

def retried (payout : PendingPayout) : PendingPayout :=
  { payout with retryCount := payout.retryCount + 1 }

inductive Move (event : Event) (state : State) :
    List PayoutCall → State → Prop
  | idle (timer : Bool) (pass : Option Pass) :
      Move event state [] { state with
        timer := timer
        pass := pass }
  | create {call : PayoutCall}
      (absent : state.pendingPayouts.get? call.workerPubkey = none) :
      Move event state [call] { state with
        pendingPayouts := state.pendingPayouts.set call.workerPubkey
          (created call) }
  | push {call : PayoutCall} {existing : PendingPayout}
      (found : state.pendingPayouts.get? call.workerPubkey = some existing) :
      Move event state [call] { state with
        pendingPayouts := state.pendingPayouts.set call.workerPubkey
          (pushed call existing) }
  | refused {workerPubkey error : String} {payout : PendingPayout}
      (found : state.pendingPayouts.get? workerPubkey = some payout) :
      Move event state [] (settlementFailed
        (nextAttempt workerPubkey payout state) error
        (taken workerPubkey state))
  | started {workerPubkey : String} {payout : PendingPayout}
      (found : state.pendingPayouts.get? workerPubkey = some payout) :
      Move event state [] { taken workerPubkey state with
        inFlight := state.inFlight.set state.attempts
          (nextAttempt workerPubkey payout state) }
  | submit {id : Nat} {attempt : Attempt} (submits : event = .submit id)
      (flying : state.inFlight.get? id = some attempt) :
      Move event state [] { state with
        submitted := state.submitted.set id attempt }
  | execute {id : Nat} {attempt : Attempt} (executes : event = .execute id)
      (known : state.submitted.get? id = some attempt) :
      Move event state [] { state with
        executed := state.executed.set id attempt }
  | confirm {id : Nat} {txHash : String} {attempt : Attempt}
      {workerBalances : OrderedMap String ℚ}
      (confirms : event = .confirm id txHash)
      (flying : state.inFlight.get? id = some attempt) :
      Move event state [] { state with
        inFlight := state.inFlight.delete attempt.id
        workerBalances := workerBalances
        settled := state.settled ++ [(attempt, txHash)] }
  | reject {id : Nat} {error : String} {attempt : Attempt}
      (rejects : event = .reject id error)
      (flying : state.inFlight.get? id = some attempt) :
      Move event state [] (rejected attempt error state)

/-! ## Every event is made of moves -/

theorem settleWorker_move (config : Config) (event : Event)
    (workerPubkey : String) (state : State) :
    Move event state [] (settleWorker config workerPubkey state).1 := by
  unfold settleWorker
  cases found : state.pendingPayouts.get? workerPubkey with
  | none => exact .idle state.timer state.pass
  | some payout =>
    dsimp only
    split
    · exact .idle state.timer state.pass
    · cases config.settleError workerPubkey payout.total with
      | some error => exact .refused found
      | none => exact .started found

theorem continuePass_moves (config : Config) (event : Event)
    (workers : List String) (state : State) :
    ∃ middle, Move event state [] middle ∧
      Move .settleTimer middle [] (continuePass config workers state) := by
  cases workers with
  | nil =>
    exact ⟨state, .idle state.timer state.pass, .idle state.timer none⟩
  | cons workerPubkey rest =>
    exact ⟨_, settleWorker_move config event workerPubkey state, .idle _ _⟩

theorem queuePayout_moves (config : Config) (event : Event)
    (call : PayoutCall) (state : State) :
    ∃ middle, Move event state [call] middle ∧
      Move .settleTimer middle [] (queuePayout config call state) := by
  unfold queuePayout
  cases found : state.pendingPayouts.get? call.workerPubkey with
  | none => exact ⟨_, .create found, .idle state.timer state.pass⟩
  | some existing =>
    refine ⟨_, .push found, ?_⟩
    dsimp only
    split
    · exact settleWorker_move config _ call.workerPubkey _
    · exact .idle state.timer state.pass

theorem step_moves (config : Config) (state : State) (event : Event) :
    ∃ middle, Move event state event.queued middle ∧
      Move .settleTimer middle [] ((machine config).step state event) := by
  have stay : ∀ (event : Event) (state : State), Move event state [] state :=
    fun _ state => .idle state.timer state.pass
  have one : ∀ {event : Event} {next : State}, Move event state [] next →
      ∃ middle, Move event state [] middle ∧
        Move .settleTimer middle [] next :=
    fun move => ⟨_, move, stay _ _⟩
  simp only [machine]
  cases event with
  | queuePayout call => exact queuePayout_moves config _ call state
  | settleTimer =>
    simp only [handle, settleAll]
    cases state.pass with
    | some pass => exact one (stay _ state)
    | none => exact continuePass_moves config _ _ state
  | resume =>
    simp only [handle]
    cases state.pass with
    | some pass => exact continuePass_moves config _ pass.rest state
    | none => exact one (stay _ state)
  | submit id =>
    simp only [handle, withAttempt]
    cases flying : state.inFlight.get? id with
    | none => exact one (stay _ state)
    | some attempt => exact one (.submit rfl flying)
  | execute id =>
    simp only [handle, withAttempt]
    cases known : state.submitted.get? id with
    | none => exact one (stay _ state)
    | some attempt => exact one (.execute rfl known)
  | confirm id txHash =>
    simp only [handle, withAttempt]
    cases flying : state.inFlight.get? id with
    | none => exact one (stay _ state)
    | some attempt => exact one (.confirm rfl flying)
  | reject id error =>
    simp only [handle, withAttempt]
    cases flying : state.inFlight.get? id with
    | none => exact one (stay _ state)
    | some attempt => exact one (.reject rfl flying)
  | shutdown => exact one (.idle false state.pass)

theorem reachable_invariant (Property : State → Prop) {config : Config}
    {state : State} (reachable : (machine config).Reachable state)
    (base : Property .initial)
    (preserved : ∀ event state added next, Move event state added next →
      Property state → Property next) : Property state := by
  apply reachable.invariant Property base
  intro before event _ holds _
  rcases step_moves config before event with ⟨middle, first, second⟩
  exact preserved _ _ _ _ second (preserved _ _ _ _ first holds)

/-! ## Failed settlements -/

theorem requeue_cases (workerPubkey : String) (payout : PendingPayout)
    (state : State) :
    (state.pendingPayouts.get? workerPubkey = none ∧
      requeue workerPubkey payout state = { state with
        pendingPayouts := state.pendingPayouts.set workerPubkey payout }) ∨
    ∃ current, state.pendingPayouts.get? workerPubkey = some current ∧
      requeue workerPubkey payout state = { state with
        pendingPayouts := state.pendingPayouts.set workerPubkey
          (merged payout current) } := by
  unfold requeue
  cases found : state.pendingPayouts.get? workerPubkey with
  | none => exact .inl ⟨rfl, rfl⟩
  | some current => exact .inr ⟨current, rfl, rfl⟩

theorem settlementFailed_cases (attempt : Attempt) (error : String)
    (state : State) :
    (attempt.payout.retryCount + 1 < maxRetries ∧
      settlementFailed attempt error state =
        requeue attempt.workerPubkey (retried attempt.payout) state) ∨
    (maxRetries ≤ attempt.payout.retryCount + 1 ∧
      settlementFailed attempt error state = { state with
        failed := state.failed ++ [(attempt, error)] }) := by
  simp only [settlementFailed]
  split
  · next more => exact .inl ⟨more, rfl⟩
  · next spent => exact .inr ⟨Nat.le_of_not_lt spent, rfl⟩

theorem settlementFailed_eq (attempt : Attempt) (error : String)
    (state : State) :
    settlementFailed attempt error state = { state with
      pendingPayouts := (settlementFailed attempt error state).pendingPayouts
      failed := (settlementFailed attempt error state).failed } := by
  rcases settlementFailed_cases attempt error state with ⟨_, same⟩ | ⟨_, same⟩
  · rcases requeue_cases attempt.workerPubkey (retried attempt.payout)
      state with ⟨_, outcome⟩ | ⟨_, _, outcome⟩
    · rw [same, outcome]
    · rw [same, outcome]
  · rw [same]

/-! ## Attempts have numbers -/

def NumberedIn (attempts : OrderedMap Nat Attempt) (bound : Nat) : Prop :=
  ∀ id attempt, attempts.get? id = some attempt →
    attempt.id = id ∧ id < bound

structure Numbered (state : State) : Prop where
  inFlight : NumberedIn state.inFlight state.attempts
  submitted : NumberedIn state.submitted state.attempts
  executed : NumberedIn state.executed state.attempts

namespace NumberedIn

variable {attempts : OrderedMap Nat Attempt} {bound : Nat}

theorem weaken (numbered : NumberedIn attempts bound) :
    NumberedIn attempts (bound + 1) := by
  intro id attempt found
  rcases numbered id attempt found with ⟨same, below⟩
  exact ⟨same, by omega⟩

theorem set (numbered : NumberedIn attempts bound) {attempt : Attempt}
    {id : Nat} (same : attempt.id = id) (below : id < bound) :
    NumberedIn (attempts.set id attempt) bound := by
  intro other found stored
  rw [OrderedMap.get?_set] at stored
  split at stored
  · next isOther =>
      cases stored
      rw [isOther]
      exact ⟨same, below⟩
  · exact numbered other found stored

theorem delete (numbered : NumberedIn attempts bound) (id : Nat) :
    NumberedIn (attempts.delete id) bound := by
  intro other found stored
  rw [OrderedMap.get?_delete] at stored
  split at stored
  · cases stored
  · exact numbered other found stored

theorem fresh (numbered : NumberedIn attempts bound) :
    attempts.get? bound = none := by
  cases found : attempts.get? bound with
  | none => rfl
  | some attempt =>
    have below := (numbered bound attempt found).2
    omega

end NumberedIn

theorem Move.numbered {event : Event} {state next : State}
    {added : List PayoutCall} (move : Move event state added next)
    (numbered : Numbered state) : Numbered next := by
  cases move with
  | idle => exact { numbered with }
  | create => exact { numbered with }
  | push => exact { numbered with }
  | refused found =>
    rw [settlementFailed_eq]
    exact ⟨numbered.inFlight.weaken, numbered.submitted.weaken,
      numbered.executed.weaken⟩
  | started found =>
    refine ⟨?_, numbered.submitted.weaken, numbered.executed.weaken⟩
    exact numbered.inFlight.weaken.set rfl (Nat.lt_succ_self _)
  | submit submits flying =>
    rcases numbered.inFlight _ _ flying with ⟨same, below⟩
    exact { numbered with submitted := numbered.submitted.set same below }
  | execute executes known =>
    rcases numbered.submitted _ _ known with ⟨same, below⟩
    exact { numbered with executed := numbered.executed.set same below }
  | confirm confirms flying =>
    exact { numbered with inFlight := numbered.inFlight.delete _ }
  | reject rejects flying =>
    rw [rejected, settlementFailed_eq]
    exact { numbered with inFlight := numbered.inFlight.delete _ }

theorem numbered_initial : Numbered .initial := by
  constructor <;> intro id attempt found <;> cases found

theorem reachable_numbered {config : Config} {state : State}
    (reachable : (machine config).Reachable state) : Numbered state :=
  reachable_invariant Numbered reachable numbered_initial
    fun _ _ _ _ move => move.numbered

end Dispatch.Bolt
