import Dispatch.Coordinator.State
import Dispatch.Foundation.Execution
import Mathlib.Algebra.Order.Ring.Rat

/-! # The payout distributors

`bolt/BoltDistributor.ts` and `bolt/WrappedBoltDistributor.ts`.
-/

namespace Dispatch.Bolt

open Coordinator (PayoutCall)

structure Config where
  JOBS_THRESHOLD : Nat
  settleError : String → ℚ → Option String
  custodial : Bool

structure PendingPayout where
  workerPubkey : String
  jobIds : List String
  total : ℚ
  retryCount : Nat
  deriving DecidableEq

structure Attempt where
  id : Nat
  workerPubkey : String
  payout : PendingPayout
  deriving DecidableEq

/-- The argument of `onSettled`. -/
structure SettlementResult where
  workerPubkey : String
  jobIds : List String
  txHash : String
  amount : ℚ
  deriving DecidableEq

/-- The arguments of `onFailed`. -/
structure FailureReport where
  workerPubkey : String
  jobIds : List String
  error : String
  deriving DecidableEq

structure Pass where
  awaiting : Option Nat
  rest : List String
  deriving DecidableEq

structure State where
  pendingPayouts : OrderedMap String PendingPayout
  workerBalances : OrderedMap String ℚ
  timer : Bool
  pass : Option Pass
  attempts : Nat
  inFlight : OrderedMap Nat Attempt
  submitted : OrderedMap Nat Attempt
  executed : OrderedMap Nat Attempt
  settled : List (Attempt × String)
  failed : List (Attempt × String)

def State.initial : State where
  pendingPayouts := .empty
  workerBalances := .empty
  timer := true
  pass := none
  attempts := 0
  inFlight := .empty
  submitted := .empty
  executed := .empty
  settled := []
  failed := []

def State.onSettled (state : State) : List SettlementResult :=
  state.settled.map fun (attempt, txHash) =>
    { workerPubkey := attempt.payout.workerPubkey
      jobIds := attempt.payout.jobIds
      txHash := txHash
      amount := attempt.payout.total }

def State.onFailed (state : State) : List FailureReport :=
  state.failed.map fun (attempt, error) =>
    { workerPubkey := attempt.workerPubkey
      jobIds := attempt.payout.jobIds
      error := error }

/-! ## Settlement -/

def maxRetries : Nat := 3

def requeue (workerPubkey : String) (payout : PendingPayout) (state : State) :
    State :=
  match state.pendingPayouts.get? workerPubkey with
  | some current =>
    let current := { current with
      jobIds := payout.jobIds ++ current.jobIds
      total := current.total + payout.total }
    { state with
      pendingPayouts := state.pendingPayouts.set workerPubkey current }
  | none =>
    { state with
      pendingPayouts := state.pendingPayouts.set workerPubkey payout }

def settlementFailed (attempt : Attempt) (error : String) (state : State) :
    State :=
  let payout :=
    { attempt.payout with retryCount := attempt.payout.retryCount + 1 }
  if payout.retryCount < maxRetries then
    requeue attempt.workerPubkey payout state
  else
    { state with failed := state.failed ++ [(attempt, error)] }

def settleWorker (config : Config) (workerPubkey : String) (state : State) :
    State × Option Nat :=
  match state.pendingPayouts.get? workerPubkey with
  | none => (state, none)
  | some payout =>
    if payout.jobIds.length = 0 then (state, none)
    else
      let attempt : Attempt :=
        { id := state.attempts, workerPubkey := workerPubkey,
          payout := payout }
      let state := { state with
        pendingPayouts := state.pendingPayouts.delete workerPubkey
        attempts := state.attempts + 1 }
      match config.settleError workerPubkey payout.total with
      | some error => (settlementFailed attempt error state, none)
      | none =>
        ({ state with inFlight := state.inFlight.set attempt.id attempt },
          some attempt.id)

def queuePayout (config : Config) (call : PayoutCall) (state : State) :
    State :=
  match state.pendingPayouts.get? call.workerPubkey with
  | some existing =>
    let existing := { existing with
      jobIds := existing.jobIds ++ [call.jobId]
      total := existing.total + call.amount }
    let state := { state with
      pendingPayouts := state.pendingPayouts.set call.workerPubkey existing }
    if existing.jobIds.length ≥ config.JOBS_THRESHOLD then
      (settleWorker config call.workerPubkey state).1
    else
      state
  | none =>
    let payout : PendingPayout :=
      { workerPubkey := call.workerPubkey, jobIds := [call.jobId],
        total := call.amount, retryCount := 0 }
    { state with
      pendingPayouts := state.pendingPayouts.set call.workerPubkey payout }

def continuePass (config : Config) (workers : List String) (state : State) :
    State :=
  match workers with
  | [] => { state with pass := none }
  | workerPubkey :: rest =>
    let (state, awaiting) := settleWorker config workerPubkey state
    { state with pass := some { awaiting := awaiting, rest := rest } }

def settleAll (config : Config) (state : State) : State :=
  match state.pass with
  | some _ => state
  | none => continuePass config state.pendingPayouts.keys state

/-! ## The chain -/

def confirmed (config : Config) (attempt : Attempt) (txHash : String)
    (state : State) : State :=
  let balance := (state.workerBalances.get? attempt.workerPubkey).getD 0
  { state with
      inFlight := state.inFlight.delete attempt.id
      workerBalances :=
        if config.custodial then
          state.workerBalances.set attempt.workerPubkey
            (balance + attempt.payout.total)
        else
          state.workerBalances
      settled := state.settled ++ [(attempt, txHash)] }

def rejected (attempt : Attempt) (error : String) (state : State) : State :=
  settlementFailed attempt error
    { state with inFlight := state.inFlight.delete attempt.id }

/-! ## The machine -/

inductive Event
  | queuePayout (call : PayoutCall)
  | settleTimer
  /-- `settleAll` goes on after an `await`. -/
  | resume
  | submit (id : Nat)
  | execute (id : Nat)
  | confirm (id : Nat) (txHash : String)
  | reject (id : Nat) (error : String)
  | shutdown

def State.Enabled (state : State) : Event → Prop
  | .queuePayout _ | .shutdown => True
  | .settleTimer => state.timer = true
  | .resume =>
    state.pass ≠ none ∧
      (state.pass.bind Pass.awaiting).bind state.inFlight.get? = none
  | .submit id =>
    state.inFlight.get? id ≠ none ∧ state.submitted.get? id = none
  | .execute id =>
    state.submitted.get? id ≠ none ∧ state.executed.get? id = none
  | .confirm id _ =>
    state.inFlight.get? id ≠ none ∧ state.submitted.get? id ≠ none
  | .reject id _ => state.inFlight.get? id ≠ none

instance (state : State) : DecidablePred state.Enabled
  | .queuePayout _ | .shutdown => inferInstanceAs (Decidable True)
  | .settleTimer => inferInstanceAs (Decidable (_ = true))
  | .resume | .submit _ | .execute _ | .confirm _ _ =>
    inferInstanceAs (Decidable (_ ∧ _))
  | .reject _ _ => inferInstanceAs (Decidable (_ ≠ _))

def withAttempt (attempts : OrderedMap Nat Attempt) (id : Nat)
    (action : Attempt → State) (otherwise : State) : State :=
  match attempts.get? id with
  | some attempt => action attempt
  | none => otherwise

def handle (config : Config) (state : State) : Event → State
  | .queuePayout call => queuePayout config call state
  | .settleTimer => settleAll config state
  | .resume =>
    match state.pass with
    | some pass => continuePass config pass.rest state
    | none => state
  | .submit id =>
    withAttempt state.inFlight id (fun attempt =>
      { state with submitted := state.submitted.set id attempt }) state
  | .execute id =>
    withAttempt state.submitted id (fun attempt =>
      { state with executed := state.executed.set id attempt }) state
  | .confirm id txHash =>
    withAttempt state.inFlight id
      (fun attempt => confirmed config attempt txHash state) state
  | .reject id error =>
    withAttempt state.inFlight id
      (fun attempt => rejected attempt error state) state
  | .shutdown => { state with timer := false }

def machine (config : Config) : Machine State Event where
  initial := .initial
  Enabled := State.Enabled
  step := handle config

instance (config : Config) (state : State) (event : Event) :
    Decidable ((machine config).Enabled state event) :=
  inferInstanceAs (Decidable (state.Enabled event))

/-! ## The two classes -/

namespace BoltDistributor

def JOBS_THRESHOLD : Nat := 1

/-- `/^[0-9a-f]{64}$/i.test(workerPubkey)` -/
def isHex (workerPubkey : String) : Bool :=
  workerPubkey.length = 64 &&
    workerPubkey.toList.all fun char => (Json.hexValue? char).isSome

def config (publicKeyError : String → Option String) : Config where
  JOBS_THRESHOLD := JOBS_THRESHOLD
  settleError workerPubkey _ :=
    if isHex workerPubkey then none else publicKeyError workerPubkey
  custodial := false

end BoltDistributor

namespace WrappedBoltDistributor

def JOBS_THRESHOLD : Nat := 5

def config (bigIntError : ℚ → Option String) : Config where
  JOBS_THRESHOLD := JOBS_THRESHOLD
  settleError _ total := bigIntError total
  custodial := true

end WrappedBoltDistributor

inductive Distributor
  | bolt (publicKeyError : String → Option String)
  | wrappedBolt (bigIntError : ℚ → Option String)

namespace Distributor

def config : Distributor → Config
  | bolt publicKeyError => BoltDistributor.config publicKeyError
  | wrappedBolt bigIntError => WrappedBoltDistributor.config bigIntError

def machine (distributor : Distributor) : Machine State Event :=
  Bolt.machine distributor.config

instance (distributor : Distributor) (state : State) (event : Event) :
    Decidable (distributor.machine.Enabled state event) :=
  inferInstanceAs (Decidable (state.Enabled event))

end Distributor

end Dispatch.Bolt
