import Dispatch.Bolt.Reports
import Dispatch.Coordinator.Payouts
import Dispatch.Deployment.Results

/-! # Payments in a deployment

The coordinator hands every completed job to its distributors, which settle in
their own time and have the hub tell the workers.
-/

namespace Dispatch.Deployment

open Coordinator Worker WorkerHub

/-! ## Calls of the coordinator -/

inductive Token
  | bolt
  | wrappedBolt
  deriving DecidableEq

namespace Token

def configured (env : Environment) : Token → Bool
  | .bolt => env.boltDistributor
  | .wrappedBolt => env.wrappedBoltDistributor

def calls (state : State) : Token → List PayoutCall
  | .bolt => state.boltPayouts
  | .wrappedBolt => state.wrappedBoltPayouts

variable {env : Environment} {state : State} (token : Token)

theorem calls_of_noCalls {next : State} (noCalls : NoCalls state next) :
    token.calls next = token.calls state := by
  cases token with
  | bolt => exact noCalls.bolt
  | wrappedBolt => exact noCalls.wrappedBolt

theorem calls_rewarded (worker : TrackedWorker) (jobId : String) :
    token.calls state <+: token.calls (rewarded env worker jobId state) := by
  have same : token.calls (postFeedback env state worker jobId) =
      token.calls state := by
    unfold postFeedback
    split <;> cases token <;> rfl
  rw [← same, rewarded, queuePayouts]
  cases token with
  | bolt =>
    rw [calls, calls]
    dsimp only
    split
    · exact List.prefix_append _ _
    · exact List.prefix_rfl
  | wrappedBolt =>
    rw [calls, calls]
    dsimp only
    split
    · exact List.prefix_append _ _
    · exact List.prefix_rfl

theorem calls_jobComplete (now : Nat) (uuid : Uuid) (msg : JobCompleteMsg) :
    token.calls state <+: token.calls
      (settle state (handleJobComplete env now uuid msg state)) := by
  unfold handleJobComplete
  cases findByActiveJob state msg.jobId with
  | none => exact List.prefix_rfl
  | some entry =>
    rcases entry with ⟨workerId, worker⟩
    dsimp only
    have reset : ∀ state, token.calls (resetWorker state workerId) =
        token.calls state :=
      fun state => token.calls_of_noCalls ⟨rfl, rfl, rfl⟩
    split
    · rw [← reset state]
      exact token.calls_rewarded worker msg.jobId
    · cases accepted : storeResult env now uuid msg worker state with
      | error => exact List.prefix_rfl
      | ok stored =>
        rcases storeResult_ok accepted with ⟨_, receipts, _, storedState⟩
        have same : token.calls stored = token.calls state := by
          rw [storedState]
          exact token.calls_of_noCalls ⟨rfl, rfl, rfl⟩
        change _ <+: token.calls
          (resetWorker (rewarded env worker msg.jobId stored) workerId)
        rw [reset, ← same]
        exact token.calls_rewarded worker msg.jobId

theorem calls_step (input : Input) :
    token.calls state <+: token.calls ((machine env).step state input) := by
  have issued : token.calls (state.issue input.uuid) = token.calls state :=
    token.calls_of_noCalls ⟨rfl, rfl, rfl⟩
  rw [← issued]
  by_cases completion : ∃ ws msg, input.event = .frame ws (.jobComplete msg)
  · rcases completion with ⟨ws, msg, event⟩
    simp only [machine, handle, event, handleMessage]
    exact token.calls_jobComplete input.now input.uuid msg
  · have none := noCalls_of_effect (step_effect env state input)
      fun ws msg event => completion ⟨ws, msg, event⟩
    exact token.calls_of_noCalls none ▸ List.prefix_rfl

/-! The calls are those that the ledger of the board says are due. -/

section Reachable

variable (reachable : (machine env).Reachable state)

include reachable

theorem calls_due : ∃ board, Represents env state board ∧
    (token.calls state).map some =
      if token.configured env then board.ledger.map payoutFor else [] := by
  rcases (board_simulation env).reachable reachable with ⟨board, represents⟩
  refine ⟨board, represents, ?_⟩
  cases token with
  | bolt => exact represents.paid.bolt
  | wrappedBolt => exact represents.paid.wrappedBolt

theorem exactlyOnce_calls (configured : token.configured env = true) :
    ∃ accepted, ExactlyOnce state accepted
      ((token.calls state).map fun call => (call.jobId, call.workerPubkey)) := by
  rcases token.calls_due reachable with ⟨board, represents, made⟩
  rw [configured, if_pos rfl] at made
  exact ⟨_, represents.exactlyOnce (follows_payouts made) rfl⟩

theorem calls_nodup : ((token.calls state).map PayoutCall.jobId).Nodup := by
  rcases token.calls_due reachable with ⟨board, _, made⟩
  cases configured : token.configured env with
  | true =>
    rw [configured, if_pos rfl] at made
    have jobs := (follows_payouts made).jobs_eq
    rw [List.map_map] at jobs
    have nodup := board.ledger_nodup
    rw [← jobs] at nodup
    exact nodup
  | false =>
    rw [configured] at made
    rw [List.map_eq_nil_iff.mp made]
    exact List.nodup_nil

theorem completed_call (configured : token.configured env = true)
    {jobId : String} {row : JobRow}
    (stored : state.jobs.get? jobId = some row)
    (completed : row.status = .completed) :
    ∃ call ∈ token.calls state, call.jobId = jobId ∧
      row.workerPubkey = some call.workerPubkey := by
  rcases token.exactlyOnce_calls reachable configured with ⟨_, once⟩
  rcases once.completed jobId row stored completed with ⟨count, payee⟩
  have listed : jobId ∈ ((token.calls state).map fun call =>
      (call.jobId, call.workerPubkey)).map Prod.fst := by
    rw [← List.count_pos_iff, count]
    exact Nat.one_pos
  rw [List.map_map] at listed
  rcases List.mem_map.mp listed with ⟨call, member, rfl⟩
  exact ⟨call, member, rfl, payee _ (List.mem_map_of_mem member) rfl⟩

end Reachable

end Token

/-! ## The deployment with its distributors -/

inductive PaymentMessage
  | posted (jobIds : List String) (txHash : String) (amount : ℚ)
      (token : Option String) (network explorerUrl : String)
  | failed (jobIds : List String) (error : String) (token : Option String)

structure Notice where
  ws : SocketId
  token : Token
  message : PaymentMessage

namespace Token

def config (publicKeyError : String → Option String)
    (bigIntError : ℚ → Option String) : Token → Bolt.Config
  | .bolt => Bolt.BoltDistributor.config publicKeyError
  | .wrappedBolt => Bolt.WrappedBoltDistributor.config bigIntError

def onSettled (result : Bolt.SettlementResult) : Token → String × PaymentMessage
  | .bolt => (result.workerPubkey,
      .posted result.jobIds result.txHash result.amount none "solana-devnet"
        ("https://explorer.solana.com/tx/" ++ result.txHash ++
          "?cluster=devnet"))
  | .wrappedBolt => (result.workerPubkey,
      .posted result.jobIds result.txHash result.amount (some "wBOLT")
        "monad-testnet"
        ("https://testnet.monadvision.com/tx/" ++ result.txHash))

def onFailed (report : Bolt.FailureReport) : Token → String × PaymentMessage
  | .bolt => (report.workerPubkey, .failed report.jobIds report.error none)
  | .wrappedBolt =>
    (report.workerPubkey, .failed report.jobIds report.error (some "wBOLT"))

def newReports (before after : Bolt.State) (token : Token) :
    List (String × PaymentMessage) :=
  (after.onSettled.drop before.onSettled.length).map (token.onSettled ·) ++
    (after.onFailed.drop before.onFailed.length).map (token.onFailed ·)

end Token

def sendToWorker (state : State) (token : Token)
    (report : String × PaymentMessage) : List Notice :=
  match findByPubkey state report.1 with
  | some (_, worker) =>
    if state.readyState worker.ws = some .open then
      [{ ws := worker.ws, token := token, message := report.2 }]
    else []
  | none => []

structure PaidNetwork (env : Environment) (crypto : Crypto) (Number : Type)
    where
  network : Network env crypto Number
  distributors : Token → Bolt.State
  notices : List Notice

inductive PaidEvent (env : Environment) (crypto : Crypto) (Number : Type)
  | network (input : NetworkInput env crypto Number)
  | distributor (token : Token) (event : Bolt.Event)

namespace PaidNetwork

variable {env : Environment} {crypto : Crypto} {Number : Type}
  [JsNumber Number] [NumberToString Number] (language : Worker.Language Number)
  (publicKeyError : String → Option String) (bigIntError : ℚ → Option String)

def initial : PaidNetwork env crypto Number where
  network := .initial
  distributors _ := .initial
  notices := []

def notify (system : PaidNetwork env crypto Number)
    (network : Network env crypto Number) (distributors : Token → Bolt.State) :
    PaidNetwork env crypto Number where
  network := network
  distributors := distributors
  notices := system.notices ++ [Token.bolt, .wrappedBolt].flatMap fun token =>
    (token.newReports (system.distributors token) (distributors token)).flatMap
      (sendToWorker network.coordinator token)

def step (system : PaidNetwork env crypto Number) :
    PaidEvent env crypto Number → PaidNetwork env crypto Number
  | .network input =>
    let network := system.network.step language input
    system.notify network fun token =>
      (Bolt.machine (token.config publicKeyError bigIntError)).exec
        (system.distributors token)
        (((token.calls network.coordinator).drop
          (token.calls system.network.coordinator).length).map .queuePayout)
  | .distributor token event =>
    system.notify system.network (Function.update system.distributors token
      ((Bolt.machine (token.config publicKeyError bigIntError)).step
        (system.distributors token) event))

def Enabled (system : PaidNetwork env crypto Number) :
    PaidEvent env crypto Number → Prop
  | .network input => system.network.enabled input = true
  | .distributor token event =>
    event.queued = [] ∧ (system.distributors token).Enabled event

end PaidNetwork

def paidMachine {env : Environment} {crypto : Crypto} {Number : Type}
    [JsNumber Number] [NumberToString Number]
    (language : Worker.Language Number)
    (publicKeyError : String → Option String)
    (bigIntError : ℚ → Option String) :
    Machine (PaidNetwork env crypto Number) (PaidEvent env crypto Number) where
  initial := .initial
  Enabled := PaidNetwork.Enabled
  step := PaidNetwork.step language publicKeyError bigIntError

section Payments

variable {env : Environment} {crypto : Crypto} {Number : Type}
  [JsNumber Number] [NumberToString Number] {language : Worker.Language Number}
  {publicKeyError : String → Option String} {bigIntError : ℚ → Option String}
  {system : PaidNetwork env crypto Number}

/-! ## Rows and batches -/

structure Booked (language : Worker.Language Number)
    (publicKeyError : String → Option String) (bigIntError : ℚ → Option String)
    (system : PaidNetwork env crypto Number) : Prop where
  network : (networkMachine language).Reachable system.network
  fed : ∀ token : Token, Bolt.Fed (token.config publicKeyError bigIntError)
    (token.calls system.network.coordinator) (system.distributors token)

variable (language) in
theorem calls_network (network : Network env crypto Number)
    (input : NetworkInput env crypto Number) (token : Token) :
    token.calls network.coordinator <+:
      token.calls (network.step language input).coordinator := by
  cases is : network.coordinatorEvent? input.event with
  | none =>
    have same : (network.step language input).coordinator =
        network.coordinator := step_coordinator_none is
    exact same ▸ List.prefix_rfl
  | some event =>
    rw [step_coordinator_some is]
    exact token.calls_step _

theorem Booked.step (booked : Booked language publicKeyError bigIntError system)
    {event : PaidEvent env crypto Number} (enabled : system.Enabled event) :
    Booked language publicKeyError bigIntError
      (system.step language publicKeyError bigIntError event) := by
  cases event with
  | network input =>
    refine ⟨booked.network.step enabled, ?_⟩
    intro token
    have split := List.prefix_iff_eq_append.mp
      (calls_network language system.network input token)
    have fed := (booked.fed token).queue
      ((token.calls (system.network.step language input).coordinator).drop
        (token.calls system.network.coordinator).length)
    rw [split] at fed
    exact fed
  | distributor token event =>
    refine ⟨booked.network, ?_⟩
    intro other
    change Bolt.Fed _ (other.calls system.network.coordinator)
      (Function.update system.distributors token _ other)
    by_cases same : other = token
    · subst same
      rw [Function.update_self]
      exact (booked.fed other).step enabled.1 enabled.2
    · rw [Function.update_of_ne same]
      exact booked.fed other

theorem booked_of_reachable
    (reachable : (paidMachine language publicKeyError bigIntError).Reachable
      system) :
    Booked language publicKeyError bigIntError system := by
  apply reachable.invariant (Booked language publicKeyError bigIntError)
  · exact ⟨.start, fun token => by cases token <;> exact .initial⟩
  · intro before event _ booked enabled
    exact booked.step enabled

/-- In a deployment that pays its workers, every completed job is with the
distributor just once, pending, in flight, settled or given up, and under the key
of the process that has computed its result. -/
theorem completed_jobs_in_payout_custody
    (decodes : ∀ text bytes, Base64.decode? text.toList = some bytes →
      env.base64Bytes text = bytes)
    (reachable : (paidMachine language publicKeyError bigIntError).Reachable
      system)
    {token : Token} (configured : token.configured env = true) {jobId : String}
    {row : JobRow}
    (stored : system.network.coordinator.jobs.get? jobId = some row)
    (completed : row.status = .completed) :
    ∃ process output, Computed language system.network jobId row process output ∧
      ∀ pubkey, (system.distributors token).occurrences (pubkey, jobId) =
        if pubkey = process.config.pubkeyHex then 1 else 0 := by
  have booked := booked_of_reachable reachable
  have coordinator := (sound_of_reachable booked.network).reachable
  rcases (settled_of_reachable decodes booked.network).rows stored completed with
    ⟨process, output, computed⟩
  refine ⟨process, output, computed, ?_⟩
  intro pubkey
  rcases token.completed_call coordinator configured stored completed with
    ⟨call, member, rfl, payee⟩
  rw [computed.key, Option.some.injEq] at payee
  have distinct := token.calls_nodup coordinator
  have distinctJobs : ((token.calls system.network.coordinator).map
      Bolt.job).Nodup := by
    apply List.Nodup.of_map Prod.snd
    rw [List.map_map]
    exact distinct
  rcases booked.fed token with ⟨events, run, queued⟩
  rw [Bolt.occurrences_run run, queued, payee]
  split
  · next same =>
      subst same
      exact List.count_eq_one_of_mem distinctJobs
        (List.mem_map_of_mem (f := Bolt.job) member)
  · next other =>
      rw [List.count_eq_zero]
      intro listed
      rcases List.mem_map.mp listed with ⟨second, queuedToo, same⟩
      have sameJob : second.jobId = call.jobId := congrArg Prod.snd same
      have sameCall := List.inj_on_of_nodup_map distinct queuedToo member sameJob
      rw [sameCall] at same
      exact other (congrArg Prod.fst same).symm

def PaidNetwork.unpaid (network : Network env crypto Number) :
    PaidNetwork env crypto Number where
  network := network
  distributors _ := .initial
  notices := []

theorem step_unpaid {network : Network env crypto Number}
    {input : NetworkInput env crypto Number}
    (unpaid : ∀ token : Token, token.calls network.coordinator = []) :
    (paidMachine language publicKeyError bigIntError).step (.unpaid network)
        (.network input) =
      (PaidNetwork.unpaid network).notify (network.step language input)
        fun token => (Bolt.machine
          (token.config publicKeyError bigIntError)).exec .initial
          ((token.calls (network.step language input).coordinator).map
            .queuePayout) := by
  simp only [paidMachine, PaidNetwork.step, PaidNetwork.unpaid, unpaid]
  rfl

theorem reachable_of_unpaid {network : Network env crypto Number}
    (reachable : (networkMachine language).Reachable network)
    (unpaid : ∀ token : Token, token.calls network.coordinator = []) :
    (paidMachine language publicKeyError bigIntError).Reachable
      (.unpaid network) := by
  revert unpaid
  apply reachable.invariant fun network =>
    (∀ token : Token, token.calls network.coordinator = []) →
      (paidMachine language publicKeyError bigIntError).Reachable
        (.unpaid network)
  · intro _
    exact .start
  · intro before input _ induction enabled unpaid
    change ∀ token : Token, token.calls
      (before.step language input).coordinator = [] at unpaid
    have earlier : ∀ token : Token, token.calls before.coordinator = [] := by
      intro token
      have longer := calls_network language before input token
      rw [unpaid token] at longer
      exact List.prefix_nil.mp longer
    have allowed : (paidMachine language publicKeyError bigIntError).Enabled
        (.unpaid before) (.network input) := enabled
    have next := (induction earlier).step allowed
    rw [step_unpaid earlier] at next
    simp only [unpaid] at next
    exact next

theorem reachable_of_call {before after : Network env crypto Number}
    {input : NetworkInput env crypto Number} {call : PayoutCall}
    (reachable : (networkMachine language).Reachable before)
    (unpaid : ∀ token : Token, token.calls before.coordinator = [])
    (run : (networkMachine language).Run before [input] after)
    (pays : ∀ token : Token, token.calls after.coordinator = [call]) :
    (paidMachine language publicKeyError bigIntError).Reachable
      { network := after
        distributors := fun token =>
          (Bolt.machine (token.config publicKeyError bigIntError)).exec .initial
            [.queuePayout call]
        notices := [] } := by
  rcases run.single with ⟨enabled, rfl⟩
  change ∀ token : Token, token.calls
    (before.step language input).coordinator = [call] at pays
  have idle : (paidMachine language publicKeyError bigIntError).Reachable
      (.unpaid before) := reachable_of_unpaid reachable unpaid
  have allowed : (paidMachine language publicKeyError bigIntError).Enabled
      (.unpaid before) (.network input) := enabled
  have next := idle.step allowed
  rw [step_unpaid unpaid] at next
  simp only [pays] at next
  exact next

end Payments

namespace Sample

def payout : PayoutCall where
  workerPubkey := config.pubkeyHex
  jobId := Coordinator.Sample.jobUuid.text
  amount := jobPayout

def paid : PaidNetwork environment Worker.Sample.crypto Numeral where
  network := completed
  distributors token := (Bolt.machine
    (token.config (fun _ => none) fun _ => none)).exec .initial
      [.queuePayout payout]
  notices := []

structure PaymentsEvaluated : Type where
  unpaid : ∀ token : Token, token.calls answering.coordinator = []
  pays : ∀ token : Token, token.calls completed.coordinator = [payout]

def paymentsEvaluated : PaymentsEvaluated where
  unpaid token := by cases token <;> decide +kernel
  pays token := by cases token <;> decide +kernel

theorem paid_reachable :
    (paidMachine language (fun _ => none) fun _ => none).Reachable paid :=
  reachable_of_call answering_reachable paymentsEvaluated.unpaid completed_run
    paymentsEvaluated.pays

end Sample

theorem completed_jobs_in_payout_custody_sample : ∃ row,
    Sample.paid.network.coordinator.jobs.get? Coordinator.Sample.jobUuid.text =
        some row ∧
      ∃ process output, Computed Sample.language Sample.paid.network
          Coordinator.Sample.jobUuid.text row process output ∧
        ∀ pubkey, (Sample.paid.distributors .bolt).occurrences
            (pubkey, Coordinator.Sample.jobUuid.text) =
          if pubkey = process.config.pubkeyHex then 1 else 0 := by
  rcases Sample.completed_row with ⟨row, stored, completed, _⟩
  have configured : Token.bolt.configured Sample.environment = true := rfl
  exact ⟨row, stored, completed_jobs_in_payout_custody Sample.decodes
    Sample.paid_reachable configured stored completed⟩

end Dispatch.Deployment
