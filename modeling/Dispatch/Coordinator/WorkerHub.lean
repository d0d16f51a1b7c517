import Dispatch.Coordinator.State
import Mathlib.Algebra.Order.Ring.Rat
import Mathlib.Data.List.Sort

/-! # The worker hub

`ws/workerHub.ts`.
-/

namespace Dispatch.Coordinator

inductive SqliteError
  | foreignKey
  | unique
  deriving DecidableEq, Repr

namespace WorkerHub

def HEARTBEAT_TIMEOUT_MS : Nat := 30000

def jobPayout : ℚ := 1 / 1000

/-! ## Helpers -/

def findByPubkey (state : State) (pubkey : String) :
    Option (String × TrackedWorker) :=
  state.workers.find? fun worker => worker.pubkey = pubkey

def findByActiveJob (state : State) (jobId : String) :
    Option (String × TrackedWorker) :=
  state.workers.find? fun worker => worker.activeJobId = some jobId

def hexBytes : List Char → List UInt8
  | high :: low :: rest =>
    match Json.hexValue? high, Json.hexValue? low with
    | some highValue, some lowValue =>
      UInt8.ofNat (16 * highValue + lowValue) :: hexBytes rest
    | _, _ => []
  | _ => []

def verifyReceiptSignature (env : Environment) (receipt : Receipt)
    (signatureBase64 pubkeyHex : String) : Bool :=
  match env.verifyDetached receipt.stringify (env.base64Bytes signatureBase64)
      (hexBytes pubkeyHex.toList) with
  | some valid => valid
  | none => false

def insertReceipt (state : State) (id : Uuid) (row : ReceiptRow) :
    Except SqliteError State :=
  match state.jobs.get? row.jobId with
  | none => .error .foreignKey
  | some _ =>
    match state.receipts.insert? id.text row with
    | none => .error .unique
    | some receipts => .ok { state with receipts := receipts }

def resetWorker (state : State) (workerId : String) : State :=
  state.updateWorker workerId fun worker =>
    { worker with status := .idle, activeJobId := none }

def postFeedback (env : Environment) (state : State) (worker : TrackedWorker)
    (jobId : String) : State :=
  if env.postFeedback then
    let call : FeedbackCall :=
      { ws := worker.ws, workerPubkey := worker.pubkey, jobId := jobId,
        success := true }
    { state with
        feedback := state.feedback ++ [call]
        feedbackInFlight := state.feedbackInFlight ++ [call] }
  else
    state

def queuePayouts (env : Environment) (state : State) (worker : TrackedWorker)
    (jobId : String) : State :=
  let call : PayoutCall :=
    { workerPubkey := worker.pubkey, jobId := jobId, amount := jobPayout }
  { state with
      boltPayouts :=
        if env.boltDistributor then state.boltPayouts ++ [call]
        else state.boltPayouts
      wrappedBoltPayouts :=
        if env.wrappedBoltDistributor then state.wrappedBoltPayouts ++ [call]
        else state.wrappedBoltPayouts }

/-! ## Message handlers -/

def handleRegister (now : Nat) (id : Uuid) (ws : SocketId) (msg : RegisterMsg)
    (state : State) : State × String :=
  let worker : TrackedWorker :=
    { ws := ws, pubkey := msg.providerPubkey, type := msg.providerType,
      capabilities := msg.capabilities, status := .idle, lastHeartbeat := now,
      activeJobId := none, reputationScore := none, stakeLevel := none }
  let state := { state with workers := state.workers.set id.text worker }
  (state.send ws (.registerAck id.text), id.text)

def reputationFetched (workerId : String) (score : Option ℚ) (state : State) :
    State :=
  match score with
  | none => state
  | some score =>
    state.updateWorker workerId fun worker =>
      { worker with reputationScore := some score }

def stakeFetched (workerId : String) (tier : StakeTier) (state : State) :
    State :=
  state.updateWorker workerId fun worker =>
    { worker with stakeLevel := some tier }

def handleHeartbeat (now : Nat) (msg : HeartbeatMsg) (state : State) : State :=
  match findByPubkey state msg.providerPubkey with
  | none => state
  | some (workerId, worker) =>
    (state.updateWorker workerId fun worker =>
      { worker with lastHeartbeat := now }).send worker.ws .heartbeatAck

def storeResult (env : Environment) (now : Nat) (id : Uuid)
    (msg : JobCompleteMsg) (worker : TrackedWorker) (state : State) :
    Except SqliteError State :=
  let state := state.updateJob msg.jobId fun row =>
    { row with
      status := .completed
      result := msg.output
      completedAt := some now }
  match msg.receipt, msg.receiptSignature.filter (· ≠ "") with
  | some receipt, some signature =>
    insertReceipt state id
      { jobId := receipt.jobId, providerPubkey := receipt.providerPubkey,
        receiptJson := receipt.stringify, signature := signature,
        verified :=
          verifyReceiptSignature env receipt signature worker.pubkey }
  | _, _ => .ok state

def handleJobComplete (env : Environment) (now : Nat) (id : Uuid)
    (msg : JobCompleteMsg) (state : State) : Except SqliteError State :=
  match findByActiveJob state msg.jobId with
  | none => .ok state
  | some (workerId, worker) =>
    if isDemoJob msg.jobId then
      let state := resetWorker state workerId
      let state := postFeedback env state worker msg.jobId
      .ok (queuePayouts env state worker msg.jobId)
    else do
      let state ← storeResult env now id msg worker state
      let state := postFeedback env state worker msg.jobId
      let state := queuePayouts env state worker msg.jobId
      return resetWorker state workerId

inductive FeedbackOutcome
  | posted (txHash : String)
  | nothingPosted
  | failed (error : String)
  deriving DecidableEq, Repr

def feedbackSettled (call : FeedbackCall) (outcome : FeedbackOutcome)
    (state : State) : State :=
  let state :=
    { state with feedbackInFlight := state.feedbackInFlight.erase call }
  match outcome with
  | .posted txHash =>
    state.send call.ws (.feedbackPosted call.jobId txHash "monad-testnet"
      ("https://testnet.monadvision.com/tx/" ++ txHash))
  | .nothingPosted => state
  | .failed error => state.send call.ws (.feedbackFailed call.jobId error)

def handleJobReject (msg : JobRejectMsg) (state : State) : State :=
  match findByActiveJob state msg.jobId with
  | none => state
  | some (workerId, _) =>
    let state :=
      if isDemoJob msg.jobId then state
      else state.updateJob msg.jobId fun row =>
        { row with status := .pending, workerPubkey := none }
    resetWorker state workerId

def handleReceiptSubmit (env : Environment) (id : Uuid)
    (msg : ReceiptSubmitMsg) (state : State) : Except SqliteError State :=
  let pubkey :=
    match findByPubkey state msg.receipt.providerPubkey with
    | some (_, worker) => worker.pubkey
    | none => msg.receipt.providerPubkey
  insertReceipt state id
    { jobId := msg.receipt.jobId
      providerPubkey := msg.receipt.providerPubkey
      receiptJson := msg.receipt.stringify
      signature := msg.signature
      verified := verifyReceiptSignature env msg.receipt msg.signature pubkey }

def handleDisconnect (workerId : String) (state : State) : State :=
  match state.workers.get? workerId with
  | none => state
  | some worker =>
    let state :=
      match worker.activeJobId.filter (· ≠ "") with
      | none => state
      | some jobId =>
        if isDemoJob jobId then state
        else state.updateJob jobId fun row =>
          { row with
            status := .failed
            result := some "\x7b\"error\":\"worker_disconnected\"\x7d" }
    { state with workers := state.workers.delete workerId }

/-! ## Connection handling -/

def handleMessage (env : Environment) (now : Nat) (id : Uuid) (ws : SocketId)
    (frame : Frame) (state : State) : Except SqliteError State :=
  match frame with
  | .notJson => .ok (state.send ws (.error "PARSE_ERROR" "Invalid JSON"))
  | .register msg =>
    let (state, workerId) := handleRegister now id ws msg state
    .ok { state with
      connections := state.connections.modify ws fun connection =>
        { connection with workerId := some workerId } }
  | .heartbeat msg => .ok (handleHeartbeat now msg state)
  | .jobComplete msg => handleJobComplete env now id msg state
  | .jobReject msg => .ok (handleJobReject msg state)
  | .receiptSubmit msg => handleReceiptSubmit env id msg state
  | .unknown type =>
    .ok (state.send ws (.error "UNKNOWN_MSG" ("Unknown type: " ++ type)))

def handleClose (ws : SocketId) (state : State) : State :=
  let workerId := (state.connections.get? ws).bind Connection.workerId
  let state := { state with
    connections := state.connections.modify ws fun connection =>
      { connection with readyState := .closed } }
  match workerId with
  | some workerId => handleDisconnect workerId state
  | none => state

def isStale (now : Nat) (worker : TrackedWorker) : Bool :=
  now - worker.lastHeartbeat > HEARTBEAT_TIMEOUT_MS

def pruneStale (now : Nat) (state : State) : State :=
  state.workers.entries.foldl (fun current entry =>
    if isStale now entry.2 then
      handleDisconnect entry.1 (current.closeSocket entry.2.ws)
    else
      current) state

/-! ## Job matching -/

def workerScore (now : Nat) (worker : TrackedWorker) (policy : Tier)
    (jobType : JobType) : ℚ :=
  let preference : ℚ :=
    match policy with
    | .fast => if worker.type = .desktop then 10 else 0
    | .cheap => if jobType = .task ∧ worker.type = .seeker then 10 else 0
  let freshness : ℚ := max 0 (5 - ((now : ℚ) - worker.lastHeartbeat) / 10000)
  let stake := STAKE_PRIORITY (worker.stakeLevel.getD .open)
  let reputation : ℚ :=
    match worker.reputationScore with
    | some score => score / 100 * 10 * stake.repMultiplier
    | none => 0
  preference + freshness + reputation + stake.bonus

def trustedPubkeys (state : State) (userId : String) : List (Option String) :=
  (state.trustPairings.values.filter fun row =>
    row.userId = userId && row.claimed).map TrustRow.providerPubkey

def isEligible (state : State) (jobType : JobType) (privacyClass userId : String)
    (worker : TrackedWorker) : Bool :=
  worker.status = .idle && worker.capabilities.contains jobType &&
    (privacyClass ≠ PrivacyClass.PRIVATE ||
      (trustedPubkeys state userId).contains (some worker.pubkey))

def claimWorker (now : Nat) (jobType : JobType) (policy : Tier)
    (privacyClass userId : String) (state : State) :
    Option (String × TrackedWorker) × State :=
  let candidates := state.workers.entries.filter fun entry =>
    isEligible state jobType privacyClass userId entry.2
  let sorted := candidates.insertionSort fun left right =>
    workerScore now right.2 policy jobType ≤ workerScore now left.2 policy jobType
  match sorted with
  | [] => (none, state)
  | (workerId, worker) :: _ =>
    (some (workerId, worker), state.updateWorker workerId fun worker =>
      { worker with status := .busy })

def assignJob (workerId : String) (worker : TrackedWorker) (jobId : String)
    (msg : JobAssignMsg) (state : State) : State :=
  (state.updateWorker workerId fun worker =>
    { worker with activeJobId := some jobId }).send worker.ws (.jobAssign msg)

/-! ## Demo mode helpers -/

def getIdleWorkers (state : State) : List (String × TrackedWorker) :=
  state.workers.entries.filter fun entry => entry.2.status = .idle

def injectDemoJob (workerId : String) (msg : JobAssignMsg) (state : State) :
    State × Bool :=
  match state.workers.get? workerId with
  | none => (state, false)
  | some worker =>
    if worker.status ≠ .idle then (state, false)
    else
      ((state.updateWorker workerId fun worker =>
        { worker with status := .busy, activeJobId := some msg.jobId }).send
          worker.ws (.jobAssign msg), true)

/-! ## Stats -/

def onlineCount (state : State) : Nat :=
  state.workers.entries.length

end WorkerHub

end Dispatch.Coordinator
