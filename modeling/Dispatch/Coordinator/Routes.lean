import Dispatch.Coordinator.WorkerHub

/-! # HTTP routes

`routes/jobs.ts`, `routes/trust.ts` and the demo mode of `server.ts`.
-/

namespace Dispatch.Coordinator

open WorkerHub

/-! ## Committing a job -/

structure CommitBody where
  jobType : Option String
  payload : Option JsonText
  privacyClass : Option String
  userId : Option String
  deriving DecidableEq, Repr

inductive CommitReply
  | missingFields
  | invalidJobType
  | created (jobId : String)
  | noTrustedWorker (jobId : String)
  deriving DecidableEq, Repr

namespace CommitReply

def status : CommitReply → Nat
  | missingFields | invalidJobType => 400
  | created _ => 201
  | noTrustedWorker _ => 422

def body : CommitReply → List (String × String)
  | missingFields =>
    [("error", "Missing required fields: job_type, payload, user_id")]
  | invalidJobType => [("error", "Invalid job_type")]
  | created jobId => [("job_id", jobId)]
  | noTrustedWorker jobId => [("error", "no_trusted_worker"), ("job_id", jobId)]

end CommitReply

namespace JobRequest

def row (request : JobRequest) (now : Nat) : JobRow where
  type := request.jobType
  policy := request.policy
  privacyClass := request.privacyClass
  userId := request.userId
  status := .pending
  payload := request.payload
  result := none
  workerPubkey := none
  createdAt := now
  completedAt := none

def assignMsg (request : JobRequest) (jobId : String) : JobAssignMsg where
  jobId := jobId
  jobType := request.jobType
  payload := request.payload
  policy := request.policy
  privacyClass := request.privacyClass
  userId := request.userId

end JobRequest

def validateCommit (tier : Tier) (body : CommitBody) :
    Except CommitReply JobRequest :=
  match body.jobType.filter (· ≠ ""), body.payload.filter JsonText.truthy,
      body.userId.filter (· ≠ "") with
  | some jobType, some payload, some userId =>
    match JobType.ofText? jobType with
    | none => .error .invalidJobType
    | some jobType =>
      .ok { jobType := jobType, policy := tier,
            privacyClass := body.privacyClass.getD PrivacyClass.PUBLIC,
            userId := userId, payload := payload }
  | _, _, _ => .error .missingFields

def matchJob (jobId : String) (request : JobRequest) (workerId : String)
    (worker : TrackedWorker) (state : State) : State :=
  let state := state.updateJob jobId fun row =>
    { row with status := .assigned, workerPubkey := some worker.pubkey }
  assignJob workerId worker jobId (request.assignMsg jobId) state

def failJob (jobId : String) (result : JsonText) (state : State) : State :=
  state.updateJob jobId fun row =>
    { row with status := .failed, result := some result }

def noTrustedWorkerResult : JsonText :=
  "\x7b\"error\":\"no_trusted_worker\"\x7d"

def noEligibleWorkerResult : JsonText :=
  "\x7b\"error\":\"no_eligible_worker\"\x7d"

def startRetryLoop (jobId : String) (request : JobRequest) (state : State) :
    State :=
  let loop : RetryLoop := { request := request, attempts := 0 }
  { state with retryLoops := state.retryLoops.set jobId loop }

def commitJob (now : Nat) (id : Uuid) (request : JobRequest) (state : State) :
    Except SqliteError (State × CommitReply) :=
  match state.jobs.insert? id.text (request.row now) with
  | none => .error .unique
  | some jobs =>
    match claimWorker now request.jobType request.policy request.privacyClass
        request.userId { state with jobs := jobs } with
    | (some (workerId, worker), state) =>
      .ok (matchJob id.text request workerId worker state,
        .created id.text)
    | (none, state) =>
      if request.privacyClass = PrivacyClass.PRIVATE then
        .ok (failJob id.text noTrustedWorkerResult state,
          .noTrustedWorker id.text)
      else
        .ok (startRetryLoop id.text request state, .created id.text)

def handleCommit (now : Nat) (id : Uuid) (tier : Tier) (body : CommitBody)
    (state : State) : Except SqliteError (State × CommitReply) :=
  match validateCommit tier body with
  | .error reply => .ok (state, reply)
  | .ok request => commitJob now id request state

/-! ## Retrying -/

def maxAttempts : Nat := 15

def clearInterval (jobId : String) (state : State) : State :=
  { state with retryLoops := state.retryLoops.delete jobId }

def retryTick (now : Nat) (jobId : String) (state : State) : State :=
  match state.retryLoops.get? jobId with
  | none => state
  | some loop =>
    let attempts := loop.attempts + 1
    let request := loop.request
    let state := { state with
      retryLoops := state.retryLoops.modify jobId fun loop =>
        { loop with attempts := attempts } }
    if (state.jobs.get? jobId).map JobRow.status ≠ some .pending then
      clearInterval jobId state
    else
      match claimWorker now request.jobType request.policy
          request.privacyClass request.userId state with
      | (some (workerId, worker), state) =>
        clearInterval jobId (matchJob jobId request workerId worker state)
      | (none, state) =>
        if attempts ≥ maxAttempts then
          clearInterval jobId (failJob jobId noEligibleWorkerResult state)
        else
          state

/-! ## Polling -/

structure PolledReceipt where
  receipt : Receipt
  signature : String
  verified : Bool
  deriving DecidableEq, Repr

inductive PollReply
  | notFound
  | found (id : String) (status : JobStatus) (result : Option JsonText)
      (receipt : Option PolledReceipt) (createdAt : Nat)
      (completedAt : Option Nat)
  | internalError
  deriving DecidableEq, Repr

def receiptsOf (state : State) (jobId : String) : List ReceiptRow :=
  state.receipts.values.filter fun row => row.jobId = jobId

/-- `GET /v1/jobs/:id` -/
def pollJob (env : Environment) (jobId : String) (state : State) : PollReply :=
  match state.jobs.get? jobId with
  | none => .notFound
  | some row =>
    let reply (receipt : Option PolledReceipt) : PollReply :=
      .found jobId row.status (row.result.filter (· ≠ "")) receipt
        row.createdAt row.completedAt
    if row.status = .completed then
      match env.selectRow (receiptsOf state jobId) with
      | none => reply none
      | some stored =>
        match Receipt.parse? stored.receiptJson with
        | none => .internalError
        | some receipt =>
          reply (some { receipt := receipt
                        signature := stored.signature
                        verified := stored.verified })
    else
      reply none

/-- `{ ...receipt, signature, verified }` -/
def PolledReceipt.toJson (polled : PolledReceipt) : Json Number :=
  let added : List (JsString × Json Number) := [
    ("signature", .string polled.signature),
    ("verified", .bool polled.verified)]
  .object (.ofList (polled.receipt.members.toList ++ added))

def parseResult? [JsonNumber Number] : Option JsonText → Option (Json Number)
  | some text => Json.parse text
  | none => some .null

def PollReply.body? [JsonNumber Number] (datetime : Nat → String) :
    PollReply → Option (Json Number)
  | .notFound => some (.object (.ofList [("error", .string "Job not found")]))
  | .found id status result receipt createdAt completedAt => do
    let result ← parseResult? result
    return .object (.ofList [
      ("id", .string id),
      ("status", .string status.text),
      ("result", result),
      ("receipt", match receipt with
        | some polled => polled.toJson
        | none => .null),
      ("created_at", .string (datetime createdAt)),
      ("completed_at", match completedAt with
        | some time => .string (datetime time)
        | none => .null)])
  | .internalError => none

/-! ## Trust pairings -/

inductive TrustReply
  | missing (error : String)
  | created (pairingCode : String) (expiresAt : Nat)
  | invalidCode
  | alreadyClaimed
  | expired
  | claimed (userId : String) (pairedAt : Nat)
  deriving DecidableEq, Repr

def pairingCode (random : UInt8 × UInt8 × UInt8) : String :=
  let hex (byte : UInt8) : List Char :=
    [Json.hexDigit (byte.toNat / 16), Json.hexDigit (byte.toNat % 16)]
  .ofList ((hex random.1 ++ hex random.2.1 ++ hex random.2.2).map Char.toUpper)

def trustCreate (now : Nat) (id : Uuid) (random : UInt8 × UInt8 × UInt8)
    (userId : Option String) (state : State) :
    Except SqliteError (State × TrustReply) :=
  match userId.filter (· ≠ "") with
  | none => .ok (state, .missing "Missing user_id")
  | some userId =>
    let code := pairingCode random
    let expiresAt := now + 60 * 60 * 1000
    let row : TrustRow :=
      { userId := userId, providerPubkey := none, pairingCode := code,
        claimed := false, expiresAt := expiresAt, createdAt := now }
    if state.trustPairings.values.any fun row => row.pairingCode = code then
      .error .unique
    else
      match state.trustPairings.insert? id.text row with
      | none => .error .unique
      | some trustPairings =>
        .ok ({ state with trustPairings := trustPairings },
          .created code expiresAt)

def trustClaim (now : Nat) (code providerPubkey : Option String)
    (state : State) : State × TrustReply :=
  match code.filter (· ≠ ""), providerPubkey.filter (· ≠ "") with
  | some code, some providerPubkey =>
    match state.trustPairings.find? fun row => row.pairingCode = code with
    | none => (state, .invalidCode)
    | some (id, row) =>
      if row.claimed then (state, .alreadyClaimed)
      else if row.expiresAt < now then (state, .expired)
      else
        ({ state with
            trustPairings := state.trustPairings.modify id fun row =>
              { row with
                claimed := true
                providerPubkey := some providerPubkey } },
          .claimed row.userId now)
  | _, _ => (state, .missing "Missing pairing_code or provider_pubkey")

/-! ## Demo mode -/

inductive DemoTask
  | summarize
  | classify
  | extractJson
  deriving DecidableEq, Repr

def DemoTask.text : DemoTask → String
  | summarize => "summarize"
  | classify => "classify"
  | extractJson => "extract_json"

def TASK_TYPES : List DemoTask := [.summarize, .classify, .extractJson]

def DEMO_PROMPTS : DemoTask → List String
  | .summarize => [
      "Summarize the latest Solana validator update",
      "Summarize this week's DeFi yield farming trends",
      "Summarize the recent Monad testnet performance report",
      "Summarize key changes in the latest Ethereum EIP proposals"]
  | .classify => [
      "Classify this transaction: 500 USDC transfer to a new wallet",
      "Classify this network event: validator node went offline for 30 seconds",
      "Classify this user behavior: 12 swaps in 5 minutes across 3 DEXs",
      "Classify this alert: gas prices spiked 400% in the last block"]
  | .extractJson => [
      "Extract structured data from: The token launched at $0.05, reached $1.20 ATH, current market cap $45M",
      "Extract JSON from: Block 18234567 produced by validator Hx7k...9f2a, 1,247 transactions, 0.3s finality",
      "Extract structured data from: Liquidity pool TVL $12.5M, 24h volume $3.2M, APY 34.5%",
      "Extract JSON from: NFT collection: 10,000 items, floor 2.3 SOL, 45% listed, 12 SOL top sale today"]

def pickRandom (random : Nat) (items : List α) : Option α :=
  items[random % items.length]?

structure DemoChoice where
  worker : Nat
  task : Nat
  prompt : Nat
  deriving DecidableEq, Repr

def demoPayload (task : DemoTask) (prompt : String) : JsonText :=
  let payload : Json Empty := .object (.ofList
    [("task_type", .string task.text), ("input", .string prompt)])
  payload.stringify

def demoMsg (id : Uuid) (task : DemoTask) (prompt : String) :
    JobAssignMsg where
  jobId := demoJobId id
  jobType := .task
  payload := demoPayload task prompt
  policy := .cheap
  privacyClass := PrivacyClass.PUBLIC
  userId := "demo-coordinator"

def demoTick (id : Uuid) (choice : DemoChoice) (state : State) : State :=
  if state.demoActive then
    match pickRandom choice.worker (getIdleWorkers state) with
    | none => state
    | some (workerId, _) =>
      match pickRandom choice.task TASK_TYPES with
      | none => state
      | some task =>
        match pickRandom choice.prompt (DEMO_PROMPTS task) with
        | none => state
        | some prompt =>
          (injectDemoJob workerId (demoMsg id task prompt) state).1
  else
    state

end Dispatch.Coordinator
