import Dispatch.Coordinator.WorkerHub
import Dispatch.Foundation.Sqlite

/-! # The message listener on any text

`handleConnection` of `ws/workerHub.ts` guards `JSON.parse` and nothing else.
-/

namespace Dispatch.Coordinator.Listener

open Sqlite

inductive Thrown
  | typeError
  | bind (error : BindError)
  | notNull
  | foreignKey
  | unique
  deriving DecidableEq, Repr

/-! ## State -/

structure RawWorker (Number : Type) where
  ws : SocketId
  pubkey : Option (Json Number)
  type : Option (Json Number)
  capabilities : Option (Json Number)
  status : WorkerStatus
  lastHeartbeat : Nat
  activeJobId : Option String
  reputationScore : Option ℚ
  stakeLevel : Option StakeTier

inductive Outgoing
  | registerAck (workerId : String)
  | heartbeatAck
  | error (code : String) (message : JsString)

inductive Call (Number : Type)
  | postFeedback (workerPubkey : Option (Json Number)) (jobId : String)
  | queueBoltPayout (workerPubkey : Option (Json Number)) (jobId : String)
      (amount : ℚ)
  | queueWrappedBoltPayout (workerPubkey : Option (Json Number))
      (jobId : String) (amount : ℚ)

structure Hub (Number : Type) where
  workers : OrderedMap String (RawWorker Number)
  connections : OrderedMap SocketId Connection
  jobs : OrderedMap String JobRow
  trustPairings : OrderedMap String TrustRow
  receipts : OrderedMap String ReceiptRow
  sent : List (SocketId × Outgoing)
  calls : List (Call Number)

structure Outcome (Number : Type) where
  hub : Hub Number
  thrown : Option Thrown

structure RawEnvironment (Number : Type) extends Environment where
  bufferFrom : Json Number → Option (List UInt8)

section Handlers

variable {Number : Type} [JsNumber Number] [SqlNumber Number]

namespace Hub

def send (hub : Hub Number) (ws : SocketId) (message : Outgoing) :
    Hub Number :=
  if (hub.connections.get? ws).map Connection.readyState = some .open then
    { hub with sent := hub.sent ++ [(ws, message)] }
  else
    hub

def updateWorker (hub : Hub Number) (workerId : String)
    (change : RawWorker Number → RawWorker Number) : Hub Number :=
  { hub with workers := hub.workers.modify workerId change }

def resetWorker (hub : Hub Number) (workerId : String) : Hub Number :=
  hub.updateWorker workerId fun worker =>
    { worker with status := .idle, activeJobId := none }

def returns (hub : Hub Number) : Outcome Number :=
  { hub := hub, thrown := none }

def throws (hub : Hub Number) (error : Thrown) : Outcome Number :=
  { hub := hub, thrown := some error }

def findByPubkey (hub : Hub Number) (pubkey : Option (Json Number)) :
    Option (String × RawWorker Number) :=
  hub.workers.find? fun worker => Json.strictEqual worker.pubkey pubkey

def isActiveJob (jobId : Option (Json Number)) (worker : RawWorker Number) :
    Bool :=
  match worker.activeJobId, jobId with
  | some active, some (.string jobId) => JsString.ofString active == jobId
  | none, some .null => true
  | _, _ => false

def findByActiveJob (hub : Hub Number) (jobId : Option (Json Number)) :
    Option (String × RawWorker Number) :=
  hub.workers.find? (isActiveJob jobId)

end Hub

/-! ## Receipts -/

def signatureBytes? (env : RawEnvironment Number) :
    Option (Json Number) → Option (List UInt8)
  | none => none
  | some (.string text) => some (env.base64Bytes text.toText)
  | some value => env.bufferFrom value

def keyBytes? (env : RawEnvironment Number) :
    Option (Json Number) → Option (List UInt8)
  | none => none
  | some (.string text) => some (WorkerHub.hexBytes text.toText.toList)
  | some value => env.bufferFrom value

def isValid? (env : RawEnvironment Number) (receipt : Json Number)
    (signature pubkey : Option (Json Number)) : Option Bool := do
  let signature ← signatureBytes? env signature
  let publicKey ← keyBytes? env pubkey
  env.verifyDetached receipt.stringify signature publicKey

def verifyReceiptSignature (env : RawEnvironment Number)
    (receipt : Json Number) (signature pubkey : Option (Json Number)) :
    Except Thrown Bool :=
  if isValid? env receipt signature pubkey = some true then
    .ok true
  else
    match Json.displayProperty? (receipt.get? "job_id") with
    | some _ => .ok false
    | none => .error .typeError

def receiptArguments (receipt : Json Number) (signature : Option (Json Number)) :
    List (Option (Json Number)) :=
  [receipt.get? "job_id", receipt.get? "provider_pubkey",
    some (.string (JsString.ofString receipt.stringify)), signature]

def insertReceipt (id : Uuid) (receipt : Json Number)
    (signature : Option (Json Number)) (verified : Bool)
    (jobs : OrderedMap String JobRow)
    (receipts : OrderedMap String ReceiptRow) :
    Except Thrown (OrderedMap String ReceiptRow) :=
  match bindParameters 4 (receiptArguments receipt signature) with
  | .error error => .error (.bind error)
  | .ok [.text jobId, .text providerPubkey, .text receiptJson,
      .text signature] =>
      match jobs.get? jobId with
      | none => .error .foreignKey
      | some _ =>
        match receipts.insert? id.text
            { jobId := jobId, providerPubkey := providerPubkey,
              receiptJson := receiptJson, signature := signature,
              verified := verified } with
        | none => .error .unique
        | some receipts => .ok receipts
  | .ok _ => .error .notNull

def storeReceipt (env : RawEnvironment Number) (id : Uuid)
    (receipt : Json Number) (signature pubkey : Option (Json Number))
    (jobs : OrderedMap String JobRow)
    (receipts : OrderedMap String ReceiptRow) :
    Except Thrown (OrderedMap String ReceiptRow) := do
  let verified ← verifyReceiptSignature env receipt signature pubkey
  insertReceipt id receipt signature verified jobs receipts

/-! ## Message handlers -/

def slicedKey? : Option (Json Number) → Option JsString
  | some (.string text) => some (text.take 8)
  | some (.array items) => Json.display? (.array (items.take 8))
  | _ => none

def handleRegister (now : Nat) (id : Uuid) (ws : SocketId) (msg : Json Number)
    (hub : Hub Number) : Outcome Number :=
  let worker : RawWorker Number :=
    { ws := ws, pubkey := msg.get? "provider_pubkey",
      type := msg.get? "provider_type", capabilities := msg.get? "capabilities",
      status := .idle, lastHeartbeat := now, activeJobId := none,
      reputationScore := none, stakeLevel := none }
  let hub := { hub with workers := hub.workers.set id.text worker }
  let hub := hub.send ws (.registerAck id.text)
  match Json.displayProperty? (msg.get? "provider_type"),
      slicedKey? (msg.get? "provider_pubkey") with
  | some _, some _ =>
    { hub with
      connections := hub.connections.modify ws fun connection =>
        { connection with workerId := some id.text } }.returns
  | _, _ => hub.throws .typeError

def handleHeartbeat (now : Nat) (msg : Json Number) (hub : Hub Number) :
    Outcome Number :=
  match hub.findByPubkey (msg.get? "provider_pubkey") with
  | none => hub.returns
  | some (workerId, worker) =>
    ((hub.updateWorker workerId fun worker =>
      { worker with lastHeartbeat := now }).send worker.ws
        .heartbeatAck).returns

def reward (env : RawEnvironment Number) (worker : RawWorker Number)
    (jobId : String) (hub : Hub Number) : Hub Number :=
  { hub with calls := hub.calls ++
      (if env.postFeedback then [.postFeedback worker.pubkey jobId] else []) ++
      (if env.boltDistributor then
        [.queueBoltPayout worker.pubkey jobId WorkerHub.jobPayout] else []) ++
      (if env.wrappedBoltDistributor then
        [.queueWrappedBoltPayout worker.pubkey jobId WorkerHub.jobPayout]
      else []) }

def bundled? (msg : Json Number) : Option (Json Number × Json Number) := do
  let receipt ← (msg.get? "receipt").filter Json.truthy
  let signature ← (msg.get? "receipt_signature").filter Json.truthy
  return (receipt, signature)

def storeResult (env : RawEnvironment Number) (now : Nat) (id : Uuid)
    (jobId : String) (msg : Json Number) (worker : RawWorker Number)
    (hub : Hub Number) : Except Thrown (Hub Number) := do
  let jobs := hub.jobs.modify jobId fun row =>
    { row with
      status := .completed
      result := (msg.get? "output").map Json.stringify
      completedAt := some now }
  let receipts ← match bundled? msg with
    | some (receipt, signature) =>
      storeReceipt env id receipt (some signature) worker.pubkey jobs
        hub.receipts
    | none => .ok hub.receipts
  return { hub with jobs := jobs, receipts := receipts }

def handleJobComplete (env : RawEnvironment Number) (now : Nat) (id : Uuid)
    (msg : Json Number) (hub : Hub Number) : Outcome Number :=
  match hub.findByActiveJob (msg.get? "job_id") with
  | none => hub.returns
  | some (workerId, worker) =>
    match worker.activeJobId with
    | none => hub.throws .typeError
    | some jobId =>
      if isDemoJob jobId then
        (reward env worker jobId (hub.resetWorker workerId)).returns
      else
        match storeResult env now id jobId msg worker hub with
        | .error error => hub.throws error
        | .ok hub =>
          ((reward env worker jobId hub).resetWorker workerId).returns

def handleJobReject (msg : Json Number) (hub : Hub Number) : Outcome Number :=
  match hub.findByActiveJob (msg.get? "job_id") with
  | none => hub.returns
  | some (workerId, worker) =>
    match worker.activeJobId with
    | none => hub.throws .typeError
    | some jobId =>
      let hub :=
        if isDemoJob jobId then hub
        else { hub with jobs := hub.jobs.modify jobId fun row =>
          { row with status := .pending, workerPubkey := none } }
      let hub := hub.resetWorker workerId
      match Json.displayProperty? (msg.get? "reason") with
      | some _ => hub.returns
      | none => hub.throws .typeError

def submitted? (msg : Json Number) : Option (Json Number) :=
  match msg.get? "receipt" with
  | none | some .null => none
  | some receipt => some receipt

def submitterKey (receipt : Json Number) (hub : Hub Number) :
    Option (Json Number) :=
  match hub.findByPubkey (receipt.get? "provider_pubkey") with
  | some (_, worker) => worker.pubkey
  | none => receipt.get? "provider_pubkey"

def handleReceiptSubmit (env : RawEnvironment Number) (id : Uuid)
    (msg : Json Number) (hub : Hub Number) : Outcome Number :=
  match submitted? msg with
  | none => hub.throws .typeError
  | some receipt =>
    match storeReceipt env id receipt (msg.get? "signature")
        (submitterKey receipt hub) hub.jobs hub.receipts with
    | .error error => hub.throws error
    | .ok receipts => { hub with receipts := receipts }.returns

/-! ## The listener -/

inductive MessageType
  | register
  | heartbeat
  | jobComplete
  | jobReject
  | receiptSubmit
  deriving DecidableEq, Repr

def MessageType.text : MessageType → String
  | register => "register"
  | heartbeat => "heartbeat"
  | jobComplete => "job_complete"
  | jobReject => "job_reject"
  | receiptSubmit => "receipt_submit"

def messageType? (msg : Json Number) : Option MessageType :=
  match msg.get? "type" with
  | some (.string text) =>
    [MessageType.register, .heartbeat, .jobComplete, .jobReject,
      .receiptSubmit].find? fun type => JsString.ofString type.text == text
  | _ => none

def handleMessage (env : RawEnvironment Number) (now : Nat) (id : Uuid)
    (ws : SocketId) (msg : Json Number) (hub : Hub Number) : Outcome Number :=
  match messageType? msg with
  | some .register => handleRegister now id ws msg hub
  | some .heartbeat => handleHeartbeat now msg hub
  | some .jobComplete => handleJobComplete env now id msg hub
  | some .jobReject => handleJobReject msg hub
  | some .receiptSubmit => handleReceiptSubmit env id msg hub
  | none =>
    match Json.displayProperty? (msg.get? "type") with
    | none => hub.throws .typeError
    | some type =>
      (hub.send ws (.error "UNKNOWN_MSG"
        (JsString.ofString "Unknown type: " ++ type))).returns

def onMessage (env : RawEnvironment Number) (now : Nat) (id : Uuid)
    (ws : SocketId) (text : String) (hub : Hub Number) : Outcome Number :=
  match (Json.parse text : Option (Json Number)) with
  | none => (hub.send ws (.error "PARSE_ERROR" "Invalid JSON")).returns
  | some .null => hub.throws .typeError
  | some msg => handleMessage env now id ws msg hub

end Handlers

end Dispatch.Coordinator.Listener
