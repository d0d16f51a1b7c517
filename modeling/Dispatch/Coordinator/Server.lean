import Dispatch.Coordinator.Listener
import Dispatch.Coordinator.TrustRouter
import Dispatch.Foundation.Procedure

/-! # The coordinator, statement by statement

`createServer` with its hub, routes and timers, on frames and bodies of any
shape.
-/

namespace Dispatch.Coordinator

open Sqlite Listener

inductive Failure
  | thrown (error : Thrown)
  /-- "The database connection is not open" -/
  | notOpen
  deriving DecidableEq, Repr

structure RawRequest (Number : Type) where
  jobType : JobType
  policy : Tier
  privacyClass : Json Number
  userId : Json Number
  payload : Json Number

structure Interval (Number : Type) where
  request : RawRequest Number
  attempts : Nat

structure AssignFrame (Number : Type) where
  ws : SocketId
  jobId : String
  request : RawRequest Number

structure Server (Number : Type) where
  hub : Hub Number
  intervals : OrderedMap String (Interval Number)
  assigned : List (AssignFrame Number)
  databaseOpen : Bool
  misused : Bool
  heartbeatCheck : Bool
  listening : Bool
  demoActive : Bool
  issued : List Uuid

namespace Server

def initial : Server Number where
  hub :=
    { workers := .empty, connections := .empty, jobs := .empty,
      trustPairings := .empty, receipts := .empty, sent := [], calls := [] }
  intervals := .empty
  assigned := []
  databaseOpen := true
  misused := false
  heartbeatCheck := true
  listening := true
  demoActive := false
  issued := []

abbrev Action (Number Result : Type) :=
  Procedure (Server Number) Failure Result

section Handlers

variable {Number Result : Type} [JsNumber Number] [SqlNumber Number]

/-! ## The database -/

def statement : Action Number Unit := fun server =>
  if server.databaseOpen then (.ok (), server)
  else (.error .notOpen, { server with misused := true })

def attempt (result : Except Thrown Result) : Action Number Result :=
  .ofExcept (result.mapError .thrown)

def throwTypeError : Action Number Result :=
  .throwing (.thrown .typeError)

def updateHub (change : Hub Number → Hub Number) : Action Number Unit :=
  .update fun server => { server with hub := change server.hub }

/-- `UPDATE jobs SET … WHERE id = ?` -/
def updateJob (jobId : String) (change : JobRow → JobRow) :
    Action Number Unit := do
  statement
  updateHub fun hub => { hub with jobs := hub.jobs.modify jobId change }

def insertReceipt (id : Uuid) (receipt : Json Number)
    (signature : Option (Json Number)) (verified : Bool) :
    Action Number Unit := do
  statement
  let server ← Procedure.read
  let receipts ← attempt (Listener.insertReceipt id receipt signature verified
    server.hub.jobs server.hub.receipts)
  updateHub fun hub => { hub with receipts := receipts }

def rollback (before after : Server Number) : Server Number :=
  { after with
    hub := { after.hub with
      jobs := before.hub.jobs
      trustPairings := before.hub.trustPairings
      receipts := before.hub.receipts } }

/-- `db.transaction(body)()` -/
def transaction (body : Action Number Unit) : Action Number Unit := do
  statement
  Procedure.transaction rollback body

/-! ## Message handlers -/

def finish (server : Server Number) (outcome : Listener.Outcome Number) :
    Except Failure Unit × Server Number :=
  let next := { server with hub := outcome.hub }
  match outcome.thrown with
  | none => (.ok (), next)
  | some error => (.error (.thrown error), next)

def ofOutcome (handler : Hub Number → Listener.Outcome Number) :
    Action Number Unit := fun server => server.finish (handler server.hub)

def call (configured : Bool) (call : Call Number) : Action Number Unit :=
  updateHub fun hub =>
    if configured then { hub with calls := hub.calls ++ [call] } else hub

def reward (env : RawEnvironment Number) (worker : RawWorker Number)
    (jobId : String) : Action Number Unit := do
  call env.postFeedback (.postFeedback worker.pubkey jobId)
  call env.boltDistributor
    (.queueBoltPayout worker.pubkey jobId WorkerHub.jobPayout)
  call env.wrappedBoltDistributor
    (.queueWrappedBoltPayout worker.pubkey jobId WorkerHub.jobPayout)

def resetWorker (workerId : String) : Action Number Unit :=
  updateHub fun hub => hub.resetWorker workerId

def storeResult (env : RawEnvironment Number) (now : Nat) (id : Uuid)
    (jobId : String) (msg : Json Number) (worker : RawWorker Number) :
    Action Number Unit := do
  updateJob jobId fun row =>
    { row with
      status := .completed
      result := (msg.get? "output").map Json.stringify
      completedAt := some now }
  match bundled? msg with
  | some (receipt, signature) => do
    let verified ← attempt (verifyReceiptSignature env receipt
      (some signature) worker.pubkey)
    insertReceipt id receipt (some signature) verified
  | none => pure ()

def handleJobComplete (env : RawEnvironment Number) (now : Nat) (id : Uuid)
    (msg : Json Number) : Action Number Unit := do
  let server ← Procedure.read
  match server.hub.findByActiveJob (msg.get? "job_id") with
  | none => pure ()
  | some (workerId, worker) =>
    match worker.activeJobId with
    | none => throwTypeError
    | some jobId =>
      if isDemoJob jobId then do
        resetWorker workerId
        reward env worker jobId
      else do
        transaction (storeResult env now id jobId msg worker)
        reward env worker jobId
        resetWorker workerId

def log (value : Option (Json Number)) : Action Number Unit :=
  match Json.displayProperty? value with
  | some _ => pure ()
  | none => throwTypeError

def handleJobReject (msg : Json Number) : Action Number Unit := do
  let server ← Procedure.read
  match server.hub.findByActiveJob (msg.get? "job_id") with
  | none => pure ()
  | some (workerId, worker) =>
    match worker.activeJobId with
    | none => throwTypeError
    | some jobId => do
      if isDemoJob jobId then
        pure ()
      else
        updateJob jobId fun row =>
          { row with status := .pending, workerPubkey := none }
      resetWorker workerId
      log (msg.get? "reason")

def handleReceiptSubmit (env : RawEnvironment Number) (id : Uuid)
    (msg : Json Number) : Action Number Unit := do
  match submitted? msg with
  | none => throwTypeError
  | some receipt => do
    let server ← Procedure.read
    let verified ← attempt (verifyReceiptSignature env receipt
      (msg.get? "signature") (submitterKey receipt server.hub))
    insertReceipt id receipt (msg.get? "signature") verified

def handleDisconnect (workerId : String) : Action Number Unit := do
  let server ← Procedure.read
  match server.hub.workers.get? workerId with
  | none => pure ()
  | some worker => do
    match worker.activeJobId.filter (· ≠ "") with
    | none => pure ()
    | some jobId =>
      if isDemoJob jobId then
        pure ()
      else
        updateJob jobId fun row =>
          { row with
            status := .failed
            result := some "\x7b\"error\":\"worker_disconnected\"\x7d" }
    updateHub fun hub =>
      { hub with workers := hub.workers.delete workerId }

/-! ## Connections -/

def handleMessage (env : RawEnvironment Number) (now : Nat) (id : Uuid)
    (ws : SocketId) (msg : Json Number) : Action Number Unit :=
  match messageType? msg with
  | some .register => ofOutcome (handleRegister now id ws msg)
  | some .heartbeat => ofOutcome (handleHeartbeat now msg)
  | some .jobComplete => handleJobComplete env now id msg
  | some .jobReject => handleJobReject msg
  | some .receiptSubmit => handleReceiptSubmit env id msg
  | none =>
    match Json.displayProperty? (msg.get? "type") with
    | none => throwTypeError
    | some type =>
      updateHub fun hub => hub.send ws (.error "UNKNOWN_MSG"
        (JsString.ofString "Unknown type: " ++ type))

def onMessage (env : RawEnvironment Number) (now : Nat) (id : Uuid)
    (ws : SocketId) (text : String) : Action Number Unit :=
  match (Json.parse text : Option (Json Number)) with
  | none =>
    updateHub fun hub => hub.send ws (.error "PARSE_ERROR" "Invalid JSON")
  | some .null => throwTypeError
  | some msg => handleMessage env now id ws msg

def onClose (ws : SocketId) : Action Number Unit := do
  let server ← Procedure.read
  updateHub fun hub =>
    { hub with
      connections := hub.connections.modify ws fun connection =>
        { connection with readyState := .closed } }
  match (server.hub.connections.get? ws).bind Connection.workerId with
  | some workerId => handleDisconnect workerId
  | none => pure ()

/-- `ws.close()` -/
def closeSocket (ws : SocketId) : Action Number Unit :=
  updateHub fun hub =>
    { hub with
      connections := hub.connections.modify ws fun connection =>
        if connection.readyState = .open then
          { connection with readyState := .closing }
        else
          connection }

def pruneEntries (now : Nat) :
    List (String × RawWorker Number) → Action Number Unit
  | [] => pure ()
  | (workerId, worker) :: rest => do
    if now - worker.lastHeartbeat > WorkerHub.HEARTBEAT_TIMEOUT_MS then do
      closeSocket worker.ws
      handleDisconnect workerId
    else
      pure ()
    pruneEntries now rest

def pruneStale (now : Nat) : Action Number Unit := do
  let server ← Procedure.read
  pruneEntries now server.hub.workers.entries

/-! ## Job matching -/

def includes? (capabilities : Option (Json Number)) (jobType : JobType) :
    Option Bool :=
  match capabilities with
  | some (.array items) =>
    some (items.toList.any fun item =>
      Json.strictEqual (some item) (some (.string jobType.text)))
  | some (.string text) => some (text.includes jobType.text)
  | _ => none

def isType (worker : RawWorker Number) (type : ProviderType) : Bool :=
  Json.strictEqual worker.type (some (.string type.text))

def workerScore (now : Nat) (worker : RawWorker Number) (policy : Tier)
    (jobType : JobType) : ℚ :=
  let preference : ℚ :=
    match policy with
    | .fast => if isType worker .desktop then 10 else 0
    | .cheap => if jobType = .task ∧ isType worker .seeker then 10 else 0
  let freshness : ℚ := max 0 (5 - ((now : ℚ) - worker.lastHeartbeat) / 10000)
  let stake := STAKE_PRIORITY (worker.stakeLevel.getD .open)
  let reputation : ℚ :=
    match worker.reputationScore with
    | some score => score / 100 * 10 * stake.repMultiplier
    | none => 0
  preference + freshness + reputation + stake.bonus

def isPrivate (request : RawRequest Number) : Bool :=
  Json.strictEqual (some request.privacyClass)
    (some (.string PrivacyClass.PRIVATE))

def trustedPubkeys (userId : Json Number) :
    Action Number (List (Option String)) := do
  statement
  let userId ← attempt ((bindOne (some userId)).mapError .bind)
  let server ← Procedure.read
  return (server.hub.trustPairings.values.filter fun row =>
    userId = .text row.userId && row.claimed).map TrustRow.providerPubkey

/-- `trustedPubkeys.has(pubkey)` -/
def isTrusted (trusted : List (Option String)) (pubkey : Option (Json Number)) :
    Bool :=
  trusted.any fun key => Json.strictEqual pubkey (some (match key with
    | some text => .string text
    | none => .null))

def eligible (jobType : JobType) (trusted : Option (List (Option String))) :
    List (String × RawWorker Number) →
    Except Thrown (List (String × RawWorker Number))
  | [] => .ok []
  | (workerId, worker) :: rest =>
    if worker.status ≠ .idle then
      eligible jobType trusted rest
    else
      match includes? worker.capabilities jobType with
      | none => .error .typeError
      | some able =>
        if able && trusted.all fun keys => isTrusted keys worker.pubkey
        then do
          let others ← eligible jobType trusted rest
          return (workerId, worker) :: others
        else
          eligible jobType trusted rest

def claimBest (now : Nat) (request : RawRequest Number)
    (trusted : Option (List (Option String))) :
    Action Number (Option (String × RawWorker Number)) := do
  let server ← Procedure.read
  let candidates ← attempt
    (eligible request.jobType trusted server.hub.workers.entries)
  match candidates.insertionSort fun left right =>
      workerScore now right.2 request.policy request.jobType ≤
        workerScore now left.2 request.policy request.jobType with
  | [] => return none
  | (workerId, worker) :: _ => do
    updateHub fun hub => hub.updateWorker workerId fun worker =>
      { worker with status := .busy }
    return some (workerId, worker)

def claimWorker (now : Nat) (request : RawRequest Number) :
    Action Number (Option (String × RawWorker Number)) :=
  if isPrivate request then do
    let trusted ← trustedPubkeys request.userId
    if trusted.isEmpty then return none
    else claimBest now request (some trusted)
  else
    claimBest now request none

/-- `hub.assignJob` -/
def assignJob (workerId : String) (worker : RawWorker Number) (jobId : String)
    (request : RawRequest Number) : Action Number Unit := do
  updateHub fun hub => hub.updateWorker workerId fun worker =>
    { worker with activeJobId := some jobId }
  Procedure.update fun server =>
    if (server.hub.connections.get? worker.ws).map Connection.readyState =
        some .open then
      { server with assigned := server.assigned ++
          [{ ws := worker.ws, jobId := jobId, request := request }] }
    else
      server

def matchJob (jobId : String) (request : RawRequest Number)
    (workerId : String) (worker : RawWorker Number) : Action Number Unit := do
  statement
  let pubkey ← attempt ((bindOne worker.pubkey).mapError .bind)
  updateHub fun hub =>
    { hub with jobs := hub.jobs.modify jobId fun row =>
        { row with status := .assigned, workerPubkey := pubkey.text? } }
  assignJob workerId worker jobId request

def failJob (jobId : String) (result : JsonText) : Action Number Unit :=
  updateJob jobId fun row =>
    { row with status := .failed, result := some result }

/-! ## Committing a job -/

def jobType? (value : Json Number) : Option JobType :=
  [JobType.llmInfer, JobType.task].find? fun jobType =>
    Json.strictEqual (some value) (some (.string jobType.text))

/-- `privacy_class ?? PrivacyClass.PUBLIC` -/
def privacyClass (body : Option (Json Number)) : Json Number :=
  match TrustRouter.field body "privacy_class" with
  | none | some .null => .string PrivacyClass.PUBLIC
  | some value => value

def validateCommit (tier : Tier) (body : Option (Json Number)) :
    Except CommitReply (RawRequest Number) :=
  match (TrustRouter.field body "job_type").filter Json.truthy,
      (TrustRouter.field body "payload").filter Json.truthy,
      (TrustRouter.field body "user_id").filter Json.truthy with
  | some jobType, some payload, some userId =>
    match jobType? jobType with
    | none => .error .invalidJobType
    | some jobType =>
      .ok { jobType := jobType, policy := tier,
            privacyClass := privacyClass body, userId := userId,
            payload := payload }
  | _, _, _ => .error .missingFields

def jobArguments (request : RawRequest Number) :
    List (Option (Json Number)) :=
  [some request.privacyClass, some request.userId,
    some (.string request.payload.stringify)]

def jobRow (now : Nat) (request : RawRequest Number) : Except Thrown JobRow :=
  match bindParameters 3 (jobArguments request) with
  | .error error => .error (.bind error)
  | .ok [.text privacyClass, .text userId, .text payload] =>
    .ok { type := request.jobType, policy := request.policy,
          privacyClass := privacyClass, userId := userId, status := .pending,
          payload := payload, result := none, workerPubkey := none,
          createdAt := now, completedAt := none }
  | .ok _ => .error .notNull

def insertJob (now : Nat) (id : Uuid) (request : RawRequest Number) :
    Action Number Unit := do
  statement
  let row ← attempt (jobRow now request)
  let server ← Procedure.read
  let jobs ← attempt (match server.hub.jobs.insert? id.text row with
    | none => .error .unique
    | some jobs => .ok jobs)
  updateHub fun hub => { hub with jobs := jobs }

def startRetryLoop (jobId : String) (request : RawRequest Number) :
    Action Number Unit :=
  .update fun server =>
    { server with
      intervals := server.intervals.set jobId
        { request := request, attempts := 0 } }

def route (now : Nat) (jobId : String) (request : RawRequest Number) :
    Action Number CommitReply := do
  match ← claimWorker now request with
  | some (workerId, worker) => do
    matchJob jobId request workerId worker
    return .created jobId
  | none =>
    if isPrivate request then do
      failJob jobId noTrustedWorkerResult
      return .noTrustedWorker jobId
    else do
      startRetryLoop jobId request
      return .created jobId

def handleCommit (now : Nat) (id : Uuid) (tier : Tier)
    (body : Option (Json Number)) : Action Number CommitReply :=
  match validateCommit tier body with
  | .error reply => pure reply
  | .ok request => do
    insertJob now id request
    route now id.text request

/-! ## Retrying -/

def clearInterval (jobId : String) : Action Number Unit :=
  .update fun server =>
    { server with intervals := server.intervals.delete jobId }

def retryTick (now : Nat) (jobId : String) : Action Number Unit := do
  let server ← Procedure.read
  match server.intervals.get? jobId with
  | none => pure ()
  | some interval => do
    let attempts := interval.attempts + 1
    Procedure.update fun server =>
      { server with
        intervals := server.intervals.modify jobId fun interval =>
          { interval with attempts := attempts } }
    statement
    if (server.hub.jobs.get? jobId).map JobRow.status ≠ some .pending then
      clearInterval jobId
    else do
      match ← claimWorker now interval.request with
      | some (workerId, worker) => do
        matchJob jobId interval.request workerId worker
        clearInterval jobId
      | none =>
        if attempts ≥ maxAttempts then do
          failJob jobId noEligibleWorkerResult
          clearInterval jobId
        else
          pure ()

/-! ## Demo mode -/

def demoRequest (task : DemoTask) (prompt : String) : RawRequest Number where
  jobType := .task
  policy := .cheap
  privacyClass := .string PrivacyClass.PUBLIC
  userId := .string "demo-coordinator"
  payload := .object (.ofList
    [("task_type", .string task.text), ("input", .string prompt)])

def demoTick (id : Uuid) (choice : DemoChoice) : Action Number Unit := do
  let server ← Procedure.read
  let idle := server.hub.workers.entries.filter fun entry =>
    entry.2.status = .idle
  match pickRandom choice.worker idle, pickRandom choice.task TASK_TYPES with
  | some (workerId, worker), some task =>
    match pickRandom choice.prompt (DEMO_PROMPTS task) with
    | some prompt => do
      updateHub fun hub => hub.updateWorker workerId fun worker =>
        { worker with status := .busy }
      assignJob workerId worker (demoJobId id) (demoRequest task prompt)
    | none => pure ()
  | _, _ => pure ()

/-! ## Trust pairings -/

def failureOf : TrustRouter.RouteError → Thrown
  | .bind error => .bind error
  | .notNull => .notNull
  | .unique => .unique

def trust (now : Nat) (id : Uuid) (request : TrustRouter.Request Number) :
    Action Number Unit := do
  statement
  let server ← Procedure.read
  let (trustPairings, _) ← attempt
    ((TrustRouter.handle server.hub.trustPairings
      { now := now, uuid := id, request := request }).mapError failureOf)
  updateHub fun hub => { hub with trustPairings := trustPairings }

/-! ## The end -/

def shutdown : Action Number Unit :=
  .update fun server =>
    { server with
      demoActive := false
      heartbeatCheck := false
      listening := false
      databaseOpen := false }

end Handlers

/-! ## The machine -/

inductive Event (Number : Type)
  | connect (ws : SocketId)
  | frame (ws : SocketId) (text : String)
  | closing (ws : SocketId)
  | close (ws : SocketId)
  | pruneStale
  | commit (tier : Tier) (body : Option (Json Number))
  | retryTick (jobId : String)
  | trust (request : TrustRouter.Request Number)
  | demoStart
  | demoStop
  | demoTick (choice : DemoChoice)
  | reputationFetched (workerId : String) (score : ℚ)
  | stakeFetched (workerId : String) (tier : StakeTier)
  | shutdown

structure Input (Number : Type) where
  now : Nat
  uuid : Uuid
  event : Event Number

def readyState (server : Server Number) (ws : SocketId) : Option ReadyState :=
  (server.hub.connections.get? ws).map Connection.readyState

def Offers (server : Server Number) : Event Number → Prop
  | .connect ws => server.listening = true ∧ server.readyState ws = none
  | .frame ws _ | .close ws =>
    server.readyState ws = some .open ∨ server.readyState ws = some .closing
  | .closing ws => server.readyState ws = some .open
  | .pruneStale => server.heartbeatCheck = true
  | .commit _ _ | .trust _ | .demoStart | .demoStop => server.listening = true
  | .retryTick jobId => jobId ∈ server.intervals.keys
  | .demoTick _ => server.demoActive = true
  | .reputationFetched _ _ | .stakeFetched _ _ | .shutdown => True

instance (server : Server Number) : DecidablePred server.Offers
  | .connect _ => inferInstanceAs (Decidable (_ ∧ _))
  | .frame _ _ | .close _ => inferInstanceAs (Decidable (_ ∨ _))
  | .closing _ => inferInstanceAs (Decidable (_ = _))
  | .retryTick jobId =>
    inferInstanceAs (Decidable (jobId ∈ server.intervals.keys))
  | .pruneStale | .commit _ _ | .trust _ | .demoStart | .demoStop
  | .demoTick _ => inferInstanceAs (Decidable (_ = true))
  | .reputationFetched _ _ | .stakeFetched _ _ | .shutdown =>
    inferInstanceAs (Decidable True)

def Enabled (server : Server Number) (input : Input Number) : Prop :=
  input.uuid ∉ server.issued ∧ server.Offers input.event

instance (server : Server Number) : DecidablePred server.Enabled := fun _ =>
  inferInstanceAs (Decidable (_ ∧ _))

section Machine

variable {Number : Type} [JsNumber Number] [SqlNumber Number]

def handle (env : RawEnvironment Number) (input : Input Number) :
    Action Number Unit :=
  match input.event with
  | .connect ws =>
    updateHub fun hub =>
      { hub with
        connections := hub.connections.set ws
          { readyState := .open, workerId := none } }
  | .frame ws text => onMessage env input.now input.uuid ws text
  | .closing ws => closeSocket ws
  | .close ws => onClose ws
  | .pruneStale => pruneStale input.now
  | .commit tier body => do
    let _ ← handleCommit input.now input.uuid tier body
  | .retryTick jobId => retryTick input.now jobId
  | .trust request => trust input.now input.uuid request
  | .demoStart => .update fun server => { server with demoActive := true }
  | .demoStop => .update fun server => { server with demoActive := false }
  | .demoTick choice => demoTick input.uuid choice
  | .reputationFetched workerId score =>
    updateHub fun hub => hub.updateWorker workerId fun worker =>
      { worker with reputationScore := some score }
  | .stakeFetched workerId tier =>
    updateHub fun hub => hub.updateWorker workerId fun worker =>
      { worker with stakeLevel := some tier }
  | .shutdown => shutdown

def issue (server : Server Number) (uuid : Uuid) : Server Number :=
  { server with issued := uuid :: server.issued }

def outcome (env : RawEnvironment Number) (server : Server Number)
    (input : Input Number) : Except Failure Unit × Server Number :=
  (handle env input).run (server.issue input.uuid)

def machine (env : RawEnvironment Number) :
    Machine (Server Number) (Input Number) where
  initial := initial
  Enabled := Enabled
  step server input := (outcome env server input).2

instance (env : RawEnvironment Number) (server : Server Number)
    (input : Input Number) : Decidable ((machine env).Enabled server input) :=
  inferInstanceAs (Decidable (server.Enabled input))

end Machine

end Server

end Dispatch.Coordinator
