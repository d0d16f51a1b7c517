import Dispatch.Foundation.OrderedMap
import Dispatch.Protocol
import Mathlib.Data.Rat.Defs

/-! # Coordinator state

The worker map of the hub, the three SQLite tables, the retry timers and what
the coordinator has said to the outside, as one record.
-/

namespace Dispatch.Coordinator

/-! ## Identifiers -/

def isUuid (text : String) : Bool :=
  text.length = 36 && text.toList.zipIdx.all fun (char, index) =>
    if index ∈ [8, 13, 18, 23] then char = '-'
    else if index = 14 then char = '4'
    else if index = 19 then char ∈ ['8', '9', 'a', 'b']
    else char.isDigit || ('a' ≤ char && char ≤ 'f')

/-- A value `uuid()` can return. -/
@[ext] structure Uuid where
  text : String
  wellFormed : isUuid text = true
  deriving DecidableEq

/-- `jobId.startsWith("demo-")` -/
def isDemoJob (jobId : String) : Bool :=
  "demo-".toList.isPrefixOf jobId.toList

def demoJobId (uuid : Uuid) : String :=
  "demo-" ++ uuid.text

@[simp] theorem isDemoJob_demoJobId (uuid : Uuid) :
    isDemoJob (demoJobId uuid) = true := by
  simp [isDemoJob, demoJobId]

@[simp] theorem isDemoJob_uuid (uuid : Uuid) : isDemoJob uuid.text = false := by
  rcases uuid with ⟨text, wellFormed⟩
  simp only [isUuid, Bool.and_eq_true, List.all_eq_true] at wellFormed
  rw [isDemoJob, Bool.eq_false_iff]
  intro demo
  rw [List.isPrefixOf_iff_prefix] at demo
  rcases demo with ⟨rest, split⟩
  have third : ('m', 2) ∈ text.toList.zipIdx := by
    rw [← split]
    simp [List.zipIdx]
  have hexadecimal := wellFormed.2 _ third
  revert hexadecimal
  decide

theorem demoJobId_injective {left right : Uuid}
    (equal : demoJobId left = demoJobId right) : left = right := by
  rcases left with ⟨left, _⟩
  rcases right with ⟨right, _⟩
  simpa [demoJobId] using equal

theorem uuid_ne_empty (uuid : Uuid) : uuid.text ≠ "" := by
  rcases uuid with ⟨text, wellFormed⟩
  intro empty
  subst empty
  simp [isUuid] at wellFormed

/-! ## Workers and connections -/

abbrev SocketId := Nat

inductive ReadyState
  | open
  | closing
  | closed
  deriving DecidableEq, Repr

structure Connection where
  readyState : ReadyState
  workerId : Option String
  deriving DecidableEq, Repr

inductive WorkerStatus
  | idle
  | busy
  deriving DecidableEq, Repr

structure TrackedWorker where
  ws : SocketId
  pubkey : String
  type : ProviderType
  capabilities : List JobType
  status : WorkerStatus
  lastHeartbeat : Nat
  activeJobId : Option String
  reputationScore : Option ℚ
  stakeLevel : Option StakeTier
  deriving DecidableEq

/-! ## Tables -/

structure JobRow where
  type : JobType
  policy : Tier
  privacyClass : String
  userId : String
  status : JobStatus
  payload : JsonText
  result : Option JsonText
  workerPubkey : Option String
  createdAt : Nat
  completedAt : Option Nat
  deriving DecidableEq, Repr

structure TrustRow where
  userId : String
  providerPubkey : Option String
  pairingCode : String
  claimed : Bool
  expiresAt : Nat
  createdAt : Nat
  deriving DecidableEq, Repr

structure ReceiptRow where
  jobId : String
  providerPubkey : String
  receiptJson : String
  signature : String
  verified : Bool
  deriving DecidableEq, Repr

structure JobRequest where
  jobType : JobType
  policy : Tier
  privacyClass : String
  userId : String
  payload : JsonText
  deriving DecidableEq, Repr

def JobRow.request (row : JobRow) : JobRequest where
  jobType := row.type
  policy := row.policy
  privacyClass := row.privacyClass
  userId := row.userId
  payload := row.payload

structure RetryLoop where
  request : JobRequest
  attempts : Nat
  deriving DecidableEq, Repr

/-! ## Calls to the outside -/

structure SentFrame where
  ws : SocketId
  message : CoordinatorToWorker
  deriving DecidableEq, Repr

structure PayoutCall where
  workerPubkey : String
  jobId : String
  amount : ℚ
  deriving DecidableEq

structure FeedbackCall where
  ws : SocketId
  workerPubkey : String
  jobId : String
  success : Bool
  deriving DecidableEq, Repr

structure Environment where
  verifyDetached : String → List UInt8 → List UInt8 → Option Bool
  /-- `Buffer.from(text, "base64")` -/
  base64Bytes : String → List UInt8
  selectRow : List ReceiptRow → Option ReceiptRow
  selectRow_mem : ∀ rows row, selectRow rows = some row → row ∈ rows
  postFeedback : Bool
  boltDistributor : Bool
  wrappedBoltDistributor : Bool

/-! ## The whole state -/

structure State where
  workers : OrderedMap String TrackedWorker
  connections : OrderedMap SocketId Connection
  jobs : OrderedMap String JobRow
  trustPairings : OrderedMap String TrustRow
  receipts : OrderedMap String ReceiptRow
  retryLoops : OrderedMap String RetryLoop
  demoActive : Bool
  /-- Every value `uuid()` has returned. -/
  issued : List Uuid
  sent : List SentFrame
  boltPayouts : List PayoutCall
  wrappedBoltPayouts : List PayoutCall
  feedback : List FeedbackCall
  feedbackInFlight : List FeedbackCall

def State.initial : State where
  workers := .empty
  connections := .empty
  jobs := .empty
  trustPairings := .empty
  receipts := .empty
  retryLoops := .empty
  demoActive := false
  issued := []
  sent := []
  boltPayouts := []
  wrappedBoltPayouts := []
  feedback := []
  feedbackInFlight := []

namespace State

/-- `ws.send`, guarded by the ready state. -/
def send (state : State) (ws : SocketId) (message : CoordinatorToWorker) :
    State :=
  if (state.connections.get? ws).map Connection.readyState = some .open then
    { state with sent := state.sent ++ [{ ws := ws, message := message }] }
  else
    state

@[simp] def updateWorker (state : State) (workerId : String)
    (change : TrackedWorker → TrackedWorker) : State :=
  { state with workers := state.workers.modify workerId change }

/-- `UPDATE jobs SET … WHERE id = ?` -/
@[simp] def updateJob (state : State) (jobId : String) (change : JobRow → JobRow) :
    State :=
  { state with jobs := state.jobs.modify jobId change }

/-- `ws.close()` -/
def closeSocket (state : State) (ws : SocketId) : State :=
  { state with connections := state.connections.modify ws fun connection =>
      if connection.readyState = .open then
        { connection with readyState := .closing }
      else
        connection }

end State

end Dispatch.Coordinator
