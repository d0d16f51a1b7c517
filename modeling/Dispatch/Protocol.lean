import Dispatch.Foundation.Json
import Mathlib.Data.Rat.Defs

/-! # Shared protocol types

The enums and messages of the `protocol` package that the coordinator exchanges
with workers and clients.
-/

namespace Dispatch

inductive JobType
  | llmInfer
  | task
  deriving DecidableEq, Repr

inductive Policy
  | fast
  | cheap
  | auto
  deriving DecidableEq, Repr

inductive Tier
  | fast
  | cheap
  deriving DecidableEq, Repr

inductive ProviderType
  | desktop
  | seeker
  deriving DecidableEq, Repr

inductive JobStatus
  | pending
  | assigned
  | running
  | completed
  | failed
  deriving DecidableEq, Repr

def JobStatus.text : JobStatus → String
  | .pending => "pending"
  | .assigned => "assigned"
  | .running => "running"
  | .completed => "completed"
  | .failed => "failed"

def JobStatus.IsFinal (status : JobStatus) : Prop :=
  status = .completed ∨ status = .failed

inductive StakeTier
  | open
  | verified
  | sentinel
  deriving DecidableEq, Repr

def JobType.text : JobType → String
  | .llmInfer => "LLM_INFER"
  | .task => "TASK"

def JobType.ofText? (text : String) : Option JobType :=
  [JobType.llmInfer, JobType.task].find? fun jobType => jobType.text = text

def ProviderType.text : ProviderType → String
  | .desktop => "DESKTOP"
  | .seeker => "SEEKER"

def ProviderType.ofText? (text : String) : Option ProviderType :=
  [ProviderType.desktop, ProviderType.seeker].find? fun providerType =>
    providerType.text = text

/-! The privacy class of a request is cast to `PrivacyClass` without a check,
so that any text may stand in its place. -/

namespace PrivacyClass

def PUBLIC : String := "PUBLIC"

def PRIVATE : String := "PRIVATE"

end PrivacyClass

abbrev JsonText := String

def JsonText.truthy (text : JsonText) : Bool :=
  text ∉ ["null", "false", "0", "\"\""]

structure StakePriority where
  bonus : ℚ
  repMultiplier : ℚ

def STAKE_PRIORITY : StakeTier → StakePriority
  | .open => { bonus := 0, repMultiplier := 1 }
  | .verified => { bonus := 5, repMultiplier := 3 / 2 }
  | .sentinel => { bonus := 10, repMultiplier := 2 }

/-! ## Receipts -/

structure Receipt where
  jobId : String
  providerPubkey : String
  outputHash : String
  completedAt : String
  paymentRef : Option String
  deriving DecidableEq, Repr

def JsonMembers.text? (members : JsonMembers Number) (key : JsString) :
    Option String :=
  match members.get? key with
  | some (.string value) => value.text?
  | _ => none

namespace Receipt

def members (receipt : Receipt) : JsonMembers Number :=
  .ofList [
    ("job_id", .string receipt.jobId),
    ("provider_pubkey", .string receipt.providerPubkey),
    ("output_hash", .string receipt.outputHash),
    ("completed_at", .string receipt.completedAt),
    ("payment_ref", match receipt.paymentRef with
      | some reference => .string reference
      | none => .null)]

def toJson (receipt : Receipt) : Json Number :=
  .object receipt.members

def stringify (receipt : Receipt) : String :=
  (receipt.toJson : Json Empty).stringify

def ofJson? : Json Number → Option Receipt
  | .object members => do
    let jobId ← members.text? "job_id"
    let providerPubkey ← members.text? "provider_pubkey"
    let outputHash ← members.text? "output_hash"
    let completedAt ← members.text? "completed_at"
    match members.get? "payment_ref" with
    | some .null =>
      return ⟨jobId, providerPubkey, outputHash, completedAt, none⟩
    | some (.string reference) =>
      let paymentRef ← reference.text?
      return ⟨jobId, providerPubkey, outputHash, completedAt,
        some paymentRef⟩
    | _ => none
  | _ => none

/-- `JSON.parse` of a stored receipt. -/
def parse? (text : String) : Option Receipt :=
  (Json.parse text : Option (Json Empty)).bind ofJson?

theorem ordered_keys : Properties.OrderedKeys
    ["job_id", "provider_pubkey", "output_hash", "completed_at",
      "payment_ref"] := by
  decide +kernel

theorem ofJson?_toJson (receipt : Receipt) :
    ofJson? (receipt.toJson : Json Number) = some receipt := by
  have jobId : (receipt.members : JsonMembers Number).text? "job_id" =
      (receipt.jobId : JsString).text? := rfl
  have providerPubkey :
      (receipt.members : JsonMembers Number).text? "provider_pubkey" =
        (receipt.providerPubkey : JsString).text? := rfl
  have outputHash : (receipt.members : JsonMembers Number).text? "output_hash" =
      (receipt.outputHash : JsString).text? := rfl
  have completedAt :
      (receipt.members : JsonMembers Number).text? "completed_at" =
        (receipt.completedAt : JsString).text? := rfl
  have paymentRef : (receipt.members : JsonMembers Number).get? "payment_ref" =
      some (match receipt.paymentRef with
        | some reference => .string reference
        | none => .null) := rfl
  rw [toJson, ofJson?, jobId, providerPubkey, outputHash, completedAt,
    paymentRef]
  rcases receipt with ⟨jobId, providerPubkey, outputHash, completedAt, reference⟩
  cases reference <;> simp

theorem toJson_normal [JsonNumber Number] (receipt : Receipt) :
    (receipt.toJson : Json Number).Normal := by
  refine ⟨?_, ?_⟩
  · rw [members, JsonMembers.toList_ofList]
    exact ordered_keys
  · cases reference : receipt.paymentRef <;>
      simp [members, reference, JsonMembers.ofList, Json.NormalMembers,
        Json.Normal]

@[simp] theorem parse?_stringify (receipt : Receipt) :
    parse? receipt.stringify = some receipt := by
  rw [parse?, stringify, Json.parse_stringify _ receipt.toJson_normal,
    Option.bind_some, ofJson?_toJson]

end Receipt

/-! ## Worker to coordinator -/

structure RegisterMsg where
  providerPubkey : String
  providerType : ProviderType
  capabilities : List JobType
  deriving DecidableEq, Repr

structure HeartbeatMsg where
  providerPubkey : String
  deriving DecidableEq, Repr

structure JobCompleteMsg where
  jobId : String
  output : Option JsonText
  receipt : Option Receipt
  receiptSignature : Option String
  deriving DecidableEq, Repr

structure JobRejectMsg where
  jobId : String
  reason : String
  deriving DecidableEq, Repr

structure ReceiptSubmitMsg where
  receipt : Receipt
  signature : String
  deriving DecidableEq, Repr

inductive Frame
  | notJson
  | unknown (type : String)
  | register (msg : RegisterMsg)
  | heartbeat (msg : HeartbeatMsg)
  | jobComplete (msg : JobCompleteMsg)
  | jobReject (msg : JobRejectMsg)
  | receiptSubmit (msg : ReceiptSubmitMsg)
  deriving DecidableEq, Repr

/-! ## Coordinator to worker -/

structure JobAssignMsg where
  jobId : String
  jobType : JobType
  payload : JsonText
  policy : Tier
  privacyClass : String
  userId : String
  deriving DecidableEq, Repr

inductive CoordinatorToWorker
  | registerAck (workerId : String)
  | heartbeatAck
  | jobAssign (msg : JobAssignMsg)
  | error (code message : String)
  | feedbackPosted (jobId txHash network explorerUrl : String)
  | feedbackFailed (jobId error : String)
  deriving DecidableEq, Repr

end Dispatch
