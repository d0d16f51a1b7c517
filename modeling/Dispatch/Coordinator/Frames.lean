import Dispatch.Coordinator.Effects
import Dispatch.Coordinator.Listener

/-! # Messages of the protocol

Texts whose values have the types the protocol declares.
-/

namespace Dispatch.Coordinator

open Sqlite Listener

/-! ## Reading a message -/

namespace Frame

variable {Number : Type} [JsNumber Number]

def textProperty? (msg : Json Number) (key : JsString) : Option String :=
  match msg.get? key with
  | some (.string value) => value.text?
  | _ => none

def optionalText? (msg : Json Number) (key : JsString) :
    Option (Option String) :=
  match msg.get? key with
  | none | some .null => some none
  | some (.string value) => value.text?.map some
  | _ => none

def capabilities? : JsonItems Number → Option (List JobType)
  | .nil => some []
  | .cons (.string value) tail => do
    let text ← value.text?
    let jobType ← JobType.ofText? text
    let others ← capabilities? tail
    return jobType :: others
  | .cons _ _ => none

def receipt? (value : Json Number) : Option Receipt :=
  (Receipt.ofJson? value).filter fun receipt =>
    receipt.stringify = value.stringify

def optionalReceipt? (msg : Json Number) : Option (Option Receipt) :=
  match msg.get? "receipt" with
  | none | some .null => some none
  | some value => (receipt? value).map some

def ofMessage? (msg : Json Number) : Option Frame :=
  match messageType? msg with
  | none => do
    let type ← Json.displayProperty? (msg.get? "type")
    let text ← type.text?
    return .unknown text
  | some .register => do
    let providerPubkey ← textProperty? msg "provider_pubkey"
    let typeText ← textProperty? msg "provider_type"
    let providerType ← ProviderType.ofText? typeText
    match msg.get? "capabilities" with
    | some (.array items) =>
      let capabilities ← capabilities? items
      return .register
        { providerPubkey := providerPubkey, providerType := providerType,
          capabilities := capabilities }
    | _ => none
  | some .heartbeat => do
    let providerPubkey ← textProperty? msg "provider_pubkey"
    return .heartbeat { providerPubkey := providerPubkey }
  | some .jobComplete => do
    let jobId ← textProperty? msg "job_id"
    let receipt ← optionalReceipt? msg
    let receiptSignature ← optionalText? msg "receipt_signature"
    return .jobComplete
      { jobId := jobId, output := (msg.get? "output").map Json.stringify,
        receipt := receipt, receiptSignature := receiptSignature }
  | some .jobReject => do
    let jobId ← textProperty? msg "job_id"
    let reason ← textProperty? msg "reason"
    return .jobReject { jobId := jobId, reason := reason }
  | some .receiptSubmit => do
    let receipt ← (msg.get? "receipt").bind receipt?
    let signature ← textProperty? msg "signature"
    return .receiptSubmit { receipt := receipt, signature := signature }

def ofText? (Number : Type) [JsNumber Number] (text : String) : Option Frame :=
  match (Json.parse text : Option (Json Number)) with
  | none => some .notJson
  | some .null => none
  | some msg => ofMessage? msg

omit [JsNumber Number] in
theorem get?_of_textProperty? {msg : Json Number} {key : JsString}
    {text : String} (read : textProperty? msg key = some text) :
    msg.get? key = some (.string (JsString.ofString text)) := by
  unfold textProperty? at read
  split at read
  · next value given => rw [given, JsString.ofString_of_text? read]
  · cases read

theorem receipt?_properties {value : Json Number} {receipt : Receipt}
    (read : receipt? value = some receipt) :
    value.stringify = receipt.stringify ∧
      value.get? "job_id" =
        some (.string (JsString.ofString receipt.jobId)) ∧
      value.get? "provider_pubkey" =
        some (.string (JsString.ofString receipt.providerPubkey)) ∧
      value.truthy = true := by
  rw [receipt?, Option.filter_eq_some_iff, decide_eq_true_eq] at read
  rcases read with ⟨read, same⟩
  refine ⟨same.symm, ?_⟩
  cases value with
  | object members =>
    simp only [Receipt.ofJson?, Option.bind_eq_bind,
      Option.bind_eq_some_iff] at read
    rcases read with ⟨jobId, readJobId, providerPubkey, readPubkey,
      outputHash, _, completedAt, _, read⟩
    have fields : receipt.jobId = jobId ∧
        receipt.providerPubkey = providerPubkey := by
      split at read
      · cases read
        exact ⟨rfl, rfl⟩
      · simp only [Option.bind_eq_some_iff] at read
        rcases read with ⟨_, _, same⟩
        cases same
        exact ⟨rfl, rfl⟩
      · cases read
    rw [fields.1, fields.2]
    exact ⟨get?_of_textProperty? readJobId, get?_of_textProperty? readPubkey,
      rfl⟩
  | _ => cases read

end Frame

/-! ## The hub of a state -/

namespace Listener

section Represents

variable {Number : Type}

def RawWorker.ofTracked (worker : TrackedWorker) : RawWorker Number where
  ws := worker.ws
  pubkey := some (.string (JsString.ofString worker.pubkey))
  type := some (.string (JsString.ofString worker.type.text))
  capabilities := some (.array (.ofList (worker.capabilities.map fun jobType =>
    .string (JsString.ofString jobType.text))))
  status := worker.status
  lastHeartbeat := worker.lastHeartbeat
  activeJobId := worker.activeJobId
  reputationScore := worker.reputationScore
  stakeLevel := worker.stakeLevel

def Hub.ofState (state : State) : Hub Number where
  workers := state.workers.mapValues .ofTracked
  connections := state.connections
  jobs := state.jobs
  trustPairings := state.trustPairings
  receipts := state.receipts
  sent := []
  calls := []

variable {hub : Hub Number} {state : State}

end Represents

/-! ## Receipts -/

section Receipts

variable {Number : Type} [JsNumber Number] [SqlNumber Number]
  {env : RawEnvironment Number} {value : Json Number} {receipt : Receipt}

theorem bindParameters_receipt (read : Frame.receipt? value = some receipt)
    (signature : String) :
    bindParameters 4 (receiptArguments value
        (some (.string (JsString.ofString signature)))) =
      .ok [.text receipt.jobId, .text receipt.providerPubkey,
        .text receipt.stringify, .text signature] := by
  rcases Frame.receipt?_properties read with
    ⟨sameText, jobId, providerPubkey, _⟩
  rw [receiptArguments, jobId, providerPubkey, sameText]
  simp [bindParameters, bindArgument, bindValue, isObject, bind, Except.bind,
    pure, Except.pure]

end Receipts

/-! ## Handlers -/

section Handlers

variable {Number : Type} [JsNumber Number] {env : RawEnvironment Number}
  {hub : Hub Number} {state : State} {msg : Json Number}

variable [SqlNumber Number]

end Handlers

/-! ## The listener -/

section Listener

variable {Number : Type} [JsNumber Number] [SqlNumber Number]
  {hub : Hub Number} {state : State}

end Listener

end Listener

end Dispatch.Coordinator
