import Dispatch.Coordinator.Attribution
import Dispatch.Coordinator.Frames
import Dispatch.Worker.ReceiptSigner

/-! # Output hashes

An output is written and parsed three times before a client has it.
-/

namespace Dispatch

/-! ## The message at the coordinator -/

theorem Receipt.stringify_toJson [JsonNumber Number] (receipt : Receipt) :
    (receipt.toJson : Json Number).stringify = receipt.stringify := by
  cases reference : receipt.paymentRef <;>
    simp [stringify, Json.stringify, toJson, members, reference,
      JsonMembers.ofList, Json.print, Json.printMembers, Json.printMoreMembers]

namespace Worker

open Coordinator

def Receipt.typed (receipt : Receipt) (jobId : String) : Dispatch.Receipt where
  jobId := jobId
  providerPubkey := receipt.providerPubkey
  outputHash := receipt.outputHash
  completedAt := receipt.completedAt
  paymentRef := receipt.paymentRef

theorem Receipt.toJson_eq {receipt : Receipt} {jobId : String}
    (text : receipt.jobId = jobId) :
    (receipt.toJson : Json Number) = (receipt.typed jobId).toJson := by
  rw [Receipt.toJson, text]
  rfl

variable {Number : Type} [JsNumber Number] [NumberToString Number]

theorem JobCompleteMsg.frame {msg : JobCompleteMsg Number} {wire jobId : String}
    {output : Json Number} (sent : msg.stringify = some wire)
    (written : msg.output.toJson? = some output)
    (text : msg.jobId = jobId) (receiptText : msg.receipt.jobId = jobId) :
    Frame.ofText? Number wire = some (.jobComplete
      { jobId := jobId, output := some output.stringify,
        receipt := some (msg.receipt.typed jobId),
        receiptSignature := some msg.receiptSignature }) := by
  rcases msg.parse_stringify written with ⟨sentText, read⟩
  rw [sent, Option.some.injEq] at sentText
  rw [← sentText] at read
  have type : Listener.messageType? (msg.toJson output) =
      some .jobComplete := rfl
  have job : Frame.textProperty? (msg.toJson output) "job_id" =
      some jobId := by
    rw [Frame.textProperty?, show (msg.toJson output).get? "job_id" =
      some (.string msg.jobId) from rfl, text]
    exact JsString.text?_ofString jobId
  have receipt : Frame.optionalReceipt? (msg.toJson output) =
      some (some (msg.receipt.typed jobId)) := by
    rw [Frame.optionalReceipt?, show (msg.toJson output).get? "receipt" =
      some msg.receipt.toJson from rfl, Receipt.toJson_eq receiptText]
    have read : Frame.receipt?
        ((msg.receipt.typed jobId).toJson : Json Number) =
        some (msg.receipt.typed jobId) := by
      rw [Frame.receipt?, Dispatch.Receipt.ofJson?_toJson,
        Dispatch.Receipt.stringify_toJson]
      simp
    exact congrArg (Option.map some) read
  have signature : Frame.optionalText? (msg.toJson output)
      "receipt_signature" = some (some msg.receiptSignature) := by
    rw [Frame.optionalText?, show
      (msg.toJson output).get? "receipt_signature" =
        some (.string msg.receiptSignature) from rfl]
    exact congrArg (Option.map some) (JsString.text?_ofString _)
  have stored : (msg.toJson output).get? "output" = some output := rfl
  rw [Frame.ofText?, read]
  show Frame.ofMessage? (msg.toJson output) = _
  rw [Frame.ofMessage?, type]
  simp [job, receipt, signature, stored]

end Worker

/-! ## The reply at the client -/

namespace Coordinator

section Replies

variable {Number : Type} [JsonNumber Number]

def PollReply.text? (Number : Type) [JsonNumber Number] (datetime : Nat → String)
    (reply : PollReply) : Option String :=
  (reply.body? datetime : Option (Json Number)).map Json.stringify

/-- `(await response.json()).result` -/
def clientResult? (answer : String) : Option (Json Number) :=
  (Json.parse answer).bind fun body => body.get? "result"

private theorem polled_keys : Properties.OrderedKeys
    ["job_id", "provider_pubkey", "output_hash", "completed_at", "payment_ref",
      "signature", "verified"] := by
  decide +kernel

private theorem reply_keys : Properties.OrderedKeys
    ["id", "status", "result", "receipt", "created_at", "completed_at"] := by
  decide +kernel

theorem PolledReceipt.toJson_normal (polled : PolledReceipt) :
    (polled.toJson : Json Number).Normal := by
  refine ⟨?_, ?_⟩
  · rw [JsonMembers.toList_ofList]
    exact polled_keys
  · cases reference : polled.receipt.paymentRef <;>
      simp [Receipt.members, reference, JsonMembers.ofList, JsonMembers.toList,
        Json.NormalMembers, Json.Normal]

theorem clientResult?_found (datetime : Nat → String) (id : String)
    (status : JobStatus) (receipt : Option PolledReceipt) (createdAt : Nat)
    (completedAt : Option Nat) {text : String} {result : Json Number}
    (read : Json.parse text = some result) (normal : result.Normal) :
    ∃ answer, (PollReply.found id status (some text) receipt createdAt
        completedAt).text? Number datetime = some answer ∧
      clientResult? answer = some result := by
  let shown : Json Number := receipt.elim .null PolledReceipt.toJson
  let ended : Json Number :=
    completedAt.elim .null fun time => .string (datetime time)
  let body : Json Number := .object (.ofList [
    ("id", .string id), ("status", .string status.text), ("result", result),
    ("receipt", shown), ("created_at", .string (datetime createdAt)),
    ("completed_at", ended)])
  have written : (PollReply.found id status (some text) receipt createdAt
      completedAt).body? datetime = some body := by
    simp only [PollReply.body?, parseResult?, read]
    cases receipt <;> cases completedAt <;> rfl
  have shownNormal : shown.Normal := by
    cases receipt with
    | none => exact True.intro
    | some polled => exact polled.toJson_normal
  have endedNormal : ended.Normal := by
    cases completedAt <;> exact True.intro
  have bodyNormal : body.Normal := by
    refine ⟨reply_keys, True.intro, True.intro, normal, shownNormal, True.intro,
      endedNormal, True.intro⟩
  refine ⟨body.stringify, ?_, ?_⟩
  · rw [PollReply.text?, written, Option.map_some]
  · rw [clientResult?, Json.parse_stringify body bodyNormal]
    rfl

end Replies

end Coordinator

/-! ## From the worker to the client -/

namespace Worker

open Coordinator

section Delivery

variable {Number : Type} [JsNumber Number] [NumberToString Number]
  {env : Environment} {crypto : Crypto}

structure Delivers (builder : Builder env crypto) (jobId : String)
    (output : JsValue Number) (sent : JobCompleteMsg Number) (state : State)
    (input : Input) : Prop where
  built : ∃ completedAt, builder.build completedAt jobId output = some sent
  arrives : ∃ wire ws frame, sent.stringify = some wire ∧
    Frame.ofText? Number wire = some frame ∧ input.event = .frame ws frame
  holds : ∃ workerId worker, Holds state workerId worker jobId
  real : isDemoJob jobId = false

variable {builder : Builder env crypto} {jobId : String}
  {output : JsValue Number} {sent : JobCompleteMsg Number}
  {state later : State} {input : Input} {events : List Input}

theorem Delivers.stored (delivers : Delivers builder jobId output sent state input)
    (reachable : (machine env).Reachable state)
    (enabled : (machine env).Enabled state input)
    (run : (machine env).Run ((machine env).step state input) events later) :
    ∃ row, later.jobs.get? jobId = some row ∧ row.status = .completed ∧
      row.result = output.stringify := by
  rcases delivers with ⟨⟨completedAt, built⟩,
    ⟨wire, ws, frame, written, read, event⟩, ⟨workerId, worker, holds⟩, real⟩
  rcases Builder.message_of_build built with
    ⟨json, serialized, _, outputText, rfl⟩
  have frameRead := JobCompleteMsg.frame written serialized rfl rfl
  rw [read, Option.some.injEq] at frameRead
  rw [frameRead] at event
  rcases (board_simulation env).reachable reachable with ⟨board, represents⟩
  rcases represents.row_of_holds holds real with ⟨row, stored, _⟩
  have completes : Completes state input _ worker :=
    { event := ⟨ws, event⟩
      holds := ⟨workerId, holds⟩
      real := real
      references := by
        -- The receipt is for the job that the worker holds.
        intro receipt signature bundled
        rcases Option.bind_eq_some_iff.mp bundled with ⟨typed, given, others⟩
        rcases Option.map_eq_some_iff.mp others with ⟨_, _, pair⟩
        cases given
        cases pair
        exact ⟨row, stored⟩ }
  have completed : ((machine env).step state input).jobs.get? jobId =
      some (completedRow input.now (some json.stringify) row) := by
    rw [(completes_outcome reachable enabled completes).1]
    simp [stored]
  refine ⟨_, final_row_fixed (reachable.step enabled) run completed (.inl rfl),
    rfl, ?_⟩
  rw [outputText]
  rfl

/-- Once the coordinator has a worker's result, a client that polls for the job
gets a value with the text of the output, now and later, and with it the digest
that the worker has signed. -/
theorem output_hash_reproducible
    (delivers : Delivers builder jobId output sent state input)
    (reachable : (machine env).Reachable state)
    (enabled : (machine env).Enabled state input)
    (run : (machine env).Run ((machine env).step state input) events later)
    (datetime : Nat → String) :
    ∃ (answer : String) (result : Json Number),
      (pollJob env jobId later).text? Number datetime = some answer ∧
        clientResult? answer = some result ∧
        some result.stringify = output.stringify ∧
        crypto.sha256Hex result.stringify = sent.receipt.outputHash := by
  rcases delivers.stored reachable enabled run with
    ⟨row, stored, completed, kept⟩
  rcases delivers.built with ⟨completedAt, built⟩
  rcases Builder.message_of_build built with
    ⟨json, _, normal, outputText, rfl⟩
  have shown : row.result.filter (· ≠ "") = some json.stringify := by
    rw [kept, outputText]
    exact Option.filter_some_pos
      (decide_eq_true (Json.stringify_ne_empty normal))
  rcases pollJob_result ((reachable.step enabled).run run) stored completed with
    ⟨receipt, reply⟩
  rw [shown] at reply
  rcases clientResult?_found datetime jobId .completed receipt row.createdAt
    row.completedAt (Json.parse_stringify json normal) normal with
    ⟨answer, sentAnswer, obtained⟩
  refine ⟨answer, json, ?_, obtained, outputText.symm, rfl⟩
  rw [reply, sentAnswer]

end Delivery

namespace Sample

def jobId : String := Coordinator.Sample.jobUuid.text

def outputText : String :=
  "\x7b\"1\":\"1970-01-01T00:00:00.000Z\",\"a\":[0,null,null]\x7d"

def sent : JobCompleteMsg Number :=
  (Builder.desktop keys).message "1970-01-01T00:00:00.000Z" jobId output
    outputText

def assigned : State :=
  (machine environment.toEnvironment).exec .initial
    [Coordinator.Sample.connect 0 Coordinator.Sample.spareUuid,
      Coordinator.Sample.register 0 Coordinator.Sample.workerUuid
        keys.pubkeyHex,
      Coordinator.Sample.commit Coordinator.Sample.jobUuid none]

def arrival : Input where
  now := 0
  uuid := Coordinator.Sample.lastUuid
  event := .frame 0 (.jobComplete
    { jobId := jobId, output := some outputText,
      receipt := some (sent.receipt.typed jobId),
      receiptSignature := some sent.receiptSignature })

end Sample

theorem sample_output_reproducible :
    let machine := machine Sample.environment.toEnvironment
    machine.Reachable Sample.assigned ∧
      machine.Enabled Sample.assigned Sample.arrival ∧
      Delivers (.desktop Sample.keys) Sample.jobId Sample.output Sample.sent
        Sample.assigned Sample.arrival ∧
      ∃ (answer : String) (result : Json Sample.Number),
        (pollJob Sample.environment.toEnvironment Sample.jobId
          (machine.step Sample.assigned Sample.arrival)).text? Sample.Number
            toString = some answer ∧
          clientResult? answer = some result ∧
          some result.stringify = Sample.output.stringify ∧
          Sample.crypto.sha256Hex result.stringify =
            Sample.sent.receipt.outputHash := by
  intro machine
  have reachable : machine.Reachable Sample.assigned :=
    Machine.Reachable.of_steps (by decide +kernel)
  have enabled : machine.Enabled Sample.assigned Sample.arrival := by
    decide +kernel
  have written : Sample.output.stringify = some Sample.outputText := by
    decide +kernel
  rcases JsValue.parse_of_stringify written with
    ⟨json, serialized, _, spelled, _⟩
  have built : (Builder.desktop Sample.keys).build "1970-01-01T00:00:00.000Z"
      Sample.jobId Sample.output = some Sample.sent := by
    rw [Builder.build_eq, written]
    rfl
  have wire := (Sample.sent.parse_stringify serialized).1
  have read := JobCompleteMsg.frame wire serialized rfl rfl
  rw [← spelled] at read
  have delivers : Delivers (.desktop Sample.keys) Sample.jobId Sample.output
      Sample.sent Sample.assigned Sample.arrival :=
    { built := ⟨_, built⟩
      arrives := ⟨_, 0, _, wire, read, rfl⟩
      holds := ⟨Coordinator.Sample.workerUuid.text, _, rfl, rfl⟩
      real := by decide +kernel }
  exact ⟨reachable, enabled, delivers,
    output_hash_reproducible delivers reachable enabled (.nil _) toString⟩

end Worker

end Dispatch
