import Dispatch.Coordinator.Listener
import Dispatch.Coordinator.Machine
import Dispatch.Foundation.Encoding
import Dispatch.Foundation.JsValue

/-! # Signed results

How the workers put together a `job_complete`.
-/

namespace Dispatch.Worker

open Coordinator

/-- `new TextEncoder().encode(text)` -/
def utf8 (text : String) : List UInt8 :=
  text.toUTF8.data.toList

def hex (bytes : List UInt8) : String :=
  String.ofList (Hex.encode bytes)

def base64 (bytes : List UInt8) : String :=
  String.ofList (Base64.encode bytes)

/-! ## Keys -/

structure Crypto where
  sha256Hex : String → String
  /-- `nacl.sign.detached(message, secretKey)` -/
  signDetached : List UInt8 → List UInt8 → List UInt8

def Signs (env : Environment) (publicKey : List UInt8)
    (sign : List UInt8 → String) : Prop :=
  ∀ text, ∃ signature : List UInt8,
    sign (utf8 text) = base64 signature ∧ signature.length = 64 ∧
      env.verifyDetached text signature publicKey = some true

def Crypto.signBase64 (crypto : Crypto) (secretKey message : List UInt8) :
    String :=
  base64 (crypto.signDetached message secretKey)

structure KeyPair (env : Environment) (crypto : Crypto) where
  publicKey : List UInt8
  secretKey : List UInt8
  signs : Signs env publicKey (crypto.signBase64 secretKey)

def KeyPair.pubkeyHex {env : Environment} {crypto : Crypto}
    (keys : KeyPair env crypto) : String :=
  hex keys.publicKey

structure SigningProvider (env : Environment) where
  publicKey : List UInt8
  signMessage : List UInt8 → String
  signs : Signs env publicKey signMessage

def SigningProvider.getPublicKeyHex {env : Environment}
    (provider : SigningProvider env) : String :=
  hex provider.publicKey

def deviceKeyProvider {env : Environment} {crypto : Crypto}
    (keys : KeyPair env crypto) : SigningProvider env where
  publicKey := keys.publicKey
  signMessage := crypto.signBase64 keys.secretKey
  signs := keys.signs

/-! ## Messages -/

structure Receipt where
  jobId : JsString
  providerPubkey : String
  outputHash : String
  completedAt : String
  paymentRef : Option String

structure SignedReceipt where
  receipt : Receipt
  signature : String

structure JobCompleteMsg (Number : Type) where
  jobId : JsString
  output : JsValue Number
  outputHash : String
  receipt : Receipt
  receiptSignature : String

def Receipt.toValue (receipt : Receipt) : JsValue Number :=
  .object (.ofList [
    ("job_id", .string receipt.jobId),
    ("provider_pubkey", .string receipt.providerPubkey),
    ("output_hash", .string receipt.outputHash),
    ("completed_at", .string receipt.completedAt),
    ("payment_ref", match receipt.paymentRef with
      | some reference => .string reference
      | none => .null)])

def JobCompleteMsg.toValue (msg : JobCompleteMsg Number) : JsValue Number :=
  .object (.ofList [
    ("type", .string "job_complete"),
    ("job_id", .string msg.jobId),
    ("output", msg.output),
    ("output_hash", .string msg.outputHash),
    ("receipt", msg.receipt.toValue),
    ("receipt_signature", .string msg.receiptSignature)])

section Builders

variable {Number : Type} [JsonNumber Number] [NumberToString Number]

def JobCompleteMsg.stringify (msg : JobCompleteMsg Number) : Option String :=
  msg.toValue.stringify

def hashOutput (crypto : Crypto) (output : JsValue Number) : Option String :=
  output.stringify.map crypto.sha256Hex

def signReceipt (crypto : Crypto) (sign : List UInt8 → String)
    (completedAt : String) (jobId : JsString) (output : JsValue Number)
    (pubkey : String) : Option SignedReceipt := do
  let outputHash ← hashOutput crypto output
  let receipt : Receipt :=
    { jobId := jobId, providerPubkey := pubkey, outputHash := outputHash,
      completedAt := completedAt, paymentRef := none }
  let canonical ← (receipt.toValue : JsValue Number).stringify
  return { receipt := receipt, signature := sign (utf8 canonical) }

variable {env : Environment} (crypto : Crypto) (keys : KeyPair env crypto)
  (completedAt : String) (jobId : JsString) (output : JsValue Number)

namespace Desktop

def buildReceipt (pubkey : String) (secretKey : List UInt8) :
    Option SignedReceipt :=
  signReceipt crypto (crypto.signBase64 secretKey) completedAt jobId output
    pubkey

def handleJob : Option (JobCompleteMsg Number) := do
  let signed ← buildReceipt crypto completedAt jobId output keys.pubkeyHex
    keys.secretKey
  let outputHash ← hashOutput crypto output
  return { jobId := jobId, output := output, outputHash := outputHash,
           receipt := signed.receipt, receiptSignature := signed.signature }

end Desktop

namespace Cli

def buildReceipt (pubkey : String) (secretKey : List UInt8) :
    Option SignedReceipt :=
  signReceipt crypto (crypto.signBase64 secretKey) completedAt jobId output
    pubkey

def handleJob : Option (JobCompleteMsg Number) := do
  let signed ← buildReceipt crypto completedAt jobId output keys.pubkeyHex
    keys.secretKey
  return { jobId := jobId, output := output,
           outputHash := signed.receipt.outputHash,
           receipt := signed.receipt, receiptSignature := signed.signature }

end Cli

namespace SeekerSimulator

def handleJob : Option (JobCompleteMsg Number) := do
  let outputHash ← hashOutput crypto output
  let receipt : Receipt :=
    { jobId := jobId, providerPubkey := keys.pubkeyHex,
      outputHash := outputHash, completedAt := completedAt, paymentRef := none }
  let canonical ← (receipt.toValue : JsValue Number).stringify
  let sig := crypto.signDetached (utf8 canonical) keys.secretKey
  return { jobId := jobId, output := output, outputHash := outputHash,
           receipt := receipt, receiptSignature := base64 sig }

end SeekerSimulator

namespace Mobile

def buildSignedReceipt (pubkeyHex : String) (secretKey : List UInt8) :
    Option SignedReceipt :=
  signReceipt crypto (crypto.signBase64 secretKey) completedAt jobId output
    pubkeyHex

def buildJobCompleteWithReceipt : Option (JobCompleteMsg Number) := do
  let outputHash ← hashOutput crypto output
  let signed ← buildSignedReceipt crypto completedAt jobId output
    keys.pubkeyHex keys.secretKey
  return { jobId := jobId, output := output, outputHash := outputHash,
           receipt := signed.receipt, receiptSignature := signed.signature }

def buildJobCompleteWithProvider (provider : SigningProvider env) :
    Option (JobCompleteMsg Number) := do
  let outputHash ← hashOutput crypto output
  let receipt : Receipt :=
    { jobId := jobId, providerPubkey := provider.getPublicKeyHex,
      outputHash := outputHash, completedAt := completedAt, paymentRef := none }
  let canonical ← (receipt.toValue : JsValue Number).stringify
  let signature := provider.signMessage (utf8 canonical)
  return { jobId := jobId, output := output, outputHash := outputHash,
           receipt := receipt, receiptSignature := signature }

end Mobile

end Builders

inductive Builder (env : Environment) (crypto : Crypto)
  | desktop (keys : KeyPair env crypto)
  | cli (keys : KeyPair env crypto)
  | seekerSimulator (keys : KeyPair env crypto)
  | mobile (keys : KeyPair env crypto)
  | mobileProvider (provider : SigningProvider env)

namespace Builder

variable {env : Environment} {crypto : Crypto}

def publicKey : Builder env crypto → List UInt8
  | desktop keys | cli keys | seekerSimulator keys | mobile keys =>
    keys.publicKey
  | mobileProvider provider => provider.publicKey

def sign : Builder env crypto → List UInt8 → String
  | desktop keys | cli keys | seekerSimulator keys | mobile keys =>
    crypto.signBase64 keys.secretKey
  | mobileProvider provider => provider.signMessage

def build [JsonNumber Number] [NumberToString Number]
    (builder : Builder env crypto) (completedAt : String) (jobId : JsString)
    (output : JsValue Number) : Option (JobCompleteMsg Number) :=
  match builder with
  | desktop keys => Desktop.handleJob crypto keys completedAt jobId output
  | cli keys => Cli.handleJob crypto keys completedAt jobId output
  | seekerSimulator keys =>
    SeekerSimulator.handleJob crypto keys completedAt jobId output
  | mobile keys =>
    Mobile.buildJobCompleteWithReceipt crypto keys completedAt jobId output
  | mobileProvider provider =>
    Mobile.buildJobCompleteWithProvider crypto completedAt jobId output
      provider

theorem signs (builder : Builder env crypto) :
    Signs env builder.publicKey builder.sign := by
  cases builder with
  | desktop keys | cli keys | seekerSimulator keys | mobile keys =>
    exact keys.signs
  | mobileProvider provider => exact provider.signs

end Builder

/-! ## What is sent -/

section Texts

variable {Number : Type}

def Receipt.toJson (receipt : Receipt) : Json Number :=
  .object (.ofList [
    ("job_id", .string receipt.jobId),
    ("provider_pubkey", .string receipt.providerPubkey),
    ("output_hash", .string receipt.outputHash),
    ("completed_at", .string receipt.completedAt),
    ("payment_ref", match receipt.paymentRef with
      | some reference => .string reference
      | none => .null)])

def JobCompleteMsg.toJson (msg : JobCompleteMsg Number)
    (output : Json Number) : Json Number :=
  .object (.ofList [
    ("type", .string "job_complete"),
    ("job_id", .string msg.jobId),
    ("output", output),
    ("output_hash", .string msg.outputHash),
    ("receipt", msg.receipt.toJson),
    ("receipt_signature", .string msg.receiptSignature)])

private theorem message_keys : Properties.OrderedKeys
    ["type", "job_id", "output", "output_hash", "receipt",
      "receipt_signature"] := by
  decide +kernel

variable [JsonNumber Number] [NumberToString Number]

theorem Receipt.toJson?_toValue (receipt : Receipt) :
    (receipt.toValue : JsValue Number).toJson? = some receipt.toJson := by
  apply JsValue.toJson?_object
  · exact Dispatch.Receipt.ordered_keys
  · cases reference : receipt.paymentRef <;> rfl

theorem Receipt.stringify_toValue (receipt : Receipt) :
    (receipt.toValue : JsValue Number).stringify =
      some (receipt.toJson : Json Number).stringify := by
  rw [JsValue.stringify, toJson?_toValue, Option.map_some]

theorem JobCompleteMsg.toJson?_toValue {msg : JobCompleteMsg Number}
    {output : Json Number} (written : msg.output.toJson? = some output) :
    msg.toValue.toJson? = some (msg.toJson output) := by
  apply JsValue.toJson?_object
  · exact message_keys
  · simp only [List.map_cons, List.map_nil, written,
      Receipt.toJson?_toValue]
    rfl

theorem JobCompleteMsg.parse_stringify (msg : JobCompleteMsg Number)
    {output : Json Number} (written : msg.output.toJson? = some output) :
    msg.stringify = some (msg.toJson output).stringify ∧
      Json.parse (msg.toJson output).stringify =
        some (msg.toJson output) := by
  have serialized := toJson?_toValue written
  refine ⟨?_, ?_⟩
  · rw [stringify, JsValue.stringify, serialized, Option.map_some]
  · exact Json.parse_stringify _ (JsValue.serialize_normal _ true serialized)

namespace Builder

variable {env : Environment} {crypto : Crypto} (builder : Builder env crypto)
  (completedAt : String) (jobId : JsString)

def receipt (text : String) : Receipt where
  jobId := jobId
  providerPubkey := hex builder.publicKey
  outputHash := crypto.sha256Hex text
  completedAt := completedAt
  paymentRef := none

def message (output : JsValue Number) (text : String) :
    JobCompleteMsg Number where
  jobId := jobId
  output := output
  outputHash := crypto.sha256Hex text
  receipt := builder.receipt completedAt jobId text
  receiptSignature := builder.sign (utf8
    (builder.receipt completedAt jobId text |>.toJson : Json Number).stringify)

theorem build_eq (output : JsValue Number) :
    builder.build completedAt jobId output =
      output.stringify.map (builder.message completedAt jobId output) := by
  cases builder with
  | desktop keys =>
    simp only [build, Desktop.handleJob, Desktop.buildReceipt, signReceipt,
      hashOutput, Receipt.stringify_toValue]
    cases output.stringify <;> rfl
  | cli keys =>
    simp only [build, Cli.handleJob, Cli.buildReceipt, signReceipt,
      hashOutput, Receipt.stringify_toValue]
    cases output.stringify <;> rfl
  | seekerSimulator keys =>
    simp only [build, SeekerSimulator.handleJob, hashOutput,
      Receipt.stringify_toValue]
    cases output.stringify <;> rfl
  | mobile keys =>
    simp only [build, Mobile.buildJobCompleteWithReceipt,
      Mobile.buildSignedReceipt, signReceipt, hashOutput,
      Receipt.stringify_toValue]
    cases output.stringify <;> rfl
  | mobileProvider provider =>
    simp only [build, Mobile.buildJobCompleteWithProvider, hashOutput,
      Receipt.stringify_toValue]
    cases output.stringify <;> rfl

variable {builder completedAt jobId}

theorem message_of_build {output : JsValue Number}
    {msg : JobCompleteMsg Number}
    (built : builder.build completedAt jobId output = some msg) :
    ∃ json : Json Number, output.toJson? = some json ∧ json.Normal ∧
      output.stringify = some json.stringify ∧
      msg = builder.message completedAt jobId output json.stringify := by
  rw [build_eq] at built
  rcases Option.map_eq_some_iff.mp built with ⟨text, written, same⟩
  rcases JsValue.parse_of_stringify written with
    ⟨json, serialized, normal, rfl, _⟩
  exact ⟨json, serialized, normal, written, same.symm⟩

end Builder

end Texts

/-! ## What the coordinator makes of it -/

theorem hexBytes_encode (bytes : List UInt8) :
    WorkerHub.hexBytes (Hex.encode bytes) = bytes := by
  induction bytes with
  | nil => rfl
  | cons byte rest induction =>
    have bound := byte.toNat_lt
    have high := Json.hexValue?_hexDigit ⟨byte.toNat / 16, by omega⟩
    have low := Json.hexValue?_hexDigit ⟨byte.toNat % 16, by omega⟩
    have parts : 16 * (byte.toNat / 16) + byte.toNat % 16 = byte.toNat :=
      Nat.div_add_mod byte.toNat 16
    rw [Hex.encode, List.flatMap_cons, List.cons_append, List.cons_append,
      List.nil_append, WorkerHub.hexBytes, high, low]
    dsimp only
    rw [parts, UInt8.ofNat_toNat]
    exact congrArg (byte :: ·) induction

theorem base64_ne_empty {bytes : List UInt8} (length : bytes.length = 64) :
    base64 bytes ≠ "" := by
  intro empty
  have unwritten : Base64.encode bytes = [] := by
    simpa [base64] using congrArg String.toList empty
  have decoded := Base64.decode?_encode bytes
  rw [unwritten, Base64.decode?, Option.some.injEq] at decoded
  rw [← decoded] at length
  cases length

section Verification

variable {Number : Type} [JsNumber Number]

theorem isValid?_of_signs {env : Listener.RawEnvironment Number}
    (decodes : ∀ text bytes, Base64.decode? text.toList = some bytes →
      env.base64Bytes text = bytes)
    {publicKey : List UInt8} {sign : List UInt8 → String}
    (signs : Signs env.toEnvironment publicKey sign) (receipt : Json Number) :
    Listener.isValid? env receipt
      (some (.string (sign (utf8 receipt.stringify))))
      (some (.string (hex publicKey))) = some true := by
  rcases signs receipt.stringify with ⟨signature, written, _, valid⟩
  have bytes : env.base64Bytes (base64 signature) = signature := by
    apply decodes
    rw [base64, String.toList_ofList, Base64.decode?_encode]
  have key : WorkerHub.hexBytes (hex publicKey).toList = publicKey := by
    rw [hex, String.toList_ofList, hexBytes_encode]
  rw [written]
  simp [Listener.isValid?, Listener.signatureBytes?, Listener.keyBytes?, bytes,
    key, valid]

theorem JobCompleteMsg.bundled?_toJson {msg : JobCompleteMsg Number}
    (signed : msg.receiptSignature ≠ "") (output : Json Number) :
    Listener.bundled? (msg.toJson output) =
      some (msg.receipt.toJson, .string msg.receiptSignature) := by
  have receipt : (msg.toJson output).get? "receipt" =
      some msg.receipt.toJson := rfl
  have signature : (msg.toJson output).get? "receipt_signature" =
      some (.string msg.receiptSignature) := rfl
  have receiptTruthy : (msg.receipt.toJson : Json Number).truthy = true := rfl
  have signatureTruthy :
      (Json.string msg.receiptSignature : Json Number).truthy = true := by
    rw [Json.truthy_ofString, decide_eq_true signed]
  rw [Listener.bundled?, receipt, signature,
    Option.filter_some_pos receiptTruthy, Option.filter_some_pos signatureTruthy]
  rfl

variable [NumberToString Number] {crypto : Crypto}

def Verifies (env : Listener.RawEnvironment Number)
    (builder : Builder env.toEnvironment crypto) (msg : JobCompleteMsg Number) :
    Prop :=
  ∃ (wire : String) (received receipt : Json Number),
    msg.stringify = some wire ∧
      Json.parse wire = some received ∧
      Listener.messageType? received = some .jobComplete ∧
      Listener.bundled? received =
        some (receipt, .string msg.receiptSignature) ∧
      (msg.receipt.toValue : JsValue Number).stringify =
        some receipt.stringify ∧
      msg.receiptSignature = builder.sign (utf8 receipt.stringify) ∧
      ∀ worker : Listener.RawWorker Number,
        worker.pubkey = some (.string (hex builder.publicKey)) →
        Listener.verifyReceiptSignature env receipt
          (some (.string msg.receiptSignature)) worker.pubkey = .ok true

theorem Builder.verifies_of_build (env : Listener.RawEnvironment Number)
    (decodes : ∀ text bytes, Base64.decode? text.toList = some bytes →
      env.base64Bytes text = bytes)
    {builder : Builder env.toEnvironment crypto} {completedAt : String}
    {jobId : JsString} {output : JsValue Number} {msg : JobCompleteMsg Number}
    (built : builder.build completedAt jobId output = some msg) :
    Verifies env builder msg := by
  rcases Builder.message_of_build built with ⟨json, serialized, _, _, rfl⟩
  let msg := builder.message completedAt jobId output json.stringify
  rcases msg.parse_stringify serialized with ⟨wire, read⟩
  refine ⟨_, _, msg.receipt.toJson, wire, read, rfl, ?_, ?_, rfl, ?_⟩
  · apply JobCompleteMsg.bundled?_toJson
    rcases builder.signs (msg.receipt.toJson : Json Number).stringify with
      ⟨signature, encoded, length, _⟩
    exact ne_of_eq_of_ne encoded (base64_ne_empty length)
  · exact msg.receipt.stringify_toValue
  · intro worker registered
    rw [registered, Listener.verifyReceiptSignature]
    exact if_pos (isValid?_of_signs decodes builder.signs _)

/-- A worker builds a message whenever the output has a text, and the receipt
in it is valid when it arrives: what is read is what was written, so that the
coordinator verifies the bytes that were signed. -/
theorem honest_receipts_verify (env : Listener.RawEnvironment Number)
    (decodes : ∀ text bytes, Base64.decode? text.toList = some bytes →
      env.base64Bytes text = bytes)
    (builder : Builder env.toEnvironment crypto) (completedAt : String)
    (jobId : JsString) (output : JsValue Number) :
    ((builder.build completedAt jobId output).isSome ↔
        output.stringify.isSome) ∧
      ∀ msg, builder.build completedAt jobId output = some msg →
        Verifies env builder msg := by
  refine ⟨by simp [builder.build_eq], ?_⟩
  intro msg built
  exact Builder.verifies_of_build env decodes built

end Verification

/-! A deployment in which a signature is the key followed by the start of the
message, and the numbers are few. -/

namespace Sample

inductive Number
  | zero
  | negativeZero
  | one
  | infinity
  deriving DecidableEq

instance : JsNumber Number where
  text
    | .zero | .negativeZero => ['0']
    | .one => ['1']
    | .infinity => "null".toList
  read? text :=
    if text = ['0'] then some .zero
    else if text = ['1'] then some .one
    else none
  truthy
    | .zero | .negativeZero => false
    | .one | .infinity => true
  display
    | .zero | .negativeZero => "0"
    | .one => "1"
    | .infinity => "Infinity"
  equal
    | .zero, .zero | .zero, .negativeZero | .negativeZero, .zero
    | .negativeZero, .negativeZero | .one, .one | .infinity, .infinity => true
    | _, _ => false

instance : NumberToString Number where
  finite?
    | .zero | .negativeZero => some .zero
    | .one => some .one
    | .infinity => none
  faithful {number value} written := by
    cases number with
    | zero | negativeZero | one =>
      cases written
      exact ⟨rfl, by decide, List.forall_mem_singleton.mpr (by decide)⟩
    | infinity => cases written

def block (message : List UInt8) : List UInt8 :=
  (message ++ List.replicate 32 0).take 32

def crypto : Crypto where
  sha256Hex text := hex (block (utf8 text))
  signDetached message secretKey := block secretKey ++ block message

def environment : Listener.RawEnvironment Number where
  verifyDetached text signature publicKey :=
    some (signature = block publicKey ++ block (utf8 text))
  base64Bytes text := (Base64.decode? text.toList).getD []
  selectRow := List.head?
  selectRow_mem _ _ := List.mem_of_head?
  postFeedback := false
  boltDistributor := false
  wrappedBoltDistributor := false
  bufferFrom _ := none

def keys : KeyPair environment.toEnvironment crypto where
  publicKey := Coordinator.Sample.key
  secretKey := Coordinator.Sample.key
  signs text := by
    refine ⟨block Coordinator.Sample.key ++ block (utf8 text), rfl, ?_, ?_⟩
    · simp [block]
    · simp [environment]

def builders : List (Builder environment.toEnvironment crypto) :=
  [.desktop keys, .cli keys, .seekerSimulator keys, .mobile keys,
    .mobileProvider (deviceKeyProvider keys)]

def output : JsValue Number :=
  .object (.ofList [
    ("b", .undefined),
    ("a", .array (.cons (.number .negativeZero) (.cons (.number .infinity)
      (.cons .undefined .nil)))),
    ("1", .custom (.string "1970-01-01T00:00:00.000Z") (.object .nil))])

end Sample

theorem sample_receipts_verify : Sample.builders.Forall fun builder =>
    ∃ msg, builder.build "1970-01-01T00:00:00.000Z" [0xd83d] Sample.output =
        some msg ∧ Verifies Sample.environment builder msg := by
  apply List.forall_iff_forall_mem.mpr
  intro builder _
  have decodes : ∀ text bytes, Base64.decode? text.toList = some bytes →
      Sample.environment.base64Bytes text = bytes := by
    intro text bytes decoded
    exact congrArg (Option.getD · []) decoded
  have honest := honest_receipts_verify Sample.environment decodes builder
    "1970-01-01T00:00:00.000Z" [0xd83d] Sample.output
  rcases Option.isSome_iff_exists.mp (honest.1.mpr (by decide +kernel)) with
    ⟨msg, built⟩
  exact ⟨msg, built, honest.2 msg built⟩

end Dispatch.Worker
