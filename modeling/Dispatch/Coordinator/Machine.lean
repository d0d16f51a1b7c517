import Dispatch.Coordinator.Routes
import Dispatch.Foundation.Execution

/-! # The coordinator as a machine

Everything that can happen to a running coordinator, one event at a time.
-/

namespace Dispatch.Coordinator

open WorkerHub

inductive Event
  | connect (ws : SocketId)
  | frame (ws : SocketId) (frame : Frame)
  | closing (ws : SocketId)
  | close (ws : SocketId)
  | pruneStale
  | commit (tier : Tier) (body : CommitBody)
  | retryTick (jobId : String)
  | trustCreate (random : UInt8 × UInt8 × UInt8) (userId : Option String)
  | trustClaim (pairingCode providerPubkey : Option String)
  | demoStart
  | demoStop
  | demoTick (choice : DemoChoice)
  | reputationFetched (workerId : String) (score : Option ℚ)
  | stakeFetched (workerId : String) (tier : StakeTier)
  | feedbackSettled (call : FeedbackCall) (outcome : FeedbackOutcome)

structure Input where
  now : Nat
  uuid : Uuid
  event : Event

namespace State

def readyState (state : State) (ws : SocketId) : Option ReadyState :=
  (state.connections.get? ws).map Connection.readyState

def Offers (state : State) : Event → Prop
  | .connect ws => state.readyState ws = none
  | .frame ws _ =>
    state.readyState ws = some .open ∨ state.readyState ws = some .closing
  | .closing ws => state.readyState ws = some .open
  | .close ws =>
    state.readyState ws = some .open ∨ state.readyState ws = some .closing
  | .retryTick jobId => jobId ∈ state.retryLoops.keys
  | .demoTick _ => state.demoActive = true
  | .feedbackSettled call _ => call ∈ state.feedbackInFlight
  | _ => True

def Enabled (state : State) (input : Input) : Prop :=
  input.uuid ∉ state.issued ∧ state.Offers input.event

def issue (state : State) (uuid : Uuid) : State :=
  { state with issued := uuid :: state.issued }

end State

instance (state : State) : DecidablePred state.Offers
  | .connect _ | .closing _ => inferInstanceAs (Decidable (_ = _))
  | .frame _ _ | .close _ => inferInstanceAs (Decidable (_ ∨ _))
  | .retryTick jobId =>
    inferInstanceAs (Decidable (jobId ∈ state.retryLoops.keys))
  | .demoTick _ => inferInstanceAs (Decidable (_ = true))
  | .feedbackSettled call _ =>
    inferInstanceAs (Decidable (call ∈ state.feedbackInFlight))
  | .pruneStale | .commit _ _ | .trustCreate _ _ | .trustClaim _ _
  | .demoStart | .demoStop | .reputationFetched _ _ | .stakeFetched _ _ =>
    inferInstanceAs (Decidable True)

instance (state : State) : DecidablePred state.Enabled := fun _ =>
  inferInstanceAs (Decidable (_ ∧ _))

def settle (state : State) : Except SqliteError State → State
  | .ok next => next
  | .error _ => state

def handle (env : Environment) (state : State) (input : Input) : State :=
  match input.event with
  | .connect ws =>
    let connection : Connection := { readyState := .open, workerId := none }
    { state with connections := state.connections.set ws connection }
  | .frame ws frame =>
    settle state (handleMessage env input.now input.uuid ws frame state)
  | .closing ws => state.closeSocket ws
  | .close ws => handleClose ws state
  | .pruneStale => pruneStale input.now state
  | .commit tier body =>
    settle state ((handleCommit input.now input.uuid tier body state).map
      Prod.fst)
  | .retryTick jobId => retryTick input.now jobId state
  | .trustCreate random userId =>
    settle state ((trustCreate input.now input.uuid random userId state).map
      Prod.fst)
  | .trustClaim code providerPubkey =>
    (trustClaim input.now code providerPubkey state).1
  | .demoStart => { state with demoActive := true }
  | .demoStop => { state with demoActive := false }
  | .demoTick choice => demoTick input.uuid choice state
  | .reputationFetched workerId score =>
    reputationFetched workerId score state
  | .stakeFetched workerId tier => stakeFetched workerId tier state
  | .feedbackSettled call outcome => feedbackSettled call outcome state

def machine (env : Environment) : Machine State Input where
  initial := .initial
  Enabled := State.Enabled
  step state input := handle env (state.issue input.uuid) input

instance (env : Environment) (state : State) (input : Input) :
    Decidable ((machine env).Enabled state input) :=
  inferInstanceAs (Decidable (state.Enabled input))

/-! ## A small deployment

One worker and one job, to run the model on. -/

namespace Sample

def workerUuid : Uuid := ⟨"00000000-0000-4000-8000-000000000001", by decide⟩

def jobUuid : Uuid := ⟨"00000000-0000-4000-8000-000000000002", by decide⟩

def otherUuid : Uuid := ⟨"00000000-0000-4000-8000-000000000003", by decide⟩

def lastUuid : Uuid := ⟨"00000000-0000-4000-8000-000000000004", by decide⟩

def spareUuid : Uuid := ⟨"00000000-0000-4000-8000-000000000005", by decide⟩

def extraUuid : Uuid := ⟨"00000000-0000-4000-8000-000000000006", by decide⟩

def pubkey : String :=
  "d75a980182b10ab7d54bfed3c964073a0ee172f3daa62325af021a68f707511a"

def otherPubkey : String :=
  "3d4017c3e843895a92b70aa74d1b7ebc9c982ccf2ec4968cc0cd55f12af4660c"

def receipt (providerPubkey : String) : Receipt where
  jobId := jobUuid.text
  providerPubkey := providerPubkey
  outputHash :=
    "44136fa355b3678a1146ad16f7e8649e94fb4fc21fe77e8310c060f61caaff8a"
  completedAt := "2026-02-09T12:00:05.000Z"
  paymentRef := none

def signature : String :=
  "lntkunMTttW+r+VZDPWGZm4GrcOJ/c6b/7ZDo8PBrwFHCbjA/5GvD4KKSzbFq1F+NbxkJrkuRLvcSoluPlxHCA=="

def foreignSignature : String :=
  "2C07csV6u7nDoNjus+HukaY38rJFcmhP3BHCJPmzC2W3/eO/dfQdffoTgUFzUbej2h0sIi33/t3l6Lc78KDgBA=="

def otherSignature : String :=
  "EK8D212mx+GZlF5zIqLJ2XKSZy44bMEEnOtEkqoEOtDBs5+BQZvleFxeNe1iY3eD6fxGdciQdf3Tjk3KySKPDw=="

def bytes (length value : Nat) : List UInt8 :=
  (List.range length).map fun index =>
    .ofNat (value / 256 ^ (length - 1 - index))

def key : List UInt8 :=
  bytes 32 0xd75a980182b10ab7d54bfed3c964073a0ee172f3daa62325af021a68f707511a

def otherKey : List UInt8 :=
  bytes 32 0x3d4017c3e843895a92b70aa74d1b7ebc9c982ccf2ec4968cc0cd55f12af4660c

def signatureBytes : List UInt8 :=
  bytes 32 0x967b64ba7313b6d5beafe5590cf586666e06adc389fdce9bffb643a3c3c1af01 ++
    bytes 32 0x4709b8c0ff91af0f828a4b36c5ab517e35bc6426b92e44bbdc4a896e3e5c4708

def foreignSignatureBytes : List UInt8 :=
  bytes 32 0xd82d3b72c57abbb9c3a0d8eeb3e1ee91a637f2b24572684fdc11c224f9b30b65 ++
    bytes 32 0xb7fde3bf75f41d7dfa1381417351b7a3da1d2c222df7fedde5e8b73bf0a0e004

def otherSignatureBytes : List UInt8 :=
  bytes 32 0x10af03db5da6c7e199945e7322a2c9d97292672e386cc1049ceb4492aa043ad0 ++
    bytes 32 0xc1b39f81419be5785c5e35ed62637783e9fc4675c89075fdd38e4dcac9228f0f

def environment : Environment where
  verifyDetached _ signed pubkey :=
    if signed.length = 64 ∧ pubkey.length = 32 then
      some ((pubkey, signed) ∈ [(key, signatureBytes),
        (key, foreignSignatureBytes), (otherKey, otherSignatureBytes)])
    else
      none
  base64Bytes text :=
    if text = signature then signatureBytes
    else if text = foreignSignature then foreignSignatureBytes
    else if text = otherSignature then otherSignatureBytes
    else []
  selectRow := List.head?
  selectRow_mem _ _ := List.mem_of_head?
  postFeedback := true
  boltDistributor := true
  wrappedBoltDistributor := true

def sha256Hex (text : String) : String :=
  if text = "\x7b\x7d" then
    "44136fa355b3678a1146ad16f7e8649e94fb4fc21fe77e8310c060f61caaff8a"
  else
    ""

def connect (ws : SocketId) (uuid : Uuid) : Input :=
  { now := 0, uuid := uuid, event := .connect ws }

def register (ws : SocketId) (uuid : Uuid) (pubkey : String) : Input where
  now := 0
  uuid := uuid
  event := .frame ws (.register
    { providerPubkey := pubkey, providerType := .desktop,
      capabilities := [.task] })

def commit (uuid : Uuid) (privacyClass : Option String) : Input where
  now := 0
  uuid := uuid
  event := .commit .fast
    { jobType := some "TASK", payload := some "\x7b\x7d",
      privacyClass := privacyClass, userId := some "user" }

def complete (ws : SocketId) (uuid : Uuid) (receipt : Option Receipt)
    (receiptSignature : Option String) : Input where
  now := 0
  uuid := uuid
  event := .frame ws (.jobComplete
    { jobId := jobUuid.text, output := some "\x7b\x7d", receipt := receipt,
      receiptSignature := receiptSignature })

end Sample

end Dispatch.Coordinator
