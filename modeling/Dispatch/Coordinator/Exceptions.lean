import Dispatch.Coordinator.Frames

/-! # Which frames the listener survives

An exception that escapes a listener ends the process.
-/

namespace Dispatch.Coordinator.Listener

open Sqlite

section Definitions

variable {Number : Type} [JsNumber Number] [SqlNumber Number]

def isPrintable (value : Option (Json Number)) : Bool :=
  (Json.displayProperty? value).isSome

def isStorable (env : RawEnvironment Number)
    (jobs : OrderedMap String JobRow) (receipt : Json Number)
    (signature pubkey : Option (Json Number)) : Bool :=
  (isValid? env receipt signature pubkey = some true ||
    isPrintable (receipt.get? "job_id")) &&
  match bindParameters 4 (receiptArguments receipt signature) with
  | .ok [.text jobId, .text _, .text _, .text _] => (jobs.get? jobId).isSome
  | _ => false

namespace Hub

def canComplete (env : RawEnvironment Number) (hub : Hub Number)
    (msg : Json Number) (worker : RawWorker Number) : Bool :=
  match worker.activeJobId with
  | none => false
  | some jobId =>
    isDemoJob jobId ||
      match bundled? msg with
      | none => true
      | some (receipt, signature) =>
        isStorable env hub.jobs receipt (some signature) worker.pubkey

def canHandle (env : RawEnvironment Number) (hub : Hub Number)
    (msg : Json Number) : Bool :=
  match messageType? msg with
  | none => isPrintable (msg.get? "type")
  | some .register =>
    isPrintable (msg.get? "provider_type") &&
      (slicedKey? (msg.get? "provider_pubkey")).isSome
  | some .heartbeat => true
  | some .jobComplete =>
    match hub.findByActiveJob (msg.get? "job_id") with
    | none => true
    | some (_, worker) => hub.canComplete env msg worker
  | some .jobReject =>
    match hub.findByActiveJob (msg.get? "job_id") with
    | none => true
    | some (_, worker) =>
      worker.activeJobId.isSome && isPrintable (msg.get? "reason")
  | some .receiptSubmit =>
    match submitted? msg with
    | none => false
    | some receipt =>
      isStorable env hub.jobs receipt (msg.get? "signature")
        (submitterKey receipt hub)

def admits (env : RawEnvironment Number) (hub : Hub Number) (text : String) :
    Bool :=
  match (Json.parse text : Option (Json Number)) with
  | none => true
  | some .null => false
  | some msg => hub.canHandle env msg

def actsOnMessage (hub : Hub Number) (msg : Json Number) : Bool :=
  match messageType? msg with
  | none => false
  | some .register | some .receiptSubmit => true
  | some .heartbeat =>
    (hub.findByPubkey (msg.get? "provider_pubkey")).isSome
  | some .jobComplete | some .jobReject =>
    (hub.findByActiveJob (msg.get? "job_id")).isSome

def actsOn (hub : Hub Number) (text : String) : Bool :=
  match (Json.parse text : Option (Json Number)) with
  | none | some .null => false
  | some msg => hub.actsOnMessage msg

structure SameRecords (before after : Hub Number) : Prop where
  workers : after.workers = before.workers
  jobs : after.jobs = before.jobs
  trustPairings : after.trustPairings = before.trustPairings
  receipts : after.receipts = before.receipts

end Hub

end Definitions

section Escapes

variable {Number : Type} [JsNumber Number] [SqlNumber Number]
  {env : RawEnvironment Number} {hub : Hub Number} {id : Uuid}

omit [JsNumber Number] [SqlNumber Number] in
theorem Hub.SameRecords.refl (hub : Hub Number) : SameRecords hub hub :=
  ⟨rfl, rfl, rfl, rfl⟩

omit [JsNumber Number] [SqlNumber Number] in
theorem Hub.SameRecords.send (hub : Hub Number) (ws : SocketId)
    (message : Outgoing) : SameRecords hub (hub.send ws message) := by
  unfold Hub.send
  split
  · exact ⟨rfl, rfl, rfl, rfl⟩
  · exact .refl hub

/-! ## Receipts -/

omit [SqlNumber Number] in
theorem verifyReceiptSignature_isOk (receipt : Json Number)
    (signature pubkey : Option (Json Number)) :
    (verifyReceiptSignature env receipt signature pubkey).isOk =
      (decide (isValid? env receipt signature pubkey = some true) ||
        isPrintable (receipt.get? "job_id")) := by
  unfold verifyReceiptSignature
  split_ifs with valid
  · simp [valid, Except.isOk, Except.toBool]
  · rw [isPrintable]
    cases Json.displayProperty? (receipt.get? "job_id") <;>
      simp [valid, Except.isOk, Except.toBool]

theorem insertReceipt_isOk {jobs : OrderedMap String JobRow}
    {receipts : OrderedMap String ReceiptRow} (receipt : Json Number)
    (signature : Option (Json Number)) (verified : Bool)
    (fresh : receipts.get? id.text = none) :
    (insertReceipt id receipt signature verified jobs receipts).isOk =
      match bindParameters 4 (receiptArguments receipt signature) with
      | .ok [.text jobId, .text _, .text _, .text _] =>
        (jobs.get? jobId).isSome
      | _ => false := by
  unfold insertReceipt
  split
  · next bound => rw [bound]; rfl
  · next jobId _ _ _ bound =>
      rw [bound]
      dsimp only
      cases jobs.get? jobId with
      | none => rfl
      | some row =>
        rw [OrderedMap.insert?_of_fresh _ _ fresh]
        rfl
  · next values others bound =>
      rw [bound]
      split
      · next equal =>
          cases equal
          exact absurd rfl (others _ _ _ _)
      · rfl

theorem storeReceipt_isOk {jobs : OrderedMap String JobRow}
    {receipts : OrderedMap String ReceiptRow} (receipt : Json Number)
    (signature pubkey : Option (Json Number))
    (fresh : receipts.get? id.text = none) :
    (storeReceipt env id receipt signature pubkey jobs receipts).isOk =
      isStorable env jobs receipt signature pubkey := by
  rw [isStorable, ← verifyReceiptSignature_isOk]
  unfold storeReceipt
  cases verifyReceiptSignature env receipt signature pubkey with
  | error error => rfl
  | ok verified =>
    exact insertReceipt_isOk receipt signature verified fresh

/-! ## Handlers -/

omit [SqlNumber Number] in
theorem handleRegister_returns (now : Nat) (ws : SocketId) (msg : Json Number) :
    (handleRegister now id ws msg hub).thrown = none ↔
      (isPrintable (msg.get? "provider_type") &&
        (slicedKey? (msg.get? "provider_pubkey")).isSome) = true := by
  unfold handleRegister isPrintable
  cases Json.displayProperty? (msg.get? "provider_type") <;>
    cases slicedKey? (msg.get? "provider_pubkey") <;>
    simp [Hub.returns, Hub.throws]

theorem storeResult_isOk (now : Nat) (jobId : String) (msg : Json Number)
    (worker : RawWorker Number) (fresh : hub.receipts.get? id.text = none) :
    (storeResult env now id jobId msg worker hub).isOk =
      match bundled? msg with
      | none => true
      | some (receipt, signature) =>
        isStorable env hub.jobs receipt (some signature) worker.pubkey := by
  unfold storeResult
  cases bundled? msg with
  | none => rfl
  | some bundle =>
    -- the row of the job is updated, so that the foreign key is as before
    have sameJobs : ∀ jobs : OrderedMap String JobRow, ∀ change,
        isStorable env (jobs.modify jobId change) bundle.1 (some bundle.2)
          worker.pubkey =
        isStorable env jobs bundle.1 (some bundle.2) worker.pubkey := by
      intro jobs change
      unfold isStorable
      congr 1
      split
      · rw [OrderedMap.get?_modify]
        split_ifs <;> simp
      · rfl
    dsimp only
    rw [← sameJobs hub.jobs, ← storeReceipt_isOk _ _ _ fresh]
    cases storeReceipt env id bundle.1 (some bundle.2) worker.pubkey _
      hub.receipts <;> rfl

theorem handleJobComplete_returns (now : Nat) (msg : Json Number)
    (fresh : hub.receipts.get? id.text = none) :
    (handleJobComplete env now id msg hub).thrown = none ↔
      (match hub.findByActiveJob (msg.get? "job_id") with
        | none => true
        | some (_, worker) => hub.canComplete env msg worker) = true := by
  unfold handleJobComplete
  cases hub.findByActiveJob (msg.get? "job_id") with
  | none => simp [Hub.returns]
  | some found =>
    rcases found with ⟨workerId, worker⟩
    simp only [Hub.canComplete]
    cases worker.activeJobId with
    | none => simp [Hub.throws]
    | some jobId =>
      dsimp only
      split_ifs with demo
      · simp [Hub.returns, demo]
      · rw [← storeResult_isOk now jobId msg worker fresh]
        cases storeResult env now id jobId msg worker hub <;>
          simp [Hub.returns, Hub.throws, demo, Except.isOk, Except.toBool]

omit [SqlNumber Number] in
theorem handleJobReject_returns (msg : Json Number) :
    (handleJobReject msg hub).thrown = none ↔
      (match hub.findByActiveJob (msg.get? "job_id") with
        | none => true
        | some (_, worker) =>
          worker.activeJobId.isSome && isPrintable (msg.get? "reason")) =
        true := by
  unfold handleJobReject isPrintable
  cases hub.findByActiveJob (msg.get? "job_id") with
  | none => simp [Hub.returns]
  | some found =>
    rcases found with ⟨workerId, worker⟩
    cases active : worker.activeJobId with
    | none => simp [Hub.throws, active]
    | some jobId =>
      cases Json.displayProperty? (msg.get? "reason") <;>
        simp [Hub.returns, Hub.throws, active]

theorem handleReceiptSubmit_returns (msg : Json Number)
    (fresh : hub.receipts.get? id.text = none) :
    (handleReceiptSubmit env id msg hub).thrown = none ↔
      (match submitted? msg with
        | none => false
        | some receipt =>
          isStorable env hub.jobs receipt (msg.get? "signature")
            (submitterKey receipt hub)) = true := by
  unfold handleReceiptSubmit
  cases submitted? msg with
  | none => simp [Hub.throws]
  | some receipt =>
    dsimp only
    rw [← storeReceipt_isOk receipt (msg.get? "signature")
      (submitterKey receipt hub) fresh]
    cases storeReceipt env id receipt (msg.get? "signature")
        (submitterKey receipt hub) hub.jobs hub.receipts <;>
      simp [Hub.returns, Hub.throws, Except.isOk, Except.toBool]

theorem handleMessage_returns (now : Nat) (ws : SocketId) (msg : Json Number)
    (fresh : hub.receipts.get? id.text = none) :
    (handleMessage env now id ws msg hub).thrown = none ↔
      hub.canHandle env msg = true := by
  unfold handleMessage Hub.canHandle
  cases messageType? msg with
  | none =>
    unfold isPrintable
    cases Json.displayProperty? (msg.get? "type") <;>
      simp [Hub.returns, Hub.throws]
  | some type =>
    cases type with
    | register => exact handleRegister_returns now ws msg
    | heartbeat =>
      dsimp only
      unfold handleHeartbeat
      split <;> simp [Hub.returns]
    | jobComplete => exact handleJobComplete_returns now msg fresh
    | jobReject => exact handleJobReject_returns msg
    | receiptSubmit => exact handleReceiptSubmit_returns msg fresh

theorem handleMessage_sameRecords (now : Nat) (ws : SocketId)
    (msg : Json Number) (ignored : hub.actsOnMessage msg = false) :
    hub.SameRecords (handleMessage env now id ws msg hub).hub := by
  unfold Hub.actsOnMessage at ignored
  unfold handleMessage
  cases given : messageType? msg with
  | none =>
    cases Json.displayProperty? (msg.get? "type") with
    | none => exact .refl hub
    | some shown => exact .send ..
  | some type =>
    simp only [given] at ignored
    cases type with
    | register | receiptSubmit => cases ignored
    | heartbeat | jobComplete | jobReject =>
      -- no worker is found
      have absent := Option.not_isSome_iff_eq_none.mp
        (Bool.not_eq_true _ ▸ ignored)
      simp only [handleHeartbeat, handleJobComplete, handleJobReject, absent]
      exact .refl hub

/-- In every state and for every text, the listener returns, without a trace of
a text that it does not act on, exactly when it can deal with the text. -/
theorem listener_returns_iff (env : RawEnvironment Number) (hub : Hub Number)
    (now : Nat) (id : Uuid) (ws : SocketId) (text : String)
    (fresh : hub.receipts.get? id.text = none) :
    ((onMessage env now id ws text hub).thrown = none ∧
        (hub.actsOn text = false →
          hub.SameRecords (onMessage env now id ws text hub).hub)) ↔
      hub.admits env text = true := by
  unfold onMessage Hub.admits Hub.actsOn
  cases (Json.parse text : Option (Json Number)) with
  | none => simp [Hub.returns, Hub.SameRecords.send]
  | some msg =>
    cases msg with
    | null => simp [Hub.throws]
    | _ =>
      dsimp only
      rw [handleMessage_returns now ws _ fresh]
      exact ⟨And.left, fun handled =>
        ⟨handled, handleMessage_sameRecords now ws _⟩⟩

end Escapes

namespace Sample

def environment : RawEnvironment Empty :=
  { Coordinator.Sample.environment with bufferFrom := fun _ => none }

def connected : State :=
  (machine Coordinator.Sample.environment).exec .initial
    [Coordinator.Sample.connect 0 Coordinator.Sample.workerUuid]

def registration : String :=
  "\x7b\"type\":\"register\",\"provider_pubkey\":\"d75a98\"," ++
    "\"provider_type\":\"DESKTOP\",\"capabilities\":[\"TASK\"]\x7d"

end Sample

theorem listener_returns_iff_registered :
    (onMessage Sample.environment 0 Coordinator.Sample.jobUuid 0
        Sample.registration (.ofState Sample.connected)).thrown = none ∧
      ((Hub.ofState Sample.connected : Hub Empty).actsOn Sample.registration =
          false →
        (Hub.ofState Sample.connected).SameRecords
          (onMessage Sample.environment 0 Coordinator.Sample.jobUuid 0
            Sample.registration (.ofState Sample.connected)).hub) :=
  (listener_returns_iff Sample.environment (.ofState Sample.connected) 0
    Coordinator.Sample.jobUuid 0 Sample.registration rfl).mpr
      (by decide +kernel)

theorem null_frame_escapes :
    (machine Coordinator.Sample.environment).Reachable Sample.connected ∧
      Sample.connected.readyState 0 = some .open ∧
      (onMessage Sample.environment 0 Coordinator.Sample.jobUuid 0 "null"
        (.ofState Sample.connected)).thrown = some .typeError :=
  ⟨.of_steps (by decide +kernel), by decide +kernel, by decide +kernel⟩

end Dispatch.Coordinator.Listener
