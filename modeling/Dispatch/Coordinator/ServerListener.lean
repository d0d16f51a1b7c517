import Dispatch.Coordinator.Server

/-! # The listener of the server

As long as the database is open, the handlers of the server do what those of
the listener do.
-/

namespace Dispatch.Coordinator.Server

open Sqlite Listener

/-! ## Single steps -/

section Steps

variable {Number : Type} {server : Server Number}

theorem run_statement (isOpen : server.databaseOpen = true) :
    (statement : Action Number Unit).run server = (.ok (), server) :=
  if_pos isOpen

theorem run_statement_closed (closed : server.databaseOpen = false) :
    (statement : Action Number Unit).run server =
      (.error .notOpen, { server with misused := true }) :=
  if_neg (by rw [closed]; exact Bool.false_ne_true)

@[simp] theorem run_updateHub (change : Hub Number → Hub Number) :
    (updateHub change).run server =
      (.ok (), { server with hub := change server.hub }) := rfl

@[simp] theorem run_updateHub_bind {Next : Type}
    (change : Hub Number → Hub Number) (next : Unit → Action Number Next) :
    (updateHub change >>= next).run server =
      (next ()).run { server with hub := change server.hub } := rfl

theorem run_updateJob (isOpen : server.databaseOpen = true) (jobId : String)
    (change : JobRow → JobRow) :
    (updateJob jobId change).run server = (.ok (), { server with
      hub := { server.hub with
        jobs := server.hub.jobs.modify jobId change } }) := by
  rw [updateJob, Procedure.run_bind_of_ok (run_statement isOpen)]
  rfl

theorem run_reward (env : RawEnvironment Number) (worker : RawWorker Number)
    (jobId : String) :
    (reward env worker jobId).run server = (.ok (), { server with
      hub := Listener.reward env worker jobId server.hub }) := by
  unfold reward call Listener.reward
  cases env.postFeedback <;> cases env.boltDistributor <;>
    cases env.wrappedBoltDistributor <;> simp

end Steps

section Open

variable {Number : Type} [JsNumber Number] [SqlNumber Number]
  {env : RawEnvironment Number} {server : Server Number}

/-! ## The transaction -/

theorem run_insertReceipt (isOpen : server.databaseOpen = true) (id : Uuid)
    (receipt : Json Number) (signature : Option (Json Number))
    (verified : Bool) :
    (insertReceipt id receipt signature verified).run server =
      match Listener.insertReceipt id receipt signature verified
          server.hub.jobs server.hub.receipts with
      | .ok receipts =>
        (.ok (), { server with
          hub := { server.hub with receipts := receipts } })
      | .error error => (.error (.thrown error), server) := by
  rw [insertReceipt, Procedure.run_bind_of_ok (run_statement isOpen),
    Procedure.run_read_bind]
  cases Listener.insertReceipt id receipt signature verified server.hub.jobs
    server.hub.receipts <;> rfl

def completed (now : Nat) (msg : Json Number) : JobRow → JobRow := fun row =>
  { row with
    status := .completed
    result := (msg.get? "output").map Json.stringify
    completedAt := some now }

theorem storeResult_eq (now : Nat) (id : Uuid) (jobId : String)
    (msg : Json Number) (worker : RawWorker Number) (hub : Hub Number) :
    Listener.storeResult env now id jobId msg worker hub =
      let jobs := hub.jobs.modify jobId (completed now msg)
      match bundled? msg with
      | none => .ok { hub with jobs := jobs }
      | some (receipt, signature) =>
        match storeReceipt env id receipt (some signature) worker.pubkey jobs
            hub.receipts with
        | .error error => .error error
        | .ok receipts =>
          .ok { hub with jobs := jobs, receipts := receipts } := by
  unfold Listener.storeResult
  cases bundled? msg with
  | none => rfl
  | some bundle =>
    unfold completed
    dsimp only
    generalize storeReceipt env id bundle.1 (some bundle.2) worker.pubkey _
      hub.receipts = stored
    cases stored <;> rfl

theorem run_storeReceipt (isOpen : server.databaseOpen = true) (id : Uuid)
    (receipt : Json Number) (signature pubkey : Option (Json Number)) :
    (do
      let verified ← attempt (verifyReceiptSignature env receipt signature
        pubkey)
      insertReceipt id receipt signature verified).run server =
      match storeReceipt env id receipt signature pubkey
          server.hub.jobs server.hub.receipts with
      | .ok receipts =>
        (.ok (), { server with
          hub := { server.hub with receipts := receipts } })
      | .error error => (.error (.thrown error), server) := by
  unfold storeReceipt
  cases verifyReceiptSignature env receipt signature pubkey with
  | error error => rfl
  | ok verified =>
    have returned : (attempt (.ok verified) : Action Number Bool).run server =
        (.ok verified, server) := rfl
    rw [Procedure.run_bind_of_ok returned, run_insertReceipt isOpen]
    rfl

theorem run_transaction (isOpen : server.databaseOpen = true) (now : Nat)
    (id : Uuid) (jobId : String) (msg : Json Number)
    (worker : RawWorker Number) :
    (transaction (storeResult env now id jobId msg worker)).run server =
      match Listener.storeResult env now id jobId msg worker server.hub with
      | .ok hub => (.ok (), { server with hub := hub })
      | .error error => (.error (.thrown error), server) := by
  rw [transaction, Procedure.run_bind_of_ok (run_statement isOpen),
    Procedure.run_transaction, storeResult,
    Procedure.run_bind_of_ok (run_updateJob isOpen jobId _), storeResult_eq]
  cases bundled? msg with
  | none => rfl
  | some bundle =>
    dsimp only
    rw [run_storeReceipt (by exact isOpen)]
    unfold completed
    dsimp only
    generalize storeReceipt env id bundle.1 (some bundle.2) worker.pubkey _
      server.hub.receipts = stored
    cases stored <;> rfl

theorem run_handleJobComplete (isOpen : server.databaseOpen = true) (now : Nat)
    (id : Uuid) (msg : Json Number) :
    (handleJobComplete env now id msg).run server =
      server.finish (Listener.handleJobComplete env now id msg server.hub) := by
  rw [handleJobComplete, Procedure.run_read_bind]
  unfold Listener.handleJobComplete
  cases server.hub.findByActiveJob (msg.get? "job_id") with
  | none => rfl
  | some entry =>
    rcases entry with ⟨workerId, worker⟩
    dsimp only
    cases worker.activeJobId with
    | none => rfl
    | some jobId =>
      dsimp only
      split
      · rw [resetWorker, run_updateHub_bind, run_reward]
        rfl
      · rw [Procedure.run_bind, run_transaction isOpen]
        cases Listener.storeResult env now id jobId msg worker
            server.hub with
        | error error => rfl
        | ok hub =>
          dsimp only
          rw [Procedure.run_bind_of_ok (run_reward env worker jobId)]
          rfl

omit [SqlNumber Number] in
theorem run_log (value : Option (Json Number)) :
    (log value).run server =
      match Json.displayProperty? value with
      | some _ => (.ok (), server)
      | none => (.error (.thrown .typeError), server) := by
  unfold log
  cases Json.displayProperty? value <;> rfl

theorem run_handleReceiptSubmit (isOpen : server.databaseOpen = true)
    (id : Uuid) (msg : Json Number) :
    (handleReceiptSubmit env id msg).run server =
      server.finish (Listener.handleReceiptSubmit env id msg server.hub) := by
  unfold handleReceiptSubmit Listener.handleReceiptSubmit
  cases submitted? msg with
  | none => rfl
  | some receipt =>
    dsimp only
    rw [Procedure.run_read_bind, run_storeReceipt isOpen]
    cases storeReceipt env id receipt (msg.get? "signature")
      (submitterKey receipt server.hub) server.hub.jobs
      server.hub.receipts <;> rfl

end Open

end Dispatch.Coordinator.Server
