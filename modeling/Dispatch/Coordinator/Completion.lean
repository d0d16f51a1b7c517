import Dispatch.Coordinator.ServerEffects
import Dispatch.Coordinator.Exceptions

/-! # Completion

A `job_complete` frame for a job with a row is handled as a whole or not at
all.
-/

namespace Dispatch.Coordinator.Server

open Sqlite Listener

section Completion

variable {Number : Type}

/-! ## Active jobs have rows -/

def ActiveRows (server : Server Number) : Prop :=
  ∀ workerId worker jobId, server.hub.workers.get? workerId = some worker →
    worker.activeJobId = some jobId →
    isDemoJob jobId = true ∨ ∃ row, server.hub.jobs.get? jobId = some row

theorem ActiveRows.withJob {server : Server Number} (rows : ActiveRows server)
    (jobId : String) (row : JobRow) :
    ActiveRows (server.withJob jobId row) := by
  intro workerId worker other tracked active
  refine (rows _ _ _ tracked active).imp_right fun ⟨stored, found⟩ => ?_
  rw [withJob_get?]
  split
  · exact ⟨row, rfl⟩
  · exact ⟨stored, found⟩

theorem ActiveRows.continues {Known : String → RawRequest Number → Prop}
    {before after : Server Number} (rows : ActiveRows before)
    (continues : Continues Known before after) : ActiveRows after := by
  intro workerId worker jobId tracked active
  have kept := continues.hub.exists_row jobId
  rcases continues.hub.active tracked active with
    demo | row | ⟨earlier, found, held⟩
  · exact .inl demo
  · exact .inr (kept.mpr row)
  · exact (rows _ _ _ found held).imp_right kept.mpr

variable [JsNumber Number] [SqlNumber Number] {env : RawEnvironment Number}

theorem activeRows {server : Server Number}
    (reachable : (machine env).Reachable server) : ActiveRows server := by
  refine reachable.invariant ActiveRows ?_ ?_
  · intro workerId worker jobId tracked
    cases tracked
  · intro server input _ rows _
    have issued : ActiveRows (server.issue input.uuid) := rows
    rcases step_continues env server input with
      continues | ⟨tier, body, request, row, _, _, _, _, continues⟩
    · exact issued.continues continues
    · exact (issued.withJob input.uuid.text row).continues continues

/-! ## One completion -/

structure Columns (env : RawEnvironment Number) (receipt : Json Number)
    (signature pubkey : Option (Json Number)) (row : ReceiptRow) : Prop where
  bound : bindParameters 4 (receiptArguments receipt signature) =
    .ok [.text row.jobId, .text row.providerPubkey, .text row.receiptJson,
      .text row.signature]
  verified : verifyReceiptSignature env receipt signature pubkey =
    .ok row.verified

theorem columns_of_storeReceipt {id : Uuid} {receipt : Json Number}
    {signature pubkey : Option (Json Number)} {jobs : OrderedMap String JobRow}
    {receipts inserted : OrderedMap String ReceiptRow}
    (stored : storeReceipt env id receipt signature pubkey jobs receipts =
      .ok inserted) :
    ∃ row, Columns env receipt signature pubkey row ∧
      (∃ job, jobs.get? row.jobId = some job) ∧
      receipts.get? id.text = none ∧ inserted = receipts.set id.text row := by
  unfold storeReceipt at stored
  cases verifies : verifyReceiptSignature env receipt signature pubkey with
  | error error => rw [verifies] at stored; cases stored
  | ok verified =>
    rw [verifies] at stored
    change Listener.insertReceipt _ _ _ _ _ _ = _ at stored
    unfold Listener.insertReceipt at stored
    split at stored
    · cases stored
    · next bound =>
        split at stored
        · cases stored
        · next job referenced =>
            split at stored
            · cases stored
            · next added =>
                cases stored
                rcases OrderedMap.insert?_eq_some added with ⟨fresh, rfl⟩
                exact ⟨_, ⟨bound, verifies⟩, ⟨job, referenced⟩, fresh, rfl⟩
    · cases stored

structure Receipted (env : RawEnvironment Number)
    (jobs : OrderedMap String JobRow)
    (pubkey : Option (Json Number)) (receipt signature : Json Number)
    (row : ReceiptRow) : Prop where
  bound : bindParameters 4 (receiptArguments receipt (some signature)) =
    .ok [.text row.jobId, .text row.providerPubkey, .text row.receiptJson,
      .text row.signature]
  verified : verifyReceiptSignature env receipt (some signature) pubkey =
    .ok row.verified
  references : ∃ job, jobs.get? row.jobId = some job

theorem receipted_of_storeReceipt {id : Uuid} {receipt signature : Json Number}
    {pubkey : Option (Json Number)} {jobs : OrderedMap String JobRow}
    {receipts inserted : OrderedMap String ReceiptRow} {jobId : String}
    {change : JobRow → JobRow}
    (stored : storeReceipt env id receipt (some signature) pubkey
      (jobs.modify jobId change) receipts = .ok inserted) :
    ∃ row, Receipted env jobs pubkey receipt signature row ∧
      receipts.get? id.text = none ∧ inserted = receipts.set id.text row := by
  rcases columns_of_storeReceipt stored with
    ⟨row, columns, ⟨job, referenced⟩, added⟩
  refine ⟨row, ⟨columns.bound, columns.verified, ?_⟩, added⟩
  -- The update before the insertion has added no row.
  rw [OrderedMap.get?_modify] at referenced
  split at referenced
  · rcases Option.map_eq_some_iff.mp referenced with ⟨old, earlier, _⟩
    exact ⟨old, earlier⟩
  · exact ⟨job, referenced⟩

theorem storeResult_tables {now : Nat} {id : Uuid} {jobId : String}
    {msg : Json Number} {worker : RawWorker Number} {hub next : Hub Number}
    (written : Listener.storeResult env now id jobId msg worker hub =
      .ok next) :
    ∃ receipts, next = { hub with
        jobs := hub.jobs.modify jobId (completed now msg)
        receipts := receipts } ∧
      match bundled? msg with
      | none => receipts = hub.receipts
      | some (receipt, signature) =>
        storeReceipt env id receipt (some signature) worker.pubkey
          (hub.jobs.modify jobId (completed now msg)) hub.receipts =
            .ok receipts := by
  rw [storeResult_eq] at written
  cases bundle : bundled? msg with
  | none =>
    rw [bundle] at written
    cases written
    exact ⟨hub.receipts, rfl, rfl⟩
  | some pair =>
    rw [bundle] at written
    dsimp only at written
    split at written
    · cases written
    · next receipts inserted =>
        cases written
        exact ⟨receipts, rfl, inserted⟩

structure Completed (env : RawEnvironment Number) (now : Nat) (id : Uuid)
    (msg : Json Number) (workerId : String) (worker : RawWorker Number)
    (jobId : String) (before after : Hub Number) : Prop where
  row : ∃ row, before.jobs.get? jobId = some row ∧
    after.jobs.get? jobId = some { row with
      status := .completed
      result := (msg.get? "output").map Json.stringify
      completedAt := some now }
  rows : ∀ other, other ≠ jobId →
    after.jobs.get? other = before.jobs.get? other
  receipt : match bundled? msg with
    | none => after.receipts = before.receipts
    | some (receipt, signature) => ∃ row,
        Receipted env before.jobs worker.pubkey receipt signature row ∧
        before.receipts.get? id.text = none ∧
        after.receipts = before.receipts.set id.text row
  calls : after.calls = before.calls ++
    (if env.postFeedback then [.postFeedback worker.pubkey jobId] else []) ++
    (if env.boltDistributor then
      [.queueBoltPayout worker.pubkey jobId WorkerHub.jobPayout] else []) ++
    (if env.wrappedBoltDistributor then
      [.queueWrappedBoltPayout worker.pubkey jobId WorkerHub.jobPayout]
    else [])
  worker : after.workers.get? workerId =
    some { worker with status := .idle, activeJobId := none }
  workers : ∀ other, other ≠ workerId →
    after.workers.get? other = before.workers.get? other
  others : after.connections = before.connections ∧
    after.trustPairings = before.trustPairings ∧ after.sent = before.sent

theorem Completed.of_storeResult {now : Nat} {id : Uuid} {msg : Json Number}
    {workerId : String} {worker : RawWorker Number} {jobId : String}
    {row : JobRow} {hub next : Hub Number}
    (tracked : hub.workers.get? workerId = some worker)
    (stored : hub.jobs.get? jobId = some row)
    (written : Listener.storeResult env now id jobId msg worker hub =
      .ok next) :
    Completed env now id msg workerId worker jobId hub
      ((Listener.reward env worker jobId next).resetWorker workerId) := by
  rcases storeResult_tables written with ⟨receipts, rfl, inserted⟩
  have receipt : match bundled? msg with
      | none => receipts = hub.receipts
      | some (receipt, signature) => ∃ row,
          Receipted env hub.jobs worker.pubkey receipt signature row ∧
          hub.receipts.get? id.text = none ∧
          receipts = hub.receipts.set id.text row := by
    cases bundle : bundled? msg with
    | none =>
      rw [bundle] at inserted
      exact inserted
    | some pair =>
      rw [bundle] at inserted
      exact receipted_of_storeReceipt inserted
  refine ⟨⟨row, stored, ?_⟩, ?_, receipt, rfl, ?_, ?_, rfl, rfl, rfl⟩
  · exact (hub.jobs.get?_modify ..).trans (by rw [if_pos rfl, stored]; rfl)
  · intro other different
    exact (hub.jobs.get?_modify ..).trans (if_neg different)
  · exact (hub.workers.get?_modify ..).trans (by rw [if_pos rfl, tracked]; rfl)
  · intro other different
    exact (hub.workers.get?_modify ..).trans (if_neg different)

section Frame

variable {server : Server Number} {input : Input Number} {msg : Json Number}

theorem outcome_jobComplete {ws : SocketId} {text : String}
    (framed : input.event = .frame ws text)
    (parsed : Json.parse text = some msg)
    (typed : messageType? msg = some .jobComplete) :
    outcome env server input =
      (handleJobComplete env input.now input.uuid msg).run
        (server.issue input.uuid) := by
  unfold outcome handle
  rw [framed]
  dsimp only
  rw [onMessage, parsed]
  cases msg with
  | null => cases typed
  | _ =>
    dsimp only
    rw [handleMessage, typed]

variable {now : Nat} {id : Uuid} {workerId jobId : String}
  {worker : RawWorker Number}

theorem handleJobComplete_closed (closed : server.databaseOpen = false)
    (found : server.hub.findByActiveJob (msg.get? "job_id") =
      some (workerId, worker))
    (active : worker.activeJobId = some jobId)
    (demoless : ¬ isDemoJob jobId = true) :
    (handleJobComplete env now id msg).run server =
      (.error .notOpen, { server with misused := true }) := by
  have throws : (transaction (storeResult env now id jobId msg worker)).run
      server = (.error .notOpen, { server with misused := true }) :=
    Procedure.run_bind_of_error (run_statement_closed closed)
  rw [handleJobComplete, Procedure.run_read_bind, found]
  dsimp only
  rw [active]
  dsimp only
  rw [if_neg demoless, Procedure.run_bind_of_error throws]

end Frame

/-- The frame is handled as a whole, or not at all. -/
theorem jobComplete_all_or_nothing {server : Server Number}
    (reachable : (machine env).Reachable server) {input : Input Number}
    {ws : SocketId} {text : String} {msg : Json Number} {workerId : String}
    {worker : RawWorker Number} {jobId : String}
    (framed : input.event = .frame ws text)
    (parsed : Json.parse text = some msg)
    (typed : messageType? msg = some .jobComplete)
    (found : server.hub.findByActiveJob (msg.get? "job_id") =
      some (workerId, worker))
    (active : worker.activeJobId = some jobId)
    (real : isDemoJob jobId = false) :
    ((outcome env server input).1 = .ok () ∧
      Completed env input.now input.uuid msg workerId worker jobId server.hub
        (outcome env server input).2.hub) ∨
    ∃ failure, (outcome env server input).1 = .error failure ∧
      (outcome env server input).2.hub = server.hub := by
  have demoless : ¬ isDemoJob jobId = true := by
    rw [real]
    exact Bool.false_ne_true
  have same : (server.issue input.uuid).hub = server.hub := rfl
  rw [outcome_jobComplete framed parsed typed]
  by_cases isOpen : server.databaseOpen = true
  · have tracked := (OrderedMap.get?_of_find? found).1
    have row := (activeRows reachable _ _ _ tracked active).resolve_left
      demoless
    rcases row with ⟨row, stored⟩
    rw [run_handleJobComplete (by exact isOpen), same,
      Listener.handleJobComplete, found]
    dsimp only
    rw [active]
    dsimp only
    rw [if_neg demoless]
    cases written : Listener.storeResult env input.now input.uuid jobId msg
        worker server.hub with
    | error error => exact .inr ⟨.thrown error, rfl, rfl⟩
    | ok next => exact .inl ⟨rfl, .of_storeResult tracked stored written⟩
  · have closed : (server.issue input.uuid).databaseOpen = false :=
      Bool.eq_false_of_not_eq_true isOpen
    rw [handleJobComplete_closed closed found active demoless]
    exact .inr ⟨.notOpen, rfl, rfl⟩

end Completion

namespace Sample

def at0 (uuid : Uuid) (event : Event Empty) : Input Empty :=
  { now := 0, uuid := uuid, event := event }

def body (others : JsonMembers Empty) : Json Empty :=
  .object (.cons "job_type" (.string "TASK") (.cons "payload" (.object .nil)
    (.cons "user_id" (.string "user") others)))

def matching : List (Input Empty) :=
  [at0 Coordinator.Sample.extraUuid (.connect 0),
    at0 Coordinator.Sample.workerUuid (.frame 0 Listener.Sample.registration),
    at0 Coordinator.Sample.jobUuid (.commit .fast (some (body .nil)))]

def matched : Server Empty :=
  (machine Listener.Sample.environment).exec initial matching

def message : Json Empty :=
  .object (.cons "type" (.string "job_complete")
    (.cons "output" (.string "done")
    (.cons "job_id" (.string Coordinator.Sample.jobUuid.text) .nil)))

theorem message_normal : message.Normal :=
  ⟨by unfold Properties.Ordered; decide +kernel, trivial, trivial, trivial,
    trivial⟩

theorem matched_holds :
    (machine Listener.Sample.environment).Steps
        (machine Listener.Sample.environment).Enabled initial matching ∧
      (matched.hub.findByActiveJob (message.get? "job_id")).bind
        (fun entry => entry.2.activeJobId) =
        some Coordinator.Sample.jobUuid.text := by
  decide +kernel

theorem matched_reachable :
    (machine Listener.Sample.environment).Reachable matched :=
  ⟨matching, .of_steps matched_holds.1⟩

def completes : Input Empty :=
  at0 Coordinator.Sample.otherUuid (.frame 0 message.stringify)

end Sample

theorem jobComplete_all_or_nothing_matched : ∃ workerId worker,
    ((outcome Listener.Sample.environment Sample.matched
        Sample.completes).1 = .ok () ∧
      Completed Listener.Sample.environment 0 Coordinator.Sample.otherUuid
        Sample.message workerId worker Coordinator.Sample.jobUuid.text
        Sample.matched.hub
        (outcome Listener.Sample.environment Sample.matched
          Sample.completes).2.hub) ∨
    ∃ failure,
      (outcome Listener.Sample.environment Sample.matched
        Sample.completes).1 = .error failure ∧
      (outcome Listener.Sample.environment Sample.matched
        Sample.completes).2.hub = Sample.matched.hub := by
  rcases Option.bind_eq_some_iff.mp Sample.matched_holds.2 with
    ⟨⟨workerId, worker⟩, found, active⟩
  exact ⟨workerId, worker, jobComplete_all_or_nothing
    Sample.matched_reachable rfl
    (Json.parse_stringify _ Sample.message_normal) (by decide +kernel) found
    active (by decide +kernel)⟩

end Dispatch.Coordinator.Server
