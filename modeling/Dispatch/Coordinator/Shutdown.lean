import Dispatch.Coordinator.Completion

/-! # After the shutdown

`shutdown` closes the database.
-/

namespace Dispatch.Coordinator.Server

open Sqlite Listener

section Definitions

variable {Number : Type} [JsNumber Number]

def Quiet (ends : Except Failure Unit × Server Number) : Prop :=
  ends.1 = .ok () ∧ ends.2.misused = false

def handlesClosed (hub : Hub Number) (msg : Json Number) : Bool :=
  match messageType? msg with
  | none => isPrintable (msg.get? "type")
  | some .register =>
    isPrintable (msg.get? "provider_type") &&
      (slicedKey? (msg.get? "provider_pubkey")).isSome
  | some .heartbeat => true
  | some .jobComplete =>
    match hub.findByActiveJob (msg.get? "job_id") with
    | none => true
    | some (_, worker) => worker.activeJobId.any isDemoJob
  | some .jobReject =>
    match hub.findByActiveJob (msg.get? "job_id") with
    | none => true
    | some (_, worker) =>
      worker.activeJobId.any isDemoJob && isPrintable (msg.get? "reason")
  | some .receiptSubmit => false

def admitsClosed (hub : Hub Number) (text : String) : Bool :=
  match (Json.parse text : Option (Json Number)) with
  | none => true
  | some .null => false
  | some msg => handlesClosed hub msg

def isFree (worker : RawWorker Number) : Bool :=
  (worker.activeJobId.filter (· ≠ "")).all isDemoJob

def Harmless (server : Server Number) : Event Number → Prop
  | .retryTick _ => False
  | .frame _ text => admitsClosed server.hub text = true
  | .close ws =>
    ((server.hub.connections.get? ws).bind Connection.workerId).all
      (fun workerId => (server.hub.workers.get? workerId).all isFree) = true
  | _ => True

instance (server : Server Number) : DecidablePred server.Harmless
  | .retryTick _ => .isFalse id
  | .frame _ _ | .close _ => inferInstanceAs (Decidable (_ = true))
  | .connect _ | .closing _ | .pruneStale | .commit _ _ | .trust _
  | .demoStart | .demoStop | .demoTick _ | .reputationFetched _ _
  | .stakeFetched _ _ | .shutdown => .isTrue trivial

end Definitions

section Closed

variable {Number : Type} {server : Server Number}

theorem quiet_ok_iff (unused : server.misused = false) {condition : Prop}
    (holds : condition) :
    Quiet ((.ok (), server) : Except Failure Unit × Server Number) ↔
      condition :=
  iff_of_true ⟨rfl, unused⟩ holds

theorem quiet_error_iff {failure : Failure} {condition : Prop}
    (fails : ¬ condition) :
    Quiet ((.error failure, server) : Except Failure Unit × Server Number) ↔
      condition := by
  refine iff_of_false ?_ fails
  rintro ⟨returned, _⟩
  cases returned

theorem not_quiet_of_error {handler : Action Number Unit} {failure : Failure}
    {next : Server Number}
    (throws : handler.run server = (.error failure, next)) :
    ¬ Quiet (handler.run server) := by
  rw [throws, quiet_error_iff not_false]
  exact not_false

theorem run_updateJob_closed (closed : server.databaseOpen = false)
    (jobId : String) (change : JobRow → JobRow) :
    (updateJob jobId change).run server =
      (.error .notOpen, { server with misused := true }) :=
  Procedure.run_bind_of_error (run_statement_closed closed)

theorem quiet_handleDisconnect_iff (closed : server.databaseOpen = false)
    (unused : server.misused = false) (workerId : String) :
    Quiet ((handleDisconnect workerId).run server) ↔
      (server.hub.workers.get? workerId).all isFree = true := by
  rw [handleDisconnect, Procedure.run_read_bind]
  cases server.hub.workers.get? workerId with
  | none => exact quiet_ok_iff unused rfl
  | some worker =>
    rw [Option.all_some]
    unfold isFree
    dsimp only
    cases worker.activeJobId.filter (· ≠ "") with
    | none => exact quiet_ok_iff unused rfl
    | some jobId =>
      rw [Option.all_some]
      dsimp only
      split
      · next demo => exact quiet_ok_iff unused demo
      · next real =>
          rw [Procedure.run_bind_of_error
            (run_updateJob_closed closed jobId _)]
          exact quiet_error_iff real

theorem quiet_onClose_iff (closed : server.databaseOpen = false)
    (unused : server.misused = false) (ws : SocketId) :
    Quiet ((onClose ws).run server) ↔
      ((server.hub.connections.get? ws).bind Connection.workerId).all
        (fun workerId =>
          (server.hub.workers.get? workerId).all isFree) = true := by
  rw [onClose, Procedure.run_read_bind, run_updateHub_bind]
  cases (server.hub.connections.get? ws).bind Connection.workerId with
  | none => exact quiet_ok_iff unused rfl
  | some workerId =>
    rw [Option.all_some]
    exact quiet_handleDisconnect_iff (by exact closed) (by exact unused)
      workerId

theorem quiet_demoTick (unused : server.misused = false) (id : Uuid)
    (choice : DemoChoice) : Quiet ((demoTick id choice).run server) := by
  rw [demoTick, Procedure.run_read_bind]
  dsimp only
  split
  · split
    · rw [run_updateHub_bind, assignJob, run_updateHub_bind,
        Procedure.run_update]
      refine ⟨rfl, ?_⟩
      dsimp only
      split
      · exact unused
      · exact unused
    · exact ⟨rfl, unused⟩
  · exact ⟨rfl, unused⟩

theorem quiet_finish_iff (unused : server.misused = false)
    (outcome : Listener.Outcome Number) :
    Quiet (server.finish outcome) ↔ outcome.thrown = none := by
  unfold finish
  cases outcome.thrown with
  | none => exact quiet_ok_iff unused rfl
  | some error => exact quiet_error_iff (Option.some_ne_none error)

theorem not_quiet_retryTick (closed : server.databaseOpen = false) (now : Nat)
    {jobId : String} (set : jobId ∈ server.intervals.keys) [JsNumber Number]
    [SqlNumber Number] : ¬ Quiet ((retryTick now jobId).run server) := by
  rcases (server.intervals.mem_keys_iff jobId).mp set with ⟨interval, found⟩
  rw [retryTick, Procedure.run_read_bind, found]
  dsimp only
  rw [Procedure.run_update_bind]
  exact not_quiet_of_error
    (Procedure.run_bind_of_error (run_statement_closed (by exact closed)))

variable [JsNumber Number]

theorem quiet_log_iff (unused : server.misused = false)
    (value : Option (Json Number)) :
    Quiet ((log value).run server) ↔ isPrintable value = true := by
  rw [run_log]
  unfold isPrintable
  cases Json.displayProperty? value with
  | none => exact quiet_error_iff Bool.false_ne_true
  | some text => exact quiet_ok_iff unused rfl

theorem quiet_handleJobReject_iff (closed : server.databaseOpen = false)
    (unused : server.misused = false) (msg : Json Number) :
    Quiet ((handleJobReject msg).run server) ↔
      (match server.hub.findByActiveJob (msg.get? "job_id") with
        | none => true
        | some (_, worker) => worker.activeJobId.any isDemoJob &&
            isPrintable (msg.get? "reason")) = true := by
  rw [handleJobReject, Procedure.run_read_bind]
  cases server.hub.findByActiveJob (msg.get? "job_id") with
  | none => exact quiet_ok_iff unused rfl
  | some entry =>
    dsimp only
    cases entry.2.activeJobId with
    | none => exact quiet_error_iff Bool.false_ne_true
    | some jobId =>
      rw [Option.any_some]
      dsimp only
      split
      · next demo =>
          rw [demo, Bool.true_and, resetWorker, run_updateHub_bind]
          exact quiet_log_iff (by exact unused) _
      · next real =>
          rw [Bool.eq_false_of_not_eq_true real, Bool.false_and,
            Procedure.run_bind_of_error
              (run_updateJob_closed closed jobId _)]
          exact quiet_error_iff Bool.false_ne_true

variable [SqlNumber Number] {env : RawEnvironment Number}

theorem quiet_handleJobComplete_iff (closed : server.databaseOpen = false)
    (unused : server.misused = false) (now : Nat) (id : Uuid)
    (msg : Json Number) :
    Quiet ((handleJobComplete env now id msg).run server) ↔
      (match server.hub.findByActiveJob (msg.get? "job_id") with
        | none => true
        | some (_, worker) => worker.activeJobId.any isDemoJob) = true := by
  rw [handleJobComplete, Procedure.run_read_bind]
  cases server.hub.findByActiveJob (msg.get? "job_id") with
  | none => exact quiet_ok_iff unused rfl
  | some entry =>
    dsimp only
    cases entry.2.activeJobId with
    | none => exact quiet_error_iff Bool.false_ne_true
    | some jobId =>
      rw [Option.any_some]
      dsimp only
      split
      · next demo =>
          rw [resetWorker, run_updateHub_bind, run_reward]
          exact quiet_ok_iff unused demo
      · next real =>
          rw [transaction, Procedure.run_bind_of_error
            (Procedure.run_bind_of_error (run_statement_closed closed))]
          exact quiet_error_iff real

theorem not_quiet_handleReceiptSubmit (closed : server.databaseOpen = false)
    (id : Uuid) (msg : Json Number) :
    ¬ Quiet ((handleReceiptSubmit env id msg).run server) := by
  unfold handleReceiptSubmit
  cases submitted? msg with
  | none => exact not_quiet_of_error rfl
  | some receipt =>
    dsimp only
    rw [Procedure.run_read_bind]
    cases verifyReceiptSignature env receipt (msg.get? "signature")
        (submitterKey receipt server.hub) with
    | error error => exact not_quiet_of_error rfl
    | ok verified =>
      have returned :
          (attempt (.ok verified) : Action Number Bool).run server =
            (.ok verified, server) := rfl
      rw [Procedure.run_bind_of_ok returned]
      exact not_quiet_of_error
        (Procedure.run_bind_of_error (run_statement_closed closed))

theorem quiet_handleMessage_iff (closed : server.databaseOpen = false)
    (unused : server.misused = false) (now : Nat) (id : Uuid) (ws : SocketId)
    (msg : Json Number) :
    Quiet ((handleMessage env now id ws msg).run server) ↔
      handlesClosed server.hub msg = true := by
  unfold handleMessage handlesClosed
  cases messageType? msg with
  | none =>
    unfold isPrintable
    dsimp only
    cases Json.displayProperty? (msg.get? "type") with
    | none => exact quiet_error_iff Bool.false_ne_true
    | some text => exact quiet_ok_iff unused rfl
  | some type =>
    cases type with
    | register =>
      exact (quiet_finish_iff unused _).trans
        (handleRegister_returns now ws msg)
    | heartbeat =>
      refine (quiet_finish_iff unused _).trans ?_
      unfold handleHeartbeat
      split <;> exact ⟨fun _ => rfl, fun _ => rfl⟩
    | jobComplete =>
      exact quiet_handleJobComplete_iff closed unused now id msg
    | jobReject => exact quiet_handleJobReject_iff closed unused msg
    | receiptSubmit =>
      exact ⟨fun quiet =>
        absurd quiet (not_quiet_handleReceiptSubmit closed id msg), nofun⟩

end Closed

/-! ## Runs after the shutdown -/

section Runs

variable {Number : Type} [JsNumber Number] [SqlNumber Number]
  {env : RawEnvironment Number}

structure Down (server : Server Number) : Prop where
  databaseOpen : server.databaseOpen = false
  listening : server.listening = false
  heartbeatCheck : server.heartbeatCheck = false

theorem quiet_outcome_iff {server : Server Number} (down : Down server)
    (unused : server.misused = false) {input : Input Number}
    (enabled : server.Enabled input) :
    Quiet (outcome env server input) ↔ Harmless server input.event := by
  have offered := enabled.2
  have quietly : ∀ next : Server Number, next.misused = server.misused →
      (Quiet (.ok (), next) ↔ True) := fun _ same =>
    ⟨fun _ => trivial, fun _ => ⟨rfl, same.trans unused⟩⟩
  have refused : server.listening = true → False := fun listens =>
    nomatch down.listening.symm.trans listens
  unfold outcome handle Harmless
  cases event : input.event with
  | frame ws text =>
    dsimp only
    unfold onMessage admitsClosed
    cases (Json.parse text : Option (Json Number)) with
    | none => exact quiet_ok_iff unused rfl
    | some msg =>
      have handled : Quiet ((handleMessage env input.now input.uuid ws
          msg).run (server.issue input.uuid)) ↔
            handlesClosed server.hub msg = true :=
        quiet_handleMessage_iff (by exact down.databaseOpen)
          (by exact unused) input.now input.uuid ws msg
      cases msg with
      | null => exact quiet_error_iff Bool.false_ne_true
      | _ => exact handled
  | close ws =>
    exact quiet_onClose_iff (by exact down.databaseOpen) (by exact unused) ws
  | retryTick jobId =>
    rw [event] at offered
    exact ⟨not_quiet_retryTick (by exact down.databaseOpen) _
      (by exact offered), False.elim⟩
  | demoTick choice =>
    exact ⟨fun _ => trivial, fun _ => quiet_demoTick (by exact unused) _ _⟩
  | connect ws =>
    rw [event] at offered
    exact (refused offered.1).elim
  | commit tier body | trust request | demoStart | demoStop =>
    rw [event] at offered
    exact (refused offered).elim
  | pruneStale =>
    rw [event] at offered
    exact nomatch down.heartbeatCheck.symm.trans offered
  | closing ws | reputationFetched workerId score | stakeFetched workerId tier
  | shutdown => exact quietly _ rfl

theorem Down.step {server : Server Number} (down : Down server)
    (input : Input Number) : Down ((machine env).step server input) := by
  have runs := step_runs env server input
  refine ⟨?_, ?_, ?_⟩
  · refine Bool.eq_false_of_not_eq_true fun isOpen => ?_
    exact nomatch down.databaseOpen.symm.trans (runs.databaseOpen isOpen)
  · refine Bool.eq_false_of_not_eq_true fun listens => ?_
    exact nomatch down.listening.symm.trans (runs.listening listens)
  · refine Bool.eq_false_of_not_eq_true fun checks => ?_
    exact nomatch down.heartbeatCheck.symm.trans (runs.heartbeatCheck checks)

theorem unused_of_open {server : Server Number}
    (reachable : (machine env).Reachable server) :
    server.databaseOpen = true → server.misused = false := by
  refine reachable.invariant
    (fun server => server.databaseOpen = true → server.misused = false)
    (fun _ => rfl) ?_
  intro server input _ unused _ isOpen
  have runs := step_runs env server input
  exact (runs.misused isOpen).trans (unused (runs.databaseOpen isOpen))

theorem Down.quiet_iff {start final : Server Number}
    {events : List (Input Number)} (run : (machine env).Run start events final)
    (down : Down start) (unused : start.misused = false) :
    (machine env).Steps (fun server input => Quiet (outcome env server input))
        start events ↔
      (machine env).Steps (fun server input => Harmless server input.event)
        start events := by
  induction run with
  | nil => exact Iff.rfl
  | @cons start final input events enabled rest induction =>
    have here : Quiet (outcome env start input) ↔ _ :=
      quiet_outcome_iff down unused enabled
    constructor
    · rintro ⟨quiet, later⟩
      exact ⟨here.mp quiet, (induction (down.step input) quiet.2).mp later⟩
    · rintro ⟨harmless, later⟩
      have quiet := here.mpr harmless
      exact ⟨quiet, (induction (down.step input) quiet.2).mpr later⟩

/-- After a shutdown, in whatever order events are handled, all of them are
handled quietly exactly if each of them is harmless. -/
theorem quiet_after_shutdown_iff {server : Server Number}
    (reachable : (machine env).Reachable server)
    (running : server.databaseOpen = true) {input : Input Number}
    (stops : input.event = .shutdown) {events : List (Input Number)}
    {final : Server Number}
    (run : (machine env).Run ((machine env).step server input) events final) :
    (machine env).Steps (fun server input => Quiet (outcome env server input))
        ((machine env).step server input) events ↔
      (machine env).Steps (fun server input => Harmless server input.event)
        ((machine env).step server input) events := by
  have stopped : (machine env).step server input =
      { server.issue input.uuid with
        demoActive := false
        heartbeatCheck := false
        listening := false
        databaseOpen := false } := by
    change ((handle env input).run _).2 = _
    rw [handle, stops]
    rfl
  refine Down.quiet_iff run ?_ ?_
  · rw [stopped]
    exact ⟨rfl, rfl, rfl⟩
  · have unused := unused_of_open reachable running
    rw [stopped]
    exact unused

end Runs

namespace Sample

def waiting : List (Input Empty) :=
  [at0 Coordinator.Sample.extraUuid (.connect 0),
    at0 Coordinator.Sample.jobUuid (.commit .fast (some (body .nil)))]

def stop : Input Empty := at0 Coordinator.Sample.lastUuid .shutdown

theorem waiting_reachable :
    (machine Listener.Sample.environment).Reachable
      ((machine Listener.Sample.environment).exec initial waiting) :=
  .of_steps (by decide +kernel)

def stopped : Server Empty :=
  (machine Listener.Sample.environment).exec initial (waiting ++ [stop])

end Sample

theorem quiet_after_shutdown_close :
    (machine Listener.Sample.environment).Steps
      (fun server input =>
        Quiet (outcome Listener.Sample.environment server input))
      Sample.stopped
      [Sample.at0 Coordinator.Sample.otherUuid (.close 0)] :=
  (quiet_after_shutdown_iff Sample.waiting_reachable (by decide +kernel) rfl
    (.of_steps (by decide +kernel))).mpr ⟨by decide +kernel, trivial⟩

theorem retry_after_shutdown :
    (machine Listener.Sample.environment).Steps
        (machine Listener.Sample.environment).Enabled initial
        (Sample.waiting ++ [Sample.stop, Sample.at0
          Coordinator.Sample.otherUuid
          (.retryTick Coordinator.Sample.jobUuid.text)]) ∧
      (outcome Listener.Sample.environment Sample.stopped
        (Sample.at0 Coordinator.Sample.otherUuid
          (.retryTick Coordinator.Sample.jobUuid.text))).1 =
        .error .notOpen ∧
      (outcome Listener.Sample.environment Sample.stopped
        (Sample.at0 Coordinator.Sample.otherUuid
          (.retryTick Coordinator.Sample.jobUuid.text))).2.misused = true := by
  exact ⟨by decide +kernel, by decide +kernel, by decide +kernel⟩

end Dispatch.Coordinator.Server
