import Dispatch.Coordinator.ServerListener

/-! # What the handlers of the server leave alone

Rows are added by `insertJob` and by nothing else, and what a row says was
asked for does not change.
-/

namespace Dispatch.Coordinator.Server

open Sqlite Listener

section Relations

variable {Number : Type}

structure HubContinues (before after : Hub Number) : Prop where
  active : ∀ {workerId worker jobId},
    after.workers.get? workerId = some worker →
    worker.activeJobId = some jobId →
    isDemoJob jobId = true ∨
      (∃ row, before.jobs.get? jobId = some row) ∨
      ∃ earlier, before.workers.get? workerId = some earlier ∧
        earlier.activeJobId = some jobId
  rows : ∀ jobId, (after.jobs.get? jobId).map JobRow.request =
    (before.jobs.get? jobId).map JobRow.request

namespace HubContinues

variable {before after : Hub Number}

theorem exists_row (continues : HubContinues before after) (jobId : String) :
    (∃ row, after.jobs.get? jobId = some row) ↔
      ∃ row, before.jobs.get? jobId = some row := by
  have same := continues.rows jobId
  constructor
  · rintro ⟨row, stored⟩
    rw [stored, Option.map_some, eq_comm, Option.map_eq_some_iff] at same
    rcases same with ⟨earlier, found, _⟩
    exact ⟨earlier, found⟩
  · rintro ⟨row, stored⟩
    rw [stored, Option.map_some, Option.map_eq_some_iff] at same
    rcases same with ⟨later, found, _⟩
    exact ⟨later, found⟩

theorem of_same (workers : after.workers = before.workers)
    (jobs : after.jobs = before.jobs) : HubContinues before after where
  active tracked active := by
    rw [workers] at tracked
    exact .inr (.inr ⟨_, tracked, active⟩)
  rows jobId := by rw [jobs]

theorem refl (hub : Hub Number) : HubContinues hub hub :=
  .of_same rfl rfl

theorem trans {first second third : Hub Number}
    (left : HubContinues first second) (right : HubContinues second third) :
    HubContinues first third where
  active tracked active := by
    rcases right.active tracked active with demo | row | ⟨earlier, found, held⟩
    · exact .inl demo
    · exact .inr (.inl ((left.exists_row _).mp row))
    · exact left.active found held
  rows jobId := (right.rows jobId).trans (left.rows jobId)

theorem updateWorker (hub : Hub Number) (workerId : String)
    {change : RawWorker Number → RawWorker Number}
    (same : ∀ worker, (change worker).activeJobId = worker.activeJobId ∨
      (change worker).activeJobId = none) :
    HubContinues hub (hub.updateWorker workerId change) where
  active {other worker jobId} tracked active := by
    rw [Hub.updateWorker, OrderedMap.get?_modify] at tracked
    split at tracked
    · rcases Option.map_eq_some_iff.mp tracked with ⟨earlier, found, changed⟩
      subst changed
      rcases same earlier with kept | lost
      · exact .inr (.inr ⟨earlier, found, kept.symm.trans active⟩)
      · rw [lost] at active
        cases active
    · exact .inr (.inr ⟨worker, tracked, active⟩)
  rows _ := rfl

theorem assignWorker (hub : Hub Number) (workerId : String) {jobId : String}
    (known : isDemoJob jobId = true ∨ ∃ row, hub.jobs.get? jobId = some row) :
    HubContinues hub (hub.updateWorker workerId fun worker =>
      { worker with activeJobId := some jobId }) where
  active {other worker given} tracked active := by
    rw [Hub.updateWorker, OrderedMap.get?_modify] at tracked
    split at tracked
    · rcases Option.map_eq_some_iff.mp tracked with ⟨earlier, _, changed⟩
      subst changed
      cases active
      rcases known with demo | row
      · exact .inl demo
      · exact .inr (.inl row)
    · exact .inr (.inr ⟨worker, tracked, active⟩)
  rows _ := rfl

theorem deleteWorker (hub : Hub Number) (workerId : String) :
    HubContinues hub
      { hub with workers := hub.workers.delete workerId } where
  active {other worker jobId} tracked active := by
    rw [OrderedMap.get?_delete] at tracked
    split at tracked
    · cases tracked
    · exact .inr (.inr ⟨worker, tracked, active⟩)
  rows _ := rfl

theorem setWorker (hub : Hub Number) (workerId : String)
    {worker : RawWorker Number} (jobless : worker.activeJobId = none) :
    HubContinues hub
      { hub with workers := hub.workers.set workerId worker } where
  active {other found jobId} tracked active := by
    rw [OrderedMap.get?_set] at tracked
    split at tracked
    · cases tracked
      rw [jobless] at active
      cases active
    · exact .inr (.inr ⟨found, tracked, active⟩)
  rows _ := rfl

theorem modifyJob (hub : Hub Number) (jobId : String)
    {change : JobRow → JobRow}
    (same : ∀ row, (change row).request = row.request) :
    HubContinues hub
      { hub with jobs := hub.jobs.modify jobId change } where
  active tracked active := .inr (.inr ⟨_, tracked, active⟩)
  rows other := by
    rw [OrderedMap.get?_modify]
    split
    · rw [Option.map_map]
      exact congrArg (Option.map · _) (funext same)
    · rfl

theorem send (hub : Hub Number) (ws : SocketId) (message : Outgoing) :
    HubContinues hub (hub.send ws message) := by
  unfold Hub.send
  split
  · exact .of_same rfl rfl
  · exact .refl hub

end HubContinues

structure Runs (before after : Server Number) : Prop where
  databaseOpen : after.databaseOpen = true → before.databaseOpen = true
  listening : after.listening = true → before.listening = true
  heartbeatCheck : after.heartbeatCheck = true → before.heartbeatCheck = true
  serves : after.listening = true → before.databaseOpen = true →
    after.databaseOpen = true
  misused : after.databaseOpen = true → after.misused = before.misused

theorem Runs.of_same {before after : Server Number}
    (databaseOpen : after.databaseOpen = before.databaseOpen)
    (listening : after.listening = before.listening)
    (heartbeatCheck : after.heartbeatCheck = before.heartbeatCheck)
    (misused : after.databaseOpen = true → after.misused = before.misused) :
    Runs before after where
  databaseOpen isOpen := databaseOpen.symm.trans isOpen
  listening listens := listening.symm.trans listens
  heartbeatCheck checks := heartbeatCheck.symm.trans checks
  serves _ isOpen := databaseOpen.trans isOpen
  misused := misused

theorem Runs.trans {first second third : Server Number}
    (left : Runs first second) (right : Runs second third) :
    Runs first third where
  databaseOpen isOpen := left.databaseOpen (right.databaseOpen isOpen)
  listening listens := left.listening (right.listening listens)
  heartbeatCheck checks := left.heartbeatCheck (right.heartbeatCheck checks)
  serves listens isOpen :=
    right.serves listens (left.serves (right.listening listens) isOpen)
  misused isOpen :=
    (right.misused isOpen).trans (left.misused (right.databaseOpen isOpen))

structure Continues (Known : String → RawRequest Number → Prop)
    (before after : Server Number) : Prop where
  hub : HubContinues before.hub after.hub
  intervals : ∀ {jobId interval}, after.intervals.get? jobId = some interval →
    Known jobId interval.request ∨
      ∃ earlier, before.intervals.get? jobId = some earlier ∧
        earlier.request = interval.request
  assigned : ∀ frame ∈ after.assigned,
    isDemoJob frame.jobId = true ∨ Known frame.jobId frame.request ∨
      frame ∈ before.assigned
  issued : after.issued = before.issued
  runs : Runs before after

namespace Continues

variable {Known : String → RawRequest Number → Prop} {start : Server Number}

theorem of_hub {before after : Server Number}
    (hub : HubContinues before.hub after.hub)
    (intervals : after.intervals = before.intervals)
    (assigned : after.assigned = before.assigned)
    (issued : after.issued = before.issued)
    (runs : Runs before after) :
    Continues Known before after where
  hub := hub
  intervals found := .inr ⟨_, intervals ▸ found, rfl⟩
  assigned _ member := .inr (.inr (assigned ▸ member))
  issued := issued
  runs := runs

theorem refl (server : Server Number) : Continues Known server server :=
  .of_hub (.refl server.hub) rfl rfl rfl (.of_same rfl rfl rfl fun _ => rfl)

theorem trans {first second third : Server Number}
    (left : Continues Known first second)
    (right : Continues Known second third) : Continues Known first third where
  hub := left.hub.trans right.hub
  intervals found := by
    rcases right.intervals found with known | ⟨earlier, stored, same⟩
    · exact .inl known
    · rcases left.intervals stored with known | ⟨first, older, equal⟩
      · exact .inl (same ▸ known)
      · exact .inr ⟨first, older, equal.trans same⟩
  assigned frame member := by
    rcases right.assigned frame member with demo | known | earlier
    · exact .inl demo
    · exact .inr (.inl known)
    · exact left.assigned frame earlier
  issued := right.issued.trans left.issued
  runs := left.runs.trans right.runs

end Continues

end Relations

/-! ## Single steps -/

section Steps

variable {Number Result : Type} {Known : String → RawRequest Number → Prop}
  {start : Server Number}

theorem keeps_statement :
    Procedure.Keeps (Continues Known start)
      (statement : Action Number Unit) := by
  intro server continues
  cases isOpen : server.databaseOpen with
  | true =>
    rw [run_statement isOpen]
    exact continues
  | false =>
    rw [run_statement_closed isOpen]
    exact continues.trans (.of_hub (.refl _) rfl rfl rfl
      (.of_same rfl rfl rfl fun opened =>
        absurd (isOpen.symm.trans opened) nofun))

theorem keeps_attempt (result : Except Thrown Result) :
    Procedure.Keeps (Continues Known start)
      (attempt result : Action Number Result) :=
  .ofExcept _

theorem keeps_updateHub_of {change : Hub Number → Hub Number}
    (changes : ∀ server, Continues Known start server →
      HubContinues server.hub (change server.hub)) :
    Procedure.Keeps (Continues Known start) (updateHub change) :=
  .update fun server continues =>
    continues.trans (.of_hub (changes server continues) rfl rfl rfl
      (.of_same rfl rfl rfl fun _ => rfl))

theorem keeps_updateHub {change : Hub Number → Hub Number}
    (changes : ∀ hub, HubContinues hub (change hub)) :
    Procedure.Keeps (Continues Known start) (updateHub change) :=
  keeps_updateHub_of fun server _ => changes server.hub

theorem keeps_updateJob (jobId : String) {change : JobRow → JobRow}
    (same : ∀ row, (change row).request = row.request) :
    Procedure.Keeps (Continues Known start)
      (updateJob jobId change : Action Number Unit) :=
  .bind keeps_statement fun _ =>
    keeps_updateHub fun hub => .modifyJob hub jobId same

theorem keeps_ofOutcome {handler : Hub Number → Listener.Outcome Number}
    (changes : ∀ hub, HubContinues hub (handler hub).hub) :
    Procedure.Keeps (Continues Known start) (ofOutcome handler) := by
  intro server continues
  have changed : Continues Known start
      { server with hub := (handler server.hub).hub } :=
    continues.trans (.of_hub (changes server.hub) rfl rfl rfl
      (.of_same rfl rfl rfl fun _ => rfl))
  change Procedure.Ends _ _ (server.finish (handler server.hub))
  unfold finish
  cases (handler server.hub).thrown with
  | none => exact changed
  | some error => exact changed

theorem keeps_transaction {body : Action Number Unit}
    (keeps : ∀ start, Procedure.Keeps (Continues Known start) body) :
    Procedure.Keeps (Continues Known start) (transaction body) := by
  refine .bind keeps_statement fun _ => .transaction ?_
  intro server continues
  have ends := keeps server server (.refl server)
  generalize body.run server = outcome at ends ⊢
  rcases outcome with ⟨result, next⟩
  cases result with
  | ok value => exact continues.trans ends
  | error error =>
    refine continues.trans ⟨⟨?_, fun _ => rfl⟩, ?_, ?_, ?_, ?_⟩
    · exact ends.hub.active
    · exact ends.intervals
    · exact ends.assigned
    · exact ends.issued
    · exact ⟨ends.runs.databaseOpen, ends.runs.listening,
        ends.runs.heartbeatCheck, ends.runs.serves, ends.runs.misused⟩

end Steps

/-! ## Message handlers -/

section Messages

variable {Number : Type} [JsNumber Number]
  {Known : String → RawRequest Number → Prop} {start : Server Number}

omit [JsNumber Number] in
theorem keeps_resetWorker (workerId : String) :
    Procedure.Keeps (Continues Known start)
      (resetWorker workerId : Action Number Unit) :=
  keeps_updateHub fun hub => .updateWorker hub workerId fun _ => .inr rfl

omit [JsNumber Number] in
theorem keeps_call (configured : Bool) (made : Call Number) :
    Procedure.Keeps (Continues Known start) (call configured made) := by
  refine keeps_updateHub fun hub => ?_
  cases configured with
  | true => exact .of_same rfl rfl
  | false => exact .refl hub

omit [JsNumber Number] in
theorem keeps_reward (env : RawEnvironment Number) (worker : RawWorker Number)
    (jobId : String) :
    Procedure.Keeps (Continues Known start) (reward env worker jobId) :=
  .bind (keeps_call _ _) fun _ => .bind (keeps_call _ _) fun _ =>
    keeps_call _ _

theorem continues_handleRegister (now : Nat) (id : Uuid) (ws : SocketId)
    (msg : Json Number) (hub : Hub Number) :
    HubContinues hub (handleRegister now id ws msg hub).hub := by
  unfold handleRegister
  dsimp only
  have registers := fun (worker : RawWorker Number)
      (jobless : worker.activeJobId = none) =>
    (HubContinues.setWorker hub id.text jobless).trans
      (.send _ ws (.registerAck id.text))
  split
  · exact (registers _ rfl).trans (.of_same rfl rfl)
  · exact registers _ rfl

theorem continues_handleHeartbeat (now : Nat) (msg : Json Number)
    (hub : Hub Number) :
    HubContinues hub (handleHeartbeat now msg hub).hub := by
  unfold handleHeartbeat
  split
  · exact .refl hub
  · refine .trans (.updateWorker hub _ fun _ => .inl ?_) (.send _ _ _)
    rfl

theorem keeps_log (value : Option (Json Number)) :
    Procedure.Keeps (Continues Known start) (log value) := by
  unfold log
  split
  · exact .ret _
  · exact .throwing _

theorem keeps_handleJobReject (msg : Json Number) :
    Procedure.Keeps (Continues Known start) (handleJobReject msg) := by
  refine .read_bind fun server _ => ?_
  split
  · exact .ret _
  · split
    · exact .throwing _
    · have ends (workerId : String) : Procedure.Keeps (Continues Known start)
          (do resetWorker workerId; log (msg.get? "reason")) :=
        .bind (keeps_resetWorker workerId) fun _ => keeps_log _
      exact .split (ends _) (.bind (keeps_updateJob _ fun _ => rfl)
        fun _ => ends _)

omit [JsNumber Number] in
theorem keeps_handleDisconnect (workerId : String) :
    Procedure.Keeps (Continues Known start)
      (handleDisconnect workerId : Action Number Unit) := by
  refine .read_bind fun server _ => ?_
  split
  · exact .ret _
  · have ends : Procedure.Keeps (Continues Known start)
        (updateHub fun hub =>
          { hub with workers := hub.workers.delete workerId }) :=
      keeps_updateHub fun hub => .deleteWorker hub workerId
    dsimp only
    split
    · exact ends
    · exact .split ends (.bind (keeps_updateJob _ fun _ => rfl) fun _ => ends)

omit [JsNumber Number] in
theorem keeps_onClose (ws : SocketId) :
    Procedure.Keeps (Continues Known start)
      (onClose ws : Action Number Unit) := by
  refine .read_bind fun server _ => .bind ?_ fun _ => ?_
  · exact keeps_updateHub fun hub => .of_same rfl rfl
  · split
    · exact keeps_handleDisconnect _
    · exact .ret _

omit [JsNumber Number] in
theorem keeps_pruneEntries (now : Nat)
    (entries : List (String × RawWorker Number)) :
    Procedure.Keeps (Continues Known start) (pruneEntries now entries) := by
  induction entries with
  | nil => exact .ret _
  | cons entry rest induction =>
    rcases entry with ⟨workerId, worker⟩
    unfold pruneEntries
    refine .split (.bind ?_ fun _ => .bind ?_ fun _ => induction) induction
    · exact keeps_updateHub fun hub => .of_same rfl rfl
    · exact keeps_handleDisconnect workerId

variable [SqlNumber Number]

theorem keeps_insertReceipt (id : Uuid) (receipt : Json Number)
    (signature : Option (Json Number)) (verified : Bool) :
    Procedure.Keeps (Continues Known start)
      (insertReceipt id receipt signature verified) :=
  .bind keeps_statement fun _ => .read_bind fun _ _ =>
    .bind (keeps_attempt _) fun _ => keeps_updateHub fun _ => .of_same rfl rfl

theorem keeps_storeResult (env : RawEnvironment Number) (now : Nat) (id : Uuid)
    (jobId : String) (msg : Json Number) (worker : RawWorker Number) :
    Procedure.Keeps (Continues Known start)
      (storeResult env now id jobId msg worker) := by
  refine .bind (keeps_updateJob _ fun _ => rfl) fun _ => ?_
  split
  · exact .bind (keeps_attempt _) fun _ => keeps_insertReceipt _ _ _ _
  · exact .ret _

theorem keeps_handleJobComplete (env : RawEnvironment Number) (now : Nat)
    (id : Uuid) (msg : Json Number) :
    Procedure.Keeps (Continues Known start)
      (handleJobComplete env now id msg) := by
  refine .read_bind fun server _ => ?_
  split
  · exact .ret _
  · split
    · exact .throwing _
    · refine .split ?_ ?_
      · exact .bind (keeps_resetWorker _) fun _ => keeps_reward _ _ _
      · exact .bind (keeps_transaction fun _ =>
          keeps_storeResult _ _ _ _ _ _) fun _ =>
          .bind (keeps_reward _ _ _) fun _ => keeps_resetWorker _

theorem keeps_handleReceiptSubmit (env : RawEnvironment Number) (id : Uuid)
    (msg : Json Number) :
    Procedure.Keeps (Continues Known start)
      (handleReceiptSubmit env id msg) := by
  unfold handleReceiptSubmit
  split
  · exact .throwing _
  · exact .read_bind fun _ _ => .bind (keeps_attempt _) fun _ =>
      keeps_insertReceipt _ _ _ _

theorem keeps_onMessage (env : RawEnvironment Number) (now : Nat) (id : Uuid)
    (ws : SocketId) (text : String) :
    Procedure.Keeps (Continues Known start) (onMessage env now id ws text) := by
  unfold onMessage
  split
  · exact keeps_updateHub fun hub => .send hub _ _
  · exact .throwing _
  · unfold handleMessage
    split
    · exact keeps_ofOutcome fun hub => continues_handleRegister ..
    · exact keeps_ofOutcome fun hub => continues_handleHeartbeat ..
    · exact keeps_handleJobComplete env now id _
    · exact keeps_handleJobReject _
    · exact keeps_handleReceiptSubmit env id _
    · split
      · exact .throwing _
      · exact keeps_updateHub fun hub => .send hub _ _

end Messages

/-! ## Matching -/

section Matching

variable {Number : Type} [JsNumber Number] [SqlNumber Number]
  {Known : String → RawRequest Number → Prop} {start : Server Number}

omit [SqlNumber Number] in
theorem keeps_claimBest (now : Nat) (request : RawRequest Number)
    (trusted : Option (List (Option String))) :
    Procedure.Keeps (Continues Known start)
      (claimBest now request trusted) := by
  refine .read_bind fun _ _ => .bind (keeps_attempt _) fun _ => ?_
  split
  · exact .ret _
  · exact .bind (keeps_updateHub fun hub =>
      .updateWorker hub _ fun _ => .inl rfl) fun _ => .ret _

theorem keeps_claimWorker (now : Nat) (request : RawRequest Number) :
    Procedure.Keeps (Continues Known start) (claimWorker now request) := by
  refine .split (.bind ?_ fun _ => .split (.ret _) (keeps_claimBest _ _ _))
    (keeps_claimBest _ _ _)
  exact .bind keeps_statement fun _ => .bind (keeps_attempt _) fun _ =>
    .read_bind fun _ _ => .ret _

omit [JsNumber Number] [SqlNumber Number] in
theorem keeps_assignJob (workerId : String) (worker : RawWorker Number)
    {jobId : String} {request : RawRequest Number}
    (known : isDemoJob jobId = true ∨ Known jobId request ∧
      ∃ row, start.hub.jobs.get? jobId = some row) :
    Procedure.Keeps (Continues Known start)
      (assignJob workerId worker jobId request) := by
  refine .bind (keeps_updateHub_of fun server continues => ?_) fun _ =>
    .update fun server continues => ?_
  · refine .assignWorker server.hub workerId ?_
    exact known.imp_right fun ⟨_, row⟩ =>
      (continues.hub.exists_row jobId).mpr row
  · split
    · refine continues.trans ⟨.refl _, fun found => .inr ⟨_, found, rfl⟩, ?_,
        rfl, .of_same rfl rfl rfl fun _ => rfl⟩
      intro frame member
      rcases List.mem_append.mp member with earlier | new
      · exact .inr (.inr earlier)
      · cases List.mem_singleton.mp new
        exact known.imp_right fun ⟨same, _⟩ => .inl same
    · exact continues

omit [JsNumber Number] in
theorem keeps_matchJob {jobId : String} {request : RawRequest Number}
    (known : Known jobId request)
    (row : ∃ row, start.hub.jobs.get? jobId = some row) (workerId : String)
    (worker : RawWorker Number) :
    Procedure.Keeps (Continues Known start)
      (matchJob jobId request workerId worker) :=
  .bind keeps_statement fun _ => .bind (keeps_attempt _) fun _ =>
    .bind (keeps_updateHub fun hub => .modifyJob hub jobId fun _ => rfl)
      fun _ => keeps_assignJob workerId worker (.inr ⟨known, row⟩)

omit [JsNumber Number] [SqlNumber Number] in
theorem keeps_startRetryLoop {jobId : String} {request : RawRequest Number}
    (known : Known jobId request) :
    Procedure.Keeps (Continues Known start) (startRetryLoop jobId request) := by
  refine .update fun server continues => continues.trans
    ⟨.refl _, fun {other interval} found => ?_,
      fun _ member => .inr (.inr member), rfl,
      .of_same rfl rfl rfl fun _ => rfl⟩
  rw [OrderedMap.get?_set] at found
  split at found
  · next same =>
      cases found
      exact .inl (same ▸ known)
  · exact .inr ⟨interval, found, rfl⟩

omit [JsNumber Number] [SqlNumber Number] in
theorem keeps_clearInterval (jobId : String) :
    Procedure.Keeps (Continues Known start)
      (clearInterval jobId : Action Number Unit) := by
  refine .update fun server continues => continues.trans
    ⟨.refl _, fun {other interval} found => ?_,
      fun _ member => .inr (.inr member), rfl,
      .of_same rfl rfl rfl fun _ => rfl⟩
  rw [OrderedMap.get?_delete] at found
  split at found
  · cases found
  · exact .inr ⟨interval, found, rfl⟩

theorem keeps_route (now : Nat) {jobId : String} {request : RawRequest Number}
    (known : Known jobId request)
    (row : ∃ row, start.hub.jobs.get? jobId = some row) :
    Procedure.Keeps (Continues Known start) (route now jobId request) := by
  refine .bind (keeps_claimWorker now request) fun claimed => ?_
  split
  · exact .bind (keeps_matchJob known row _ _) fun _ => .ret _
  · refine .split (.bind (keeps_updateJob _ fun _ => rfl) fun _ => .ret _) ?_
    exact .bind (keeps_startRetryLoop known) fun _ => .ret _

theorem keeps_retryTick (now : Nat) (jobId : String)
    (known : ∀ interval, start.intervals.get? jobId = some interval →
      Known jobId interval.request) :
    Procedure.Keeps (Continues Known start) (retryTick now jobId) := by
  refine .read_bind fun server continues => ?_
  split
  · exact .ret _
  · next interval found =>
      have asked : Known jobId interval.request := by
        rcases continues.intervals found with same | ⟨earlier, stored, same⟩
        · exact same
        · exact same ▸ known earlier stored
      refine .bind (.update fun next reached => reached.trans
        ⟨.refl _, fun {other changed} stored => ?_,
          fun _ member => .inr (.inr member), rfl,
          .of_same rfl rfl rfl fun _ => rfl⟩) fun _ =>
        .bind keeps_statement fun _ => Procedure.Meets.split ?_ ?_
      · rw [OrderedMap.get?_modify] at stored
        split at stored
        · rcases Option.map_eq_some_iff.mp stored with ⟨earlier, old, rfl⟩
          exact .inr ⟨earlier, old, rfl⟩
        · exact .inr ⟨changed, stored, rfl⟩
      · exact fun _ => keeps_clearInterval jobId
      · intro pending
        rcases Option.map_eq_some_iff.mp (not_not.mp pending) with
          ⟨row, read, _⟩
        have stored := (continues.hub.exists_row jobId).mp ⟨row, read⟩
        refine .bind (keeps_claimWorker now interval.request) fun claimed => ?_
        split
        · exact .bind (keeps_matchJob asked stored _ _) fun _ =>
            keeps_clearInterval jobId
        · exact Procedure.Keeps.split (.bind (keeps_updateJob _ fun _ => rfl)
            fun _ => keeps_clearInterval jobId) (.ret _)

omit [JsNumber Number] [SqlNumber Number] in
theorem keeps_demoTick (id : Uuid) (choice : DemoChoice) :
    Procedure.Keeps (Continues Known start)
      (demoTick id choice : Action Number Unit) := by
  refine .read_bind fun server _ => ?_
  dsimp only
  split
  · split
    · exact .bind (keeps_updateHub fun hub =>
        .updateWorker hub _ fun _ => .inl rfl) fun _ =>
        keeps_assignJob _ _ (.inl (isDemoJob_demoJobId id))
    · exact .ret _
  · exact .ret _

theorem keeps_trust (now : Nat) (id : Uuid)
    (request : TrustRouter.Request Number) :
    Procedure.Keeps (Continues Known start) (trust now id request) :=
  .bind keeps_statement fun _ => .read_bind fun _ _ =>
    .bind (keeps_attempt _) fun _ => keeps_updateHub fun _ => .of_same rfl rfl

theorem keeps_handle (env : RawEnvironment Number) {input : Input Number}
    (known : ∀ jobId interval, start.intervals.get? jobId = some interval →
      Known jobId interval.request)
    (other : ∀ tier body, input.event ≠ .commit tier body) :
    Procedure.Keeps (Continues Known start) (handle env input) := by
  unfold handle
  cases event : input.event with
  | connect ws => exact keeps_updateHub fun hub => .of_same rfl rfl
  | frame ws text => exact keeps_onMessage _ _ _ _ _
  | closing ws => exact keeps_updateHub fun hub => .of_same rfl rfl
  | close ws => exact keeps_onClose ws
  | pruneStale => exact .read_bind fun _ _ => keeps_pruneEntries _ _
  | commit tier body => exact absurd event (other tier body)
  | retryTick jobId => exact keeps_retryTick _ _ (known jobId)
  | trust request => exact keeps_trust _ _ _
  | demoStart | demoStop =>
    exact .update fun server continues =>
      continues.trans (.of_hub (.refl _) rfl rfl rfl
        (.of_same rfl rfl rfl fun _ => rfl))
  | shutdown =>
    exact .update fun server continues =>
      continues.trans (.of_hub (.refl _) rfl rfl rfl
        ⟨nofun, nofun, nofun, nofun, nofun⟩)
  | demoTick choice => exact keeps_demoTick _ _
  | reputationFetched workerId score =>
    exact keeps_updateHub fun hub => .updateWorker hub _ fun _ => .inl rfl
  | stakeFetched workerId tier =>
    exact keeps_updateHub fun hub => .updateWorker hub _ fun _ => .inl rfl

end Matching

/-! ## Committing -/

section Committing

variable {Number : Type} [JsNumber Number] [SqlNumber Number]

def withJob (server : Server Number) (jobId : String) (row : JobRow) :
    Server Number :=
  { server with
    hub := { server.hub with jobs := server.hub.jobs.set jobId row } }

omit [JsNumber Number] [SqlNumber Number] in
theorem withJob_get? (server : Server Number) (jobId other : String)
    (row : JobRow) :
    (server.withJob jobId row).hub.jobs.get? other =
      if other = jobId then some row else server.hub.jobs.get? other :=
  server.hub.jobs.get?_set jobId other row

theorem run_insertJob (server : Server Number) (now : Nat) (id : Uuid)
    (request : RawRequest Number) :
    (∃ row, jobRow now request = .ok row ∧
        server.hub.jobs.get? id.text = none ∧ server.databaseOpen = true ∧
        (insertJob now id request).run server =
          (.ok (), server.withJob id.text row)) ∨
      ∃ failure misused, (insertJob now id request).run server =
          (.error failure, { server with misused := misused }) ∧
        (server.databaseOpen = true → misused = server.misused) := by
  by_cases isOpen : server.databaseOpen = true
  · rw [insertJob, Procedure.run_bind_of_ok (run_statement isOpen)]
    cases built : jobRow now request with
    | error error =>
      exact .inr ⟨.thrown error, server.misused, rfl, fun _ => rfl⟩
    | ok row =>
      have attempted :
          (attempt (.ok row) : Action Number JobRow).run server =
            (.ok row, server) := rfl
      rw [Procedure.run_bind_of_ok attempted, Procedure.run_read_bind]
      cases inserted : server.hub.jobs.insert? id.text row with
      | none =>
        exact .inr ⟨.thrown .unique, server.misused, rfl, fun _ => rfl⟩
      | some jobs =>
        rcases OrderedMap.insert?_eq_some inserted with ⟨fresh, rfl⟩
        exact .inl ⟨row, rfl, fresh, isOpen, rfl⟩
  · exact .inr ⟨.notOpen, true, Procedure.run_bind_of_error
      (run_statement_closed (Bool.eq_false_of_not_eq_true isOpen)),
      fun opened => absurd opened isOpen⟩

theorem run_handleCommit (server : Server Number) (now : Nat) (id : Uuid)
    (tier : Tier) (body : Option (Json Number)) :
    (∃ reply, validateCommit tier body = .error reply ∧
        (handleCommit now id tier body).run server = (.ok reply, server)) ∨
      (∃ request failure misused, validateCommit tier body = .ok request ∧
        (handleCommit now id tier body).run server =
          (.error failure, { server with misused := misused }) ∧
        (server.databaseOpen = true → misused = server.misused)) ∨
      ∃ request row, validateCommit tier body = .ok request ∧
        jobRow now request = .ok row ∧
        server.hub.jobs.get? id.text = none ∧ server.databaseOpen = true ∧
        (handleCommit now id tier body).run server =
          (route now id.text request).run (server.withJob id.text row) := by
  unfold handleCommit
  cases validateCommit tier body with
  | error reply => exact .inl ⟨reply, rfl, rfl⟩
  | ok request =>
    right
    rcases run_insertJob server now id request with
      ⟨row, built, fresh, isOpen, inserted⟩ |
      ⟨failure, misused, throws, unused⟩
    · exact .inr ⟨request, row, rfl, built, fresh, isOpen,
        Procedure.run_bind_of_ok inserted⟩
    · exact .inl ⟨request, failure, misused, rfl,
        Procedure.run_bind_of_error throws, unused⟩

theorem step_continues (env : RawEnvironment Number) (server : Server Number)
    (input : Input Number) :
    Continues
        (fun jobId request => ∃ interval,
          server.intervals.get? jobId = some interval ∧
            interval.request = request)
        (server.issue input.uuid) ((machine env).step server input) ∨
      ∃ tier body request row, input.event = .commit tier body ∧
        validateCommit tier body = .ok request ∧
        jobRow input.now request = .ok row ∧
        server.hub.jobs.get? input.uuid.text = none ∧
        Continues (fun jobId asked =>
            jobId = input.uuid.text ∧ asked = request)
          ((server.issue input.uuid).withJob input.uuid.text row)
          ((machine env).step server input) := by
  by_cases commits : ∃ tier body, input.event = .commit tier body
  · rcases commits with ⟨tier, body, event⟩
    have stepped : (machine env).step server input =
        ((handleCommit input.now input.uuid tier body).run
          (server.issue input.uuid)).2 := by
      change ((handle env input).run _).2 = _
      rw [handle, event, Procedure.run_bind]
      generalize (handleCommit input.now input.uuid tier body).run _ = ends
      rcases ends with ⟨result, next⟩
      cases result <;> rfl
    rw [stepped]
    rcases run_handleCommit (server.issue input.uuid) input.now input.uuid tier
        body with ⟨reply, _, ends⟩ |
        ⟨request, failure, misused, _, ends, unused⟩ |
        ⟨request, row, validated, built, fresh, _, ends⟩
    · exact .inl (ends ▸ .refl _)
    · refine .inl ?_
      rw [ends]
      exact .of_hub (.refl _) rfl rfl rfl (.of_same rfl rfl rfl unused)
    · refine .inr ⟨tier, body, request, row, event, validated, built, fresh, ?_⟩
      rw [ends]
      refine (keeps_route input.now ⟨rfl, rfl⟩ ⟨row, ?_⟩).run (.refl _)
      rw [withJob_get?, if_pos rfl]
  · refine .inl ((keeps_handle env ?_ ?_).run (.refl _))
    · exact fun jobId interval found => ⟨interval, found, rfl⟩
    · exact fun tier body event => commits ⟨tier, body, event⟩

theorem step_runs (env : RawEnvironment Number) (server : Server Number)
    (input : Input Number) : Runs server ((machine env).step server input) := by
  have issued : Runs server (server.issue input.uuid) :=
    .of_same rfl rfl rfl fun _ => rfl
  rcases step_continues env server input with
    continues | ⟨tier, body, request, row, _, _, _, _, continues⟩
  · exact issued.trans continues.runs
  · have inserted : Runs (server.issue input.uuid)
        ((server.issue input.uuid).withJob input.uuid.text row) :=
      .of_same rfl rfl rfl fun _ => rfl
    exact issued.trans (inserted.trans continues.runs)

end Committing

end Dispatch.Coordinator.Server
