import Dispatch.Coordinator.Receipts

/-! # Whose frames settle a job

`job_complete` and `job_reject` are handled without the socket that they arrive
on.
-/

namespace Dispatch.Coordinator

open WorkerHub

/-! ## Keeping a job -/

def callsFor (state : State) (jobId : String) :
    List PayoutCall × List PayoutCall × List FeedbackCall :=
  (state.boltPayouts.filter fun call => call.jobId = jobId,
    state.wrappedBoltPayouts.filter fun call => call.jobId = jobId,
    state.feedback.filter fun call => call.jobId = jobId)

structure Untouched (state next : State) (workerId jobId : String) : Prop where
  active : ∀ worker, next.workers.get? workerId = some worker →
    worker.activeJobId = some jobId
  row : next.jobs.get? jobId = state.jobs.get? jobId ∨
    next.workers.get? workerId = none ∧
      ∃ row, state.jobs.get? jobId = some row ∧
        next.jobs.get? jobId = some (disconnectedRow row)
  calls : callsFor next jobId = callsFor state jobId

structure Keeps (state next : State) (workerId jobId : String) : Prop where
  active : ∀ worker, next.workers.get? workerId = some worker →
    worker.activeJobId = some jobId
  row : ∀ row, next.jobs.get? jobId = some row →
    row.status ≠ .completed ∧ row.status ≠ .pending
  calls : callsFor next jobId = callsFor state jobId

def OwnersAnswer (state : State) (input : Input) (next : State) : Prop :=
  ∀ workerId worker jobId, Holds state workerId worker jobId →
    (∀ frame, input.event ≠ .frame worker.ws frame) →
    Keeps state next workerId jobId

def Impersonates (state : State) (input : Input) : Prop :=
  ∃ ws workerId worker jobId, Holds state workerId worker jobId ∧
    ws ≠ worker.ws ∧
    ((∃ msg : JobRejectMsg, input.event = .frame ws (.jobReject msg) ∧
        msg.jobId = jobId) ∨
      ∃ msg : JobCompleteMsg, input.event = .frame ws (.jobComplete msg) ∧
        msg.jobId = jobId ∧ (isDemoJob jobId = true ∨ References state msg))

/-! ## One event -/

section Keeping

variable {env : Environment} {state next : State} {board : JobBoard}
  {workerId jobId : String} {worker : TrackedWorker}

theorem Untouched.keeps (untouched : Untouched state next workerId jobId)
    (represents : Represents env state board)
    (holds : Holds state workerId worker jobId) :
    Keeps state next workerId jobId where
  active := untouched.active
  row stored found := by
    rcases untouched.row with same | ⟨_, row, _, lost⟩
    · rw [same] at found
      rcases represents.row_of_holds holds (represents.real_of_row found) with
        ⟨before, beforeStored, assigned, _⟩
      rw [found, Option.some.injEq] at beforeStored
      rw [beforeStored, assigned]
      exact ⟨by simp, by simp⟩
    · rw [lost, Option.some.injEq] at found
      rw [← found]
      simp [disconnectedRow]
  calls := untouched.calls

theorem untouched_of_same (holds : Holds state workerId worker jobId)
    (tracked : next.workers.get? workerId = state.workers.get? workerId)
    (row : next.jobs.get? jobId = state.jobs.get? jobId)
    (calls : callsFor next jobId = callsFor state jobId) :
    Untouched state next workerId jobId := by
  refine ⟨?_, .inl row, calls⟩
  intro later found
  rw [tracked, holds.tracked, Option.some.injEq] at found
  rw [← found, holds.active]

theorem untouched_of_quiet {middle : State}
    (holds : Holds state workerId worker jobId) (quiet : Quiet middle next)
    (tracked : middle.workers.get? workerId = state.workers.get? workerId)
    (row : middle.jobs = state.jobs)
    (calls : callsFor middle jobId = callsFor state jobId) :
    Untouched state next workerId jobId := by
  refine ⟨?_, .inl (by rw [quiet.jobs, row]), ?_⟩
  · intro later found
    have same := quiet.workers workerId
    rw [found, tracked, holds.tracked, Option.map_some, Option.map_some,
      Option.some.injEq] at same
    exact (congrArg Assignment.activeJobId same).trans holds.active
  · rw [← calls, callsFor, callsFor, quiet.boltPayouts,
      quiet.wrappedBoltPayouts, quiet.feedback]

theorem untouched_of_dropped (represents : Represents env state board)
    (holds : Holds state workerId worker jobId) (dropped : Dropped state next)
    (calls : callsFor next jobId = callsFor state jobId) :
    Untouched state next workerId jobId := by
  refine ⟨?_, ?_, calls⟩
  · intro later tracked
    have before := dropped.workers workerId later tracked
    rw [holds.tracked, Option.some.injEq] at before
    rw [← before, holds.active]
  · rcases dropped.rows jobId with same | ⟨holderId, _, row, otherHolds, _,
      stored, lost, gone⟩
    · exact .inl same
    · rw [represents.holder_unique otherHolds holds] at gone
      exact .inr ⟨gone, row, stored, lost⟩

theorem ne_of_idle (represents : Represents env state board)
    (holds : Holds state workerId worker jobId) {otherId : String}
    {other : TrackedWorker}
    (tracked : state.workers.get? otherId = some other)
    (idle : other.status = .idle) : workerId ≠ otherId := by
  intro same
  have inactive := represents.inactive_of_idle tracked idle
  rw [← same, (represents.stage_of_holds holds).1] at inactive
  cases inactive

theorem ne_of_holds (holds : Holds state workerId worker jobId)
    {otherId otherJob : String} {other : TrackedWorker}
    (otherHolds : Holds state otherId other otherJob)
    (different : otherJob ≠ jobId) : workerId ≠ otherId := by
  intro same
  have tracked := otherHolds.tracked
  rw [← same, holds.tracked, Option.some.injEq] at tracked
  have active := otherHolds.active
  rw [← tracked, holds.active, Option.some.injEq] at active
  exact different active.symm

theorem ne_of_pending (represents : Represents env state board)
    (holds : Holds state workerId worker jobId) {otherJob : String}
    {row : JobRow} (stored : state.jobs.get? otherJob = some row)
    (pending : row.status = .pending) : jobId ≠ otherJob := by
  intro same
  have waiting := (represents.waiting_of_pending stored pending).1
  rw [← same, (represents.stage_of_holds holds).2] at waiting
  cases waiting

theorem callsFor_rewarded (env : Environment) (payee : TrackedWorker)
    {otherId : String} (different : jobId ≠ otherId) (state : State) :
    callsFor (rewarded env payee otherId state) jobId =
      callsFor state jobId := by
  have others := Ne.symm different
  simp only [callsFor, rewarded, queuePayouts, postFeedback]
  cases env.boltDistributor <;> cases env.wrappedBoltDistributor <;>
    cases env.postFeedback <;> simp [List.filter_append, others]

/-! ### The jobs of other workers -/

theorem untouched_of_completed {now : Nat} {id : Uuid} {msg : JobCompleteMsg}
    {otherId : String} {other : TrackedWorker} {stored : State}
    (holds : Holds state workerId worker jobId)
    (otherHolds : Holds state otherId other msg.jobId)
    (different : msg.jobId ≠ jobId)
    (accepted : storeResult env now id msg other state = .ok stored) :
    Untouched state
      (resetWorker (rewarded env other msg.jobId stored) otherId)
      workerId jobId := by
  have elsewhere := ne_of_holds holds otherHolds different
  rcases storeResult_ok accepted with ⟨_, receipts, _, storedState⟩
  apply untouched_of_same holds
  · simp [resetWorker, storedState, elsewhere]
  · simp [resetWorker, storedState, Ne.symm different]
  · rw [callsFor, resetWorker, ← callsFor, storedState]
    exact callsFor_rewarded env other (Ne.symm different) _

theorem untouched_of_reset {otherId otherJob : String} {other : TrackedWorker}
    (holds : Holds state workerId worker jobId)
    (otherHolds : Holds state otherId other otherJob)
    (different : otherJob ≠ jobId) :
    Untouched state (resetWorker state otherId) workerId jobId := by
  have elsewhere := ne_of_holds holds otherHolds different
  apply untouched_of_same holds
  · simp [resetWorker, elsewhere]
  · rfl
  · rfl

theorem untouched_of_completedDemo {otherId otherJob : String}
    {other : TrackedWorker} (env : Environment)
    (holds : Holds state workerId worker jobId)
    (otherHolds : Holds state otherId other otherJob)
    (different : otherJob ≠ jobId) :
    Untouched state (rewarded env other otherJob (resetWorker state otherId))
      workerId jobId := by
  have elsewhere := ne_of_holds holds otherHolds different
  apply untouched_of_same holds
  · simp [resetWorker, elsewhere]
  · simp [resetWorker]
  · exact callsFor_rewarded env other (Ne.symm different) _

theorem untouched_of_rejected {otherId otherJob : String}
    {other : TrackedWorker} (holds : Holds state workerId worker jobId)
    (otherHolds : Holds state otherId other otherJob)
    (different : otherJob ≠ jobId) :
    Untouched state (resetWorker (state.updateJob otherJob rejectedRow) otherId)
      workerId jobId := by
  have elsewhere := ne_of_holds holds otherHolds different
  apply untouched_of_same holds
  · simp [resetWorker, elsewhere]
  · simp [resetWorker, Ne.symm different]
  · rfl

theorem untouched_of_assigned {middle : State} {otherJob otherId : String}
    {request : JobRequest} {other : TrackedWorker}
    (represents : Represents env state board)
    (holds : Holds state workerId worker jobId)
    (claimed : Claimed state request otherId other)
    (different : jobId ≠ otherJob) (workers : middle.workers = state.workers)
    (row : middle.jobs.get? jobId = state.jobs.get? jobId)
    (calls : callsFor middle jobId = callsFor state jobId) :
    Untouched state (jobAssigned otherJob request otherId other middle)
      workerId jobId := by
  have elsewhere := ne_of_idle represents holds claimed.tracked claimed.idle
  apply untouched_of_same holds
  · simp [workers, elsewhere]
  · rw [jobAssigned_eq, ← row]
    simp [different]
  · rw [jobAssigned_eq, ← calls]
    rfl

theorem untouched_of_demo {otherId : String} {other : TrackedWorker}
    (represents : Represents env state board)
    (holds : Holds state workerId worker jobId)
    (tracked : state.workers.get? otherId = some other)
    (idle : other.status = .idle) (msg : JobAssignMsg) :
    Untouched state (demoAssigned otherId other msg state) workerId jobId := by
  have elsewhere := ne_of_idle represents holds tracked idle
  apply untouched_of_same holds
  · simp [demoAssigned, elsewhere]
  · simp [demoAssigned]
  · simp [callsFor, demoAssigned]

end Keeping

structure Unanswered (env : Environment) (input : Input) (state : State)
    (worker : TrackedWorker) (jobId : String) : Prop where
  rejects : ∀ ws msg, input.event = .frame ws (.jobReject msg) →
    msg.jobId ≠ jobId
  completes : ∀ ws msg, input.event = .frame ws (.jobComplete msg) →
    msg.jobId = jobId → isDemoJob jobId = false ∧
      ∀ stored, storeResult env input.now input.uuid msg worker state ≠
        .ok stored

section Effects

variable {env : Environment} {input : Input} {state next : State}
  {board : JobBoard} {workerId jobId : String} {worker : TrackedWorker}

theorem Unanswered.ne_of_completes (represents : Represents env state board)
    (unanswered : Unanswered env input state worker jobId)
    (holds : Holds state workerId worker jobId) {ws : SocketId}
    {msg : JobCompleteMsg} {otherId : String} {other : TrackedWorker}
    {stored : State} (event : input.event = .frame ws (.jobComplete msg))
    (otherHolds : Holds state otherId other msg.jobId)
    (accepted : storeResult env input.now input.uuid msg other state =
      .ok stored) : msg.jobId ≠ jobId := by
  intro same
  have owner := represents.holder_unique holds (same ▸ otherHolds)
  have tracked := otherHolds.tracked
  rw [← owner, holds.tracked, Option.some.injEq] at tracked
  rw [← tracked] at accepted
  exact (unanswered.completes ws msg event same).2 stored accepted

theorem effect_untouched (represents : Represents env state board)
    (fresh : board.stage input.uuid.text = none)
    (freshWorker : state.workers.get? input.uuid.text = none)
    (effect : Effect env input state next)
    (holds : Holds state workerId worker jobId)
    (unanswered : Unanswered env input state worker jobId) :
    Untouched state next workerId jobId := by
  have notNew : jobId ≠ input.uuid.text := by
    intro same
    rw [← same, (represents.stage_of_holds holds).2] at fresh
    cases fresh
  have unchanged : ∀ request, (submitted input request state).jobs.get? jobId =
      state.jobs.get? jobId := by
    intro request
    simp [submitted, notNew]
  cases effect with
  | quiet quiet => exact untouched_of_quiet holds quiet rfl rfl rfl
  | @register ws msg _ event quiet =>
    have old : workerId ≠ input.uuid.text := by
      intro same
      rw [← same, holds.tracked] at freshWorker
      cases freshWorker
    apply untouched_of_quiet holds quiet _ rfl rfl
    simp [registered, old]
  | receipt event stored =>
    rw [(insertReceipt_ok stored).2]
    exact untouched_of_same holds rfl rfl rfl
  | complete event otherHolds real accepted =>
    exact untouched_of_completed holds otherHolds
      (unanswered.ne_of_completes represents holds event otherHolds accepted)
      accepted
  | @completeDemo ws msg otherId other event otherHolds demo =>
    apply untouched_of_completedDemo env holds otherHolds
    intro same
    have real := (unanswered.completes ws msg event same).1
    rw [← same, demo] at real
    cases real
  | @reject ws msg otherId other event otherHolds real =>
    exact untouched_of_rejected holds otherHolds
      (unanswered.rejects ws msg event)
  | @rejectDemo ws msg otherId other event otherHolds demo =>
    exact untouched_of_reset holds otherHolds
      (unanswered.rejects ws msg event)
  | @disconnect ws lostId connections event =>
    apply untouched_of_dropped represents holds
      (disconnect_dropped lostId connections state)
    rw [handleDisconnect_eq]
    rfl
  | prune event =>
    apply untouched_of_dropped represents holds
      (pruneStale_dropped input.now state)
    rw [pruneStale_eq]
    rfl
  | commitAssigned event valid claimed =>
    exact untouched_of_assigned represents holds claimed notNew rfl
      (unchanged _) rfl
  | commitRefused event valid none trusted =>
    refine untouched_of_same holds rfl ?_ rfl
    simp [failJob, submitted, notNew]
  | commitWaiting event valid none untrusted =>
    exact untouched_of_same holds rfl (unchanged _) rfl
  | retryCleared => exact untouched_of_same holds rfl rfl rfl
  | @retryAssigned tickedId loop row otherId other event live stored pending
      claimed =>
      have assigned : Untouched state (jobAssigned tickedId loop.request otherId
          other (counted tickedId loop state)) workerId jobId :=
        untouched_of_assigned represents holds claimed
          (ne_of_pending represents holds stored pending) rfl rfl rfl
      exact ⟨assigned.active, assigned.row, assigned.calls⟩
  | @retryFailed tickedId loop row event live stored pending none last =>
    have different := ne_of_pending represents holds stored pending
    refine untouched_of_same holds rfl ?_ rfl
    simp [clearInterval, failJob, counted, different]
  | retryCounted => exact untouched_of_same holds rfl rfl rfl
  | demo event tracked idle =>
    exact untouched_of_demo represents holds tracked idle _

end Effects

/-! ## Whole runs -/

section Runs

variable {env : Environment} {state : State} {input : Input}

theorem step_untouched (reachable : (machine env).Reachable state)
    (enabled : (machine env).Enabled state input) {workerId jobId : String}
    {worker : TrackedWorker} (holds : Holds state workerId worker jobId)
    (unanswered : Unanswered env input (state.issue input.uuid) worker jobId) :
    Untouched state ((machine env).step state input) workerId jobId := by
  rcases (board_simulation env).reachable reachable with ⟨board, represents⟩
  have freshWorker : state.workers.get? input.uuid.text = none :=
    Option.map_eq_none_iff.mp (represents.fresh_worker enabled.1)
  have issuedHolds : Holds (state.issue input.uuid) workerId worker jobId :=
    ⟨holds.tracked, holds.active⟩
  have untouched := effect_untouched (represents.issue input.uuid)
    (represents.fresh_job enabled.1) freshWorker (step_effect env state input)
    issuedHolds unanswered
  exact ⟨untouched.active, untouched.row, untouched.calls⟩

theorem untouched_of_genuine (reachable : (machine env).Reachable state)
    (enabled : (machine env).Enabled state input)
    (genuine : ¬ Impersonates state input) {workerId jobId : String}
    {worker : TrackedWorker} (holds : Holds state workerId worker jobId)
    (elsewhere : ∀ frame, input.event ≠ .frame worker.ws frame) :
    Untouched state ((machine env).step state input) workerId jobId := by
  have foreign : ∀ {ws frame}, input.event = .frame ws frame →
      ws ≠ worker.ws := by
    intro ws frame event same
    exact elsewhere frame (same ▸ event)
  apply step_untouched reachable enabled holds
  constructor
  · intro ws msg event same
    exact genuine ⟨ws, workerId, worker, jobId, holds, foreign event,
      .inl ⟨msg, event, same⟩⟩
  · intro ws msg event same
    refine ⟨?_, ?_⟩
    · rw [Bool.eq_false_iff]
      intro demo
      exact genuine ⟨ws, workerId, worker, jobId, holds, foreign event,
        .inr ⟨msg, event, same, .inl demo⟩⟩
    · intro stored accepted
      exact genuine ⟨ws, workerId, worker, jobId, holds, foreign event,
        .inr ⟨msg, event, same, .inr (storeResult_ok accepted).1⟩⟩

theorem step_keeps (reachable : (machine env).Reachable state)
    (enabled : (machine env).Enabled state input)
    (genuine : ¬ Impersonates state input) :
    OwnersAnswer state input ((machine env).step state input) := by
  intro workerId worker jobId holds elsewhere
  rcases (board_simulation env).reachable reachable with ⟨board, represents⟩
  exact (untouched_of_genuine reachable enabled genuine holds elsewhere).keeps
    represents holds

theorem settled_frees (reachable : (machine env).Reachable state)
    (enabled : (machine env).Enabled state input) {ws : SocketId}
    {workerId jobId : String} {worker : TrackedWorker}
    (holds : Holds state workerId worker jobId)
    (settles : (∃ msg : JobRejectMsg, input.event = .frame ws (.jobReject msg) ∧
        msg.jobId = jobId) ∨
      ∃ msg : JobCompleteMsg, input.event = .frame ws (.jobComplete msg) ∧
        msg.jobId = jobId ∧ (isDemoJob jobId = true ∨ References state msg)) :
    ∃ later, ((machine env).step state input).workers.get? workerId =
      some later ∧ later.activeJobId = none := by
  rcases (board_simulation env).reachable reachable with ⟨board, represents⟩
  have found : findByActiveJob (state.issue input.uuid) jobId =
      some (workerId, worker) := represents.find_of_holds holds
  have freed : ∀ middle : State, middle.workers = state.workers →
      ∃ later, (resetWorker middle workerId).workers.get? workerId =
        some later ∧ later.activeJobId = none := by
    intro middle same
    refine ⟨{ worker with status := .idle, activeJobId := none }, ?_, rfl⟩
    simp [resetWorker, same, holds.tracked]
  rcases settles with ⟨msg, event, rfl⟩ | ⟨msg, event, rfl, accepted⟩
  · simp only [machine, handle, event, handleMessage, handleJobReject, found,
      settle]
    apply freed
    split <;> rfl
  · cases demo : isDemoJob msg.jobId with
    | true =>
      have outcome : (machine env).step state input =
          rewarded env worker msg.jobId
            (resetWorker (state.issue input.uuid) workerId) := by
        simp only [machine, handle, event, handleMessage, handleJobComplete,
          found, demo, if_true, settle, rewarded]
      rw [outcome, rewarded_workers]
      exact freed (state.issue input.uuid) rfl
    | false =>
      have references : References state msg := by
        rcases accepted with isDemo | references
        · rw [demo] at isDemo
          cases isDemo
        · exact references
      rcases step_completes reachable enabled event holds demo references with
        ⟨stored, kept, outcome⟩
      rcases storeResult_ok kept with ⟨_, receipts, _, storedState⟩
      rw [outcome]
      apply freed
      rw [rewarded_workers, storedState]
      rfl

theorem impersonated_not_answered (reachable : (machine env).Reachable state)
    (enabled : (machine env).Enabled state input)
    (impersonates : Impersonates state input) :
    ¬ OwnersAnswer state input ((machine env).step state input) := by
  rcases impersonates with ⟨ws, workerId, worker, jobId, holds, foreign,
    settles⟩
  intro answer
  have elsewhere : ∀ frame, input.event ≠ .frame worker.ws frame := by
    intro frame same
    rcases settles with ⟨msg, event, _⟩ | ⟨msg, event, _⟩
    · rw [event, Event.frame.injEq] at same
      exact foreign same.1
    · rw [event, Event.frame.injEq] at same
      exact foreign same.1
  have keeps := answer workerId worker jobId holds elsewhere
  rcases settled_frees reachable enabled holds settles with
    ⟨later, tracked, freed⟩
  have active := keeps.active later tracked
  rw [freed] at active
  cases active

end Runs

/-- Workers answer for their own jobs throughout a run exactly when no frame in
it settles a job of a worker on another socket. -/
theorem owners_answer_iff (env : Environment) {events : List Input}
    {state : State} (run : (machine env).Run State.initial events state) :
    (machine env).Steps (fun state input =>
        OwnersAnswer state input ((machine env).step state input))
        State.initial events ↔
      (machine env).Steps (fun state input => ¬ Impersonates state input)
        State.initial events := by
  constructor
  · apply run.steps _ .start
    intro before input reached enabled answer impersonates
    exact impersonated_not_answered reached enabled impersonates answer
  · apply run.steps _ .start
    intro before input reached enabled genuine
    exact step_keeps reached enabled genuine

theorem owners_answer_iff_own :
    let events := [Sample.connect 0 Sample.spareUuid,
      Sample.register 0 Sample.workerUuid Sample.pubkey,
      Sample.connect 1 Sample.lastUuid,
      Sample.commit Sample.jobUuid none,
      Sample.complete 0 Sample.otherUuid none none]
    let final := (machine Sample.environment).exec .initial events
    (final.jobs.get? Sample.jobUuid.text).map JobRow.status =
        some .completed ∧
      (machine Sample.environment).Steps (fun state input =>
        OwnersAnswer state input
          ((machine Sample.environment).step state input)) .initial events := by
  refine ⟨rfl, ?_⟩
  apply (owners_answer_iff Sample.environment
    (Machine.Run.of_steps (by decide))).mpr
  have others : ∀ {state input},
      (∀ ws msg, input.event ≠ .frame ws (.jobReject msg)) →
      (∀ ws msg, input.event ≠ .frame ws (.jobComplete msg)) →
      ¬ Impersonates state input := by
    intro state input notReject notComplete impersonates
    rcases impersonates with ⟨ws, _, _, _, _, _, ⟨msg, event, _⟩ |
      ⟨msg, event, _⟩⟩
    · exact notReject ws msg event
    · exact notComplete ws msg event
  have reachable : (machine Sample.environment).Reachable
      ((machine Sample.environment).exec .initial
        [Sample.connect 0 Sample.spareUuid,
          Sample.register 0 Sample.workerUuid Sample.pubkey,
          Sample.connect 1 Sample.lastUuid,
          Sample.commit Sample.jobUuid none]) :=
    Machine.Reachable.of_steps (by decide)
  refine ⟨others ?_ ?_, others ?_ ?_, others ?_ ?_, others ?_ ?_, ?_, trivial⟩
  · simp [Sample.connect]
  · simp [Sample.connect]
  · simp [Sample.register]
  · simp [Sample.register]
  · simp [Sample.connect]
  · simp [Sample.connect]
  · simp [Sample.commit]
  · simp [Sample.commit]
  · intro impersonates
    rcases impersonates with ⟨ws, workerId, worker, jobId, holds, foreign,
      ⟨msg, event, _⟩ | ⟨msg, event, same, _⟩⟩
    · cases event
    · cases event
      rcases (board_simulation Sample.environment).reachable reachable with
        ⟨board, represents⟩
      have found := represents.find_of_holds holds
      rw [← same] at found
      cases found
      exact foreign rfl

theorem stranger_completes_job :
    let state := (machine Sample.environment).exec .initial
      [Sample.connect 0 Sample.spareUuid,
        Sample.register 0 Sample.workerUuid Sample.pubkey,
        Sample.commit Sample.jobUuid none,
        Sample.connect 1 Sample.lastUuid]
    let input := Sample.complete 1 Sample.otherUuid none none
    let next := (machine Sample.environment).step state input
    (machine Sample.environment).Reachable state ∧
      (machine Sample.environment).Enabled state input ∧
      (next.jobs.get? Sample.jobUuid.text).map JobRow.status =
        some .completed ∧
      next.boltPayouts.map PayoutCall.jobId = [Sample.jobUuid.text] ∧
      ¬ OwnersAnswer state input next := by
  refine ⟨Machine.Reachable.of_steps (by decide), by decide, rfl, rfl, ?_⟩
  intro answer
  have keeps := answer Sample.workerUuid.text _ Sample.jobUuid.text ⟨rfl, rfl⟩
    (by simp [Sample.complete])
  exact (keeps.row _ rfl).1 rfl

end Dispatch.Coordinator
