import Dispatch.Coordinator.JobBoard

/-! # Every event advances the board

The coordinator simulates the task board, effect by effect.
-/

namespace Dispatch.Coordinator

open WorkerHub

namespace Represents

variable {env : Environment} {state next : State} {board : JobBoard}

/-! ## Fresh identifiers -/

theorem fresh_job (represents : Represents env state board) {uuid : Uuid}
    (fresh : uuid ∉ state.issued) : board.stage uuid.text = none := by
  by_contra staged
  rcases represents.staged_issued _ staged with ⟨other, member, same | same⟩
  · have equal : uuid = other := by
      rcases uuid with ⟨text, _⟩
      rcases other with ⟨otherText, _⟩
      simpa using same
    exact fresh (equal ▸ member)
  · have real := isDemoJob_uuid uuid
    rw [same, isDemoJob_demoJobId] at real
    cases real

theorem fresh_demo (represents : Represents env state board) {uuid : Uuid}
    (fresh : uuid ∉ state.issued) : board.stage (demoJobId uuid) = none := by
  by_contra staged
  rcases represents.staged_issued _ staged with ⟨other, member, same | same⟩
  · have real := isDemoJob_uuid other
    rw [← same, isDemoJob_demoJobId] at real
    cases real
  · exact fresh (demoJobId_injective same ▸ member)

theorem fresh_worker (represents : Represents env state board) {uuid : Uuid}
    (fresh : uuid ∉ state.issued) : state.pubkeyOf uuid.text = none := by
  by_contra tracked
  rcases represents.worker_issued _ tracked with ⟨other, member, same⟩
  have equal : uuid = other := by
    rcases uuid with ⟨text, _⟩
    rcases other with ⟨otherText, _⟩
    simpa using same
  exact fresh (equal ▸ member)

/-! ## Reading the board -/

theorem waiting_of_pending (represents : Represents env state board)
    {jobId : String} {row : JobRow}
    (stored : state.jobs.get? jobId = some row)
    (pending : row.status = .pending) :
    board.stage jobId = some .waiting ∧ row.completedAt = none := by
  rcases represents.row_stage jobId row stored with ⟨stage, staged, rowStage⟩
  cases rowStage with
  | waiting status unclosed => exact ⟨staged, unclosed⟩
  | held status => rw [status] at pending; cases pending
  | finished status => rw [status] at pending; cases pending
  | failed status => rw [status] at pending; cases pending

theorem stage_of_holds (represents : Represents env state board)
    {workerId jobId : String} {worker : TrackedWorker}
    (holds : Holds state workerId worker jobId) :
    state.activeJob workerId = some jobId ∧
      board.stage jobId = some (.held workerId) := by
  have active : state.activeJob workerId = some jobId := by
    rw [State.activeJob, holds.tracked, Option.bind_some, holds.active]
  exact ⟨active, (represents.held_iff workerId jobId).mpr active⟩

theorem row_of_holds (represents : Represents env state board)
    {workerId jobId : String} {worker : TrackedWorker}
    (holds : Holds state workerId worker jobId)
    (real : isDemoJob jobId = false) :
    ∃ row, state.jobs.get? jobId = some row ∧ row.status = .assigned ∧
      row.completedAt = none ∧ row.workerPubkey = some worker.pubkey := by
  have held := (represents.stage_of_holds holds).2
  cases stored : state.jobs.get? jobId with
  | none =>
    rw [represents.no_row jobId stored real] at held
    cases held
  | some row =>
    rcases represents.row_stage jobId row stored with ⟨stage, staged, rowStage⟩
    rw [held] at staged
    cases staged
    cases rowStage with
    | held status unclosed key =>
      refine ⟨row, rfl, status, unclosed, ?_⟩
      rw [key, State.pubkeyOf, holds.tracked, Option.map_some]

theorem inactive_of_idle (represents : Represents env state board)
    {workerId : String} {worker : TrackedWorker}
    (tracked : state.workers.get? workerId = some worker)
    (idle : worker.status = .idle) : state.activeJob workerId = none := by
  by_contra active
  have busy := (represents.busy_iff workerId).mpr active
  rw [State.statusOf, tracked, Option.map_some, idle] at busy
  cases busy

theorem unheld_of_stage (represents : Represents env state board)
    {jobId : String}
    (unheld : ∀ workerId, board.stage jobId ≠ some (.held workerId)) :
    ∀ workerId, state.activeJob workerId ≠ some jobId :=
  fun workerId active =>
    unheld workerId ((represents.held_iff workerId jobId).mpr active)

theorem active_ne_empty (represents : Represents env state board)
    {workerId jobId : String} (active : state.activeJob workerId = some jobId) :
    jobId ≠ "" := by
  have held := (represents.held_iff workerId jobId).mpr active
  rcases represents.staged_issued jobId (by simp [held]) with
    ⟨uuid, _, same | same⟩
  · rw [same]
    exact uuid_ne_empty uuid
  · rw [same]
    simp [demoJobId]

/-! ## Effects -/

theorem registered (represents : Represents env state board) {input : Input}
    (known : input.uuid ∈ state.issued)
    (fresh : state.pubkeyOf input.uuid.text = none) (ws : SocketId)
    (msg : RegisterMsg) :
    Represents env (registered input ws msg state) board := by
  have untracked : state.workers.get? input.uuid.text = none :=
    Option.map_eq_none_iff.mp fresh
  have frees : Frees state (Coordinator.registered input ws msg state)
      input.uuid.text := by
    constructor
    · intro other
      by_cases same : other = input.uuid.text <;>
        simp [State.activeJob, Coordinator.registered, same]
    · simp [State.statusOf, Coordinator.registered]
    · intro other different
      simp [State.statusOf, Coordinator.registered, different]
    · intro other different
      simp [State.pubkeyOf, Coordinator.registered, different]
  apply represents.free_none frees
  · simp [State.activeJob, untracked]
  · intro _
    exact ⟨input.uuid, known, rfl⟩
  · rfl
  · rfl
  · exact represents.paid.of_same rfl rfl rfl

theorem submitted (represents : Represents env state board) {input : Input}
    (known : input.uuid ∈ state.issued)
    (fresh : board.stage input.uuid.text = none) (request : JobRequest) :
    ∃ moved : JobBoard, moved.stage = Function.update board.stage
        input.uuid.text (some .waiting) ∧
      Represents env (submitted input request state) moved := by
  have unheld : ∀ workerId, state.activeJob workerId ≠ some input.uuid.text :=
    represents.unheld_of_stage (by simp [fresh])
  refine ⟨board.place input.uuid.text .waiting (by simp [fresh]) (by simp)
    (by simp), rfl, ?_⟩
  apply represents.move rfl
  · intro workerId
    simpa [State.activeJob, Coordinator.submitted] using unheld workerId
  · intro _ _ _
    rfl
  · exact represents.busy_iff
  · intro _ _
    rfl
  · exact represents.worker_issued
  · intro other different
    simp [Coordinator.submitted, different]
  · intro row stored
    simp only [Coordinator.submitted, OrderedMap.get?_set, if_true,
      Option.some.injEq] at stored
    subst stored
    exact .waiting rfl rfl
  · simp [Coordinator.submitted]
  · exact ⟨input.uuid, known, .inl rfl⟩
  · rfl
  · exact represents.paid.of_same rfl rfl rfl

theorem jobAssigned (represents : Represents env state board)
    {jobId workerId : String} {worker : TrackedWorker} {row : JobRow}
    (tracked : state.workers.get? workerId = some worker)
    (idle : worker.status = .idle)
    (stored : state.jobs.get? jobId = some row)
    (pending : row.status = .pending) (request : JobRequest) :
    ∃ moved : JobBoard, moved.stage = Function.update board.stage jobId
        (some (.held workerId)) ∧
      Represents env (jobAssigned jobId request workerId worker state)
        moved := by
  rcases represents.waiting_of_pending stored pending with ⟨waiting, unclosed⟩
  have inactive := represents.inactive_of_idle tracked idle
  have takes := jobAssigned_takes tracked jobId request
  refine ⟨board.place jobId (.held workerId) (by simp [waiting]) (by simp) ?_,
    rfl, ?_⟩
  · intro holder same other held
    cases same
    have active := (represents.held_iff workerId other).mp held
    rw [inactive] at active
    cases active
  · apply represents.take rfl takes inactive
    · exact represents.unheld_of_stage (by simp [waiting])
    · intro other different
      rw [jobAssigned_eq]
      simp [different]
    · intro assigned assignedStored
      rw [jobAssigned_eq, OrderedMap.get?_modify, if_pos rfl, stored,
        Option.map_some, Option.some.injEq] at assignedStored
      subst assignedStored
      refine .held rfl unclosed ?_
      rw [takes.pubkeyOf, State.pubkeyOf, tracked, Option.map_some]
      rfl
    · have real : isDemoJob jobId ≠ true := by
        intro demo
        rw [represents.demo_no_row jobId demo] at stored
        cases stored
      rw [jobAssigned_eq]
      simp [stored, real]
    · exact represents.staged_issued jobId (by simp [waiting])
    · rw [jobAssigned_eq]
    · rw [jobAssigned_eq]
      exact represents.paid.of_same rfl rfl rfl

theorem failJob (represents : Represents env state board) {jobId : String}
    {row : JobRow} (stored : state.jobs.get? jobId = some row)
    (pending : row.status = .pending) (result : JsonText) :
    ∃ moved : JobBoard, ∃ record, moved.stage = Function.update board.stage
        jobId (some (.failed record)) ∧
      Represents env (failJob jobId result state) moved := by
  rcases represents.waiting_of_pending stored pending with ⟨waiting, unclosed⟩
  refine ⟨board.place jobId (.failed (.row
    { row with status := .failed, result := some result })) (by simp [waiting])
    (by simp) (by simp), _, rfl, ?_⟩
  apply represents.move rfl
  · intro workerId
    have unheld : state.activeJob workerId ≠ some jobId :=
      represents.unheld_of_stage (by simp [waiting]) workerId
    simpa [State.activeJob, Coordinator.failJob] using unheld
  · intro _ _ _
    rfl
  · exact represents.busy_iff
  · intro _ _
    rfl
  · exact represents.worker_issued
  · intro other different
    simp [Coordinator.failJob, different]
  · intro failed failedStored
    simp only [Coordinator.failJob, State.updateJob, OrderedMap.get?_modify,
      if_true, stored, Option.map_some, Option.some.injEq] at failedStored
    subst failedStored
    exact .failed rfl unclosed
  · have real : isDemoJob jobId ≠ true := by
      intro demo
      rw [represents.demo_no_row jobId demo] at stored
      cases stored
    simp [Coordinator.failJob, stored, real]
  · exact represents.staged_issued jobId (by simp [waiting])
  · rfl
  · exact represents.paid.of_same rfl rfl rfl

theorem demoAssigned (represents : Represents env state board)
    {workerId : String} {worker : TrackedWorker} {uuid : Uuid}
    {msg : JobAssignMsg} (known : uuid ∈ state.issued)
    (named : msg.jobId = demoJobId uuid)
    (fresh : board.stage msg.jobId = none)
    (tracked : state.workers.get? workerId = some worker)
    (idle : worker.status = .idle) :
    ∃ moved : JobBoard, moved.stage = Function.update board.stage msg.jobId
        (some (.held workerId)) ∧
      Represents env (demoAssigned workerId worker msg state) moved := by
  have inactive := represents.inactive_of_idle tracked idle
  have noRow := represents.demo_no_row msg.jobId (by simp [named])
  refine ⟨board.place msg.jobId (.held workerId) (by simp [fresh]) (by simp)
    ?_, rfl, ?_⟩
  · intro holder same other held
    cases same
    have active := (represents.held_iff workerId other).mp held
    rw [inactive] at active
    cases active
  · apply represents.take rfl (demoAssigned_takes tracked msg) inactive
    · exact represents.unheld_of_stage (by simp [fresh])
    · intro other _
      simp [Coordinator.demoAssigned]
    · intro row stored
      rw [Coordinator.demoAssigned, State.send_jobs] at stored
      exact absurd (stored.symm.trans noRow) (by simp)
    · rw [named] at noRow ⊢
      simp [Coordinator.demoAssigned, noRow]
    · exact ⟨uuid, known, .inr named⟩
    · simp [Coordinator.demoAssigned]
    · apply represents.paid.of_same <;> simp [Coordinator.demoAssigned]

theorem complete (represents : Represents env state board) {input : Input}
    {msg : JobCompleteMsg} {workerId : String} {worker : TrackedWorker}
    {stored : State} (holds : Holds state workerId worker msg.jobId)
    (real : isDemoJob msg.jobId = false)
    (accepted : storeResult env input.now input.uuid msg worker state =
      .ok stored) :
    ∃ moved : JobBoard, ∃ record, moved.stage = Function.update board.stage
        msg.jobId (some (.finished record)) ∧
      Represents env
        (resetWorker (rewarded env worker msg.jobId stored) workerId)
        moved := by
  rcases represents.stage_of_holds holds with ⟨active, held⟩
  rcases represents.row_of_holds holds real with
    ⟨row, found, _, _, rowPubkey⟩
  rcases storeResult_ok accepted with ⟨_, receipts, _, storedState⟩
  have jobs : (resetWorker (rewarded env worker msg.jobId stored)
      workerId).jobs = state.jobs.modify msg.jobId
        (completedRow input.now msg.output) := by
    simp [resetWorker, storedState]
  refine ⟨board.finish msg.jobId (.row (completedRow input.now msg.output row))
    ⟨workerId, held⟩, _, rfl, ?_⟩
  apply represents.free rfl _ active (by simp)
  · intro other different
    simp [jobs, different]
  · intro completed completedStored
    simp only [jobs, OrderedMap.get?_modify, if_true, found, Option.map_some,
      Option.some.injEq] at completedStored
    subst completedStored
    exact .finished rfl (by simp [completedRow])
  · simp [jobs, found, real]
  · simp [resetWorker, storedState]
  · have paid : Paid env stored board.ledger := by
      apply represents.paid.of_same <;> rw [storedState]
    have due : (JobRecord.row (completedRow input.now msg.output row)).payee =
        some worker.pubkey := rowPubkey
    exact (paid.rewarded worker msg.jobId due).of_same rfl rfl rfl
  · apply (resetWorker_frees _ workerId).of_workers
    simp [storedState]

theorem completeDemo (represents : Represents env state board)
    {workerId jobId : String} {worker : TrackedWorker}
    (holds : Holds state workerId worker jobId)
    (demo : isDemoJob jobId = true) :
    ∃ moved : JobBoard, ∃ record, moved.stage = Function.update board.stage
        jobId (some (.finished record)) ∧
      Represents env (rewarded env worker jobId (resetWorker state workerId))
        moved := by
  rcases represents.stage_of_holds holds with ⟨active, held⟩
  have noRow := represents.demo_no_row jobId demo
  refine ⟨board.finish jobId (.demo worker.pubkey) ⟨workerId, held⟩, _, rfl, ?_⟩
  have frees := resetWorker_frees state workerId
  apply represents.free rfl _ active (by simp)
  · intro other _
    simp [resetWorker]
  · intro row stored
    rw [rewarded_jobs] at stored
    exact absurd (stored.symm.trans noRow) (by simp)
  · simp [resetWorker, noRow, demo]
  · simp [resetWorker]
  · have paid : Paid env (resetWorker state workerId) board.ledger :=
      represents.paid.of_same rfl rfl rfl
    exact paid.rewarded worker jobId rfl
  · constructor
    · intro other
      rw [← frees.activeJob, State.activeJob, rewarded_workers, State.activeJob]
    · rw [State.statusOf, rewarded_workers]
      exact frees.notBusy
    · intro other different
      rw [State.statusOf, rewarded_workers]
      exact frees.statusOf other different
    · intro other different
      rw [State.pubkeyOf, rewarded_workers]
      exact frees.pubkeyOf other different

theorem reject (represents : Represents env state board)
    {workerId jobId : String} {worker : TrackedWorker}
    (holds : Holds state workerId worker jobId)
    (real : isDemoJob jobId = false) :
    ∃ moved : JobBoard, moved.stage = Function.update board.stage jobId
        (some .waiting) ∧
      Represents env (resetWorker (state.updateJob jobId rejectedRow) workerId)
        moved := by
  rcases represents.stage_of_holds holds with ⟨active, held⟩
  rcases represents.row_of_holds holds real with ⟨row, stored, _, unclosed, _⟩
  refine ⟨board.place jobId .waiting (by simp [held]) (by simp) (by simp), rfl,
    ?_⟩
  apply represents.free rfl _ active (by simp)
  · intro other different
    simp [resetWorker, different]
  · intro rejected rejectedStored
    simp only [resetWorker, State.updateWorker, State.updateJob,
      OrderedMap.get?_modify, if_true, stored, Option.map_some,
      Option.some.injEq] at rejectedStored
    subst rejectedStored
    exact .waiting rfl unclosed
  · simp [resetWorker, stored, real]
  · rfl
  · exact represents.paid.of_same rfl rfl rfl
  · exact (resetWorker_frees _ workerId).of_workers rfl

theorem rejectDemo (represents : Represents env state board)
    {workerId jobId : String} {worker : TrackedWorker}
    (holds : Holds state workerId worker jobId)
    (demo : isDemoJob jobId = true) :
    ∃ moved : JobBoard, ∃ record, moved.stage = Function.update board.stage
        jobId (some (.failed record)) ∧
      Represents env (resetWorker state workerId) moved := by
  rcases represents.stage_of_holds holds with ⟨active, held⟩
  have noRow := represents.demo_no_row jobId demo
  refine ⟨board.place jobId (.failed (.demo worker.pubkey)) (by simp [held])
    (by simp) (by simp), _, rfl, ?_⟩
  apply represents.free rfl (resetWorker_frees state workerId) active (by simp)
  · intro other _
    rfl
  · intro row stored
    exact absurd (stored.symm.trans noRow) (by simp)
  · simp [resetWorker, noRow, demo]
  · rfl
  · exact represents.paid.of_same rfl rfl rfl

theorem disconnect (represents : Represents env state board)
    (workerId : String) :
    ∃ moved : JobBoard, Board.Drops board moved ∧
      Represents env (handleDisconnect workerId state) moved := by
  have dropped : ∀ {moved : JobBoard} {jobId : String} {record : JobRecord},
      board.stage jobId = some (.held workerId) →
      moved.stage = Function.update board.stage jobId (some (.failed record)) →
      Board.Drops board moved := by
    intro moved jobId record held update other
    rw [update]
    by_cases same : other = jobId
    · rw [same, Function.update_self]
      exact .inr ⟨workerId, record, held, rfl⟩
    · rw [Function.update_of_ne same]
      exact .inl rfl
  have outcome := handleDisconnect_cases workerId state
  generalize handleDisconnect workerId state = next at outcome
  cases outcome with
  | untracked => exact ⟨board, .refl board, represents⟩
  | @jobless worker tracked jobless =>
    have frees := delete_frees state workerId
    cases active : worker.activeJobId with
    | none =>
      refine ⟨board, .refl board, ?_⟩
      apply represents.free_none frees
      · rw [State.activeJob, tracked, Option.bind_some, active]
      · intro stillTracked
        simp [State.pubkeyOf] at stillTracked
      · rfl
      · rfl
      · exact represents.paid.of_same rfl rfl rfl
    | some jobId =>
      rcases represents.stage_of_holds ⟨tracked, active⟩ with
        ⟨activeJob, held⟩
      have nonempty := represents.active_ne_empty activeJob
      have demo : isDemoJob jobId = true :=
        (jobless jobId active).resolve_left nonempty
      have noRow := represents.demo_no_row jobId demo
      refine ⟨board.place jobId (.failed (.demo worker.pubkey))
        (by simp [held]) (by simp) (by simp), dropped held rfl, ?_⟩
      apply represents.free rfl frees activeJob (by simp)
      · intro other _
        rfl
      · intro row stored
        exact absurd (stored.symm.trans noRow) (by simp)
      · simp [noRow, demo]
      · rfl
      · exact represents.paid.of_same rfl rfl rfl
  | @failed worker jobId holds real =>
    rcases represents.stage_of_holds holds with ⟨activeJob, held⟩
    rcases represents.row_of_holds holds real with
      ⟨row, stored, _, unclosed, _⟩
    refine ⟨board.place jobId (.failed (.row (disconnectedRow row)))
      (by simp [held]) (by simp) (by simp), dropped held rfl, ?_⟩
    apply represents.free rfl _ activeJob (by simp)
    · intro other different
      simp [different]
    · intro failed failedStored
      simp only [OrderedMap.get?_modify, if_true, stored, Option.map_some,
        Option.some.injEq] at failedStored
      subst failedStored
      exact .failed rfl unclosed
    · simp [stored, real]
    · rfl
    · exact represents.paid.of_same rfl rfl rfl
    · have frees := delete_frees state workerId
      exact ⟨frees.activeJob, frees.notBusy, frees.statusOf, frees.pubkeyOf⟩

theorem prune (represents : Represents env state board) (now : Nat) :
    ∃ moved : JobBoard, Board.Drops board moved ∧
      Represents env (pruneStale now state) moved := by
  apply pruneStale_induction (fun next => ∃ moved : JobBoard,
    Board.Drops board moved ∧ Represents env next moved) now
  · exact ⟨board, .refl board, represents⟩
  · intro next ws reached
    rcases reached with ⟨middle, drops, reached⟩
    exact ⟨middle, drops, reached.quiet (.closeSocket next ws)⟩
  · intro next workerId reached
    rcases reached with ⟨middle, drops, reached⟩
    rcases reached.disconnect workerId with ⟨moved, later, dropped⟩
    exact ⟨moved, drops.trans later, dropped⟩

end Represents

/-! ## The simulation -/

theorem effect_advances {env : Environment} {before state next : State}
    {input : Input} {board : JobBoard}
    (represents : Represents env before board)
    (fresh : input.uuid ∉ before.issued)
    (issued : state = before.issue input.uuid)
    (effect : Effect env input state next) :
    ∃ moved : JobBoard, Board.Advance board moved ∧
      Represents env next moved := by
  have known : input.uuid ∈ state.issued := by
    rw [issued]
    exact List.mem_cons_self
  have freshJob := represents.fresh_job fresh
  have freshDemo := represents.fresh_demo fresh
  have freshWorker : state.pubkeyOf input.uuid.text = none := by
    rw [issued]
    exact represents.fresh_worker fresh
  have represented : Represents env state board := by
    rw [issued]
    exact represents.issue input.uuid
  cases effect with
  | quiet quiet => exact ⟨board, .refl board, represented.quiet quiet⟩
  | register event quiet =>
    exact ⟨board, .refl board,
      (represented.registered known freshWorker _ _).quiet quiet⟩
  | receipt event stored =>
    refine ⟨board, .refl board, ?_⟩
    rw [(insertReceipt_ok stored).2]
    exact represented.of_same (fun _ => rfl) (fun _ => rfl) (fun _ => rfl) rfl
      (fun _ member => member) (represented.paid.of_same rfl rfl rfl)
  | complete event holds real accepted =>
    rcases represented.complete holds real accepted with
      ⟨moved, record, update, reached⟩
    have held := (represented.stage_of_holds holds).2
    exact ⟨moved, .of_update update (held ▸ .finish _ record), reached⟩
  | completeDemo event holds demo =>
    rcases represented.completeDemo holds demo with
      ⟨moved, record, update, reached⟩
    have held := (represented.stage_of_holds holds).2
    exact ⟨moved, .of_update update (held ▸ .finish _ record), reached⟩
  | reject event holds real =>
    rcases represented.reject holds real with ⟨moved, update, reached⟩
    have held := (represented.stage_of_holds holds).2
    exact ⟨moved, .of_update update (held ▸ .giveBack _), reached⟩
  | rejectDemo event holds demo =>
    rcases represented.rejectDemo holds demo with
      ⟨moved, record, update, reached⟩
    have held := (represented.stage_of_holds holds).2
    exact ⟨moved, .of_update update (held ▸ .fail _ record), reached⟩
  | @disconnect ws workerId connections event =>
    have closed : Represents env { state with connections := connections }
        board := represented.quiet { Quiet.refl state with }
    rcases closed.disconnect workerId with ⟨moved, drops, reached⟩
    exact ⟨moved, drops.advance, reached⟩
  | prune event =>
    rcases represented.prune input.now with ⟨moved, drops, reached⟩
    exact ⟨moved, drops.advance, reached⟩
  | commitAssigned event valid claimed =>
    rcases represented.submitted known freshJob _ with
      ⟨posted, postUpdate, postReached⟩
    rcases postReached.jobAssigned claimed.tracked claimed.idle
      (submitted_get _ _ _) rfl _ with ⟨moved, update, reached⟩
    rw [postUpdate, Function.update_idem] at update
    exact ⟨moved, .of_update update (freshJob ▸ .postTake _), reached⟩
  | commitRefused event valid none trusted =>
    rcases represented.submitted known freshJob _ with
      ⟨posted, postUpdate, postReached⟩
    rcases postReached.failJob (submitted_get _ _ _) rfl _ with
      ⟨moved, record, update, reached⟩
    rw [postUpdate, Function.update_idem] at update
    exact ⟨moved, .of_update update (freshJob ▸ .postFail _), reached⟩
  | commitWaiting event valid none untrusted =>
    rcases represented.submitted known freshJob _ with
      ⟨moved, update, reached⟩
    refine ⟨moved, .of_update update (freshJob ▸ .post), ?_⟩
    exact reached.of_same (fun _ => rfl) (fun _ => rfl) (fun _ => rfl) rfl
      (fun _ member => member) (reached.paid.of_same rfl rfl rfl)
  | retryCleared event live settled =>
    exact ⟨board, .refl board, represented.of_same (fun _ => rfl)
      (fun _ => rfl) (fun _ => rfl) rfl (fun _ member => member)
      (represented.paid.of_same rfl rfl rfl)⟩
  | @retryAssigned jobId loop row workerId worker event live stored pending
      claimed =>
      have waiting := (represented.waiting_of_pending stored pending).1
      have ticked : Represents env (counted jobId loop state) board :=
        represented.of_same (fun _ => rfl) (fun _ => rfl) (fun _ => rfl) rfl
          (fun _ member => member) (represented.paid.of_same rfl rfl rfl)
      rcases ticked.jobAssigned claimed.tracked claimed.idle stored pending
        loop.request with ⟨moved, update, reached⟩
      refine ⟨moved, .of_update update (waiting ▸ .take _), ?_⟩
      exact reached.of_same (fun _ => rfl) (fun _ => rfl) (fun _ => rfl) rfl
        (fun _ member => member) (reached.paid.of_same rfl rfl rfl)
  | @retryFailed jobId loop row event live stored pending none last =>
    have waiting := (represented.waiting_of_pending stored pending).1
    have ticked : Represents env (counted jobId loop state) board :=
      represented.of_same (fun _ => rfl) (fun _ => rfl) (fun _ => rfl) rfl
        (fun _ member => member) (represented.paid.of_same rfl rfl rfl)
    rcases ticked.failJob stored pending noEligibleWorkerResult with
      ⟨moved, record, update, reached⟩
    refine ⟨moved, .of_update update (waiting ▸ .giveUp _), ?_⟩
    exact reached.of_same (fun _ => rfl) (fun _ => rfl) (fun _ => rfl) rfl
      (fun _ member => member) (reached.paid.of_same rfl rfl rfl)
  | retryCounted event live stored pending none more =>
    exact ⟨board, .refl board, represented.of_same (fun _ => rfl)
      (fun _ => rfl) (fun _ => rfl) rfl (fun _ member => member)
      (represented.paid.of_same rfl rfl rfl)⟩
  | @demo choice task prompt workerId worker event tracked idle =>
    have named : (demoMsg input.uuid task prompt).jobId =
      demoJobId input.uuid := rfl
    rcases represented.demoAssigned known named freshDemo tracked idle with
      ⟨moved, update, reached⟩
    exact ⟨moved, .of_update update (freshDemo ▸ .postTake _), reached⟩

theorem board_simulation (env : Environment) :
    (machine env).Simulation Board.Advance (Represents env) where
  start := ⟨.empty, represents_initial env⟩
  step := by
    intro state board input represents enabled
    exact effect_advances represents enabled.1 rfl
      (step_effect env state input)

end Dispatch.Coordinator
