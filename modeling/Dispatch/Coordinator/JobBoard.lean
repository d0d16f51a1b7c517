import Dispatch.Coordinator.Effects
import Dispatch.Foundation.TaskBoard

/-! # The coordinator keeps a task board

The worker map and the jobs table are written separately, and no statement
looks at the other side.
-/

namespace Dispatch.Coordinator

open WorkerHub

/-! ## The worker side of a state -/

namespace State

def activeJob (state : State) (workerId : String) : Option String :=
  (state.workers.get? workerId).bind TrackedWorker.activeJobId

def statusOf (state : State) (workerId : String) : Option WorkerStatus :=
  (state.workers.get? workerId).map TrackedWorker.status

def pubkeyOf (state : State) (workerId : String) : Option String :=
  (state.workers.get? workerId).map TrackedWorker.pubkey

theorem pubkeyOf_of_activeJob (state : State) {workerId jobId : String}
    (active : state.activeJob workerId = some jobId) :
    state.pubkeyOf workerId ≠ none := by
  intro untracked
  rw [pubkeyOf, Option.map_eq_none_iff] at untracked
  rw [activeJob, untracked] at active
  cases active

end State

structure Takes (state next : State) (workerId jobId : String) : Prop where
  activeJob : ∀ other, next.activeJob other =
    if other = workerId then some jobId else state.activeJob other
  statusOf : ∀ other, next.statusOf other =
    if other = workerId then some .busy else state.statusOf other
  pubkeyOf : ∀ other, next.pubkeyOf other = state.pubkeyOf other

structure Frees (state next : State) (workerId : String) : Prop where
  activeJob : ∀ other, next.activeJob other =
    if other = workerId then none else state.activeJob other
  notBusy : next.statusOf workerId ≠ some .busy
  statusOf : ∀ other, other ≠ workerId →
    next.statusOf other = state.statusOf other
  pubkeyOf : ∀ other, other ≠ workerId →
    next.pubkeyOf other = state.pubkeyOf other

theorem jobAssigned_takes {state : State} {workerId : String}
    {worker : TrackedWorker}
    (tracked : state.workers.get? workerId = some worker) (jobId : String)
    (request : JobRequest) :
    Takes state (jobAssigned jobId request workerId worker state) workerId
      jobId := by
  constructor <;> intro other <;> by_cases same : other = workerId <;>
    simp [State.activeJob, State.statusOf, State.pubkeyOf, same, tracked]

theorem demoAssigned_takes {state : State} {workerId : String}
    {worker : TrackedWorker}
    (tracked : state.workers.get? workerId = some worker)
    (msg : JobAssignMsg) :
    Takes state (demoAssigned workerId worker msg state) workerId
      msg.jobId := by
  constructor <;> intro other <;> by_cases same : other = workerId <;>
    simp [State.activeJob, State.statusOf, State.pubkeyOf, demoAssigned, same,
      tracked]

theorem resetWorker_frees (state : State) (workerId : String) :
    Frees state (resetWorker state workerId) workerId where
  activeJob other := by
    by_cases same : other = workerId <;>
      cases state.workers.get? workerId <;>
      simp [State.activeJob, resetWorker, *]
  notBusy := by
    cases state.workers.get? workerId <;>
      simp [State.statusOf, resetWorker, *]
  statusOf other different := by
    simp [State.statusOf, resetWorker, different]
  pubkeyOf other different := by
    simp [State.pubkeyOf, resetWorker, different]

theorem Frees.of_workers {state middle next : State} {workerId : String}
    (frees : Frees middle next workerId)
    (workers : middle.workers = state.workers) :
    Frees state next workerId where
  activeJob other := by
    rw [frees.activeJob, State.activeJob, workers, State.activeJob]
  notBusy := frees.notBusy
  statusOf other different := by
    rw [frees.statusOf other different, State.statusOf, workers, State.statusOf]
  pubkeyOf other different := by
    rw [frees.pubkeyOf other different, State.pubkeyOf, workers, State.pubkeyOf]

theorem Frees.busy_iff {state next : State} {workerId : String}
    (frees : Frees state next workerId)
    (before : ∀ other, state.statusOf other = some .busy ↔
      state.activeJob other ≠ none) (other : String) :
    next.statusOf other = some .busy ↔ next.activeJob other ≠ none := by
  rw [frees.activeJob]
  split
  · next same =>
      rw [same]
      simp [frees.notBusy]
  · next different =>
      rw [frees.statusOf other different]
      exact before other

theorem delete_frees (state : State) (workerId : String) :
    Frees state { state with workers := state.workers.delete workerId }
      workerId where
  activeJob other := by
    by_cases same : other = workerId <;> simp [State.activeJob, same]
  notBusy := by simp [State.statusOf]
  statusOf other different := by simp [State.statusOf, different]
  pubkeyOf other different := by simp [State.pubkeyOf, different]

/-! ## The board that a state represents -/

inductive JobRecord
  | row (row : JobRow)
  | demo (pubkey : String)

def JobRecord.payee : JobRecord → Option String
  | row stored => stored.workerPubkey
  | demo pubkey => some pubkey

abbrev JobBoard := Board String String JobRecord

inductive RowStage (state : State) (row : JobRow) :
    Stage String JobRecord → Prop
  | waiting (status : row.status = .pending)
      (unclosed : row.completedAt = none) : RowStage state row .waiting
  | held {workerId : String} (status : row.status = .assigned)
      (unclosed : row.completedAt = none)
      (holder : row.workerPubkey = state.pubkeyOf workerId) :
      RowStage state row (.held workerId)
  | finished (status : row.status = .completed)
      (closed : row.completedAt ≠ none) : RowStage state row (.finished (.row row))
  | failed (status : row.status = .failed)
      (unclosed : row.completedAt = none) : RowStage state row (.failed (.row row))

theorem RowStage.mono {state next : State} {row : JobRow}
    {stage : Stage String JobRecord} (rowStage : RowStage state row stage)
    (keeps : ∀ workerId, stage = .held workerId →
      next.pubkeyOf workerId = state.pubkeyOf workerId) :
    RowStage next row stage := by
  cases rowStage with
  | waiting status unclosed => exact .waiting status unclosed
  | held status unclosed holder =>
    exact .held status unclosed (by rw [holder, keeps _ rfl])
  | finished status closed => exact .finished status closed
  | failed status unclosed => exact .failed status unclosed

def payoutFor (entry : String × JobRecord) : Option PayoutCall :=
  entry.2.payee.map fun pubkey =>
    { workerPubkey := pubkey, jobId := entry.1, amount := jobPayout }

def feedbackFor (entry : String × JobRecord) : Option (String × String × Bool) :=
  entry.2.payee.map fun pubkey => (pubkey, entry.1, true)

structure Paid (env : Environment) (state : State)
    (ledger : List (String × JobRecord)) : Prop where
  bolt : state.boltPayouts.map some =
    if env.boltDistributor then ledger.map payoutFor else []
  wrappedBolt : state.wrappedBoltPayouts.map some =
    if env.wrappedBoltDistributor then ledger.map payoutFor else []
  feedback : (state.feedback.map fun call =>
      some (call.workerPubkey, call.jobId, call.success)) =
    if env.postFeedback then ledger.map feedbackFor else []

structure Represents (env : Environment) (state : State) (board : JobBoard) :
    Prop where
  held_iff : ∀ workerId jobId, board.stage jobId = some (.held workerId) ↔
    state.activeJob workerId = some jobId
  busy_iff : ∀ workerId, state.statusOf workerId = some .busy ↔
    state.activeJob workerId ≠ none
  row_stage : ∀ jobId row, state.jobs.get? jobId = some row →
    ∃ stage, board.stage jobId = some stage ∧ RowStage state row stage
  no_row : ∀ jobId, state.jobs.get? jobId = none → isDemoJob jobId = false →
    board.stage jobId = none
  demo_no_row : ∀ jobId, isDemoJob jobId = true → state.jobs.get? jobId = none
  staged_issued : ∀ jobId, board.stage jobId ≠ none →
    ∃ uuid ∈ state.issued, jobId = uuid.text ∨ jobId = demoJobId uuid
  worker_issued : ∀ workerId, state.pubkeyOf workerId ≠ none →
    ∃ uuid ∈ state.issued, workerId = uuid.text
  paid : Paid env state board.ledger

theorem represents_initial (env : Environment) :
    Represents env .initial .empty where
  held_iff _ _ := by simp [Board.empty, State.activeJob, State.initial]
  busy_iff _ := by simp [State.statusOf, State.activeJob, State.initial]
  row_stage _ _ stored := by simp [State.initial] at stored
  no_row _ _ _ := rfl
  demo_no_row _ _ := rfl
  staged_issued _ staged := absurd rfl staged
  worker_issued _ tracked := absurd rfl tracked
  paid := by
    constructor <;> simp [State.initial, Board.empty]

/-! ## Payments -/

namespace Paid

variable {env : Environment} {state next : State}
  {ledger : List (String × JobRecord)}

theorem of_same (paid : Paid env state ledger)
    (bolt : next.boltPayouts = state.boltPayouts)
    (wrappedBolt : next.wrappedBoltPayouts = state.wrappedBoltPayouts)
    (feedback : next.feedback = state.feedback) : Paid env next ledger where
  bolt := by rw [bolt, paid.bolt]
  wrappedBolt := by rw [wrappedBolt, paid.wrappedBolt]
  feedback := by rw [feedback, paid.feedback]

theorem rewarded (paid : Paid env state ledger) (worker : TrackedWorker)
    (jobId : String) {record : JobRecord}
    (payee : record.payee = some worker.pubkey) :
    Paid env (rewarded env worker jobId state) (ledger ++ [(jobId, record)]) := by
  rcases paid with ⟨bolt, wrappedBolt, feedback⟩
  constructor
  · cases configured : env.boltDistributor <;>
      simp_all [Coordinator.rewarded, queuePayouts, postFeedback, payoutFor,
        apply_ite State.boltPayouts]
  · cases configured : env.wrappedBoltDistributor <;>
      simp_all [Coordinator.rewarded, queuePayouts, postFeedback, payoutFor,
        apply_ite State.wrappedBoltPayouts]
  · cases configured : env.postFeedback <;>
      simp_all [Coordinator.rewarded, queuePayouts, postFeedback, feedbackFor]

end Paid

/-! ## Steps that leave the board as it is -/

namespace Represents

variable {env : Environment} {state next : State} {board : JobBoard}

theorem of_same (represents : Represents env state board)
    (activeJob : ∀ workerId,
      next.activeJob workerId = state.activeJob workerId)
    (statusOf : ∀ workerId, next.statusOf workerId = state.statusOf workerId)
    (pubkeyOf : ∀ workerId, next.pubkeyOf workerId = state.pubkeyOf workerId)
    (jobs : next.jobs = state.jobs)
    (issued : ∀ uuid ∈ state.issued, uuid ∈ next.issued)
    (paid : Paid env next board.ledger) : Represents env next board where
  held_iff workerId jobId := by
    rw [activeJob]
    exact represents.held_iff workerId jobId
  busy_iff workerId := by
    rw [activeJob, statusOf]
    exact represents.busy_iff workerId
  row_stage jobId row stored := by
    rw [jobs] at stored
    rcases represents.row_stage jobId row stored with ⟨stage, staged, rowStage⟩
    exact ⟨stage, staged, rowStage.mono fun workerId _ => pubkeyOf workerId⟩
  no_row jobId absent := by
    rw [jobs] at absent
    exact represents.no_row jobId absent
  demo_no_row jobId demo := by
    rw [jobs]
    exact represents.demo_no_row jobId demo
  staged_issued jobId staged := by
    rcases represents.staged_issued jobId staged with ⟨uuid, member, same⟩
    exact ⟨uuid, issued uuid member, same⟩
  worker_issued workerId tracked := by
    rw [pubkeyOf] at tracked
    rcases represents.worker_issued workerId tracked with ⟨uuid, member, same⟩
    exact ⟨uuid, issued uuid member, same⟩
  paid := paid

theorem quiet (represents : Represents env state board)
    (quiet : Quiet state next) : Represents env next board := by
  have assignmentOf : ∀ {α : Type} (read : Assignment → α) workerId,
      (next.workers.get? workerId).map (fun worker => read worker.assignment) =
        (state.workers.get? workerId).map
          (fun worker => read worker.assignment) := by
    intro α read workerId
    have same := congrArg (Option.map read) (quiet.workers workerId)
    rwa [Option.map_map, Option.map_map] at same
  apply represents.of_same
  · intro workerId
    have same := congrArg (Option.bind · id)
      (assignmentOf Assignment.activeJobId workerId)
    rwa [Option.bind_map, Option.bind_map] at same
  · exact assignmentOf Assignment.status
  · exact assignmentOf Assignment.pubkey
  · exact quiet.jobs
  · intro uuid member
    rwa [quiet.issued]
  · exact represents.paid.of_same quiet.boltPayouts quiet.wrappedBoltPayouts
      quiet.feedback

theorem issue (represents : Represents env state board) (uuid : Uuid) :
    Represents env (state.issue uuid) board := by
  apply represents.of_same
  · intro workerId
    rfl
  · intro workerId
    rfl
  · intro workerId
    rfl
  · rfl
  · intro other member
    exact List.mem_cons_of_mem uuid member
  · exact represents.paid.of_same rfl rfl rfl

/-! ## Steps that move one job -/

theorem move (represents : Represents env state board) {moved : JobBoard}
    {jobId : String} {stage : Stage String JobRecord}
    (update : moved.stage = Function.update board.stage jobId (some stage))
    (holder : ∀ workerId,
      next.activeJob workerId = some jobId ↔ stage = .held workerId)
    (others : ∀ workerId other, other ≠ jobId →
      (next.activeJob workerId = some other ↔
        state.activeJob workerId = some other))
    (busy : ∀ workerId, next.statusOf workerId = some .busy ↔
      next.activeJob workerId ≠ none)
    (pubkeys : ∀ workerId, next.activeJob workerId ≠ none →
      next.pubkeyOf workerId = state.pubkeyOf workerId)
    (workers : ∀ workerId, next.pubkeyOf workerId ≠ none →
      ∃ uuid ∈ state.issued, workerId = uuid.text)
    (rows : ∀ other, other ≠ jobId →
      next.jobs.get? other = state.jobs.get? other)
    (row : ∀ row, next.jobs.get? jobId = some row → RowStage next row stage)
    (demo : next.jobs.get? jobId = none ↔ isDemoJob jobId = true)
    (known : ∃ uuid ∈ state.issued,
      jobId = uuid.text ∨ jobId = demoJobId uuid)
    (issued : next.issued = state.issued)
    (paid : Paid env next moved.ledger) : Represents env next moved where
  held_iff workerId other := by
    rw [update]
    by_cases same : other = jobId
    · subst same
      rw [Function.update_self, holder, Option.some.injEq]
    · rw [Function.update_of_ne same, represents.held_iff,
        others workerId other same]
  busy_iff := busy
  row_stage other stored found := by
    rw [update]
    by_cases same : other = jobId
    · subst same
      exact ⟨stage, Function.update_self .., row stored found⟩
    · rw [rows other same] at found
      rcases represents.row_stage other stored found with
        ⟨before, staged, rowStage⟩
      rw [Function.update_of_ne same]
      refine ⟨before, staged, rowStage.mono ?_⟩
      intro workerId held
      rw [held, represents.held_iff] at staged
      apply pubkeys
      rw [(others workerId other same).mpr staged]
      simp
  no_row other absent real := by
    rw [update]
    by_cases same : other = jobId
    · subst same
      rw [demo.mp absent] at real
      cases real
    · rw [Function.update_of_ne same]
      rw [rows other same] at absent
      exact represents.no_row other absent real
  demo_no_row other isDemo := by
    by_cases same : other = jobId
    · subst same
      exact demo.mpr isDemo
    · rw [rows other same]
      exact represents.demo_no_row other isDemo
  staged_issued other staged := by
    rw [issued]
    by_cases same : other = jobId
    · subst same
      exact known
    · rw [update, Function.update_of_ne same] at staged
      exact represents.staged_issued other staged
  worker_issued workerId tracked := by
    rw [issued]
    exact workers workerId tracked
  paid := paid

theorem take (represents : Represents env state board) {moved : JobBoard}
    {workerId jobId : String}
    (update : moved.stage =
      Function.update board.stage jobId (some (.held workerId)))
    (takes : Takes state next workerId jobId)
    (free : state.activeJob workerId = none)
    (unheld : ∀ other, state.activeJob other ≠ some jobId)
    (rows : ∀ other, other ≠ jobId →
      next.jobs.get? other = state.jobs.get? other)
    (row : ∀ row, next.jobs.get? jobId = some row →
      RowStage next row (.held workerId))
    (demo : next.jobs.get? jobId = none ↔ isDemoJob jobId = true)
    (known : ∃ uuid ∈ state.issued,
      jobId = uuid.text ∨ jobId = demoJobId uuid)
    (issued : next.issued = state.issued)
    (paid : Paid env next moved.ledger) : Represents env next moved := by
  apply represents.move update _ _ _ _ _ rows row demo known issued paid
  · intro other
    rw [takes.activeJob]
    split
    · next same => simp [same]
    · next different => simp [unheld other, Ne.symm different]
  · intro other job different
    rw [takes.activeJob]
    split
    · next same =>
        rw [same, free]
        simp [Ne.symm different]
    · rfl
  · intro other
    rw [takes.activeJob, takes.statusOf]
    split
    · simp
    · exact represents.busy_iff other
  · intro other _
    exact takes.pubkeyOf other
  · intro other tracked
    rw [takes.pubkeyOf] at tracked
    exact represents.worker_issued other tracked

theorem free (represents : Represents env state board) {moved : JobBoard}
    {workerId jobId : String} {stage : Stage String JobRecord}
    (update : moved.stage = Function.update board.stage jobId (some stage))
    (frees : Frees state next workerId)
    (active : state.activeJob workerId = some jobId)
    (unheld : ∀ other, stage ≠ .held other)
    (rows : ∀ other, other ≠ jobId →
      next.jobs.get? other = state.jobs.get? other)
    (row : ∀ row, next.jobs.get? jobId = some row → RowStage next row stage)
    (demo : next.jobs.get? jobId = none ↔ isDemoJob jobId = true)
    (issued : next.issued = state.issued)
    (paid : Paid env next moved.ledger) : Represents env next moved := by
  have held := (represents.held_iff workerId jobId).mpr active
  have known := represents.staged_issued jobId (by simp [held])
  apply represents.move update _ _ _ _ _ rows row demo known issued paid
  · intro other
    rw [frees.activeJob]
    split
    · simp [unheld other]
    · next different =>
        have notHolder : state.activeJob other ≠ some jobId := by
          intro same
          have alsoHeld := (represents.held_iff other jobId).mpr same
          rw [held, Option.some.injEq, Stage.held.injEq] at alsoHeld
          exact different alsoHeld.symm
        simp [notHolder, unheld other]
  · intro other job different
    rw [frees.activeJob]
    split
    · next same =>
        rw [same, active]
        simp [Ne.symm different]
    · rfl
  · exact frees.busy_iff represents.busy_iff
  · intro other busy
    apply frees.pubkeyOf
    intro same
    rw [frees.activeJob, if_pos same] at busy
    exact busy rfl
  · intro other tracked
    apply represents.worker_issued other
    by_cases same : other = workerId
    · rw [same]
      exact state.pubkeyOf_of_activeJob active
    · rwa [frees.pubkeyOf other same] at tracked

theorem free_none (represents : Represents env state board)
    {workerId : String} (frees : Frees state next workerId)
    (inactive : state.activeJob workerId = none)
    (known : next.pubkeyOf workerId ≠ none →
      ∃ uuid ∈ state.issued, workerId = uuid.text)
    (jobs : next.jobs = state.jobs) (issued : next.issued = state.issued)
    (paid : Paid env next board.ledger) : Represents env next board where
  held_iff other job := by
    rw [represents.held_iff, frees.activeJob]
    split
    · next same => rw [same, inactive]
    · rfl
  busy_iff := frees.busy_iff represents.busy_iff
  row_stage job row stored := by
    rw [jobs] at stored
    rcases represents.row_stage job row stored with ⟨stage, staged, rowStage⟩
    refine ⟨stage, staged, rowStage.mono ?_⟩
    intro holder held
    rw [held, represents.held_iff] at staged
    apply frees.pubkeyOf
    intro same
    rw [same, inactive] at staged
    cases staged
  no_row job absent := by
    rw [jobs] at absent
    exact represents.no_row job absent
  demo_no_row job demo := by
    rw [jobs]
    exact represents.demo_no_row job demo
  staged_issued job staged := by
    rw [issued]
    exact represents.staged_issued job staged
  worker_issued other tracked := by
    rw [issued]
    by_cases same : other = workerId
    · rw [same] at tracked ⊢
      exact known tracked
    · rw [frees.pubkeyOf other same] at tracked
      exact represents.worker_issued other tracked
  paid := paid

end Represents

end Dispatch.Coordinator
