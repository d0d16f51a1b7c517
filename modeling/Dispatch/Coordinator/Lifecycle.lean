import Dispatch.Coordinator.BoardSimulation

/-! # Agreement and lifecycle

What follows for the worker map and the jobs table from the board that they
represent together.
-/

namespace Dispatch.Coordinator

open WorkerHub

/-! ## The worker map and the jobs table agree -/

namespace Represents

variable {env : Environment} {state : State} {board : JobBoard}

theorem holder_unique (represents : Represents env state board)
    {left right jobId : String} {leftWorker rightWorker : TrackedWorker}
    (leftHolds : Holds state left leftWorker jobId)
    (rightHolds : Holds state right rightWorker jobId) : left = right := by
  have leftHeld := (represents.stage_of_holds leftHolds).2
  have rightHeld := (represents.stage_of_holds rightHolds).2
  rw [leftHeld, Option.some.injEq, Stage.held.injEq] at rightHeld
  exact rightHeld

theorem find_of_holds (represents : Represents env state board)
    {workerId jobId : String} {worker : TrackedWorker}
    (holds : Holds state workerId worker jobId) :
    findByActiveJob state jobId = some (workerId, worker) := by
  cases found : findByActiveJob state jobId with
  | none =>
    have notHeld := OrderedMap.not_test_of_find?_eq_none found holds.tracked
    simp [holds.active] at notHeld
  | some entry =>
    rcases entry with ⟨otherId, other⟩
    have otherHolds := holds_of_find found
    have same := represents.holder_unique otherHolds holds
    have tracked := otherHolds.tracked
    rw [same, holds.tracked, Option.some.injEq] at tracked
    rw [same, tracked]

theorem real_of_row (represents : Represents env state board) {jobId : String}
    {row : JobRow} (stored : state.jobs.get? jobId = some row) :
    isDemoJob jobId = false := by
  rw [Bool.eq_false_iff]
  intro demo
  rw [represents.demo_no_row jobId demo] at stored
  cases stored

end Represents

/-! ## The lifecycle of a row -/

inductive StatusStep : JobStatus → JobStatus → Prop
  | assign : StatusStep .pending .assigned
  | giveUp : StatusStep .pending .failed
  | complete : StatusStep .assigned .completed
  | reject : StatusStep .assigned .pending
  | fail : StatusStep .assigned .failed

inductive RowStep : Option JobRow → Option JobRow → Prop
  | absent : RowStep none none
  | inserted {row : JobRow}
      (status : row.status = .pending ∨ StatusStep .pending row.status) :
      RowStep none (some row)
  | kept {before after : JobRow} (same : after.status = before.status) :
      RowStep (some before) (some after)
  | changed {before after : JobRow}
      (step : StatusStep before.status after.status) :
      RowStep (some before) (some after)

def stageStatus : Stage String JobRecord → JobStatus
  | .waiting => .pending
  | .held _ => .assigned
  | .finished _ => .completed
  | .failed _ => .failed

theorem RowStage.status_eq {state : State} {row : JobRow}
    {stage : Stage String JobRecord} (rowStage : RowStage state row stage) :
    row.status = stageStatus stage := by
  cases rowStage with
  | waiting status => exact status
  | held status => exact status
  | finished status => exact status
  | failed status => exact status

theorem stageStatus_posted {stage : Stage String JobRecord}
    (step : Stage.Next none (some stage)) :
    stageStatus stage = .pending ∨ StatusStep .pending (stageStatus stage) := by
  cases step with
  | post => exact .inl rfl
  | postTake => exact .inr .assign
  | postFail => exact .inr .giveUp

theorem stageStatus_step {before after : Stage String JobRecord}
    (step : Stage.Next (some before) (some after)) :
    stageStatus after = stageStatus before ∨
      StatusStep (stageStatus before) (stageStatus after) := by
  cases step with
  | stay => exact .inl rfl
  | take => exact .inr .assign
  | giveUp => exact .inr .giveUp
  | finish => exact .inr .complete
  | giveBack => exact .inr .reject
  | fail => exact .inr .fail

namespace Represents

variable {env : Environment} {state next : State} {board moved : JobBoard}

theorem final_stage (represents : Represents env state board) {jobId : String}
    {row : JobRow} (stored : state.jobs.get? jobId = some row)
    (final : row.status.IsFinal) :
    ∃ stage, board.stage jobId = some stage ∧ stage.IsFinal ∧
      ∀ {later : State} {laterRow : JobRow}, RowStage later laterRow stage →
        laterRow = row := by
  rcases represents.row_stage jobId row stored with ⟨stage, staged, rowStage⟩
  refine ⟨stage, staged, ?_⟩
  cases rowStage with
  | waiting status => rcases final with ended | ended <;> simp_all
  | held status => rcases final with ended | ended <;> simp_all
  | finished =>
    refine ⟨trivial, ?_⟩
    intro later laterRow laterStage
    cases laterStage
    rfl
  | failed =>
    refine ⟨trivial, ?_⟩
    intro later laterRow laterStage
    cases laterStage
    rfl

theorem final_row (represents : Represents env state board)
    (advances : Relation.ReflTransGen Board.Advance board moved)
    (reached : Represents env next moved) {jobId : String} {row : JobRow}
    (stored : state.jobs.get? jobId = some row)
    (final : row.status.IsFinal) : next.jobs.get? jobId = some row := by
  rcases represents.final_stage stored final with
    ⟨stage, staged, ended, only⟩
  have still := Board.Advance.final advances ended staged
  cases found : next.jobs.get? jobId with
  | none =>
    have real := represents.real_of_row stored
    rw [reached.no_row jobId found real] at still
    cases still
  | some later =>
    rcases reached.row_stage jobId later found with ⟨_, laterStaged, rowStage⟩
    rw [still, Option.some.injEq] at laterStaged
    have same : later = row := only (laterStaged ▸ rowStage)
    rw [same]

theorem row_step (represents : Represents env state board)
    (advance : Board.Advance board moved)
    (reached : Represents env next moved) (jobId : String) :
    RowStep (state.jobs.get? jobId) (next.jobs.get? jobId) := by
  have step := advance jobId
  cases before : state.jobs.get? jobId with
  | none =>
    cases after : next.jobs.get? jobId with
    | none => exact .absent
    | some row =>
      have real := reached.real_of_row after
      rcases reached.row_stage jobId row after with ⟨stage, staged, rowStage⟩
      rw [represents.no_row jobId before real, staged] at step
      apply RowStep.inserted
      rw [rowStage.status_eq]
      exact stageStatus_posted step
  | some row =>
    have real := represents.real_of_row before
    rcases represents.row_stage jobId row before with ⟨stage, staged, rowStage⟩
    cases after : next.jobs.get? jobId with
    | none =>
      rw [staged, reached.no_row jobId after real] at step
      cases step
    | some later =>
      rcases reached.row_stage jobId later after with
        ⟨laterStage, laterStaged, laterRowStage⟩
      rw [staged, laterStaged] at step
      rcases stageStatus_step step with same | changed
      · apply RowStep.kept
        rw [laterRowStage.status_eq, rowStage.status_eq, same]
      · apply RowStep.changed
        rw [laterRowStage.status_eq, rowStage.status_eq]
        exact changed

theorem completedAt_iff (represents : Represents env state board)
    {jobId : String} {row : JobRow}
    (stored : state.jobs.get? jobId = some row) :
    row.completedAt ≠ none ↔ row.status = .completed := by
  rcases represents.row_stage jobId row stored with ⟨stage, _, rowStage⟩
  cases rowStage with
  | waiting status unclosed => simp [status, unclosed]
  | held status unclosed => simp [status, unclosed]
  | finished status closed => simp [status, closed]
  | failed status unclosed => simp [status, unclosed]

theorem no_holder_of_final (represents : Represents env state board)
    {jobId : String} {row : JobRow}
    (stored : state.jobs.get? jobId = some row)
    (final : row.status.IsFinal) : findByActiveJob state jobId = none := by
  cases found : findByActiveJob state jobId with
  | none => rfl
  | some entry =>
    have held := (represents.stage_of_holds (holds_of_find found)).2
    rcases represents.final_stage stored final with ⟨stage, staged, ended, _⟩
    rw [held, Option.some.injEq] at staged
    subst staged
    cases ended

end Represents

theorem final_row_fixed {env : Environment} {state later : State}
    {events : List Input} (reachable : (machine env).Reachable state)
    (run : (machine env).Run state events later) {jobId : String}
    {row : JobRow} (stored : state.jobs.get? jobId = some row)
    (final : row.status.IsFinal) : later.jobs.get? jobId = some row := by
  rcases (board_simulation env).reachable reachable with ⟨board, represents⟩
  rcases (board_simulation env).run run represents with
    ⟨moved, advances, reached⟩
  exact represents.final_row advances reached stored final

theorem retryTick_of_not_pending (now : Nat) {state : State} {jobId : String}
    {row : JobRow} (stored : state.jobs.get? jobId = some row)
    (settled : row.status ≠ .pending) :
    retryTick now jobId state =
      { state with retryLoops := (retryTick now jobId state).retryLoops } := by
  unfold retryTick
  cases state.retryLoops.get? jobId with
  | none => rfl
  | some loop => simp [stored, settled, clearInterval]

structure FollowsLifecycle (env : Environment) (state : State) : Prop where
  final : ∀ {events later}, (machine env).Run state events later →
    ∀ jobId row, state.jobs.get? jobId = some row → row.status.IsFinal →
      later.jobs.get? jobId = some row
  step : ∀ input, (machine env).Enabled state input → ∀ jobId,
    RowStep (state.jobs.get? jobId)
      (((machine env).step state input).jobs.get? jobId)
  completedAt : ∀ jobId row, state.jobs.get? jobId = some row →
    (row.completedAt ≠ none ↔ row.status = .completed)
  late : ∀ jobId row, state.jobs.get? jobId = some row → row.status.IsFinal →
    ∀ input ws,
      (∃ msg : JobCompleteMsg, msg.jobId = jobId ∧
        input.event = .frame ws (.jobComplete msg)) ∨
      (∃ msg : JobRejectMsg, msg.jobId = jobId ∧
        input.event = .frame ws (.jobReject msg)) →
      (machine env).step state input = state.issue input.uuid
  tick : ∀ jobId row, state.jobs.get? jobId = some row →
    row.status ≠ .pending → ∀ input, input.event = .retryTick jobId →
    (machine env).step state input =
      { state.issue input.uuid with
        retryLoops := ((machine env).step state input).retryLoops }

theorem jobs_follow_lifecycle (env : Environment) {state : State}
    (reachable : (machine env).Reachable state) :
    FollowsLifecycle env state := by
  rcases (board_simulation env).reachable reachable with ⟨board, represents⟩
  constructor
  · intro events later run jobId row stored final
    exact final_row_fixed reachable run stored final
  · intro input enabled jobId
    rcases (board_simulation env).step represents enabled with
      ⟨moved, advance, reached⟩
    exact represents.row_step advance reached jobId
  · intro jobId row stored
    exact represents.completedAt_iff stored
  · intro jobId row stored final input ws message
    have nobody : findByActiveJob (state.issue input.uuid) jobId = none :=
      represents.no_holder_of_final stored final
    rcases message with ⟨msg, same, event⟩ | ⟨msg, same, event⟩
    · simp only [machine, handle, event, handleMessage, handleJobComplete, same,
        nobody, settle]
    · simp only [machine, handle, event, handleMessage, handleJobReject, same,
        nobody, settle]
  · intro jobId row stored settled input event
    have unchanged := retryTick_of_not_pending input.now
      (show (state.issue input.uuid).jobs.get? jobId = some row from stored)
      settled
    simp only [machine, handle, event]
    exact unchanged

theorem jobs_follow_lifecycle_failed :
    let final := (machine Sample.environment).exec .initial
      [Sample.connect 0 Sample.spareUuid,
        Sample.register 0 Sample.workerUuid Sample.pubkey,
        Sample.commit Sample.jobUuid none,
        { now := 0, uuid := Sample.otherUuid, event := .close 0 }]
    (final.jobs.get? Sample.jobUuid.text).map JobRow.status = some .failed ∧
      FollowsLifecycle Sample.environment final :=
  ⟨rfl, jobs_follow_lifecycle Sample.environment
    (Machine.Reachable.of_steps (by decide))⟩

end Dispatch.Coordinator
