import Dispatch.Coordinator.Lifecycle

/-! # Retry loops

Who looks after a pending job.
-/

namespace Dispatch.Coordinator

open WorkerHub

def LoopsPending (state : State) : Prop :=
  ∀ jobId loop, state.retryLoops.get? jobId = some loop →
    ∃ row, state.jobs.get? jobId = some row ∧ row.status = .pending

def RejectsJob (state : State) (input : Input) : Prop :=
  ∃ ws msg, input.event = .frame ws (.jobReject msg) ∧
    isDemoJob msg.jobId = false ∧
    ∃ workerId worker, Holds state workerId worker msg.jobId

/-! ## One job, one event -/

inductive LoopStep (rejects : Prop) :
    Option JobRow → Option RetryLoop → Option JobRow → Option RetryLoop → Prop
  | stay (row loop) : LoopStep rejects row loop row loop
  | start {row : JobRow} {loop : RetryLoop} (status : row.status = .pending)
      (unused : loop.attempts = 0) (asked : row.request = loop.request) :
      LoopStep rejects none none (some row) (some loop)
  | post {row : JobRow} (status : row.status ≠ .pending) :
      LoopStep rejects none none (some row) none
  | settle {before after : JobRow} {loop : Option RetryLoop}
      (assigned : before.status = .assigned) (status : after.status ≠ .pending)
      (asked : after.request = before.request) :
      LoopStep rejects (some before) loop (some after) loop
  | giveBack {before after : JobRow} {loop : Option RetryLoop}
      (rejected : rejects) (assigned : before.status = .assigned)
      (asked : after.request = before.request) :
      LoopStep rejects (some before) loop (some after) loop
  | count {row : JobRow} {loop next : RetryLoop}
      (status : row.status = .pending) (more : next.attempts < maxAttempts)
      (asked : next.request = loop.request) :
      LoopStep rejects (some row) (some loop) (some row) (some next)
  | finish {before after : JobRow} {loop : RetryLoop}
      (status : after.status ≠ .pending)
      (asked : after.request = before.request) :
      LoopStep rejects (some before) (some loop) (some after) none
  | clear {row : Option JobRow} {loop : RetryLoop}
      (settled : row.map JobRow.status ≠ some .pending) :
      LoopStep rejects row (some loop) row none

theorem loopStep_of_tick {rejects : Prop} {state next : State}
    (tickedId : String)
    (rows : ∀ jobId, jobId ≠ tickedId →
      next.jobs.get? jobId = state.jobs.get? jobId)
    (loops : ∀ jobId, jobId ≠ tickedId →
      next.retryLoops.get? jobId = state.retryLoops.get? jobId)
    (ticked : LoopStep rejects (state.jobs.get? tickedId)
      (state.retryLoops.get? tickedId) (next.jobs.get? tickedId)
      (next.retryLoops.get? tickedId)) (jobId : String) :
    LoopStep rejects (state.jobs.get? jobId) (state.retryLoops.get? jobId)
      (next.jobs.get? jobId) (next.retryLoops.get? jobId) := by
  by_cases same : jobId = tickedId
  · rw [same]
    exact ticked
  · rw [rows jobId same, loops jobId same]
    exact .stay _ _

theorem loopStep_of_update {rejects : Prop} {state next : State}
    (writtenId : String) (loops : next.retryLoops = state.retryLoops)
    (others : ∀ jobId, jobId ≠ writtenId →
      next.jobs.get? jobId = state.jobs.get? jobId)
    (written : LoopStep rejects (state.jobs.get? writtenId)
      (state.retryLoops.get? writtenId) (next.jobs.get? writtenId)
      (state.retryLoops.get? writtenId)) (jobId : String) :
    LoopStep rejects (state.jobs.get? jobId) (state.retryLoops.get? jobId)
      (next.jobs.get? jobId) (next.retryLoops.get? jobId) := by
  apply loopStep_of_tick writtenId others
  · intro other _
    rw [loops]
  · rw [loops]
    exact written

theorem loopStep_of_dropped {env : Environment} {rejects : Prop}
    {state next : State} {board : JobBoard}
    (represents : Represents env state board) (dropped : Dropped state next)
    (loops : next.retryLoops = state.retryLoops) (jobId : String) :
    LoopStep rejects (state.jobs.get? jobId) (state.retryLoops.get? jobId)
      (next.jobs.get? jobId) (next.retryLoops.get? jobId) := by
  rw [loops]
  rcases dropped.rows jobId with same | ⟨_, _, row, holds, real, stored,
    lost, _⟩
  · rw [same]
    exact .stay _ _
  · rcases represents.row_of_holds holds real with ⟨found, foundStored,
      assigned, _⟩
    rw [stored, Option.some.injEq] at foundStored
    rw [stored, lost]
    exact .settle (foundStored ▸ assigned) (by simp [disconnectedRow]) rfl

theorem effect_loopStep {env : Environment} {input : Input}
    {state next : State} {board : JobBoard}
    (represents : Represents env state board)
    (freshRow : state.jobs.get? input.uuid.text = none)
    (freshLoop : state.retryLoops.get? input.uuid.text = none)
    (effect : Effect env input state next) (jobId : String) :
    LoopStep (RejectsJob state input) (state.jobs.get? jobId)
      (state.retryLoops.get? jobId) (next.jobs.get? jobId)
      (next.retryLoops.get? jobId) := by
  cases effect with
  | quiet quiet =>
    rw [quiet.jobs, quiet.retryLoops]
    exact .stay _ _
  | register event quiet =>
    rw [quiet.jobs, quiet.retryLoops]
    exact .stay _ _
  | receipt event stored =>
    rw [(insertReceipt_ok stored).2]
    exact .stay _ _
  | @complete ws msg workerId worker stored event holds real accepted =>
    rcases represents.row_of_holds holds real with ⟨row, found, assigned, _⟩
    rcases storeResult_ok accepted with ⟨_, receipts, _, storedState⟩
    apply loopStep_of_update msg.jobId
    · simp [resetWorker, storedState]
    · intro other different
      simp [resetWorker, storedState, different]
    · simp only [resetWorker, State.updateWorker, rewarded_jobs, storedState,
        OrderedMap.get?_modify, if_true, found, Option.map_some]
      exact .settle assigned (by simp [completedRow]) rfl
  | completeDemo event holds demo =>
    rw [rewarded_jobs, rewarded_retryLoops]
    exact .stay _ _
  | @reject ws msg workerId worker event holds real =>
    rcases represents.row_of_holds holds real with ⟨row, stored, assigned, _⟩
    apply loopStep_of_update msg.jobId
    · rfl
    · intro other different
      simp [resetWorker, different]
    · simp only [resetWorker, State.updateWorker, State.updateJob,
        OrderedMap.get?_modify, if_true, stored, Option.map_some]
      exact .giveBack ⟨ws, msg, event, real, workerId, worker, holds⟩ assigned
        rfl
  | rejectDemo => exact .stay _ _
  | @disconnect ws workerId connections event =>
    apply loopStep_of_dropped represents
      (disconnect_dropped workerId connections state)
    rw [handleDisconnect_eq]
  | prune event =>
    apply loopStep_of_dropped represents (pruneStale_dropped input.now state)
    rw [pruneStale_eq]
  | commitAssigned event valid claimed =>
    rw [jobAssigned_eq]
    apply loopStep_of_update input.uuid.text
    · rfl
    · intro other different
      simp [submitted, different]
    · rw [freshRow, freshLoop, OrderedMap.get?_modify, if_pos rfl,
        submitted_get, Option.map_some]
      exact .post (by simp [assignedRow])
  | commitRefused event valid none trusted =>
    apply loopStep_of_update input.uuid.text
    · rfl
    · intro other different
      simp [failJob, submitted, different]
    · rw [freshRow, freshLoop]
      simp only [failJob, State.updateJob, submitted, OrderedMap.get?_modify,
        OrderedMap.get?_set, if_true, Option.map_some]
      exact .post (by simp)
  | commitWaiting event valid none untrusted =>
    apply loopStep_of_tick input.uuid.text
    · intro other different
      simp [startRetryLoop, submitted, different]
    · intro other different
      simp [startRetryLoop, submitted, different]
    · rw [freshRow, freshLoop]
      simp only [startRetryLoop, submitted, OrderedMap.get?_set, if_true]
      exact .start rfl rfl rfl
  | @retryCleared tickedId loop event live settled =>
    apply loopStep_of_tick tickedId
    · intro other _
      rfl
    · intro other different
      simp [clearInterval, counted, different]
    · rw [live]
      simp only [clearInterval, counted, OrderedMap.get?_delete, if_true]
      exact .clear settled
  | @retryAssigned tickedId loop row workerId worker event live stored pending
      claimed =>
      rw [jobAssigned_eq]
      apply loopStep_of_tick tickedId
      · intro other different
        simp [clearInterval, counted, different]
      · intro other different
        simp [clearInterval, counted, different]
      · simp only [clearInterval, counted, live, stored,
          OrderedMap.get?_modify, OrderedMap.get?_delete, if_true,
          Option.map_some]
        exact .finish (by simp [assignedRow]) rfl
  | @retryFailed tickedId loop row event live stored pending none last =>
    apply loopStep_of_tick tickedId
    · intro other different
      simp [clearInterval, failJob, counted, different]
    · intro other different
      simp [clearInterval, failJob, counted, different]
    · simp only [clearInterval, failJob, counted, State.updateJob, live,
        stored, OrderedMap.get?_modify, OrderedMap.get?_delete, if_true,
        Option.map_some]
      exact .finish (by simp) rfl
  | @retryCounted tickedId loop row event live stored pending none more =>
    apply loopStep_of_tick tickedId
    · intro other _
      rfl
    · intro other different
      simp [counted, different]
    · simp only [counted, live, stored, OrderedMap.get?_modify, if_true,
        Option.map_some]
      exact .count pending more rfl
  | demo =>
    simp only [demoAssigned, State.updateWorker, State.send_jobs,
      State.send_retryLoops]
    exact .stay _ _

namespace LoopStep

variable {rejects : Prop} {row nextRow : Option JobRow}
  {loop nextLoop : Option RetryLoop}

theorem live_pending (step : LoopStep rejects row loop nextRow nextLoop)
    (pending : ∀ live, loop = some live →
      ∃ stored, row = some stored ∧ stored.status = .pending) :
    ∀ live, nextLoop = some live →
      ∃ stored, nextRow = some stored ∧ stored.status = .pending := by
  have notAssigned : ∀ {before : JobRow} {live : RetryLoop},
      row = some before → loop = some live →
      before.status ≠ .assigned := by
    intro before live rowStored loopLive assigned
    rcases pending live loopLive with ⟨stored, same, status⟩
    rw [rowStored, Option.some.injEq] at same
    rw [← same, assigned] at status
    cases status
  intro live isLive
  cases step with
  | stay => exact pending live isLive
  | start status => exact ⟨_, rfl, status⟩
  | post => cases isLive
  | settle assigned => exact absurd assigned (notAssigned rfl isLive)
  | giveBack rejected assigned => exact absurd assigned (notAssigned rfl isLive)
  | count status => exact ⟨_, rfl, status⟩
  | finish => cases isLive
  | clear => cases isLive

theorem request_kept (step : LoopStep rejects row loop nextRow nextLoop)
    {stored : JobRow} (isStored : row = some stored) :
    ∃ later, nextRow = some later ∧ later.request = stored.request := by
  cases step with
  | stay => exact ⟨stored, isStored, rfl⟩
  | start => cases isStored
  | post => cases isStored
  | settle assigned status asked =>
    cases isStored
    exact ⟨_, rfl, asked⟩
  | giveBack rejected assigned asked =>
    cases isStored
    exact ⟨_, rfl, asked⟩
  | count =>
    cases isStored
    exact ⟨_, rfl, rfl⟩
  | finish status asked =>
    cases isStored
    exact ⟨_, rfl, asked⟩
  | clear => exact ⟨stored, isStored, rfl⟩

theorem loop_request (step : LoopStep rejects row loop nextRow nextLoop)
    (agree : ∀ live stored, loop = some live → row = some stored →
      stored.request = live.request) :
    ∀ live stored, nextLoop = some live → nextRow = some stored →
      stored.request = live.request := by
  intro live stored isLive isStored
  cases step with
  | stay => exact agree live stored isLive isStored
  | start status unused asked =>
    cases isLive
    cases isStored
    exact asked
  | post => cases isLive
  | settle assigned status asked =>
    cases isStored
    exact asked.trans (agree live _ isLive rfl)
  | giveBack rejected assigned asked =>
    cases isStored
    exact asked.trans (agree live _ isLive rfl)
  | count status more asked =>
    cases isLive
    rw [asked]
    exact agree _ stored rfl isStored
  | finish => cases isLive
  | clear => cases isLive

end LoopStep

/-! ## Whole runs -/

section Runs

variable {env : Environment} {state : State} {input : Input}

theorem rejectsJob_issue :
    RejectsJob (state.issue input.uuid) input ↔ RejectsJob state input := by
  constructor
  · intro rejects
    rcases rejects with ⟨ws, msg, event, real, workerId, worker, holds⟩
    exact ⟨ws, msg, event, real, workerId, worker, holds.tracked, holds.active⟩
  · intro rejects
    rcases rejects with ⟨ws, msg, event, real, workerId, worker, holds⟩
    exact ⟨ws, msg, event, real, workerId, worker, holds.tracked, holds.active⟩

theorem fresh_row (reachable : (machine env).Reachable state)
    (enabled : (machine env).Enabled state input) :
    state.jobs.get? input.uuid.text = none := by
  rcases (board_simulation env).reachable reachable with ⟨board, represents⟩
  have fresh := represents.fresh_job enabled.1
  cases stored : state.jobs.get? input.uuid.text with
  | none => rfl
  | some row =>
    rcases represents.row_stage _ row stored with ⟨stage, staged, _⟩
    rw [fresh] at staged
    cases staged

theorem LoopsPending.unlooped (loops : LoopsPending state) {jobId : String}
    (noRow : state.jobs.get? jobId = none) :
    state.retryLoops.get? jobId = none := by
  cases live : state.retryLoops.get? jobId with
  | none => rfl
  | some loop =>
    rcases loops jobId loop live with ⟨row, stored, _⟩
    rw [noRow] at stored
    cases stored

theorem step_loopStep (reachable : (machine env).Reachable state)
    (loops : LoopsPending state) (enabled : (machine env).Enabled state input)
    (jobId : String) :
    LoopStep (RejectsJob state input) (state.jobs.get? jobId)
      (state.retryLoops.get? jobId)
      (((machine env).step state input).jobs.get? jobId)
      (((machine env).step state input).retryLoops.get? jobId) := by
  rcases (board_simulation env).reachable reachable with ⟨board, represents⟩
  have freshRow := fresh_row reachable enabled
  have freshLoop := loops.unlooped freshRow
  rw [← rejectsJob_issue]
  exact effect_loopStep (represents.issue input.uuid) freshRow freshLoop
    (step_effect env state input) jobId

theorem loops_pending (reachable : (machine env).Reachable state) :
    LoopsPending state := by
  apply reachable.invariant LoopsPending
  · intro jobId loop live
    cases live
  · intro before event reached loops enabled jobId
    exact (step_loopStep reached loops enabled jobId).live_pending (loops jobId)

theorem loops_request (reachable : (machine env).Reachable state)
    (jobId : String) (loop : RetryLoop) (row : JobRow)
    (live : state.retryLoops.get? jobId = some loop)
    (stored : state.jobs.get? jobId = some row) :
    row.request = loop.request := by
  revert jobId loop row
  apply reachable.invariant (fun state => ∀ jobId loop row,
    state.retryLoops.get? jobId = some loop →
    state.jobs.get? jobId = some row → row.request = loop.request)
  · intro jobId loop row live
    cases live
  · intro before event reached agree enabled jobId loop row
    exact (step_loopStep reached (loops_pending reached) enabled
      jobId).loop_request (agree jobId) loop row

theorem row_kept (reachable : (machine env).Reachable state)
    (enabled : (machine env).Enabled state input) {jobId : String}
    {row : JobRow} (stored : state.jobs.get? jobId = some row) :
    ∃ later, ((machine env).step state input).jobs.get? jobId = some later ∧
      later.request = row.request :=
  (step_loopStep reachable (loops_pending reachable) enabled
    jobId).request_kept stored

end Runs

/-! ## A live interval settles its job -/

end Dispatch.Coordinator
