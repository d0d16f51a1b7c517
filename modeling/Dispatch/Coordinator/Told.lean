import Dispatch.Coordinator.Assignments

/-! # What workers have been told

As long as no worker gives a job back, the assignment of a job is sent once, to
the socket of the only worker that can hold it, and says what was asked for.
-/

namespace Dispatch.Coordinator

open WorkerHub

def assignment? : CoordinatorToWorker → Option JobAssignMsg
  | .jobAssign msg => some msg
  | _ => none

theorem assignment?_eq_some {message : CoordinatorToWorker}
    {msg : JobAssignMsg} :
    assignment? message = some msg ↔ message = .jobAssign msg := by
  cases message with
  | jobAssign other => simp [assignment?]
  | registerAck | heartbeatAck | error | feedbackPosted | feedbackFailed =>
    simp [assignment?]

def State.Told (state : State) (ws : SocketId) (msg : JobAssignMsg) : Prop :=
  { ws := ws, message := .jobAssign msg } ∈ state.sent

def State.jobsSent (state : State) : List String :=
  state.sent.filterMap fun frame =>
    (assignment? frame.message).map JobAssignMsg.jobId

theorem mem_jobsSent {state : State} {jobId : String} :
    jobId ∈ state.jobsSent ↔ ∃ ws msg, state.Told ws msg ∧
      msg.jobId = jobId := by
  rw [State.jobsSent, List.mem_filterMap]
  constructor
  · rintro ⟨⟨ws, message⟩, member, some⟩
    rcases Option.map_eq_some_iff.mp some with ⟨msg, assigned, same⟩
    have message := assignment?_eq_some.mp assigned
    subst message
    exact ⟨ws, msg, member, same⟩
  · rintro ⟨ws, msg, member, same⟩
    exact ⟨_, member, by rw [assignment?, Option.map_some, same]⟩

/-! ## Who owns a worker -/

def OwnerKept (state : State) (workerId : String) (worker : TrackedWorker) :
    Prop :=
  ∃ before, state.workers.get? workerId = some before ∧
    before.ws = worker.ws ∧ before.pubkey = worker.pubkey

section Owners

variable {state next : State} {workerId : String} {worker : TrackedWorker}

theorem kept_of_same (tracked : state.workers.get? workerId = some worker) :
    OwnerKept state workerId worker :=
  ⟨worker, tracked, rfl, rfl⟩

theorem kept_of_updated {updated : String}
    {change : TrackedWorker → TrackedWorker}
    (tracked : (state.workers.modify updated change).get? workerId =
      some worker)
    (same : ∀ worker, (change worker).ws = worker.ws ∧
      (change worker).pubkey = worker.pubkey) :
    OwnerKept state workerId worker := by
  rw [OrderedMap.get?_modify] at tracked
  split at tracked
  · rcases Option.map_eq_some_iff.mp tracked with ⟨before, found, changed⟩
    rw [← changed]
    exact ⟨before, found, (same before).1.symm, (same before).2.symm⟩
  · exact kept_of_same tracked

theorem kept_of_quiet (quiet : Quiet state next)
    (tracked : next.workers.get? workerId = some worker) :
    OwnerKept state workerId worker := by
  have same := quiet.workers workerId
  rw [tracked] at same
  rcases Option.map_eq_some_iff.mp same.symm with ⟨before, found, parts⟩
  simp only [TrackedWorker.assignment, Assignment.mk.injEq] at parts
  exact ⟨before, found, parts.1, parts.2.1⟩

theorem kept_of_assigned {middle : State} {jobId assignee : String}
    {request : JobRequest} {claimed : TrackedWorker}
    (tracked : (jobAssigned jobId request assignee claimed middle).workers.get?
      workerId = some worker) (workers : middle.workers = state.workers) :
    OwnerKept state workerId worker := by
  rw [jobAssigned_worker, workers] at tracked
  split at tracked
  · rcases Option.map_eq_some_iff.mp tracked with ⟨before, found, changed⟩
    rw [← changed]
    exact ⟨before, found, rfl, rfl⟩
  · exact kept_of_same tracked

theorem effect_owner {env : Environment} {input : Input}
    (effect : Effect env input state next)
    (tracked : next.workers.get? workerId = some worker) :
    OwnerKept state workerId worker ∨
      ∃ msg, input.event = .frame worker.ws (.register msg) ∧
        msg.providerPubkey = worker.pubkey ∧ workerId = input.uuid.text := by
  have reset : ∀ {middle : State} {freed : String},
      (resetWorker middle freed).workers.get? workerId = some worker →
      OwnerKept middle workerId worker := by
    intro middle freed found
    exact kept_of_updated found fun _ => ⟨rfl, rfl⟩
  cases effect with
  | quiet quiet => exact .inl (kept_of_quiet quiet tracked)
  | @register ws msg next event quiet =>
    rcases kept_of_quiet quiet tracked with ⟨before, found, sameWs, sameKey⟩
    rw [registered, OrderedMap.get?_set] at found
    split at found
    · next new =>
        cases found
        rw [← sameWs]
        exact .inr ⟨msg, event, sameKey, new⟩
    · exact .inl ⟨before, found, sameWs, sameKey⟩
  | receipt event stored =>
    rw [(insertReceipt_ok stored).2] at tracked
    exact .inl (kept_of_same tracked)
  | complete event holds real accepted =>
    rcases storeResult_ok accepted with ⟨_, receipts, _, storedState⟩
    have kept := reset tracked
    rw [OwnerKept, rewarded_workers, storedState] at kept
    exact .inl kept
  | completeDemo =>
    rw [rewarded_workers] at tracked
    exact .inl (reset tracked)
  | reject => exact .inl (reset tracked)
  | rejectDemo => exact .inl (reset tracked)
  | @disconnect ws gone connections event =>
    exact .inl (kept_of_same
      ((disconnect_dropped gone connections state).workers _ _ tracked))
  | prune =>
    exact .inl (kept_of_same
      ((pruneStale_dropped input.now state).workers _ _ tracked))
  | commitAssigned => exact .inl (kept_of_assigned tracked rfl)
  | commitRefused => exact .inl (kept_of_same tracked)
  | commitWaiting => exact .inl (kept_of_same tracked)
  | retryCleared => exact .inl (kept_of_same tracked)
  | retryAssigned => exact .inl (kept_of_assigned tracked rfl)
  | retryFailed => exact .inl (kept_of_same tracked)
  | retryCounted => exact .inl (kept_of_same tracked)
  | demo =>
    rw [demoAssigned, State.send_workers] at tracked
    exact .inl (kept_of_updated tracked fun _ => ⟨rfl, rfl⟩)

theorem step_owner {env : Environment} {input : Input}
    (tracked : ((machine env).step state input).workers.get? workerId =
      some worker) :
    OwnerKept state workerId worker ∨
      ∃ msg, input.event = .frame worker.ws (.register msg) ∧
        msg.providerPubkey = worker.pubkey ∧ workerId = input.uuid.text := by
  have owner : OwnerKept (state.issue input.uuid) workerId worker ∨ _ :=
    effect_owner (step_effect env state input) tracked
  exact owner

end Owners

/-! ## What is known of an assignment -/

theorem step_sent (env : Environment) (state : State) (input : Input) :
    ∃ more, ((machine env).step state input).sent = state.sent ++ more := by
  have assigned : ∀ {workerId worker msg}, AssignsOne state
      ((machine env).step state input) workerId worker msg →
      ∃ more, ((machine env).step state input).sent = state.sent ++ more := by
    intro workerId worker msg one
    rcases state.send_sent worker.ws (.jobAssign msg) with ⟨more, sent, _⟩
    exact ⟨more, one.sent.trans sent⟩
  cases step_assigns env state input with
  | nothing nothing =>
    rcases nothing.sent with ⟨more, sent, _⟩
    exact ⟨more, sent⟩
  | commit event valid claimed row one => exact assigned one
  | retry event live stored pending claimed row one => exact assigned one
  | demo event idle rows one => exact assigned one

theorem Told.step (env : Environment) {state : State} (input : Input)
    {ws : SocketId} {msg : JobAssignMsg} (told : state.Told ws msg) :
    ((machine env).step state input).Told ws msg := by
  rcases step_sent env state input with ⟨more, sent⟩
  rw [State.Told, sent]
  exact List.mem_append_left _ told

structure Telling (state : State) (ws : SocketId) (msg : JobAssignMsg) :
    Prop where
  issued : ∃ uuid ∈ state.issued,
    msg.jobId = uuid.text ∨ msg.jobId = demoJobId uuid
  holder : ∀ {workerId worker}, Holds state workerId worker msg.jobId →
    worker.ws = ws
  row : isDemoJob msg.jobId = false →
    ∃ row, state.jobs.get? msg.jobId = some row ∧ row.status ≠ .pending ∧
      row.request.assignMsg msg.jobId = msg

structure TellsOnce (state : State) : Prop where
  telling : ∀ {ws msg}, state.Told ws msg → Telling state ws msg
  once : state.jobsSent.Nodup

theorem LoopStep.settled_kept {rejects : Prop} {row nextRow : Option JobRow}
    {loop nextLoop : Option RetryLoop}
    (step : LoopStep rejects row loop nextRow nextLoop) (kept : ¬ rejects)
    {before : JobRow} (stored : row = some before)
    (settled : before.status ≠ .pending) :
    ∃ after, nextRow = some after ∧ after.status ≠ .pending ∧
      after.request = before.request := by
  cases step with
  | stay => exact ⟨before, stored, settled, rfl⟩
  | start => cases stored
  | post => cases stored
  | settle assigned status asked =>
    cases stored
    exact ⟨_, rfl, status, asked⟩
  | giveBack rejected => exact absurd rejected kept
  | count status =>
    cases stored
    exact absurd status settled
  | finish status asked =>
    cases stored
    exact ⟨_, rfl, status, asked⟩
  | clear => exact ⟨before, stored, settled, rfl⟩

section Steps

variable {env : Environment} {state : State} {input : Input}

theorem Telling.step (reachable : (machine env).Reachable state)
    (enabled : (machine env).Enabled state input)
    (kept : ¬ RejectsJob state input) {ws : SocketId} {msg : JobAssignMsg}
    (telling : Telling state ws msg)
    (holders : ∀ {workerId worker},
      Holds ((machine env).step state input) workerId worker msg.jobId →
      ∃ before, Holds state workerId before msg.jobId ∧
        before.ws = worker.ws) :
    Telling ((machine env).step state input) ws msg where
  issued := by
    rcases telling.issued with ⟨uuid, member, same⟩
    rw [step_issued]
    exact ⟨uuid, List.mem_cons_of_mem _ member, same⟩
  holder holds := by
    rcases holders holds with ⟨before, held, sameWs⟩
    rw [← sameWs, telling.holder held]
  row real := by
    rcases telling.row real with ⟨row, stored, settled, asked⟩
    rcases (step_loopStep reachable (loops_pending reachable) enabled
      msg.jobId).settled_kept kept stored settled with
      ⟨after, found, later, same⟩
    refine ⟨after, found, later, ?_⟩
    rw [same, asked]

theorem jobsSent_snoc {next : State} {ws : SocketId} {msg : JobAssignMsg}
    (sent : next.sent = state.sent ++ [⟨ws, .jobAssign msg⟩]) :
    next.jobsSent = state.jobsSent ++ [msg.jobId] := by
  rw [State.jobsSent, sent, List.filterMap_append]
  rfl

theorem TellsOnce.nothing (reachable : (machine env).Reachable state)
    (enabled : (machine env).Enabled state input)
    (kept : ¬ RejectsJob state input) (tells : TellsOnce state)
    (nothing : AssignsNothing state ((machine env).step state input)) :
    TellsOnce ((machine env).step state input) := by
  rcases nothing.sent with ⟨more, sent, noJob⟩
  have unassigned : ∀ frame ∈ more, assignment? frame.message = none := by
    intro frame member
    cases assigned : assignment? frame.message with
    | none => rfl
    | some msg =>
      exact absurd (assignment?_eq_some.mp assigned) (noJob frame member msg)
  constructor
  · intro ws msg told
    rw [State.Told, sent] at told
    rcases List.mem_append.mp told with older | newer
    · exact (tells.telling older).step reachable enabled kept nothing.holders
    · exact absurd rfl (noJob _ newer msg)
  · have none : more.filterMap (fun frame =>
        (assignment? frame.message).map JobAssignMsg.jobId) = [] := by
      apply List.filterMap_eq_nil_iff.mpr
      intro frame member
      rw [unassigned frame member, Option.map_none]
    rw [State.jobsSent, sent, List.filterMap_append, none, List.append_nil]
    exact tells.once

structure AssignsNew (env : Environment) (state : State) (input : Input)
    (workerId : String) (worker : TrackedWorker) (msg : JobAssignMsg) :
    Prop where
  one : AssignsOne state ((machine env).step state input) workerId worker msg
  idle : worker.status = .idle
  untold : ∀ {ws told}, state.Told ws told → told.jobId ≠ msg.jobId
  issued : ∃ uuid ∈ ((machine env).step state input).issued,
    msg.jobId = uuid.text ∨ msg.jobId = demoJobId uuid
  row : isDemoJob msg.jobId = false →
    ∃ row, ((machine env).step state input).jobs.get? msg.jobId = some row ∧
      row.status ≠ .pending ∧ row.request.assignMsg msg.jobId = msg

theorem TellsOnce.assigns (reachable : (machine env).Reachable state)
    (enabled : (machine env).Enabled state input) (tells : TellsOnce state) :
    AssignsNothing state ((machine env).step state input) ∨
      ∃ workerId worker msg,
        AssignsNew env state input workerId worker msg := by
  have issued : ((machine env).step state input).issued =
      input.uuid :: state.issued := step_issued env state input
  have spent : input.uuid ∈ ((machine env).step state input).issued := by
    rw [issued]
    exact List.mem_cons_self
  have fresh : ∀ {uuid}, uuid ∈ state.issued → uuid ≠ input.uuid := by
    intro uuid member same
    exact enabled.1 (same ▸ member)
  cases step_assigns env state input with
  | nothing nothing => exact .inl nothing
  | @commit tier body request workerId worker event valid claimed row one =>
    refine .inr ⟨workerId, worker, _, one, claimed.idle, ?_,
      ⟨input.uuid, spent, .inl rfl⟩, ?_⟩
    · intro ws told sent same
      rcases (tells.telling sent).issued with ⟨uuid, member, real | demo⟩
      · exact fresh member (Uuid.ext (real.symm.trans same))
      · have noDemo := isDemoJob_uuid input.uuid
        rw [← show told.jobId = input.uuid.text from same, demo,
          isDemoJob_demoJobId] at noDemo
        cases noDemo
    · intro _
      exact ⟨_, row, by simp [assignedRow], rfl⟩
  | @retry jobId loop before workerId worker event live stored pending claimed
      row one =>
      have request := loops_request reachable jobId loop before live stored
      rcases (board_simulation env).reachable reachable with
        ⟨board, represents⟩
      have real := represents.real_of_row stored
      have waiting := (represents.waiting_of_pending stored pending).1
      refine .inr ⟨workerId, worker, _, one, claimed.idle, ?_, ?_, ?_⟩
      · -- The row of a job that has been sent is not pending.
        intro ws told sent same
        have sameJob : told.jobId = jobId := same
        rcases (tells.telling sent).row (sameJob ▸ real) with
          ⟨found, foundStored, settled, _⟩
        rw [sameJob, stored, Option.some.injEq] at foundStored
        exact settled (foundStored ▸ pending)
      · rcases represents.staged_issued jobId (by simp [waiting]) with
          ⟨uuid, member, same⟩
        rw [issued]
        exact ⟨uuid, List.mem_cons_of_mem _ member, same⟩
      · intro _
        refine ⟨_, row, by simp [assignedRow], ?_⟩
        rw [← request]
        rfl
  | @demo choice task prompt workerId worker event idle rows one =>
    refine .inr ⟨workerId, worker, _, one, idle, ?_,
      ⟨input.uuid, spent, .inr rfl⟩, ?_⟩
    · intro ws told sent same
      rcases (tells.telling sent).issued with ⟨uuid, member, real | demo⟩
      · have isDemo := isDemoJob_demoJobId input.uuid
        rw [← show told.jobId = demoJobId input.uuid from same, real,
          isDemoJob_uuid] at isDemo
        cases isDemo
      · exact fresh member (demoJobId_injective (demo.symm.trans same))
    · intro real
      have isDemo := isDemoJob_demoJobId input.uuid
      rw [show isDemoJob (demoJobId input.uuid) = false from real] at isDemo
      cases isDemo

theorem AssignsNew.holders {workerId : String} {worker : TrackedWorker}
    {msg : JobAssignMsg} (new : AssignsNew env state input workerId worker msg)
    {other jobId : String} {holder : TrackedWorker}
    (different : jobId ≠ msg.jobId)
    (holds : Holds ((machine env).step state input) other holder jobId) :
    Holds state other holder jobId := by
  have elsewhere : other ≠ workerId := by
    intro same
    have tracked := holds.tracked
    rw [same, new.one.taken, Option.some.injEq] at tracked
    have active := holds.active
    rw [← tracked, Option.some.injEq] at active
    exact different active.symm
  exact ⟨new.one.others other elsewhere ▸ holds.tracked, holds.active⟩

theorem TellsOnce.one (reachable : (machine env).Reachable state)
    (enabled : (machine env).Enabled state input)
    (kept : ¬ RejectsJob state input) (tells : TellsOnce state)
    {workerId : String} {worker : TrackedWorker} {msg : JobAssignMsg}
    (new : AssignsNew env state input workerId worker msg) :
    TellsOnce ((machine env).step state input) := by
  have next := reachable.step enabled
  rcases (board_simulation env).reachable next with ⟨board, represents⟩
  have older : ∀ {ws told}, state.Told ws told →
      Telling ((machine env).step state input) ws told := by
    intro ws told sent
    apply (tells.telling sent).step reachable enabled kept
    intro other holder holds
    exact ⟨holder, new.holders (new.untold sent) holds, rfl⟩
  have newer : Telling ((machine env).step state input) worker.ws msg := by
    refine ⟨new.issued, ?_, new.row⟩
    intro other holder holds
    have same := represents.holder_unique holds new.one.holds
    have tracked := holds.tracked
    rw [same, new.one.taken, Option.some.injEq] at tracked
    rw [← tracked]
  by_cases isOpen : state.readyState worker.ws = some .open
  · have sent := (new.one.handsOver isOpen).sent
    constructor
    · intro ws told member
      rw [State.Told, sent] at member
      rcases List.mem_append.mp member with earlier | now
      · exact older earlier
      · cases List.mem_singleton.mp now
        exact newer
    · rw [jobsSent_snoc sent]
      refine List.nodup_append.mpr ⟨tells.once, List.nodup_singleton _, ?_⟩
      intro jobId member other added same
      rcases mem_jobsSent.mp member with ⟨ws, told, earlier, sameJob⟩
      rw [List.mem_singleton.mp added] at same
      exact new.untold earlier (sameJob.trans same)
  · -- The socket is closing, and the worker is not told.
    have sent : ((machine env).step state input).sent = state.sent := by
      rw [new.one.sent, State.send]
      exact congrArg State.sent (if_neg isOpen)
    constructor
    · intro ws told member
      rw [State.Told, sent] at member
      exact older member
    · rw [State.jobsSent, sent]
      exact tells.once

theorem TellsOnce.step (reachable : (machine env).Reachable state)
    (enabled : (machine env).Enabled state input)
    (kept : ¬ RejectsJob state input) (tells : TellsOnce state) :
    TellsOnce ((machine env).step state input) := by
  rcases tells.assigns reachable enabled with
    nothing | ⟨workerId, worker, msg, new⟩
  · exact tells.nothing reachable enabled kept nothing
  · exact tells.one reachable enabled kept new

theorem TellsOnce.holders (reachable : (machine env).Reachable state)
    (enabled : (machine env).Enabled state input) (tells : TellsOnce state)
    {ws : SocketId} {msg : JobAssignMsg} (told : state.Told ws msg)
    {workerId : String} {worker : TrackedWorker}
    (holds : Holds ((machine env).step state input) workerId worker
      msg.jobId) : ∃ before, Holds state workerId before msg.jobId := by
  rcases tells.assigns reachable enabled with nothing | ⟨_, _, _, new⟩
  · rcases nothing.holders holds with ⟨before, held, _⟩
    exact ⟨before, held⟩
  · exact ⟨worker, new.holders (new.untold told) holds⟩

theorem TellsOnce.told (reachable : (machine env).Reachable state)
    (enabled : (machine env).Enabled state input) (tells : TellsOnce state)
    {ws : SocketId} {msg : JobAssignMsg}
    (told : ((machine env).step state input).Told ws msg) :
    state.Told ws msg ∨ ∃ workerId worker,
      AssignsNew env state input workerId worker msg ∧ worker.ws = ws := by
  rcases tells.assigns reachable enabled with
    nothing | ⟨workerId, worker, assigned, new⟩
  · rcases nothing.sent with ⟨more, sent, noJob⟩
    rw [State.Told, sent] at told
    rcases List.mem_append.mp told with older | newer
    · exact .inl older
    · exact absurd rfl (noJob _ newer msg)
  · rw [State.Told, new.one.sent, State.send] at told
    split at told
    · rcases List.mem_append.mp told with older | newer
      · exact .inl older
      · cases List.mem_singleton.mp newer
        exact .inr ⟨workerId, worker, new, rfl⟩
    · exact .inl told

end Steps

end Dispatch.Coordinator
