import Dispatch.Coordinator.RetryLoops
import Dispatch.Coordinator.Sockets

/-! # Telling workers about jobs

A job is given to a worker by a commit, a retry tick or a demo tick, and the
worker is told in the same step if its socket is open.
-/

namespace Dispatch.Coordinator

open WorkerHub

/-! ## What a step assigns -/

structure AssignsNothing (state next : State) : Prop where
  holders : ∀ {workerId worker jobId}, Holds next workerId worker jobId →
    ∃ before, Holds state workerId before jobId ∧ before.ws = worker.ws
  rows : ∀ {jobId row}, next.jobs.get? jobId = some row →
    row.status = .assigned →
    ∃ before, state.jobs.get? jobId = some before ∧ before.status = .assigned
  sent : ∃ more, next.sent = state.sent ++ more ∧
    ∀ frame ∈ more, ∀ msg, frame.message ≠ .jobAssign msg

structure AssignsOne (state next : State) (workerId : String)
    (worker : TrackedWorker) (msg : JobAssignMsg) : Prop where
  tracked : state.workers.get? workerId = some worker
  taken : next.workers.get? workerId = some
    { worker with
      status := .busy
      activeJobId := some msg.jobId }
  others : ∀ other, other ≠ workerId →
    next.workers.get? other = state.workers.get? other
  rows : ∀ jobId, jobId ≠ msg.jobId →
    next.jobs.get? jobId = state.jobs.get? jobId
  sent : next.sent = (state.send worker.ws (.jobAssign msg)).sent

inductive Assigns (input : Input) (state next : State) : Prop
  | nothing (nothing : AssignsNothing state next)
  | commit {tier : Tier} {body : CommitBody} {request : JobRequest}
      {workerId : String} {worker : TrackedWorker}
      (event : input.event = .commit tier body)
      (valid : validateCommit tier body = .ok request)
      (claimed : Claimed state request workerId worker)
      (row : next.jobs.get? input.uuid.text =
        some (assignedRow worker (request.row input.now)))
      (one : AssignsOne state next workerId worker
        (request.assignMsg input.uuid.text))
  | retry {jobId : String} {loop : RetryLoop} {before : JobRow}
      {workerId : String} {worker : TrackedWorker}
      (event : input.event = .retryTick jobId)
      (live : state.retryLoops.get? jobId = some loop)
      (stored : state.jobs.get? jobId = some before)
      (pending : before.status = .pending)
      (claimed : Claimed state loop.request workerId worker)
      (row : next.jobs.get? jobId = some (assignedRow worker before))
      (one : AssignsOne state next workerId worker
        (loop.request.assignMsg jobId))
  | demo {choice : DemoChoice} {task : DemoTask} {prompt workerId : String}
      {worker : TrackedWorker} (event : input.event = .demoTick choice)
      (idle : worker.status = .idle) (rows : next.jobs = state.jobs)
      (one : AssignsOne state next workerId worker
        (demoMsg input.uuid task prompt))

section Nothing

variable {state next : State}

theorem AssignsNothing.of_same
    (workers : ∀ workerId worker, next.workers.get? workerId = some worker →
      ∃ before, state.workers.get? workerId = some before ∧
        before.ws = worker.ws ∧
        ∀ jobId, worker.activeJobId = some jobId →
          before.activeJobId = some jobId)
    (rows : ∀ jobId row, next.jobs.get? jobId = some row →
      row.status = .assigned → state.jobs.get? jobId = some row)
    (sent : next.sent = state.sent) : AssignsNothing state next where
  holders {workerId worker jobId} holds := by
    rcases workers workerId worker holds.tracked with
      ⟨before, tracked, sameWs, active⟩
    exact ⟨before, ⟨tracked, active jobId holds.active⟩, sameWs⟩
  rows {jobId row} stored assigned :=
    ⟨row, rows jobId row stored assigned, assigned⟩
  sent := ⟨[], by rw [sent, List.append_nil], fun _ member => nomatch member⟩

theorem AssignsNothing.of_rows (workers : next.workers = state.workers)
    (rows : ∀ jobId row, next.jobs.get? jobId = some row →
      row.status = .assigned → state.jobs.get? jobId = some row)
    (sent : next.sent = state.sent) : AssignsNothing state next := by
  refine .of_same ?_ rows sent
  intro workerId worker tracked
  rw [workers] at tracked
  exact ⟨worker, tracked, rfl, fun _ => id⟩

theorem AssignsNothing.of_quiet {middle : State} (quiet : Quiet middle next)
    (holders : ∀ {workerId worker jobId}, Holds middle workerId worker jobId →
      Holds state workerId worker jobId)
    (jobs : middle.jobs = state.jobs) (sent : middle.sent = state.sent) :
    AssignsNothing state next where
  holders {workerId worker jobId} holds := by
    have same := quiet.workers workerId
    rw [holds.tracked] at same
    rcases Option.map_eq_some_iff.mp same.symm with ⟨before, found, parts⟩
    simp only [TrackedWorker.assignment, Assignment.mk.injEq] at parts
    have held : Holds middle workerId before jobId :=
      ⟨found, parts.2.2.2.2.trans holds.active⟩
    exact ⟨before, holders held, parts.1⟩
  rows {jobId row} stored assigned := by
    rw [quiet.jobs, jobs] at stored
    exact ⟨row, stored, assigned⟩
  sent := by
    rcases quiet.sent with ⟨more, extended, noJob⟩
    exact ⟨more, by rw [extended, sent], noJob⟩

theorem AssignsNothing.of_dropped (dropped : Dropped state next)
    (sent : next.sent = state.sent) : AssignsNothing state next := by
  refine .of_same ?_ ?_ sent
  · intro workerId worker tracked
    exact ⟨worker, dropped.workers workerId worker tracked, rfl, fun _ => id⟩
  · intro jobId row stored assigned
    rcases dropped.rows jobId with same | ⟨_, _, before, _, _, _, failed,
      _⟩
    · rw [← same]
      exact stored
    · rw [failed, Option.some.injEq] at stored
      rw [← stored] at assigned
      cases assigned

theorem resetWorker_workers (workerId : String) {other : String}
    {worker : TrackedWorker}
    (tracked : (resetWorker state workerId).workers.get? other =
      some worker) :
    ∃ before, state.workers.get? other = some before ∧
      before.ws = worker.ws ∧ ∀ jobId, worker.activeJobId = some jobId →
        before.activeJobId = some jobId := by
  rw [resetWorker, State.updateWorker, OrderedMap.get?_modify] at tracked
  split at tracked
  · rcases Option.map_eq_some_iff.mp tracked with ⟨before, found, changed⟩
    rw [← changed]
    refine ⟨before, found, rfl, ?_⟩
    intro jobId busy
    cases busy
  · exact ⟨worker, tracked, rfl, fun _ => id⟩

end Nothing

section One

variable {state next : State} {workerId : String} {worker : TrackedWorker}

theorem send_sent_eq (connections : next.connections = state.connections)
    (sent : next.sent = state.sent) (ws : SocketId)
    (message : CoordinatorToWorker) :
    (next.send ws message).sent = (state.send ws message).sent := by
  simp only [State.send, connections]
  split
  · rw [sent]
  · exact sent

theorem send_sent_of_open {ws : SocketId}
    (isOpen : state.readyState ws = some .open)
    (message : CoordinatorToWorker) :
    (state.send ws message).sent =
      state.sent ++ [{ ws := ws, message := message }] := by
  simp only [State.readyState] at isOpen
  simp [State.send, isOpen]

theorem jobAssigned_one (jobId : String) (request : JobRequest)
    (tracked : state.workers.get? workerId = some worker) :
    AssignsOne state (jobAssigned jobId request workerId worker state) workerId
      worker (request.assignMsg jobId) where
  tracked := tracked
  taken := by
    rw [jobAssigned_worker, if_pos rfl, tracked]
    rfl
  others other different := by rw [jobAssigned_worker, if_neg different]
  rows other different := by
    have apart : other ≠ jobId := different
    rw [jobAssigned_eq, OrderedMap.get?_modify, if_neg apart]
  sent := by
    unfold jobAssigned matchJob assignJob
    apply send_sent_eq <;> rfl

theorem demoAssigned_one (msg : JobAssignMsg)
    (tracked : state.workers.get? workerId = some worker) :
    AssignsOne state (demoAssigned workerId worker msg state) workerId worker
      msg where
  tracked := tracked
  taken := by simp [demoAssigned, tracked]
  others other different := by simp [demoAssigned, different]
  rows other different := by simp [demoAssigned]
  sent := by
    unfold demoAssigned
    apply send_sent_eq <;> rfl

theorem AssignsOne.of_same {before after : State} {msg : JobAssignMsg}
    (one : AssignsOne before after workerId worker msg)
    (workers : before.workers = state.workers)
    (jobs : ∀ jobId, jobId ≠ msg.jobId →
      before.jobs.get? jobId = state.jobs.get? jobId)
    (connections : before.connections = state.connections)
    (sent : before.sent = state.sent) (laterWorkers : next.workers = after.workers)
    (laterJobs : next.jobs = after.jobs) (laterSent : next.sent = after.sent) :
    AssignsOne state next workerId worker msg where
  tracked := workers ▸ one.tracked
  taken := by rw [laterWorkers, one.taken]
  others other different := by
    rw [laterWorkers, one.others other different, workers]
  rows other different := by
    rw [laterJobs, one.rows other different, jobs other different]
  sent := by
    rw [laterSent, one.sent]
    exact send_sent_eq connections sent _ _

end One

theorem assigned_before_modify {jobs : OrderedMap String JobRow}
    {changed jobId : String} {change : JobRow → JobRow} {row : JobRow}
    (unassigned : ∀ row, (change row).status ≠ .assigned)
    (found : (jobs.modify changed change).get? jobId = some row)
    (assigned : row.status = .assigned) : jobs.get? jobId = some row := by
  rw [OrderedMap.get?_modify] at found
  split at found
  · rcases Option.map_eq_some_iff.mp found with ⟨before, _, same⟩
    exact absurd (same ▸ assigned) (unassigned before)
  · exact found

theorem effect_assigns {env : Environment} {input : Input}
    {state next : State} (effect : Effect env input state next) :
    Assigns input state next := by
  cases effect with
  | quiet quiet =>
    exact .nothing (.of_quiet quiet (fun holds => holds) rfl rfl)
  | @register ws msg next event quiet =>
    refine .nothing (.of_quiet quiet ?_ rfl rfl)
    intro workerId worker jobId holds
    have tracked := holds.tracked
    simp only [registered, OrderedMap.get?_set] at tracked
    split at tracked
    · cases tracked
      cases holds.active
    · exact ⟨tracked, holds.active⟩
  | receipt event stored =>
    rw [(insertReceipt_ok stored).2]
    exact .nothing (.of_rows rfl (fun _ _ found _ => found) rfl)
  | @complete ws msg workerId worker stored event holds real accepted =>
    rcases storeResult_ok accepted with ⟨_, receipts, _, storedState⟩
    refine .nothing (.of_same ?_ ?_ ?_)
    · intro other tracked found
      have reset := resetWorker_workers workerId found
      rw [rewarded_workers, storedState] at reset
      exact reset
    · intro jobId row found assigned
      simp only [resetWorker, State.updateWorker, rewarded_jobs, storedState]
        at found
      exact assigned_before_modify (by simp [completedRow]) found assigned
    · simp [resetWorker, storedState]
  | @completeDemo ws msg workerId worker event holds demo =>
    refine .nothing (.of_same ?_ ?_ ?_)
    · intro other tracked found
      rw [rewarded_workers] at found
      exact resetWorker_workers workerId found
    · intro jobId row found _
      rw [rewarded_jobs] at found
      exact found
    · simp [resetWorker]
  | @reject ws msg workerId worker event holds real =>
    refine .nothing (.of_same ?_ ?_ rfl)
    · intro other tracked found
      exact resetWorker_workers workerId found
    · intro jobId row found assigned
      exact assigned_before_modify (by simp [rejectedRow]) found assigned
  | @rejectDemo ws msg workerId worker event holds demo =>
    refine .nothing (.of_same ?_ (fun _ _ found _ => found) rfl)
    intro other tracked found
    exact resetWorker_workers workerId found
  | @disconnect ws workerId connections event =>
    refine .nothing (.of_dropped (disconnect_dropped workerId connections
      state) ?_)
    rw [handleDisconnect_eq]
  | prune =>
    refine .nothing (.of_dropped (pruneStale_dropped input.now state) ?_)
    rw [pruneStale_eq]
  | @commitAssigned tier body request workerId worker event valid claimed =>
    have one : AssignsOne (submitted input request state) _ workerId worker
        _ := jobAssigned_one input.uuid.text request claimed.tracked
    refine .commit event valid claimed ?_
      (one.of_same rfl ?_ rfl rfl rfl rfl rfl)
    · rw [jobAssigned_eq]
      simp [submitted_get]
    · intro jobId different
      have apart : jobId ≠ input.uuid.text := different
      simp [submitted, apart]
  | @commitRefused tier body request event valid none trusted =>
    refine .nothing (.of_rows rfl ?_ rfl)
    intro jobId row found assigned
    by_cases isNew : jobId = input.uuid.text
    · simp only [failJob, submitted, State.updateJob, OrderedMap.get?_modify,
        OrderedMap.get?_set, isNew, if_true, Option.map_some,
        Option.some.injEq] at found
      rw [← found] at assigned
      cases assigned
    · simpa [failJob, submitted, isNew] using found
  | @commitWaiting tier body request event valid none untrusted =>
    refine .nothing (.of_rows rfl ?_ rfl)
    intro jobId row found assigned
    by_cases isNew : jobId = input.uuid.text
    · simp only [startRetryLoop, submitted, OrderedMap.get?_set, isNew,
        if_true, Option.some.injEq] at found
      rw [← found] at assigned
      cases assigned
    · simpa [startRetryLoop, submitted, isNew] using found
  | retryCleared =>
    exact .nothing (.of_rows rfl (fun _ _ found _ => found) rfl)
  | @retryAssigned jobId loop row workerId worker event live stored pending
      claimed =>
      have one : AssignsOne (counted jobId loop state) _ workerId worker _ :=
        jobAssigned_one jobId loop.request claimed.tracked
      refine .retry event live stored pending claimed ?_
        (one.of_same rfl (fun _ _ => rfl) rfl rfl rfl rfl rfl)
      simp only [clearInterval]
      rw [jobAssigned_eq]
      simp [counted, stored]
  | @retryFailed jobId loop row event live stored pending none last =>
    refine .nothing (.of_rows rfl ?_ rfl)
    intro other after found assigned
    simp only [clearInterval, failJob, counted, State.updateJob] at found
    exact assigned_before_modify (by simp) found assigned
  | retryCounted =>
    exact .nothing (.of_rows rfl (fun _ _ found _ => found) rfl)
  | @demo choice task prompt workerId worker event tracked idle =>
    refine .demo event idle ?_ (demoAssigned_one _ tracked)
    simp [demoAssigned]

theorem step_assigns (env : Environment) (state : State) (input : Input) :
    Assigns input state ((machine env).step state input) := by
  cases effect_assigns (step_effect env state input) with
  | nothing nothing =>
    refine .nothing ⟨?_, nothing.rows, nothing.sent⟩
    intro workerId worker jobId holds
    rcases nothing.holders holds with ⟨before, held, sameWs⟩
    exact ⟨before, ⟨held.tracked, held.active⟩, sameWs⟩
  | commit event valid claimed row one =>
    exact .commit event valid ⟨claimed.tracked, claimed.eligible⟩ row
      (one.of_same rfl (fun _ _ => rfl) rfl rfl rfl rfl rfl)
  | retry event live stored pending claimed row one =>
    exact .retry event live stored pending
      ⟨claimed.tracked, claimed.eligible⟩ row
      (one.of_same rfl (fun _ _ => rfl) rfl rfl rfl rfl rfl)
  | demo event idle rows one =>
    exact .demo event idle rows
      (one.of_same rfl (fun _ _ => rfl) rfl rfl rfl rfl rfl)

/-! ## Open sockets -/

structure HandsOver (state next : State) (ws : SocketId)
    (msg : JobAssignMsg) : Prop where
  isOpen : state.readyState ws = some .open
  sent : next.sent = state.sent ++ [{ ws := ws, message := .jobAssign msg }]

def TellsAssigned (state next : State) : Prop :=
  ∀ jobId row, next.jobs.get? jobId = some row → row.status = .assigned →
    (∀ before, state.jobs.get? jobId = some before →
      before.status ≠ .assigned) →
    ∃ workerId worker, Holds next workerId worker jobId ∧
      HandsOver state next worker.ws (row.request.assignMsg jobId)

def TellsInjected (state : State) : Prop :=
  ∀ workerId msg, (injectDemoJob workerId msg state).2 = true →
    ∃ worker, state.workers.get? workerId = some worker ∧
      HandsOver state (injectDemoJob workerId msg state).1 worker.ws msg

structure Tells (env : Environment) (state : State) (input : Input) : Prop where
  assigned : TellsAssigned state ((machine env).step state input)
  injected : ∀ choice, input.event = .demoTick choice → TellsInjected state

def HoldersTold (state : State) : Prop :=
  ∀ {workerId worker jobId}, Holds state workerId worker jobId →
    ∃ msg, msg.jobId = jobId ∧
      { ws := worker.ws, message := .jobAssign msg } ∈ state.sent

def AllOpen (state : State) (test : TrackedWorker → Bool) : Prop :=
  ∀ entry ∈ state.workers.entries, test entry.2 = true →
    state.readyState entry.2.ws = some .open

instance (state : State) (test : TrackedWorker → Bool) :
    Decidable (AllOpen state test) :=
  inferInstanceAs (Decidable (∀ _ ∈ _, _))

def RequestOpen (state : State) (request : JobRequest) : Prop :=
  AllOpen state (isEligible state request.jobType request.privacyClass
    request.userId)

def CommitOpen (state : State) : Except CommitReply JobRequest → Prop
  | .ok request => RequestOpen state request
  | .error _ => True

def AssignsOpen (state : State) : Event → Prop
  | .commit tier body => CommitOpen state (validateCommit tier body)
  | .retryTick jobId =>
    ∀ loop ∈ state.retryLoops.get? jobId, RequestOpen state loop.request
  | .demoTick _ => AllOpen state fun worker => worker.status = .idle
  | _ => True

instance (state : State) (request : JobRequest) :
    Decidable (RequestOpen state request) :=
  inferInstanceAs (Decidable (AllOpen _ _))

instance (state : State) : DecidablePred (CommitOpen state)
  | .ok request => inferInstanceAs (Decidable (RequestOpen state request))
  | .error _ => inferInstanceAs (Decidable True)

instance (state : State) (event : Event) :
    Decidable (AssignsOpen state event) :=
  match event with
  | .commit tier body =>
    inferInstanceAs (Decidable (CommitOpen state (validateCommit tier body)))
  | .retryTick _ => inferInstanceAs (Decidable (∀ _ ∈ _, _))
  | .demoTick _ => inferInstanceAs (Decidable (AllOpen state
      fun worker => worker.status = .idle))
  | .frame _ _ | .connect _ | .closing _ | .close _ | .pruneStale
  | .trustCreate _ _ | .trustClaim _ _ | .demoStart | .demoStop
  | .reputationFetched _ _ | .stakeFetched _ _ | .feedbackSettled _ _ =>
    inferInstanceAs (Decidable True)

section Told

variable {env : Environment} {state next : State} {input : Input}
  {workerId : String} {worker : TrackedWorker} {msg : JobAssignMsg}

theorem AllOpen.isOpen {test : TrackedWorker → Bool}
    (allOpen : AllOpen state test)
    (tracked : state.workers.get? workerId = some worker)
    (passes : test worker = true) : state.readyState worker.ws = some .open :=
  allOpen (workerId, worker) ((OrderedMap.get?_eq_some_iff ..).mp tracked)
    passes

theorem AssignsOne.handsOver (one : AssignsOne state next workerId worker msg)
    (isOpen : state.readyState worker.ws = some .open) :
    HandsOver state next worker.ws msg where
  isOpen := isOpen
  sent := one.sent.trans (send_sent_of_open isOpen _)

theorem AssignsOne.holds (one : AssignsOne state next workerId worker msg) :
    Holds next workerId
      { worker with
        status := .busy
        activeJobId := some msg.jobId } msg.jobId :=
  ⟨one.taken, rfl⟩

theorem injectDemoJob_true
    (injected : (injectDemoJob workerId msg state).2 = true) :
    ∃ worker, state.workers.get? workerId = some worker ∧
      worker.status = .idle ∧
      (injectDemoJob workerId msg state).1 =
        demoAssigned workerId worker msg state := by
  unfold injectDemoJob at injected ⊢
  cases tracked : state.workers.get? workerId with
  | none => simp [tracked] at injected
  | some worker =>
    by_cases idle : worker.status = .idle
    · exact ⟨worker, rfl, idle, by simp [idle, demoAssigned]⟩
    · simp [tracked, idle] at injected

theorem tellsInjected_of_open
    (allOpen : AllOpen state fun worker => worker.status = .idle) :
    TellsInjected state := by
  intro workerId msg injected
  rcases injectDemoJob_true injected with ⟨worker, tracked, idle, outcome⟩
  have isOpen := allOpen.isOpen tracked (decide_eq_true idle)
  refine ⟨worker, tracked, ?_⟩
  rw [outcome]
  exact (demoAssigned_one msg tracked).handsOver isOpen

theorem AssignsOne.tells (one : AssignsOne state next workerId worker msg)
    (isOpen : state.readyState worker.ws = some .open) {after : JobRow}
    (stored : next.jobs.get? msg.jobId = some after)
    (same : after.request.assignMsg msg.jobId = msg) :
    TellsAssigned state next := by
  intro jobId row found assigned unassigned
  by_cases isThis : jobId = msg.jobId
  · rw [isThis, stored, Option.some.injEq] at found
    rw [isThis]
    refine ⟨workerId, _, one.holds, ?_⟩
    rw [← found, same]
    exact one.handsOver isOpen
  · rw [one.rows jobId isThis] at found
    exact absurd assigned (unassigned row found)

theorem step_tells (reachable : (machine env).Reachable state)
    (isOpen : AssignsOpen state input.event) : Tells env state input := by
  constructor
  · cases step_assigns env state input with
    | nothing nothing =>
      intro jobId row stored assigned unassigned
      rcases nothing.rows stored assigned with ⟨before, found, was⟩
      exact absurd was (unassigned before found)
    | commit event valid claimed row one =>
      simp only [AssignsOpen, event, valid, CommitOpen] at isOpen
      exact one.tells (isOpen.isOpen claimed.tracked claimed.eligible) row rfl
    | @retry jobId loop before workerId worker event live stored pending
        claimed row one =>
        have request := loops_request reachable jobId loop before live stored
        simp only [AssignsOpen, event] at isOpen
        refine one.tells ((isOpen loop live).isOpen claimed.tracked
          claimed.eligible) row ?_
        rw [← request]
        rfl
    | demo event idle rows one =>
      intro jobId row stored assigned unassigned
      rw [rows] at stored
      exact absurd assigned (unassigned row stored)
  · intro choice event
    rw [event] at isOpen
    exact tellsInjected_of_open isOpen

theorem AssignsOne.holdersTold
    (one : AssignsOne state next workerId worker msg)
    (isOpen : state.readyState worker.ws = some .open)
    (told : HoldersTold state) : HoldersTold next := by
  intro other holder jobId holds
  have sent := (one.handsOver isOpen).sent
  by_cases isThis : other = workerId
  · have tracked := holds.tracked
    rw [isThis, one.taken, Option.some.injEq] at tracked
    have active := holds.active
    rw [← tracked, Option.some.injEq] at active
    refine ⟨msg, active, ?_⟩
    rw [sent, ← tracked]
    simp
  · have held : Holds state other holder jobId :=
      ⟨one.others other isThis ▸ holds.tracked, holds.active⟩
    rcases told held with ⟨earlier, same, member⟩
    refine ⟨earlier, same, ?_⟩
    rw [sent]
    exact List.mem_append_left _ member

theorem step_holdersTold (told : HoldersTold state)
    (isOpen : AssignsOpen state input.event) :
    HoldersTold ((machine env).step state input) := by
  cases step_assigns env state input with
  | nothing nothing =>
    intro workerId worker jobId holds
    rcases nothing.holders holds with ⟨before, held, sameWs⟩
    rcases nothing.sent with ⟨more, sent, _⟩
    rcases told held with ⟨msg, same, member⟩
    refine ⟨msg, same, ?_⟩
    rw [sent, ← sameWs]
    exact List.mem_append_left _ member
  | commit event valid claimed row one =>
    simp only [AssignsOpen, event, valid, CommitOpen] at isOpen
    exact one.holdersTold (isOpen.isOpen claimed.tracked claimed.eligible)
      told
  | retry event live stored pending claimed row one =>
    simp only [AssignsOpen, event] at isOpen
    exact one.holdersTold ((isOpen _ live).isOpen claimed.tracked
      claimed.eligible) told
  | demo event idle rows one =>
    simp only [AssignsOpen, event] at isOpen
    exact one.holdersTold (isOpen.isOpen one.tracked (decide_eq_true idle))
      told

end Told

/-- As long as the workers that may be given a job have open sockets, a row
becomes assigned only when its worker is handed the job, `injectDemoJob`
returns `true` only when its job is handed over, and every worker that has a job
has been told about it. -/
theorem assigned_workers_told_if_open (env : Environment)
    {inputs : List Input} {state : State}
    (run : (machine env).Run .initial inputs state)
    (isOpen : (machine env).Steps
      (fun state input => AssignsOpen state input.event) .initial inputs) :
    (machine env).Steps (Tells env) .initial inputs ∧
      (machine env).Along HoldersTold .initial inputs := by
  constructor
  · apply run.steps _ .start isOpen
    intro before input reached _ isOpenNow
    exact step_tells reached isOpenNow
  · apply run.along _ .start _ isOpen
    · intro before input _ told _ isOpenNow
      exact step_holdersTold told isOpenNow
    · intro workerId worker jobId holds
      cases holds.tracked

namespace Sample

def closing (ws : SocketId) (uuid : Uuid) : Input :=
  { now := 0, uuid := uuid, event := .closing ws }

def demo (uuid : Uuid) (event : Event) : Input :=
  { now := 0, uuid := uuid, event := event }

def choice : DemoChoice :=
  { worker := 0, task := 0, prompt := 0 }

end Sample

theorem assigned_workers_told_if_open_committed :
    let inputs := [Sample.connect 0 Sample.spareUuid,
      Sample.register 0 Sample.workerUuid Sample.pubkey,
      Sample.commit Sample.jobUuid none]
    let state := (machine Sample.environment).exec .initial inputs
    (state.jobs.get? Sample.jobUuid.text).map JobRow.status =
        some .assigned ∧
      (machine Sample.environment).Steps (Tells Sample.environment) .initial
        inputs ∧
      (machine Sample.environment).Along HoldersTold .initial inputs :=
  ⟨by decide +kernel, assigned_workers_told_if_open Sample.environment
    (Machine.Run.of_steps (by decide +kernel)) (by decide +kernel)⟩

theorem job_assigned_to_closing_socket :
    let before := [Sample.connect 0 Sample.spareUuid,
      Sample.register 0 Sample.workerUuid Sample.pubkey,
      Sample.closing 0 Sample.lastUuid]
    let inputs := before ++ [Sample.commit Sample.jobUuid none]
    let idle := (machine Sample.environment).exec .initial before
    let state := (machine Sample.environment).exec .initial inputs
    let injected := injectDemoJob Sample.workerUuid.text
      (demoMsg Sample.otherUuid .summarize "Summarize") idle
    (machine Sample.environment).Run .initial inputs state ∧
      (state.jobs.get? Sample.jobUuid.text).map JobRow.status =
        some .assigned ∧
      state.sent = idle.sent ∧
      (injected.2 = true ∧ injected.1.sent = idle.sent) ∧
      ¬ (machine Sample.environment).Steps (Tells Sample.environment) .initial
        inputs ∧
      ¬ (machine Sample.environment).Along HoldersTold .initial inputs := by
  refine ⟨.of_steps (by decide +kernel), by decide +kernel, by decide +kernel,
    by decide +kernel, ?_, ?_⟩
  · intro tells
    rcases tells.2.2.2.1.assigned Sample.jobUuid.text _ rfl rfl nofun with
      ⟨_, _, _, handed⟩
    have lengths := congrArg List.length handed.sent
    rw [List.length_append, List.length_singleton] at lengths
    revert lengths
    decide +kernel
  · intro told
    have acknowledged : ((machine Sample.environment).exec .initial
        [Sample.connect 0 Sample.spareUuid,
          Sample.register 0 Sample.workerUuid Sample.pubkey,
          Sample.closing 0 Sample.lastUuid,
          Sample.commit Sample.jobUuid none]).sent =
        [{ ws := 0, message := .registerAck Sample.workerUuid.text }] := by
      decide +kernel
    rcases told.2.2.2.2 (show Holds _ Sample.workerUuid.text _ _ from
      ⟨rfl, rfl⟩) with ⟨msg, _, member⟩
    have isAcknowledgement : _ ∈ [_] := acknowledged ▸ member
    simp at isAcknowledgement

/-! ## Declared capabilities -/

def SendsSuited (past : List Input) (state next : State) : Prop :=
  ∃ more, next.sent = state.sent ++ more ∧
    ∀ frame ∈ more, ∀ msg, frame.message = .jobAssign msg →
      ∃ registration ∈ past, ∃ declared,
        registration.event = .frame frame.ws (.register declared) ∧
        msg.jobType ∈ declared.capabilities ∧
        ∃ worker, Holds next registration.uuid.text worker msg.jobId ∧
          worker.ws = frame.ws

def AllSuited (env : Environment) (inputs : List Input) : Prop :=
  ∀ first input second state, inputs = first ++ input :: second →
    (machine env).Run .initial first state →
    SendsSuited first state ((machine env).step state input)

def DemosSuited (state : State) : Event → Prop
  | .demoTick _ =>
    ∀ entry ∈ state.workers.entries, entry.2.status = .idle →
      state.readyState entry.2.ws = some .open →
      JobType.task ∈ entry.2.capabilities
  | _ => True

instance (state : State) (event : Event) :
    Decidable (DemosSuited state event) :=
  match event with
  | .demoTick _ => inferInstanceAs (Decidable (∀ _ ∈ _, _))
  | .frame _ _ | .connect _ | .closing _ | .close _ | .pruneStale
  | .commit _ _ | .retryTick _ | .trustCreate _ _ | .trustClaim _ _
  | .demoStart | .demoStop | .reputationFetched _ _ | .stakeFetched _ _
  | .feedbackSettled _ _ => inferInstanceAs (Decidable True)

def Registered (past : List Input) (state : State) : Prop :=
  ∀ workerId worker, state.workers.get? workerId = some worker →
    ∃ registration ∈ past, ∃ declared,
      registration.uuid.text = workerId ∧
      registration.event = .frame worker.ws (.register declared) ∧
      declared.capabilities = worker.capabilities

section Suited

variable {env : Environment} {past : List Input} {state next : State}
  {input : Input} {workerId : String} {worker : TrackedWorker}
  {msg : JobAssignMsg}

theorem registered_step (registered : Registered past state) :
    Registered (past ++ [input]) ((machine env).step state input) := by
  intro workerId worker tracked
  rcases step_worker tracked with ⟨before, found, sameWs, same⟩ |
    ⟨declared, event, isNew, same⟩
  · rcases registered workerId before found with
      ⟨registration, member, declared, isThis, event, capabilities⟩
    rw [sameWs] at event
    exact ⟨registration, List.mem_append_left _ member, declared, isThis,
      event, capabilities.trans same⟩
  · exact ⟨input, by simp, declared, isNew, event, same⟩

theorem registered_run (run : (machine env).Run .initial past state) :
    Registered past state := by
  have registered : Registered ([] ++ (machine env).observe
      (fun _ input => [input]) .initial past) state :=
    run.observes (fun _ _ _ _ registered _ _ => registered_step registered)
      .start (Machine.Steps.always _ _ _) fun _ _ tracked => nomatch tracked
  rw [List.nil_append, Machine.observe_events] at registered
  exact registered

theorem AssignsOne.suited (one : AssignsOne state next workerId worker msg)
    (registered : Registered past state)
    (able : state.readyState worker.ws = some .open →
      msg.jobType ∈ worker.capabilities) : SendsSuited past state next := by
  have sent := one.sent
  rw [State.send] at sent
  split at sent
  · next isOpen =>
      refine ⟨_, sent, ?_⟩
      intro frame member other isAssign
      rw [List.mem_singleton.mp member] at isAssign ⊢
      cases isAssign
      rcases registered workerId worker one.tracked with
        ⟨registration, earlier, declared, isThis, event, same⟩
      refine ⟨registration, earlier, declared, event, ?_, ?_⟩
      · rw [same]
        exact able isOpen
      · rw [isThis]
        exact ⟨_, one.holds, rfl⟩
  · refine ⟨[], by rw [sent, List.append_nil], ?_⟩
    intro frame member
    cases member

theorem Claimed.able {request : JobRequest}
    (claimed : Claimed state request workerId worker) :
    request.jobType ∈ worker.capabilities := by
  have eligible := claimed.eligible
  simp only [isEligible, Bool.and_eq_true] at eligible
  exact List.contains_iff_mem.mp eligible.1.2

theorem step_suited (registered : Registered past state)
    (suited : DemosSuited state input.event) :
    SendsSuited past state ((machine env).step state input) := by
  cases step_assigns env state input with
  | nothing nothing =>
    rcases nothing.sent with ⟨more, sent, noJob⟩
    refine ⟨more, sent, ?_⟩
    intro frame member msg isAssign
    exact absurd isAssign (noJob frame member msg)
  | commit event valid claimed row one =>
    exact one.suited registered fun _ => claimed.able
  | retry event live stored pending claimed row one =>
    exact one.suited registered fun _ => claimed.able
  | demo event idle rows one =>
    simp only [DemosSuited, event] at suited
    apply one.suited registered
    have listed := (OrderedMap.get?_eq_some_iff ..).mp one.tracked
    exact suited _ listed idle

end Suited

namespace Sample

def demoRun (capabilities : List JobType) : List Input :=
  [connect 0 spareUuid,
    { now := 0
      uuid := workerUuid
      event := .frame 0 (.register
        { providerPubkey := pubkey, providerType := .seeker,
          capabilities := capabilities }) },
    demo jobUuid .demoStart, demo otherUuid (.demoTick choice)]

end Sample

end Dispatch.Coordinator
