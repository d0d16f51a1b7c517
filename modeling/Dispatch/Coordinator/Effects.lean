import Dispatch.Coordinator.Machine

/-! # What an event can do

Every event has one of a few effects on the state.
-/

namespace Dispatch.Coordinator

open WorkerHub

/-! ## Fields that an update leaves alone -/

namespace State

variable (state : State) (ws : SocketId) (message : CoordinatorToWorker)

theorem send_eq : state.send ws message =
    { state with sent := (state.send ws message).sent } := by
  unfold send
  split <;> rfl

@[simp] theorem send_workers : (state.send ws message).workers = state.workers := by
  rw [send_eq]

@[simp] theorem send_jobs : (state.send ws message).jobs = state.jobs := by
  rw [send_eq]

@[simp] theorem send_receipts :
    (state.send ws message).receipts = state.receipts := by
  rw [send_eq]

@[simp] theorem send_retryLoops :
    (state.send ws message).retryLoops = state.retryLoops := by
  rw [send_eq]

@[simp] theorem send_boltPayouts :
    (state.send ws message).boltPayouts = state.boltPayouts := by
  rw [send_eq]

@[simp] theorem send_wrappedBoltPayouts :
    (state.send ws message).wrappedBoltPayouts = state.wrappedBoltPayouts := by
  rw [send_eq]

@[simp] theorem send_feedback :
    (state.send ws message).feedback = state.feedback := by
  rw [send_eq]

@[simp] theorem send_issued : (state.send ws message).issued = state.issued := by
  rw [send_eq]

theorem send_sent : ∃ more, (state.send ws message).sent = state.sent ++ more ∧
    ∀ frame ∈ more, frame = { ws := ws, message := message } := by
  unfold send
  split
  · exact ⟨_, rfl, fun frame member => List.mem_singleton.mp member⟩
  · exact ⟨[], (List.append_nil _).symm, List.forall_mem_nil _⟩

end State

/-! ## Effects on workers and jobs

The compositions of assignments and statements that the handlers come down
to. -/

def jobAssigned (jobId : String) (request : JobRequest) (workerId : String)
    (worker : TrackedWorker) (state : State) : State :=
  matchJob jobId request workerId worker
    (state.updateWorker workerId fun worker => { worker with status := .busy })

def assignedRow (worker : TrackedWorker) (row : JobRow) : JobRow :=
  { row with status := .assigned, workerPubkey := some worker.pubkey }

section JobAssigned

variable (jobId : String) (request : JobRequest) (workerId : String)
  (worker : TrackedWorker) (state : State)

theorem jobAssigned_eq : jobAssigned jobId request workerId worker state =
    { state with
      workers := (jobAssigned jobId request workerId worker state).workers
      jobs := state.jobs.modify jobId (assignedRow worker)
      sent := (jobAssigned jobId request workerId worker state).sent } := by
  simp only [jobAssigned, matchJob, assignJob, State.updateWorker,
    State.updateJob]
  rw [State.send_eq]
  rfl

@[simp] theorem jobAssigned_worker (other : String) :
    (jobAssigned jobId request workerId worker state).workers.get? other =
      if other = workerId then
        (state.workers.get? other).map fun worker =>
          { worker with status := .busy, activeJobId := some jobId }
      else state.workers.get? other := by
  by_cases same : other = workerId <;>
    simp [jobAssigned, matchJob, assignJob, same, Function.comp_def]

end JobAssigned

def completedRow (now : Nat) (output : Option JsonText) (row : JobRow) :
    JobRow :=
  { row with
    status := .completed
    result := output
    completedAt := some now }

def rejectedRow (row : JobRow) : JobRow :=
  { row with status := .pending, workerPubkey := none }

def disconnectedRow (row : JobRow) : JobRow :=
  { row with
    status := .failed
    result := some "\x7b\"error\":\"worker_disconnected\"\x7d" }

def rewarded (env : Environment) (worker : TrackedWorker) (jobId : String)
    (state : State) : State :=
  queuePayouts env (postFeedback env state worker jobId) worker jobId

section Rewarded

variable (env : Environment) (worker : TrackedWorker) (jobId : String)
  (state : State)

@[simp] theorem rewarded_workers :
    (rewarded env worker jobId state).workers = state.workers := by
  simp [rewarded, queuePayouts, postFeedback, apply_ite State.workers]

@[simp] theorem rewarded_jobs :
    (rewarded env worker jobId state).jobs = state.jobs := by
  simp [rewarded, queuePayouts, postFeedback, apply_ite State.jobs]

@[simp] theorem rewarded_receipts :
    (rewarded env worker jobId state).receipts = state.receipts := by
  simp [rewarded, queuePayouts, postFeedback, apply_ite State.receipts]

@[simp] theorem rewarded_retryLoops :
    (rewarded env worker jobId state).retryLoops = state.retryLoops := by
  simp [rewarded, queuePayouts, postFeedback, apply_ite State.retryLoops]

@[simp] theorem rewarded_sent :
    (rewarded env worker jobId state).sent = state.sent := by
  simp [rewarded, queuePayouts, postFeedback, apply_ite State.sent]

@[simp] theorem rewarded_issued :
    (rewarded env worker jobId state).issued = state.issued := by
  simp [rewarded, queuePayouts, postFeedback, apply_ite State.issued]

end Rewarded

def demoAssigned (workerId : String) (worker : TrackedWorker)
    (msg : JobAssignMsg) (state : State) : State :=
  (state.updateWorker workerId fun worker =>
    { worker with
      status := .busy
      activeJobId := some msg.jobId }).send worker.ws (.jobAssign msg)

structure Assignment where
  ws : SocketId
  pubkey : String
  capabilities : List JobType
  status : WorkerStatus
  activeJobId : Option String

def TrackedWorker.assignment (worker : TrackedWorker) : Assignment where
  ws := worker.ws
  pubkey := worker.pubkey
  capabilities := worker.capabilities
  status := worker.status
  activeJobId := worker.activeJobId

structure Quiet (state next : State) : Prop where
  workers : ∀ workerId, (next.workers.get? workerId).map
    TrackedWorker.assignment =
      (state.workers.get? workerId).map TrackedWorker.assignment
  jobs : next.jobs = state.jobs
  receipts : next.receipts = state.receipts
  retryLoops : next.retryLoops = state.retryLoops
  boltPayouts : next.boltPayouts = state.boltPayouts
  wrappedBoltPayouts : next.wrappedBoltPayouts = state.wrappedBoltPayouts
  feedback : next.feedback = state.feedback
  issued : next.issued = state.issued
  sent : ∃ more, next.sent = state.sent ++ more ∧
    ∀ frame ∈ more, ∀ msg, frame.message ≠ .jobAssign msg

namespace Quiet

theorem refl (state : State) : Quiet state state where
  workers _ := rfl
  jobs := rfl
  receipts := rfl
  retryLoops := rfl
  boltPayouts := rfl
  wrappedBoltPayouts := rfl
  feedback := rfl
  issued := rfl
  sent := ⟨[], (List.append_nil _).symm, fun _ member => nomatch member⟩

theorem trans {first second third : State} (left : Quiet first second)
    (right : Quiet second third) : Quiet first third where
  workers workerId := (right.workers workerId).trans (left.workers workerId)
  jobs := right.jobs.trans left.jobs
  receipts := right.receipts.trans left.receipts
  retryLoops := right.retryLoops.trans left.retryLoops
  boltPayouts := right.boltPayouts.trans left.boltPayouts
  wrappedBoltPayouts := right.wrappedBoltPayouts.trans left.wrappedBoltPayouts
  feedback := right.feedback.trans left.feedback
  issued := right.issued.trans left.issued
  sent := by
    rcases left.sent with ⟨early, earlySent, earlyQuiet⟩
    rcases right.sent with ⟨late, lateSent, lateQuiet⟩
    refine ⟨early ++ late, by rw [lateSent, earlySent, List.append_assoc], ?_⟩
    intro frame member
    rcases List.mem_append.mp member with first | second
    · exact earlyQuiet frame first
    · exact lateQuiet frame second

theorem send (state : State) (ws : SocketId) {message : CoordinatorToWorker}
    (noJob : ∀ msg, message ≠ .jobAssign msg) :
    Quiet state (state.send ws message) where
  workers _ := by rw [State.send_workers]
  jobs := state.send_jobs ws message
  receipts := state.send_receipts ws message
  retryLoops := state.send_retryLoops ws message
  boltPayouts := state.send_boltPayouts ws message
  wrappedBoltPayouts := state.send_wrappedBoltPayouts ws message
  feedback := state.send_feedback ws message
  issued := state.send_issued ws message
  sent := by
    rcases state.send_sent ws message with ⟨more, sent, only⟩
    refine ⟨more, sent, ?_⟩
    intro frame member
    rw [only frame member]
    exact noJob

theorem updateWorker (state : State) (workerId : String)
    {change : TrackedWorker → TrackedWorker}
    (keeps : ∀ worker, (change worker).assignment = worker.assignment) :
    Quiet state (state.updateWorker workerId change) :=
  { refl state with
    workers := by
      intro other
      simp only [State.updateWorker, OrderedMap.get?_modify]
      split
      · rw [Option.map_map]
        exact congrArg (Option.map · _) (funext keeps)
      · rfl }

theorem closeSocket (state : State) (ws : SocketId) :
    Quiet state (state.closeSocket ws) :=
  { refl state with }

end Quiet

/-! ## The effects -/

def submitted (input : Input) (request : JobRequest) (state : State) : State :=
  { state with
    jobs := state.jobs.set input.uuid.text (request.row input.now) }

theorem submitted_get (input : Input) (request : JobRequest) (state : State) :
    (submitted input request state).jobs.get? input.uuid.text =
      some (request.row input.now) := by
  simp [submitted]

def registered (input : Input) (ws : SocketId) (msg : RegisterMsg)
    (state : State) : State :=
  { state with
    workers := state.workers.set input.uuid.text
      { ws := ws, pubkey := msg.providerPubkey, type := msg.providerType,
        capabilities := msg.capabilities, status := .idle,
        lastHeartbeat := input.now, activeJobId := none,
        reputationScore := none, stakeLevel := none } }

def counted (jobId : String) (loop : RetryLoop) (state : State) : State :=
  { state with
    retryLoops := state.retryLoops.modify jobId fun stored =>
      { stored with attempts := loop.attempts + 1 } }

def NoneEligible (state : State) (request : JobRequest) : Prop :=
  ∀ workerId worker, state.workers.get? workerId = some worker →
    isEligible state request.jobType request.privacyClass request.userId
      worker = false

structure Claimed (state : State) (request : JobRequest) (workerId : String)
    (worker : TrackedWorker) : Prop where
  tracked : state.workers.get? workerId = some worker
  eligible : isEligible state request.jobType request.privacyClass
    request.userId worker = true

theorem Claimed.idle {state : State} {request : JobRequest}
    {workerId : String} {worker : TrackedWorker}
    (claimed : Claimed state request workerId worker) :
    worker.status = .idle := by
  have eligible := claimed.eligible
  simp only [isEligible, Bool.and_eq_true, decide_eq_true_eq] at eligible
  exact eligible.1.1

structure Holds (state : State) (workerId : String) (worker : TrackedWorker)
    (jobId : String) : Prop where
  tracked : state.workers.get? workerId = some worker
  active : worker.activeJobId = some jobId

inductive Effect (env : Environment) (input : Input) (state : State) :
    State → Prop
  | quiet {next : State} (quiet : Quiet state next) : Effect env input state next
  | register {ws : SocketId} {msg : RegisterMsg} {next : State}
      (event : input.event = .frame ws (.register msg))
      (quiet : Quiet (registered input ws msg state) next) :
      Effect env input state next
  | receipt {ws : SocketId} {msg : ReceiptSubmitMsg} {next : State}
      (event : input.event = .frame ws (.receiptSubmit msg))
      (stored : handleReceiptSubmit env input.uuid msg state = .ok next) :
      Effect env input state next
  | complete {ws : SocketId} {msg : JobCompleteMsg} {workerId : String}
      {worker : TrackedWorker} {stored : State}
      (event : input.event = .frame ws (.jobComplete msg))
      (holds : Holds state workerId worker msg.jobId)
      (real : isDemoJob msg.jobId = false)
      (accepted : storeResult env input.now input.uuid msg worker state =
        .ok stored) :
      Effect env input state
        (resetWorker (rewarded env worker msg.jobId stored) workerId)
  | completeDemo {ws : SocketId} {msg : JobCompleteMsg} {workerId : String}
      {worker : TrackedWorker}
      (event : input.event = .frame ws (.jobComplete msg))
      (holds : Holds state workerId worker msg.jobId)
      (demo : isDemoJob msg.jobId = true) :
      Effect env input state
        (rewarded env worker msg.jobId (resetWorker state workerId))
  | reject {ws : SocketId} {msg : JobRejectMsg} {workerId : String}
      {worker : TrackedWorker}
      (event : input.event = .frame ws (.jobReject msg))
      (holds : Holds state workerId worker msg.jobId)
      (real : isDemoJob msg.jobId = false) :
      Effect env input state
        (resetWorker (state.updateJob msg.jobId rejectedRow) workerId)
  | rejectDemo {ws : SocketId} {msg : JobRejectMsg} {workerId : String}
      {worker : TrackedWorker}
      (event : input.event = .frame ws (.jobReject msg))
      (holds : Holds state workerId worker msg.jobId)
      (demo : isDemoJob msg.jobId = true) :
      Effect env input state (resetWorker state workerId)
  | disconnect {ws : SocketId} {workerId : String}
      {connections : OrderedMap SocketId Connection}
      (event : input.event = .close ws) :
      Effect env input state
        (handleDisconnect workerId { state with connections := connections })
  | prune (event : input.event = .pruneStale) :
      Effect env input state (pruneStale input.now state)
  | commitAssigned {tier : Tier} {body : CommitBody} {request : JobRequest}
      {workerId : String} {worker : TrackedWorker}
      (event : input.event = .commit tier body)
      (valid : validateCommit tier body = .ok request)
      (claimed : Claimed state request workerId worker) :
      Effect env input state (jobAssigned input.uuid.text request workerId
        worker (submitted input request state))
  | commitRefused {tier : Tier} {body : CommitBody} {request : JobRequest}
      (event : input.event = .commit tier body)
      (valid : validateCommit tier body = .ok request)
      (none : NoneEligible state request)
      (trusted : request.privacyClass = PrivacyClass.PRIVATE) :
      Effect env input state (failJob input.uuid.text noTrustedWorkerResult
        (submitted input request state))
  | commitWaiting {tier : Tier} {body : CommitBody} {request : JobRequest}
      (event : input.event = .commit tier body)
      (valid : validateCommit tier body = .ok request)
      (none : NoneEligible state request)
      (untrusted : request.privacyClass ≠ PrivacyClass.PRIVATE) :
      Effect env input state (startRetryLoop input.uuid.text request
        (submitted input request state))
  | retryCleared {jobId : String} {loop : RetryLoop}
      (event : input.event = .retryTick jobId)
      (live : state.retryLoops.get? jobId = some loop)
      (settled : (state.jobs.get? jobId).map JobRow.status ≠ some .pending) :
      Effect env input state (clearInterval jobId (counted jobId loop state))
  | retryAssigned {jobId : String} {loop : RetryLoop} {row : JobRow}
      {workerId : String} {worker : TrackedWorker}
      (event : input.event = .retryTick jobId)
      (live : state.retryLoops.get? jobId = some loop)
      (stored : state.jobs.get? jobId = some row)
      (pending : row.status = .pending)
      (claimed : Claimed state loop.request workerId worker) :
      Effect env input state (clearInterval jobId (jobAssigned jobId
        loop.request workerId worker (counted jobId loop state)))
  | retryFailed {jobId : String} {loop : RetryLoop} {row : JobRow}
      (event : input.event = .retryTick jobId)
      (live : state.retryLoops.get? jobId = some loop)
      (stored : state.jobs.get? jobId = some row)
      (pending : row.status = .pending)
      (none : NoneEligible state loop.request)
      (last : maxAttempts ≤ loop.attempts + 1) :
      Effect env input state (clearInterval jobId (failJob jobId
        noEligibleWorkerResult (counted jobId loop state)))
  | retryCounted {jobId : String} {loop : RetryLoop} {row : JobRow}
      (event : input.event = .retryTick jobId)
      (live : state.retryLoops.get? jobId = some loop)
      (stored : state.jobs.get? jobId = some row)
      (pending : row.status = .pending)
      (none : NoneEligible state loop.request)
      (more : loop.attempts + 1 < maxAttempts) :
      Effect env input state (counted jobId loop state)
  | demo {choice : DemoChoice} {task : DemoTask} {prompt workerId : String}
      {worker : TrackedWorker}
      (event : input.event = .demoTick choice)
      (tracked : state.workers.get? workerId = some worker)
      (idle : worker.status = .idle) :
      Effect env input state (demoAssigned workerId worker
        (demoMsg input.uuid task prompt) state)

/-! ## Every event has an effect -/

theorem claimWorker_cases (now : Nat) (request : JobRequest) (state : State) :
    (claimWorker now request.jobType request.policy request.privacyClass
        request.userId state = (none, state) ∧ NoneEligible state request) ∨
      ∃ workerId worker, Claimed state request workerId worker ∧
        claimWorker now request.jobType request.policy request.privacyClass
          request.userId state =
          (some (workerId, worker), state.updateWorker workerId fun worker =>
            { worker with status := .busy }) := by
  let candidates := state.workers.entries.filter fun entry =>
    isEligible state request.jobType request.privacyClass request.userId entry.2
  let before (left right : String × TrackedWorker) : Prop :=
    workerScore now right.2 request.policy request.jobType ≤
      workerScore now left.2 request.policy request.jobType
  have sameMembers := List.perm_insertionSort before candidates
  cases sorted : candidates.insertionSort before with
  | nil =>
    left
    have noCandidate : candidates = [] := by
      rw [sorted] at sameMembers
      exact sameMembers.symm.eq_nil
    refine ⟨by simp only [claimWorker, sorted, candidates, before], ?_⟩
    intro workerId worker tracked
    have member := (OrderedMap.get?_eq_some_iff ..).mp tracked
    have refused := List.filter_eq_nil_iff.mp noCandidate _ member
    simpa using refused
  | cons entry rest =>
    rcases entry with ⟨workerId, worker⟩
    right
    have member : (workerId, worker) ∈ candidates := by
      apply sameMembers.mem_iff.mp
      rw [sorted]
      exact List.mem_cons_self
    have parts := List.mem_filter.mp member
    refine ⟨workerId, worker, ⟨?_, parts.2⟩, ?_⟩
    · exact (OrderedMap.get?_eq_some_iff ..).mpr parts.1
    · simp only [claimWorker, sorted, candidates, before]

theorem holds_of_find {state : State} {jobId workerId : String}
    {worker : TrackedWorker}
    (found : findByActiveJob state jobId = some (workerId, worker)) :
    Holds state workerId worker jobId := by
  have stored := OrderedMap.get?_of_find? found
  exact ⟨stored.1, of_decide_eq_true stored.2⟩

section Events

variable (env : Environment) (input : Input) (state : State)

theorem jobComplete_effect {ws : SocketId} {msg : JobCompleteMsg}
    (event : input.event = .frame ws (.jobComplete msg)) :
    Effect env input state (settle state
      (handleJobComplete env input.now input.uuid msg state)) := by
  unfold handleJobComplete
  cases found : findByActiveJob state msg.jobId with
  | none => exact .quiet (.refl state)
  | some entry =>
    rcases entry with ⟨workerId, worker⟩
    have holds := holds_of_find found
    cases demo : isDemoJob msg.jobId with
    | true => exact .completeDemo event holds demo
    | false =>
      simp only [Bool.false_eq_true, if_false]
      cases accepted : storeResult env input.now input.uuid msg worker
          state with
      | error => exact .quiet (.refl state)
      | ok stored => exact .complete event holds demo accepted

theorem jobReject_effect {ws : SocketId} {msg : JobRejectMsg}
    (event : input.event = .frame ws (.jobReject msg)) :
    Effect env input state (handleJobReject msg state) := by
  unfold handleJobReject
  cases found : findByActiveJob state msg.jobId with
  | none => exact .quiet (.refl state)
  | some entry =>
    rcases entry with ⟨workerId, worker⟩
    have holds := holds_of_find found
    cases demo : isDemoJob msg.jobId with
    | true => exact .rejectDemo event holds demo
    | false => exact .reject event holds demo

theorem heartbeat_quiet (now : Nat) (msg : HeartbeatMsg) :
    Quiet state (handleHeartbeat now msg state) := by
  unfold handleHeartbeat
  cases findByPubkey state msg.providerPubkey with
  | none => exact .refl state
  | some entry =>
    apply Quiet.trans (Quiet.updateWorker state entry.1 _)
    · exact .send _ _ (by simp)
    · intro worker
      rfl

theorem frame_effect {ws : SocketId} {frame : Frame}
    (event : input.event = .frame ws frame) :
    Effect env input state (settle state
      (handleMessage env input.now input.uuid ws frame state)) := by
  cases frame with
  | notJson => exact .quiet (.send state ws (by simp))
  | unknown type => exact .quiet (.send state ws (by simp))
  | register msg =>
    apply Effect.register event
    have acknowledged : Quiet (registered input ws msg state)
        ((registered input ws msg state).send ws
          (.registerAck input.uuid.text)) := .send _ _ (by simp)
    exact acknowledged.trans { Quiet.refl _ with }
  | heartbeat msg => exact .quiet (heartbeat_quiet state input.now msg)
  | jobComplete msg => exact jobComplete_effect env input state event
  | jobReject msg => exact jobReject_effect env input state event
  | receiptSubmit msg =>
    simp only [handleMessage]
    cases stored : handleReceiptSubmit env input.uuid msg state with
    | error => exact .quiet (.refl state)
    | ok next => exact .receipt event stored

theorem close_effect {ws : SocketId} (event : input.event = .close ws) :
    Effect env input state (handleClose ws state) := by
  unfold handleClose
  cases (state.connections.get? ws).bind Connection.workerId with
  | none => exact .quiet { Quiet.refl state with }
  | some workerId => exact .disconnect event

theorem commit_effect {tier : Tier} {body : CommitBody}
    (event : input.event = .commit tier body) :
    Effect env input state (settle state
      ((handleCommit input.now input.uuid tier body state).map Prod.fst)) := by
  unfold handleCommit
  cases valid : validateCommit tier body with
  | error reply => exact .quiet (.refl state)
  | ok request =>
    simp only [commitJob]
    cases inserted : state.jobs.insert? input.uuid.text
        (request.row input.now) with
    | none => exact .quiet (.refl state)
    | some jobs =>
      have jobsSet := (OrderedMap.insert?_eq_some inserted).2
      subst jobsSet
      rcases claimWorker_cases input.now request
        (submitted input request state) with
        ⟨nobody, noneEligible⟩ | ⟨workerId, worker, claimed, outcome⟩
      · simp only [submitted] at nobody
        simp only [nobody]
        by_cases trusted : request.privacyClass = PrivacyClass.PRIVATE
        · rw [if_pos trusted]
          exact .commitRefused event valid noneEligible trusted
        · rw [if_neg trusted]
          exact .commitWaiting event valid noneEligible trusted
      · simp only [submitted] at outcome
        simp only [outcome]
        exact .commitAssigned event valid ⟨claimed.tracked, claimed.eligible⟩

theorem retryTick_effect {jobId : String}
    (event : input.event = .retryTick jobId) :
    Effect env input state (retryTick input.now jobId state) := by
  unfold retryTick
  cases live : state.retryLoops.get? jobId with
  | none => exact .quiet (.refl state)
  | some loop =>
    by_cases settled :
        (state.jobs.get? jobId).map JobRow.status ≠ some .pending
    · simp only [if_pos settled]
      exact .retryCleared event live settled
    · simp only [if_neg settled]
      rcases Option.map_eq_some_iff.mp (not_not.mp settled) with
        ⟨row, stored, pending⟩
      rcases claimWorker_cases input.now loop.request
        (counted jobId loop state) with
        ⟨nobody, noneEligible⟩ | ⟨workerId, worker, claimed, outcome⟩
      · simp only [counted] at nobody
        simp only [nobody]
        by_cases last : loop.attempts + 1 ≥ maxAttempts
        · rw [if_pos last]
          exact .retryFailed event live stored pending noneEligible last
        · rw [if_neg last]
          exact .retryCounted event live stored pending noneEligible
            (Nat.lt_of_not_ge last)
      · simp only [counted] at outcome
        simp only [outcome]
        exact .retryAssigned event live stored pending
          ⟨claimed.tracked, claimed.eligible⟩

theorem demoTick_effect {choice : DemoChoice}
    (event : input.event = .demoTick choice) :
    Effect env input state (demoTick input.uuid choice state) := by
  unfold demoTick
  split
  · cases picked : pickRandom choice.worker (getIdleWorkers state) with
    | none => exact .quiet (.refl state)
    | some entry =>
      rcases entry with ⟨workerId, worker⟩
      dsimp only
      cases pickRandom choice.task TASK_TYPES with
      | none => exact .quiet (.refl state)
      | some task =>
        dsimp only
        cases pickRandom choice.prompt (DEMO_PROMPTS task) with
        | none => exact .quiet (.refl state)
        | some prompt =>
          have member := List.mem_filter.mp
            (List.mem_of_getElem? picked)
          have tracked := (OrderedMap.get?_eq_some_iff ..).mpr member.1
          have idle : worker.status = .idle :=
            of_decide_eq_true member.2
          simp only [injectDemoJob, tracked, idle, ne_eq,
            not_true_eq_false, if_false]
          exact .demo event tracked idle
  · exact .quiet (.refl state)

theorem feedbackSettled_quiet (call : FeedbackCall)
    (outcome : FeedbackOutcome) :
    Quiet state (feedbackSettled call outcome state) := by
  have dequeued : Quiet state { state with
      feedbackInFlight := state.feedbackInFlight.erase call } :=
    { Quiet.refl state with }
  cases outcome with
  | posted txHash => exact dequeued.trans (.send _ _ (by simp))
  | nothingPosted => exact dequeued
  | failed error => exact dequeued.trans (.send _ _ (by simp))

theorem handle_effect : Effect env input state (handle env state input) := by
  unfold handle
  cases event : input.event with
  | connect ws => exact .quiet { Quiet.refl state with }
  | frame ws frame => exact frame_effect env input state event
  | closing ws => exact .quiet (.closeSocket state ws)
  | close ws => exact close_effect env input state event
  | pruneStale => exact .prune event
  | commit tier body => exact commit_effect env input state event
  | retryTick jobId => exact retryTick_effect env input state event
  | trustCreate random userId =>
    simp only [trustCreate]
    split
    · exact .quiet (.refl state)
    · split
      · exact .quiet (.refl state)
      · split
        · exact .quiet (.refl state)
        · exact .quiet { Quiet.refl state with }
  | trustClaim code providerPubkey =>
    simp only [trustClaim]
    split
    · split
      · exact .quiet (.refl state)
      · split
        · exact .quiet (.refl state)
        · split
          · exact .quiet (.refl state)
          · exact .quiet { Quiet.refl state with }
    · exact .quiet (.refl state)
  | demoStart => exact .quiet { Quiet.refl state with }
  | demoStop => exact .quiet { Quiet.refl state with }
  | demoTick choice => exact demoTick_effect env input state event
  | reputationFetched workerId score =>
    cases score with
    | none => exact .quiet (.refl state)
    | some score =>
      exact .quiet (.updateWorker state workerId fun _ => rfl)
  | stakeFetched workerId tier =>
    exact .quiet (.updateWorker state workerId fun _ => rfl)
  | feedbackSettled call outcome =>
    exact .quiet (feedbackSettled_quiet state call outcome)

end Events

theorem step_effect (env : Environment) (state : State) (input : Input) :
    Effect env input (state.issue input.uuid)
      ((machine env).step state input) :=
  handle_effect env input (state.issue input.uuid)

/-! ## Lost workers -/

/-- The outcomes of `handleDisconnect`. -/
inductive Disconnected (state : State) (workerId : String) : State → Prop
  | untracked (absent : state.workers.get? workerId = none) :
      Disconnected state workerId state
  | jobless {worker : TrackedWorker}
      (tracked : state.workers.get? workerId = some worker)
      (jobless : ∀ jobId, worker.activeJobId = some jobId →
        jobId = "" ∨ isDemoJob jobId = true) :
      Disconnected state workerId
        { state with workers := state.workers.delete workerId }
  | failed {worker : TrackedWorker} {jobId : String}
      (holds : Holds state workerId worker jobId)
      (real : isDemoJob jobId = false) :
      Disconnected state workerId
        { state with
          workers := state.workers.delete workerId
          jobs := state.jobs.modify jobId disconnectedRow }

theorem handleDisconnect_cases (workerId : String) (state : State) :
    Disconnected state workerId (handleDisconnect workerId state) := by
  unfold handleDisconnect
  cases tracked : state.workers.get? workerId with
  | none => exact .untracked tracked
  | some worker =>
    dsimp only
    cases active : worker.activeJobId with
    | none => exact .jobless tracked (by simp [active])
    | some jobId =>
      by_cases empty : jobId = ""
      · rw [empty] at active ⊢
        apply Disconnected.jobless tracked
        intro other same
        rw [active, Option.some.injEq] at same
        exact .inl same.symm
      · simp only [Option.filter_some, ne_eq, empty, not_false_eq_true,
          decide_true, if_true]
        cases demo : isDemoJob jobId with
        | true =>
          apply Disconnected.jobless tracked
          intro other same
          rw [active, Option.some.injEq] at same
          exact .inr (same ▸ demo)
        | false => exact .failed ⟨tracked, active⟩ demo

theorem handleDisconnect_eq (workerId : String) (state : State) :
    handleDisconnect workerId state =
      { state with
        workers := (handleDisconnect workerId state).workers
        jobs := (handleDisconnect workerId state).jobs } := by
  have outcome := handleDisconnect_cases workerId state
  generalize handleDisconnect workerId state = next at outcome
  cases outcome with
  | untracked => rfl
  | jobless => rfl
  | failed => rfl

theorem handleDisconnect_worker (workerId other : String) (state : State) :
    (handleDisconnect workerId state).workers.get? other =
      if other = workerId then none else state.workers.get? other := by
  have outcome := handleDisconnect_cases workerId state
  generalize handleDisconnect workerId state = next at outcome
  cases outcome with
  | untracked absent =>
    split
    · next same => rw [same, absent]
    · rfl
  | jobless => simp
  | failed => simp

theorem pruneStale_induction (Property : State → Prop) (now : Nat)
    {state : State} (start : Property state)
    (closes : ∀ state ws, Property state → Property (state.closeSocket ws))
    (disconnects : ∀ state workerId, Property state →
      Property (handleDisconnect workerId state)) :
    Property (pruneStale now state) := by
  unfold pruneStale
  generalize state.workers.entries = entries
  induction entries generalizing state with
  | nil => exact start
  | cons entry rest induction =>
    rw [List.foldl_cons]
    split
    · exact induction (disconnects _ _ (closes _ _ start))
    · exact induction start

theorem pruneStale_eq (now : Nat) (state : State) :
    pruneStale now state =
      { state with
        workers := (pruneStale now state).workers
        jobs := (pruneStale now state).jobs
        connections := (pruneStale now state).connections } := by
  apply pruneStale_induction (fun next => next =
    { state with
      workers := next.workers
      jobs := next.jobs
      connections := next.connections }) now rfl
  · intro next ws same
    rw [same]
    rfl
  · intro next workerId same
    rw [handleDisconnect_eq]
    rw [same]

structure Dropped (state next : State) : Prop where
  workers : ∀ workerId worker, next.workers.get? workerId = some worker →
    state.workers.get? workerId = some worker
  rows : ∀ jobId, next.jobs.get? jobId = state.jobs.get? jobId ∨
    ∃ workerId worker row, Holds state workerId worker jobId ∧
      isDemoJob jobId = false ∧ state.jobs.get? jobId = some row ∧
      next.jobs.get? jobId = some (disconnectedRow row) ∧
      next.workers.get? workerId = none

namespace Dropped

theorem untracked {state next : State} (dropped : Dropped state next)
    {workerId : String} (absent : state.workers.get? workerId = none) :
    next.workers.get? workerId = none := by
  rw [Option.eq_none_iff_forall_ne_some]
  intro worker tracked
  have before := dropped.workers workerId worker tracked
  rw [absent] at before
  cases before

theorem refl (state : State) : Dropped state state where
  workers _ _ tracked := tracked
  rows _ := .inl rfl

theorem trans {first second third : State} (left : Dropped first second)
    (right : Dropped second third) : Dropped first third where
  workers workerId worker tracked :=
    left.workers workerId worker (right.workers workerId worker tracked)
  rows jobId := by
    rcases right.rows jobId with same | ⟨workerId, worker, row, holds, real,
      stored, dropped, gone⟩
    · rcases left.rows jobId with before | ⟨workerId, worker, row, holds, real,
        stored, dropped, gone⟩
      · exact .inl (same.trans before)
      · exact .inr ⟨workerId, worker, row, holds, real, stored,
          same.trans dropped, right.untracked gone⟩
    · have heldBefore : Holds first workerId worker jobId :=
        ⟨left.workers workerId worker holds.tracked, holds.active⟩
      rcases left.rows jobId with same | ⟨_, _, earlier, _, _, earlierStored,
        alreadyDropped, _⟩
      · rw [same] at stored
        exact .inr ⟨workerId, worker, row, heldBefore, real, stored, dropped,
          gone⟩
      · rw [alreadyDropped, Option.some.injEq] at stored
        rw [← stored] at dropped
        exact .inr ⟨workerId, worker, earlier, heldBefore, real, earlierStored,
          dropped, gone⟩

end Dropped

theorem handleDisconnect_dropped (workerId : String) (state : State) :
    Dropped state (handleDisconnect workerId state) := by
  have gone : ∀ other worker,
      (state.workers.delete workerId).get? other = some worker →
      state.workers.get? other = some worker := by
    intro other worker tracked
    rw [OrderedMap.get?_delete] at tracked
    split at tracked
    · cases tracked
    · exact tracked
  have outcome := handleDisconnect_cases workerId state
  generalize handleDisconnect workerId state = next at outcome
  cases outcome with
  | untracked => exact .refl state
  | jobless tracked jobless => exact ⟨gone, fun _ => .inl rfl⟩
  | @failed worker failedId holds real =>
    refine ⟨gone, ?_⟩
    intro jobId
    by_cases same : jobId = failedId
    · subst same
      cases stored : state.jobs.get? jobId with
      | none => exact .inl (by simp [stored])
      | some row =>
        exact .inr ⟨workerId, worker, row, holds, real, rfl,
          by simp [stored], by simp⟩
    · exact .inl (by simp [same])

theorem disconnect_dropped (workerId : String)
    (connections : OrderedMap SocketId Connection) (state : State) :
    Dropped state
      (handleDisconnect workerId { state with connections := connections }) := by
  have dropped := handleDisconnect_dropped workerId
    { state with connections := connections }
  refine ⟨dropped.workers, ?_⟩
  intro jobId
  rcases dropped.rows jobId with same | ⟨lost, worker, row, holds, rest⟩
  · exact .inl same
  · exact .inr ⟨lost, worker, row, ⟨holds.tracked, holds.active⟩, rest⟩

theorem pruneStale_dropped (now : Nat) (state : State) :
    Dropped state (pruneStale now state) := by
  apply pruneStale_induction (Dropped state) now (.refl state)
  · intro next ws dropped
    exact ⟨dropped.workers, dropped.rows⟩
  · intro next workerId dropped
    exact dropped.trans (handleDisconnect_dropped workerId next)

/-! ## Stored receipts -/

theorem insertReceipt_ok {state next : State} {id : Uuid} {row : ReceiptRow}
    (inserted : insertReceipt state id row = .ok next) :
    (∃ job, state.jobs.get? row.jobId = some job) ∧
      next = { state with receipts := state.receipts.set id.text row } := by
  unfold insertReceipt at inserted
  cases referenced : state.jobs.get? row.jobId with
  | none => simp [referenced] at inserted
  | some job =>
    cases stored : state.receipts.insert? id.text row with
    | none => simp [referenced, stored] at inserted
    | some receipts =>
      simp only [referenced, stored, Except.ok.injEq] at inserted
      rw [(OrderedMap.insert?_eq_some stored).2] at inserted
      exact ⟨⟨job, rfl⟩, inserted.symm⟩

def receiptRow (env : Environment) (receipt : Receipt)
    (signature pubkey : String) : ReceiptRow where
  jobId := receipt.jobId
  providerPubkey := receipt.providerPubkey
  receiptJson := receipt.stringify
  signature := signature
  verified := verifyReceiptSignature env receipt signature pubkey

def bundle (msg : JobCompleteMsg) : Option (Receipt × String) :=
  msg.receipt.bind fun receipt =>
    (msg.receiptSignature.filter (· ≠ "")).map fun signature =>
      (receipt, signature)

def References (state : State) (msg : JobCompleteMsg) : Prop :=
  ∀ receipt signature, bundle msg = some (receipt, signature) →
    ∃ row, state.jobs.get? receipt.jobId = some row

inductive Bundled (env : Environment) (id : Uuid) (msg : JobCompleteMsg)
    (worker : TrackedWorker) (state : State) :
    OrderedMap String ReceiptRow → Prop
  | nothing (none : bundle msg = none) :
      Bundled env id msg worker state state.receipts
  | receipt {receipt : Receipt} {signature : String}
      (bundled : bundle msg = some (receipt, signature)) :
      Bundled env id msg worker state (state.receipts.set id.text
        (receiptRow env receipt signature worker.pubkey))

theorem storeResult_eq (env : Environment) (now : Nat) (id : Uuid)
    (msg : JobCompleteMsg) (worker : TrackedWorker) (state : State) :
    storeResult env now id msg worker state =
      let state := state.updateJob msg.jobId (completedRow now msg.output)
      match bundle msg with
      | none => .ok state
      | some (receipt, signature) =>
        insertReceipt state id
          (receiptRow env receipt signature worker.pubkey) := by
  unfold storeResult bundle
  cases msg.receipt with
  | none => rfl
  | some receipt =>
    cases msg.receiptSignature.filter (· ≠ "") with
    | none => rfl
    | some signature => rfl

theorem storeResult_ok {env : Environment} {now : Nat} {id : Uuid}
    {msg : JobCompleteMsg} {worker : TrackedWorker} {state stored : State}
    (accepted : storeResult env now id msg worker state = .ok stored) :
    References state msg ∧ ∃ receipts,
      Bundled env id msg worker state receipts ∧
      stored = { state with
        jobs := state.jobs.modify msg.jobId (completedRow now msg.output)
        receipts := receipts } := by
  rw [storeResult_eq] at accepted
  cases bundled : bundle msg with
  | none =>
    simp only [bundled, Except.ok.injEq] at accepted
    refine ⟨?_, state.receipts, .nothing bundled, accepted.symm⟩
    intro receipt signature same
    rw [bundled] at same
    cases same
  | some entry =>
    rcases entry with ⟨receipt, signature⟩
    simp only [bundled] at accepted
    rcases insertReceipt_ok accepted with ⟨⟨job, referenced⟩, outcome⟩
    refine ⟨?_, _, .receipt bundled, outcome⟩
    intro other otherSignature same
    rw [bundled, Option.some.injEq, Prod.mk.injEq] at same
    rw [State.updateJob, OrderedMap.get?_modify] at referenced
    rw [← same.1]
    split at referenced
    · rcases Option.map_eq_some_iff.mp referenced with ⟨row, found, _⟩
      exact ⟨row, found⟩
    · exact ⟨job, referenced⟩

theorem storeResult_accepts (env : Environment) (now : Nat) {id : Uuid}
    {msg : JobCompleteMsg} (worker : TrackedWorker) {state : State}
    (fresh : state.receipts.get? id.text = none)
    (references : References state msg) :
    ∃ stored, storeResult env now id msg worker state = .ok stored := by
  rw [storeResult_eq]
  cases bundled : bundle msg with
  | none => exact ⟨_, rfl⟩
  | some entry =>
    rcases entry with ⟨receipt, signature⟩
    rcases references receipt signature bundled with ⟨row, referenced⟩
    have inserted := OrderedMap.insert?_of_fresh state.receipts
      (receiptRow env receipt signature worker.pubkey) fresh
    have present : ∃ job, (state.jobs.modify msg.jobId
        (completedRow now msg.output)).get? receipt.jobId = some job := by
      rw [OrderedMap.get?_modify, referenced]
      split
      · exact ⟨_, rfl⟩
      · exact ⟨row, rfl⟩
    rcases present with ⟨job, present⟩
    simp only [insertReceipt, State.updateJob, receiptRow, present]
    simp only [receiptRow] at inserted
    simp only [inserted]
    exact ⟨_, rfl⟩

/-! ## Identifiers -/

theorem effect_issued {env : Environment} {input : Input} {state next : State}
    (effect : Effect env input state next) : next.issued = state.issued := by
  cases effect with
  | quiet quiet => exact quiet.issued
  | register event quiet => exact quiet.issued
  | receipt event stored => rw [(insertReceipt_ok stored).2]
  | complete event holds real accepted =>
    rcases storeResult_ok accepted with ⟨_, receipts, _, storedState⟩
    simp [resetWorker, storedState]
  | completeDemo => simp [resetWorker]
  | reject => rfl
  | rejectDemo => rfl
  | disconnect => rw [handleDisconnect_eq]
  | prune => rw [pruneStale_eq]
  | commitAssigned =>
    rw [jobAssigned_eq]
    rfl
  | commitRefused => rfl
  | commitWaiting => rfl
  | retryCleared => rfl
  | retryAssigned =>
    rw [jobAssigned_eq]
    rfl
  | retryFailed => rfl
  | retryCounted => rfl
  | demo => simp [demoAssigned]

theorem step_issued (env : Environment) (state : State) (input : Input) :
    ((machine env).step state input).issued = input.uuid :: state.issued :=
  effect_issued (step_effect env state input)

end Dispatch.Coordinator
