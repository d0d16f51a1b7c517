import Dispatch.Coordinator.Effects

/-! # Workers and their sockets

Which events change the socket or the time of the last heartbeat that the hub
keeps for a worker, and which change a connection.
-/

namespace Dispatch.Coordinator

open WorkerHub

/-! ## Events that do neither -/

def Event.IsPlain : Event → Prop
  | .frame _ (.register _) | .frame _ (.heartbeat _) | .connect _ | .closing _
  | .close _ | .pruneStale => False
  | _ => True

structure SameSignal (before after : TrackedWorker) : Prop where
  ws : before.ws = after.ws
  capabilities : before.capabilities = after.capabilities
  lastHeartbeat : before.lastHeartbeat = after.lastHeartbeat

theorem SameSignal.refl (worker : TrackedWorker) : SameSignal worker worker :=
  ⟨rfl, rfl, rfl⟩

structure Carries (state next : State) : Prop where
  workers : ∀ workerId worker, next.workers.get? workerId = some worker →
    ∃ before, state.workers.get? workerId = some before ∧
      SameSignal before worker
  connections : next.connections = state.connections

namespace Carries

variable {state next : State}

theorem of_same (workers : next.workers = state.workers)
    (connections : next.connections = state.connections) :
    Carries state next where
  workers workerId worker tracked := by
    rw [workers] at tracked
    exact ⟨worker, tracked, .refl worker⟩
  connections := connections

theorem trans {first second third : State} (left : Carries first second)
    (right : Carries second third) : Carries first third where
  workers workerId worker tracked := by
    rcases right.workers workerId worker tracked with ⟨middle, found, later⟩
    rcases left.workers workerId middle found with ⟨before, started, early⟩
    exact ⟨before, started, early.ws.trans later.ws,
      early.capabilities.trans later.capabilities,
      early.lastHeartbeat.trans later.lastHeartbeat⟩
  connections := right.connections.trans left.connections

theorem updateWorker (state : State) (workerId : String)
    {change : TrackedWorker → TrackedWorker}
    (same : ∀ worker, SameSignal worker (change worker)) :
    Carries state (state.updateWorker workerId change) where
  workers other worker tracked := by
    rw [State.updateWorker, OrderedMap.get?_modify] at tracked
    split at tracked
    · rcases Option.map_eq_some_iff.mp tracked with ⟨before, found, changed⟩
      rw [← changed]
      exact ⟨before, found, same before⟩
    · exact ⟨worker, tracked, .refl worker⟩
  connections := rfl

end Carries

inductive Writes : State → State → Prop
  | elsewhere {state next : State} (workers : next.workers = state.workers)
      (connections : next.connections = state.connections) : Writes state next
  | updateWorker (state : State) (workerId : String)
      {change : TrackedWorker → TrackedWorker}
      (same : ∀ worker, SameSignal worker (change worker)) :
      Writes state (state.updateWorker workerId change)
  | trans {first second third : State} (left : Writes first second)
      (right : Writes second third) : Writes first third

namespace Writes

theorem refl (state : State) : Writes state state :=
  .elsewhere rfl rfl

theorem send (state : State) (ws : SocketId) (message : CoordinatorToWorker) :
    Writes state (state.send ws message) := by
  rw [State.send_eq]
  exact .elsewhere rfl rfl

theorem jobAssigned (jobId : String) (request : JobRequest) (workerId : String)
    (worker : TrackedWorker) (state : State) :
    Writes state (jobAssigned jobId request workerId worker state) := by
  have busy : Writes state (state.updateWorker workerId fun worker =>
      { worker with status := .busy }) :=
    .updateWorker state workerId fun _ => ⟨rfl, rfl, rfl⟩
  have written (middle : State) :
      Writes middle (middle.updateJob jobId (assignedRow worker)) :=
    .elsewhere rfl rfl
  have assigned (middle : State) :
      Writes middle (middle.updateWorker workerId fun worker =>
        { worker with activeJobId := some jobId }) :=
    .updateWorker middle workerId fun _ => ⟨rfl, rfl, rfl⟩
  exact ((busy.trans (written _)).trans (assigned _)).trans
    (.send _ worker.ws _)

theorem carries {state next : State} (writes : Writes state next) :
    Carries state next := by
  induction writes with
  | elsewhere workers connections => exact .of_same workers connections
  | updateWorker state workerId same => exact .updateWorker state workerId same
  | trans _ _ left right => exact left.trans right

theorem keys {state next : State} (writes : Writes state next) :
    next.workers.keys = state.workers.keys := by
  induction writes with
  | elsewhere workers _ => rw [workers]
  | updateWorker state workerId _ => exact state.workers.keys_modify workerId _
  | trans _ _ left right => exact right.trans left

end Writes

section Events

variable (env : Environment) (now : Nat) (id : Uuid) (state : State)

theorem resetWorker_writes (workerId : String) :
    Writes state (resetWorker state workerId) :=
  .updateWorker state workerId fun _ => ⟨rfl, rfl, rfl⟩

theorem rewarded_writes (worker : TrackedWorker) (jobId : String) :
    Writes state (rewarded env worker jobId state) := by
  apply Writes.elsewhere (rewarded_workers env worker jobId state)
  simp [rewarded, queuePayouts, postFeedback, apply_ite State.connections]

theorem jobComplete_writes (msg : JobCompleteMsg) :
    Writes state (settle state (handleJobComplete env now id msg state)) := by
  unfold handleJobComplete
  cases findByActiveJob state msg.jobId with
  | none => exact .refl state
  | some entry =>
    rcases entry with ⟨workerId, worker⟩
    dsimp only
    split
    · exact (resetWorker_writes state workerId).trans
        (rewarded_writes env _ worker msg.jobId)
    · cases accepted : storeResult env now id msg worker state with
      | error => exact .refl state
      | ok stored =>
        rcases storeResult_ok accepted with ⟨_, receipts, _, outcome⟩
        have kept : Writes state stored := by
          rw [outcome]
          exact .elsewhere rfl rfl
        exact (kept.trans (rewarded_writes env stored worker
          msg.jobId)).trans (resetWorker_writes _ workerId)

theorem jobReject_writes (msg : JobRejectMsg) :
    Writes state (handleJobReject msg state) := by
  unfold handleJobReject
  cases findByActiveJob state msg.jobId with
  | none => exact .refl state
  | some entry =>
    dsimp only
    split
    · exact resetWorker_writes state entry.1
    · have updated : Writes state (state.updateJob msg.jobId rejectedRow) :=
        .elsewhere rfl rfl
      exact updated.trans (resetWorker_writes _ entry.1)

theorem receiptSubmit_writes (msg : ReceiptSubmitMsg) :
    Writes state (settle state (handleReceiptSubmit env id msg state)) := by
  cases stored : handleReceiptSubmit env id msg state with
  | error => exact .refl state
  | ok next =>
    rw [settle, (insertReceipt_ok stored).2]
    exact .elsewhere rfl rfl

theorem commit_writes (tier : Tier) (body : CommitBody) :
    Writes state (settle state
      ((handleCommit now id tier body state).map Prod.fst)) := by
  unfold handleCommit
  cases validateCommit tier body with
  | error reply => exact .refl state
  | ok request =>
    simp only [commitJob]
    cases state.jobs.insert? id.text (request.row now) with
    | none => exact .refl state
    | some jobs =>
      have inserted : Writes state { state with jobs := jobs } :=
        .elsewhere rfl rfl
      dsimp only
      rcases claimWorker_cases now request { state with jobs := jobs } with
        ⟨nobody, _⟩ | ⟨workerId, worker, _, outcome⟩
      · simp only [nobody]
        split <;> exact .elsewhere rfl rfl
      · simp only [outcome]
        exact inserted.trans
          (.jobAssigned id.text request workerId worker _)

theorem retryTick_writes (jobId : String) :
    Writes state (retryTick now jobId state) := by
  unfold retryTick
  cases state.retryLoops.get? jobId with
  | none => exact .refl state
  | some loop =>
    dsimp only
    split
    · exact .elsewhere rfl rfl
    · have ticked : Writes state (counted jobId loop state) :=
        .elsewhere rfl rfl
      rcases claimWorker_cases now loop.request (counted jobId loop state)
        with ⟨nobody, _⟩ | ⟨workerId, worker, _, outcome⟩
      · simp only [counted] at nobody
        simp only [nobody]
        split <;> exact .elsewhere rfl rfl
      · simp only [counted] at outcome
        simp only [outcome]
        have assigned := ticked.trans
          (.jobAssigned jobId loop.request workerId worker _)
        exact assigned.trans (.elsewhere rfl rfl)

theorem injectDemoJob_writes (workerId : String) (msg : JobAssignMsg) :
    Writes state (injectDemoJob workerId msg state).1 := by
  unfold injectDemoJob
  split
  · exact .refl state
  · split
    · exact .refl state
    · have busy : Writes state (state.updateWorker workerId fun worker =>
          { worker with status := .busy, activeJobId := some msg.jobId }) :=
        .updateWorker state workerId fun _ => ⟨rfl, rfl, rfl⟩
      exact busy.trans (.send _ _ _)

theorem demoTick_writes (choice : DemoChoice) :
    Writes state (demoTick id choice state) := by
  unfold demoTick
  split
  · split
    · exact .refl state
    · split
      · exact .refl state
      · split
        · exact .refl state
        · exact injectDemoJob_writes state _ _
  · exact .refl state

theorem feedbackSettled_writes (call : FeedbackCall)
    (outcome : FeedbackOutcome) :
    Writes state (feedbackSettled call outcome state) := by
  have dequeued : Writes state { state with
      feedbackInFlight := state.feedbackInFlight.erase call } :=
    .elsewhere rfl rfl
  cases outcome with
  | posted txHash => exact dequeued.trans (.send _ _ _)
  | nothingPosted => exact dequeued
  | failed error => exact dequeued.trans (.send _ _ _)

end Events

theorem handle_writes (env : Environment) (state : State) {input : Input}
    (plain : input.event.IsPlain) : Writes state (handle env state input) := by
  unfold handle
  cases event : input.event with
  | connect ws => rw [event] at plain; cases plain
  | frame ws frame =>
    rw [event] at plain
    cases frame with
    | notJson => exact .send state ws _
    | unknown type => exact .send state ws _
    | register msg => cases plain
    | heartbeat msg => cases plain
    | jobComplete msg => exact jobComplete_writes env _ _ state msg
    | jobReject msg => exact jobReject_writes state msg
    | receiptSubmit msg => exact receiptSubmit_writes env _ state msg
  | closing ws => rw [event] at plain; cases plain
  | close ws => rw [event] at plain; cases plain
  | pruneStale => rw [event] at plain; cases plain
  | commit tier body => exact commit_writes _ _ state tier body
  | retryTick jobId => exact retryTick_writes _ state jobId
  | trustCreate random userId =>
    simp only [trustCreate]
    split
    · exact .refl state
    · split
      · exact .refl state
      · split
        · exact .refl state
        · exact .elsewhere rfl rfl
  | trustClaim code providerPubkey =>
    simp only [trustClaim]
    split
    · split
      · exact .refl state
      · split
        · exact .refl state
        · split
          · exact .refl state
          · exact .elsewhere rfl rfl
    · exact .refl state
  | demoStart => exact .elsewhere rfl rfl
  | demoStop => exact .elsewhere rfl rfl
  | demoTick choice => exact demoTick_writes _ state choice
  | reputationFetched workerId score =>
    cases score with
    | none => exact .refl state
    | some score =>
      exact .updateWorker state workerId fun _ => ⟨rfl, rfl, rfl⟩
  | stakeFetched workerId tier =>
    exact .updateWorker state workerId fun _ => ⟨rfl, rfl, rfl⟩
  | feedbackSettled call outcome =>
    exact feedbackSettled_writes state call outcome

theorem handle_carries (env : Environment) (state : State) {input : Input}
    (plain : input.event.IsPlain) : Carries state (handle env state input) :=
  (handle_writes env state plain).carries

/-! ## Signals -/

def Event.heartbeat? : Event → Option SocketId
  | .frame ws (.heartbeat _) => some ws
  | _ => none

def Event.signal? : Event → Option SocketId
  | .frame ws (.heartbeat _) | .frame ws (.register _) => some ws
  | _ => none

theorem Event.signal_cases (event : Event) :
    (event.signal? = none ∧ event.heartbeat? = none) ∨
      (∃ ws msg, event = .frame ws (.register msg)) ∨
      ∃ ws msg, event = .frame ws (.heartbeat msg) := by
  cases event with
  | frame ws frame =>
    cases frame with
    | register msg => exact .inr (.inl ⟨ws, msg, rfl⟩)
    | heartbeat msg => exact .inr (.inr ⟨ws, msg, rfl⟩)
    | _ => exact .inl ⟨rfl, rfl⟩
  | _ => exact .inl ⟨rfl, rfl⟩

theorem handleClose_dropped (ws : SocketId) (state : State) :
    Dropped state (handleClose ws state) := by
  unfold handleClose
  cases (state.connections.get? ws).bind Connection.workerId with
  | none => exact { Dropped.refl state with }
  | some workerId => exact disconnect_dropped workerId _ state

theorem handle_signals (env : Environment) (state : State) {input : Input}
    (silent : input.event.signal? = none) {workerId : String}
    {worker : TrackedWorker}
    (tracked : (handle env state input).workers.get? workerId = some worker) :
    ∃ before, state.workers.get? workerId = some before ∧
      SameSignal before worker := by
  by_cases plain : input.event.IsPlain
  · exact (handle_carries env state plain).workers workerId worker tracked
  · have kept : state.workers.get? workerId = some worker := by
      cases event : input.event with
      | connect ws =>
        rw [handle, event] at tracked
        exact tracked
      | closing ws =>
        rw [handle, event] at tracked
        exact tracked
      | close ws =>
        rw [handle, event] at tracked
        exact (handleClose_dropped ws state).workers workerId worker tracked
      | pruneStale =>
        rw [handle, event] at tracked
        exact (pruneStale_dropped input.now state).workers workerId worker
          tracked
      | frame ws frame =>
        rw [event] at silent plain
        cases frame with
        | register msg => cases silent
        | heartbeat msg => cases silent
        | _ => exact absurd trivial plain
      | _ =>
        rw [event] at plain
        exact absurd trivial plain
    exact ⟨worker, kept, .refl worker⟩

section Signals

variable {env : Environment} {state : State} {input : Input}

theorem heartbeat_worker {now : Nat} {msg : HeartbeatMsg} {workerId : String}
    {worker : TrackedWorker}
    (tracked : (handleHeartbeat now msg state).workers.get? workerId =
      some worker) :
    ∃ before, state.workers.get? workerId = some before ∧
      before.ws = worker.ws ∧ before.capabilities = worker.capabilities ∧
      worker.lastHeartbeat =
        if findByPubkey state msg.providerPubkey = some (workerId, before)
        then now else before.lastHeartbeat := by
  unfold handleHeartbeat at tracked
  cases found : findByPubkey state msg.providerPubkey with
  | none =>
    simp only [found] at tracked
    exact ⟨worker, tracked, rfl, rfl, by simp⟩
  | some entry =>
    rcases entry with ⟨credited, old⟩
    simp only [found, State.send_workers, State.updateWorker,
      OrderedMap.get?_modify] at tracked
    split at tracked
    · next same =>
        subst same
        have stored := (OrderedMap.get?_of_find? found).1
        simp only [stored, Option.map_some, Option.some.injEq] at tracked
        subst tracked
        exact ⟨old, stored, rfl, rfl, by simp⟩
    · next other =>
        exact ⟨worker, tracked, rfl, rfl, by simp [Ne.symm other]⟩

theorem register_worker {ws : SocketId} {msg : RegisterMsg}
    (event : input.event = .frame ws (.register msg)) {workerId : String}
    {worker : TrackedWorker}
    (tracked : (handle env state input).workers.get? workerId = some worker) :
    (workerId = input.uuid.text ∧ worker.ws = ws ∧
      worker.capabilities = msg.capabilities ∧
      worker.lastHeartbeat = input.now) ∨
      state.workers.get? workerId = some worker := by
  simp only [handle, event, handleMessage, handleRegister, settle,
    State.send_workers, OrderedMap.get?_set] at tracked
  split at tracked
  · next isNew =>
      cases tracked
      exact .inl ⟨isNew, rfl, rfl, rfl⟩
  · exact .inr tracked

theorem step_worker {workerId : String} {worker : TrackedWorker}
    (tracked : ((machine env).step state input).workers.get? workerId =
      some worker) :
    (∃ before, state.workers.get? workerId = some before ∧
      before.ws = worker.ws ∧ before.capabilities = worker.capabilities) ∨
    ∃ msg, input.event = .frame worker.ws (.register msg) ∧
      input.uuid.text = workerId ∧ msg.capabilities = worker.capabilities := by
  rcases input.event.signal_cases with ⟨silent, _⟩ | ⟨ws, msg, event⟩ |
    ⟨ws, msg, event⟩
  · rcases handle_signals env (state.issue input.uuid) silent tracked with
      ⟨before, found, same⟩
    exact .inl ⟨before, found, same.ws, same.capabilities⟩
  · rcases register_worker event tracked with ⟨isNew, own, declared, _⟩ | found
    · rw [own]
      exact .inr ⟨msg, event, isNew.symm, declared.symm⟩
    · exact .inl ⟨worker, found, rfl, rfl⟩
  · simp only [machine, handle, event] at tracked
    rcases heartbeat_worker tracked with ⟨before, found, sameWs, same, _⟩
    exact .inl ⟨before, found, sameWs, same⟩

end Signals

end Dispatch.Coordinator
