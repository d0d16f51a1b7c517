import Dispatch.Coordinator.Lifecycle
import Dispatch.Coordinator.Sockets

/-! # Closed sockets

A connection remembers one worker, the last one that was registered through it,
and the close listener drops that one.
-/

namespace Dispatch.Coordinator

open WorkerHub

/-! ## What a close has to release -/

def Releases (env : Environment) (state : State) (input : Input) : Prop :=
  ∀ ws, input.event = .close ws → ∀ inputs later,
    (machine env).Run ((machine env).step state input) inputs later →
    (∀ workerId worker, later.workers.get? workerId = some worker →
      worker.ws ≠ ws) ∧
    ∀ workerId worker jobId, Holds state workerId worker jobId →
      worker.ws = ws → isDemoJob jobId = false →
      (later.jobs.get? jobId).map JobRow.status = some .failed

def CountsConnected (state : State) : Prop :=
  onlineCount state = (state.workers.values.filter fun worker =>
    state.readyState worker.ws ≠ some .closed).length

def RemembersAll (state : State) (ws : SocketId) : Prop :=
  ∀ entry ∈ state.workers.entries, entry.2.ws = ws →
    (state.connections.get? ws).bind Connection.workerId = some entry.1

def ClosesAll (state : State) : Event → Prop
  | .close ws => RemembersAll state ws
  | _ => True

instance (state : State) (ws : SocketId) : Decidable (RemembersAll state ws) :=
  inferInstanceAs (Decidable (∀ _ ∈ _, _))

instance (state : State) (event : Event) : Decidable (ClosesAll state event) :=
  match event with
  | .close ws => inferInstanceAs (Decidable (RemembersAll state ws))
  | .frame _ _ | .connect _ | .closing _ | .pruneStale | .commit _ _
  | .retryTick _ | .trustCreate _ _ | .trustClaim _ _ | .demoStart | .demoStop
  | .demoTick _ | .reputationFetched _ _ | .stakeFetched _ _
  | .feedbackSettled _ _ => inferInstanceAs (Decidable True)

def Connected (state : State) : Prop :=
  ∀ workerId worker, state.workers.get? workerId = some worker →
    state.readyState worker.ws ≠ some .closed

theorem countsConnected_iff (state : State) :
    CountsConnected state ↔ Connected state := by
  have same : onlineCount state = state.workers.values.length := by
    simp [onlineCount, OrderedMap.values]
  rw [CountsConnected, same, eq_comm, List.length_filter_eq_length_iff]
  constructor
  · intro all workerId worker tracked
    have stored := (OrderedMap.mem_values_iff _ _).mpr ⟨workerId, tracked⟩
    exact of_decide_eq_true (all worker stored)
  · intro connected worker stored
    rcases (OrderedMap.mem_values_iff _ _).mp stored with ⟨workerId, tracked⟩
    exact decide_eq_true (connected workerId worker tracked)

/-! ## Ready states -/

section ReadyStates

variable {env : Environment} {state : State} {input : Input} {ws : SocketId}

theorem closeSocket_closed_iff (other : SocketId) :
    (state.closeSocket other).readyState ws = some .closed ↔
      state.readyState ws = some .closed := by
  simp only [State.readyState, State.closeSocket, OrderedMap.get?_modify]
  split
  · cases state.connections.get? ws with
    | none => rfl
    | some connection =>
      cases open_ : connection.readyState <;> simp [open_]
  · rfl

theorem handleDisconnect_readyState (workerId : String) (state : State) :
    (handleDisconnect workerId state).readyState ws = state.readyState ws := by
  rw [handleDisconnect_eq]
  rfl

theorem pruneStale_closed_iff (now : Nat) :
    (pruneStale now state).readyState ws = some .closed ↔
      state.readyState ws = some .closed := by
  apply pruneStale_induction (fun next => next.readyState ws = some .closed ↔
    state.readyState ws = some .closed) now Iff.rfl
  · intro next other same
    rw [closeSocket_closed_iff, same]
  · intro next workerId same
    rw [handleDisconnect_readyState, same]

theorem handleClose_readyState (other : SocketId) :
    (handleClose other state).readyState ws =
      if ws = other then (state.readyState ws).map fun _ => .closed
      else state.readyState ws := by
  have modified : ∀ next : State, next.connections =
      state.connections.modify other (fun connection =>
        { connection with readyState := .closed }) →
      next.readyState ws =
        if ws = other then (state.readyState ws).map fun _ => .closed
        else state.readyState ws := by
    intro next same
    rw [State.readyState, same, OrderedMap.get?_modify]
    split
    · simp [State.readyState, Function.comp_def]
    · rfl
  unfold handleClose
  cases (state.connections.get? other).bind Connection.workerId with
  | none => exact modified _ rfl
  | some workerId =>
    dsimp only
    rw [handleDisconnect_readyState]
    exact modified _ rfl

theorem Carries.readyState {next : State} (carries : Carries state next) :
    next.readyState ws = state.readyState ws := by
  rw [State.readyState, carries.connections, State.readyState]

theorem handleHeartbeat_connections (now : Nat) (msg : HeartbeatMsg) :
    (handleHeartbeat now msg state).connections = state.connections := by
  unfold handleHeartbeat
  split
  · rfl
  · rw [State.send_eq]
    rfl

theorem register_readyState {other : SocketId} {msg : RegisterMsg}
    (event : input.event = .frame other (.register msg)) :
    (handle env state input).readyState ws = state.readyState ws := by
  simp only [handle, event, handleMessage, handleRegister, settle,
    State.readyState]
  rw [State.send_eq]
  simp only [OrderedMap.get?_modify]
  split
  · simp [Function.comp_def]
  · rfl

theorem closed_iff (offered : state.Offers input.event) :
    (handle env state input).readyState ws = some .closed ↔
      state.readyState ws = some .closed ∨ input.event = .close ws := by
  by_cases plain : input.event.IsPlain
  · have notClose : input.event ≠ .close ws := by
      intro event
      rw [event] at plain
      exact plain
    simp [(handle_carries env state plain).readyState, notClose]
  · unfold handle
    cases event : input.event with
    | connect other =>
      rw [event] at offered
      by_cases same : ws = other
      · subst same
        have unknown : state.readyState ws = none := offered
        rw [unknown]
        simp [State.readyState]
      · simp [State.readyState, same]
    | closing other =>
      simp only [closeSocket_closed_iff, reduceCtorEq, or_false]
    | close other =>
      rw [event] at offered
      by_cases same : ws = other
      · subst same
        rcases offered with isOpen | isClosing
        · simp [handleClose_readyState, isOpen]
        · simp [handleClose_readyState, isClosing]
      · simp [handleClose_readyState, same, Ne.symm same]
    | pruneStale => simp only [pruneStale_closed_iff, reduceCtorEq, or_false]
    | frame other frame =>
      rw [event] at plain
      cases frame with
      | register msg =>
        have kept : (handle env state input).readyState ws =
            state.readyState ws := register_readyState event
        simp only [handle, event] at kept
        simp only [kept, reduceCtorEq, or_false]
      | heartbeat msg =>
        simp only [handleMessage, settle, State.readyState,
          handleHeartbeat_connections, reduceCtorEq, or_false]
      | _ => exact absurd trivial plain
    | _ =>
      rw [event] at plain
      exact absurd trivial plain

theorem step_closed_iff (enabled : state.Enabled input) :
    ((machine env).step state input).readyState ws = some .closed ↔
      state.readyState ws = some .closed ∨ input.event = .close ws := by
  have offered : (state.issue input.uuid).Offers input.event := by
    have before := enabled.2
    cases event : input.event <;> rw [event] at before <;> exact before
  exact closed_iff offered

end ReadyStates

/-! ## Workers on a socket -/

section Workers

variable {env : Environment} {state : State} {input : Input}

def Gone (ws : SocketId) (state : State) : Prop :=
  state.readyState ws = some .closed ∧
    ∀ workerId worker, state.workers.get? workerId = some worker →
      worker.ws ≠ ws

theorem gone_step {ws : SocketId} (gone : Gone ws state)
    (enabled : state.Enabled input) :
    Gone ws ((machine env).step state input) := by
  refine ⟨(step_closed_iff enabled).mpr (.inl gone.1), ?_⟩
  intro workerId worker tracked same
  rcases step_worker tracked with ⟨before, found, sameWs, _⟩ |
    ⟨msg, event, _⟩
  · exact gone.2 workerId before found (sameWs.trans same)
  · have offered := enabled.2
    rw [event, same] at offered
    rcases offered with isOpen | isClosing
    · rw [gone.1] at isOpen
      cases isOpen
    · rw [gone.1] at isClosing
      cases isClosing

theorem close_worker {ws : SocketId} (event : input.event = .close ws)
    (workerId : String) :
    ((machine env).step state input).workers.get? workerId =
      if (state.connections.get? ws).bind Connection.workerId = some workerId
      then none else state.workers.get? workerId := by
  simp only [machine, handle, event, handleClose, State.issue]
  cases remembered : (state.connections.get? ws).bind Connection.workerId with
  | none => simp
  | some known =>
    simp only [handleDisconnect_worker, Option.some.injEq]
    by_cases same : workerId = known
    · simp [same]
    · simp [same, Ne.symm same]

theorem close_gone {ws : SocketId} (enabled : state.Enabled input)
    (event : input.event = .close ws) :
    Gone ws ((machine env).step state input) ↔ RemembersAll state ws := by
  constructor
  · rintro gone ⟨workerId, worker⟩ listed same
    have tracked := (OrderedMap.get?_eq_some_iff ..).mpr listed
    by_contra forgotten
    apply gone.2 workerId worker _ same
    rw [close_worker event, if_neg forgotten, tracked]
  · intro remembers
    refine ⟨(step_closed_iff enabled).mpr (.inr event), ?_⟩
    intro workerId worker tracked same
    rw [close_worker event] at tracked
    split at tracked
    · cases tracked
    · next forgotten =>
        have listed := (OrderedMap.get?_eq_some_iff ..).mp tracked
        exact forgotten (remembers (workerId, worker) listed same)

end Workers

/-! ## Whole runs -/

section Runs

variable {env : Environment} {state : State} {input : Input}

theorem connected_step (connected : Connected state)
    (enabled : state.Enabled input) (closesAll : ClosesAll state input.event) :
    Connected ((machine env).step state input) := by
  intro workerId worker tracked closed
  rcases (step_closed_iff enabled).mp closed with already | event
  · rcases step_worker tracked with ⟨before, found, same, _⟩ |
      ⟨msg, event, _⟩
    · rw [← same] at already
      exact connected workerId before found already
    · have offered := enabled.2
      rw [event] at offered
      have ready : state.readyState worker.ws = some .closed := already
      rcases offered with isOpen | isClosing
      · rw [ready] at isOpen
        cases isOpen
      · rw [ready] at isClosing
        cases isClosing
  · rw [event] at closesAll
    exact ((close_gone enabled event).mpr closesAll).2 workerId worker tracked
      rfl

theorem handleDisconnect_job {workerId jobId : String}
    {worker : TrackedWorker}
    (tracked : state.workers.get? workerId = some worker)
    (active : worker.activeJobId = some jobId) (nonempty : jobId ≠ "")
    (real : isDemoJob jobId = false) {row : JobRow}
    (stored : state.jobs.get? jobId = some row) :
    (handleDisconnect workerId state).jobs.get? jobId =
      some (disconnectedRow row) := by
  have outcome := handleDisconnect_cases workerId state
  generalize handleDisconnect workerId state = next at outcome
  cases outcome with
  | untracked absent =>
    rw [tracked] at absent
    cases absent
  | jobless found jobless =>
    rw [tracked, Option.some.injEq] at found
    rcases jobless jobId (found ▸ active) with empty | demo
    · exact absurd empty nonempty
    · rw [real] at demo
      cases demo
  | @failed other failedId holds =>
    have same := holds.tracked
    rw [tracked, Option.some.injEq] at same
    have sameJob := holds.active
    rw [← same, active, Option.some.injEq] at sameJob
    simp [← sameJob, stored]

theorem close_fails (reachable : (machine env).Reachable state)
    (enabled : state.Enabled input) {ws : SocketId}
    (event : input.event = .close ws) (remembers : RemembersAll state ws)
    {workerId jobId : String} {worker : TrackedWorker}
    (holds : Holds state workerId worker jobId) (own : worker.ws = ws)
    (real : isDemoJob jobId = false) {inputs : List Input} {later : State}
    (run : (machine env).Run ((machine env).step state input) inputs later) :
    (later.jobs.get? jobId).map JobRow.status = some .failed := by
  rcases (board_simulation env).reachable reachable with ⟨board, represents⟩
  rcases represents.row_of_holds holds real with ⟨row, stored, _⟩
  have nonempty :=
    represents.active_ne_empty (represents.stage_of_holds holds).1
  have remembered : (state.connections.get? ws).bind Connection.workerId =
      some workerId :=
    remembers (workerId, worker)
      ((OrderedMap.get?_eq_some_iff ..).mp holds.tracked) own
  have failed : ((machine env).step state input).jobs.get? jobId =
      some (disconnectedRow row) := by
    simp only [machine, handle, event, handleClose, State.issue, remembered]
    apply handleDisconnect_job _ holds.active nonempty real
    · exact stored
    · exact holds.tracked
  have reached := reachable.step enabled
  rw [final_row_fixed reached run failed (.inr rfl)]
  rfl

theorem releases_iff (reachable : (machine env).Reachable state)
    (enabled : state.Enabled input) :
    Releases env state input ↔ ClosesAll state input.event := by
  constructor
  · intro releases
    cases event : input.event with
    | close ws =>
      have gone : Gone ws ((machine env).step state input) :=
        ⟨(step_closed_iff enabled).mpr (.inr event),
          (releases ws event [] _ (.nil _)).1⟩
      exact (close_gone enabled event).mp gone
    | _ => trivial
  · intro closesAll ws event inputs later run
    rw [event] at closesAll
    have gone : Gone ws ((machine env).step state input) :=
      (close_gone enabled event).mpr closesAll
    constructor
    · have still := run.invariant (Gone ws) (reachable.step enabled) gone
        fun _ _ _ gone enabled => gone_step gone enabled
      exact still.2
    · intro workerId worker jobId holds own real
      exact close_fails reachable enabled event closesAll holds own real run

end Runs

/-- In a run every close releases the socket's workers and their jobs, and
`onlineCount` leaves out closed sockets throughout, exactly if every close finds
a connection that remembers all its workers. -/
theorem closes_release_iff (env : Environment) {inputs : List Input}
    {state : State} (run : (machine env).Run .initial inputs state) :
    (machine env).Steps (Releases env) .initial inputs ∧
        (machine env).Along CountsConnected .initial inputs ↔
      (machine env).Steps (fun state input => ClosesAll state input.event)
        .initial inputs := by
  constructor
  · intro both
    apply run.steps _ .start both.1
    intro before input reached enabled releases
    exact (releases_iff reached enabled).mp releases
  · intro closesAll
    constructor
    · apply run.steps _ .start closesAll
      intro before input reached enabled closes
      exact (releases_iff reached enabled).mpr closes
    · apply run.along _ .start _ closesAll
      · intro before input _ counts enabled closes
        have connected := (countsConnected_iff before).mp counts
        exact (countsConnected_iff _).mpr
          (connected_step connected enabled closes)
      · rfl

namespace Sample

def close (ws : SocketId) (uuid : Uuid) : Input :=
  { now := 0, uuid := uuid, event := .close ws }

def working : List Input :=
  [connect 0 spareUuid, register 0 workerUuid pubkey, commit jobUuid none]

end Sample

theorem closes_release_iff_once :
    let inputs := Sample.working ++ [Sample.close 0 Sample.lastUuid]
    (machine Sample.environment).Steps (Releases Sample.environment) .initial
        inputs ∧
      (machine Sample.environment).Along CountsConnected .initial inputs :=
  (closes_release_iff Sample.environment
    (Machine.Run.of_steps (by decide +kernel))).mpr (by decide +kernel)

theorem second_registration_outlives_socket :
    let inputs := Sample.working ++
      [Sample.register 0 Sample.otherUuid Sample.pubkey,
        Sample.close 0 Sample.lastUuid]
    let state := (machine Sample.environment).exec .initial inputs
    (machine Sample.environment).Run .initial inputs state ∧
      (state.workers.get? Sample.workerUuid.text).map TrackedWorker.ws =
        some 0 ∧
      state.readyState 0 = some .closed ∧ onlineCount state = 1 ∧
      (state.jobs.get? Sample.jobUuid.text).map JobRow.status =
        some .assigned ∧
      ¬ (machine Sample.environment).Along CountsConnected .initial inputs ∧
      ¬ (machine Sample.environment).Steps (Releases Sample.environment)
        .initial inputs := by
  refine ⟨.of_steps (by decide +kernel), by decide +kernel, by decide +kernel,
    by decide +kernel, by decide +kernel, ?_, ?_⟩
  · intro counts
    have count : _ = _ := counts.2.2.2.2.2
    revert count
    decide +kernel
  · intro releases
    have free := (releases.2.2.2.2.1 0 rfl [] _ (.nil _)).1
    exact free Sample.workerUuid.text _ rfl rfl

end Dispatch.Coordinator
