import Dispatch.Coordinator.Connections
import Dispatch.Coordinator.Heartbeats
import Dispatch.Coordinator.Matching
import Dispatch.Foundation.MapIteration

/-! # Pruning

`pruneStale` deletes from the map that it iterates over, and closes sockets
whose close listeners run later for workers that are no longer there.
-/

namespace Dispatch.Coordinator

open WorkerHub

/-! ## The loop over the live map -/

theorem handleDisconnect_workers (workerId : String) (state : State) :
    (handleDisconnect workerId state).workers =
      state.workers.delete workerId := by
  have outcome := handleDisconnect_cases workerId state
  generalize handleDisconnect workerId state = next at outcome
  cases outcome with
  | untracked absent =>
    exact (OrderedMap.ext_entries
      (OrderedMap.delete_entries_of_fresh absent)).symm
  | jobless => rfl
  | failed => rfl

structure LiveHub where
  hub : State
  workers : MapData String TrackedWorker
  same : workers.toMap = hub.workers

namespace LiveHub

def handleDisconnect (workerId : String) (live : LiveHub) : LiveHub where
  hub := WorkerHub.handleDisconnect workerId live.hub
  workers := live.workers.delete workerId
  same := by
    rw [MapData.toMap_delete, live.same, handleDisconnect_workers]

def closeSocket (ws : SocketId) (live : LiveHub) : LiveHub where
  hub := live.hub.closeSocket ws
  workers := live.workers
  same := live.same

def pruneEntry (now : Nat) (entry : String × TrackedWorker) (live : LiveHub) :
    LiveHub :=
  if isStale now entry.2 then
    (live.closeSocket entry.2.ws).handleDisconnect entry.1
  else
    live

def pruneStale (now : Nat) (live : LiveHub) : LiveHub :=
  MapData.forOf LiveHub.workers (pruneEntry now) live.workers.slots.length 0
    live

theorem hub_foldl_pruneEntry (now : Nat)
    (entries : List (String × TrackedWorker)) (live : LiveHub) :
    (entries.foldl (fun live entry => pruneEntry now entry live) live).hub =
      entries.foldl (fun current entry =>
        if isStale now entry.2 then
          WorkerHub.handleDisconnect entry.1 (current.closeSocket entry.2.ws)
        else
          current) live.hub := by
  induction entries generalizing live with
  | nil => rfl
  | cons entry rest induction =>
    rw [List.foldl_cons, List.foldl_cons, induction]
    unfold pruneEntry
    split <;> rfl

theorem hub_pruneStale (now : Nat) (live : LiveHub) :
    (live.pruneStale now).hub = WorkerHub.pruneStale now live.hub := by
  have visits : live.pruneStale now =
      (live.workers.slots.filterMap id).foldl
        (fun live entry => pruneEntry now entry live) live := by
    refine MapData.forOf_eq_foldl ?_ _ (List.drop_zero) le_rfl
    intro entry live
    unfold pruneEntry
    split
    · exact .inr rfl
    · exact .inl rfl
  rw [visits, hub_foldl_pruneEntry, WorkerHub.pruneStale, ← live.same]
  rfl

end LiveHub

/-! ## What is removed -/

def LostJob (now : Nat) (entries : List (String × TrackedWorker))
    (jobId : String) : Prop :=
  isDemoJob jobId = false ∧ ∃ entry ∈ entries,
    isStale now entry.2 = true ∧ entry.2.activeJobId = some jobId

instance (now : Nat) (entries : List (String × TrackedWorker))
    (jobId : String) : Decidable (LostJob now entries jobId) :=
  inferInstanceAs (Decidable (_ ∧ ∃ _ ∈ _, _))

structure Pruned (now : Nat) (before after : State) : Prop where
  workers : ∀ workerId, after.workers.get? workerId =
    (before.workers.get? workerId).filter fun worker => !isStale now worker
  rows : ∀ jobId, after.jobs.get? jobId =
    if LostJob now before.workers.entries jobId then
      (before.jobs.get? jobId).map disconnectedRow
    else
      before.jobs.get? jobId
  others : after =
    { before with
      workers := after.workers
      jobs := after.jobs
      connections := after.connections }

section Removal

variable {state : State}

theorem handleDisconnect_row {workerId : String} {worker : TrackedWorker}
    (tracked : state.workers.get? workerId = some worker)
    (nonempty : worker.activeJobId ≠ some "") (jobId : String) :
    (handleDisconnect workerId state).jobs.get? jobId =
      if isDemoJob jobId = false ∧ worker.activeJobId = some jobId then
        (state.jobs.get? jobId).map disconnectedRow
      else
        state.jobs.get? jobId := by
  have outcome := handleDisconnect_cases workerId state
  generalize handleDisconnect workerId state = next at outcome
  cases outcome with
  | untracked absent =>
    rw [tracked] at absent
    cases absent
  | @jobless found same jobless =>
    cases tracked.symm.trans same
    rw [if_neg]
    rintro ⟨real, active⟩
    rcases jobless jobId active with rfl | demo
    · exact nonempty active
    · rw [real] at demo
      cases demo
  | @failed found failedId holds real =>
    cases tracked.symm.trans holds.tracked
    rw [OrderedMap.get?_modify, holds.active]
    by_cases same : jobId = failedId
    · subst same
      rw [if_pos rfl, if_pos ⟨real, rfl⟩]
    · rw [if_neg same, if_neg fun lost => same (Option.some.inj lost.2).symm]

theorem lostJob_cons {now : Nat} {entry : String × TrackedWorker}
    (stale : isStale now entry.2 = true)
    (rest : List (String × TrackedWorker)) (jobId : String) :
    LostJob now (entry :: rest) jobId ↔
      (isDemoJob jobId = false ∧ entry.2.activeJobId = some jobId) ∨
        LostJob now rest jobId := by
  simp only [LostJob, List.exists_mem_cons_iff, stale, true_and, and_or_left]

theorem pruneStale_loop_row (now : Nat)
    (entries : List (String × TrackedWorker))
    (distinct : (entries.map Prod.fst).Nodup) {state : State}
    (present : ∀ entry ∈ entries,
      state.workers.get? entry.1 = some entry.2)
    (nonempty : ∀ entry ∈ entries, entry.2.activeJobId ≠ some "")
    (jobId : String) :
    (entries.foldl (fun current entry =>
      if isStale now entry.2 then
        handleDisconnect entry.1 (current.closeSocket entry.2.ws)
      else
        current) state).jobs.get? jobId =
      if LostJob now entries jobId then
        (state.jobs.get? jobId).map disconnectedRow
      else
        state.jobs.get? jobId := by
  induction entries generalizing state with
  | nil => exact (if_neg (by simp [LostJob])).symm
  | cons entry rest induction =>
    rcases List.nodup_cons.mp distinct with ⟨absent, others⟩
    have tracked := present entry List.mem_cons_self
    have filled := nonempty entry List.mem_cons_self
    have later : ∀ other ∈ rest, other.2.activeJobId ≠ some "" :=
      fun other member => nonempty other (List.mem_cons_of_mem _ member)
    rw [List.foldl_cons]
    by_cases stale : isStale now entry.2 = true
    · rw [if_pos stale, induction others _ later]
      · have row : (handleDisconnect entry.1
            (state.closeSocket entry.2.ws)).jobs.get? jobId = if _ then
              (state.jobs.get? jobId).map disconnectedRow
            else state.jobs.get? jobId :=
          handleDisconnect_row (by exact tracked) filled jobId
        rw [row]
        -- A row that two workers lose is written twice, with the same.
        by_cases own : isDemoJob jobId = false ∧
            entry.2.activeJobId = some jobId
        · rw [if_pos own, if_pos ((lostJob_cons stale rest jobId).mpr
            (.inl own)), Option.map_map]
          exact ite_self _
        · have same : LostJob now (entry :: rest) jobId ↔
              LostJob now rest jobId := by
            rw [lostJob_cons stale, or_iff_right own]
          simp only [if_neg own, same]
      · intro other member
        rw [handleDisconnect_worker, if_neg]
        · exact present other (List.mem_cons_of_mem _ member)
        · exact fun same => absent (same ▸ List.mem_map_of_mem member)
    · rw [if_neg stale, induction others
        (fun other member => present other (List.mem_cons_of_mem _ member))
        later]
      have same : LostJob now (entry :: rest) jobId ↔
          LostJob now rest jobId := by
        simp [LostJob, stale]
      simp only [same]

theorem active_ne_empty_of_reachable {env : Environment}
    (reachable : (machine env).Reachable state) :
    ∀ entry ∈ state.workers.entries, entry.2.activeJobId ≠ some "" := by
  rcases (board_simulation env).reachable reachable with ⟨board, represents⟩
  intro entry member active
  have tracked := (OrderedMap.get?_eq_some_iff ..).mpr member
  exact represents.active_ne_empty
    (represents.stage_of_holds ⟨tracked, active⟩).1 rfl

theorem pruneStale_pruned (now : Nat)
    (nonempty : ∀ entry ∈ state.workers.entries,
      entry.2.activeJobId ≠ some "") :
    Pruned now state (pruneStale now state) where
  workers workerId := by
    cases tracked : state.workers.get? workerId with
    | none =>
      rw [pruneStale, pruneStale_loop, tracked]
      exact ite_self none
    | some worker =>
      rw [pruneStale_worker tracked, Option.filter_some]
      cases isStale now worker <;> rfl
  rows jobId := by
    have present : ∀ entry ∈ state.workers.entries,
        state.workers.get? entry.1 = some entry.2 :=
      fun entry member => (OrderedMap.get?_eq_some_iff ..).mpr member
    exact pruneStale_loop_row now _ state.workers.nodup present nonempty jobId
  others := pruneStale_eq now state

end Removal

/-! ## The worker that a connection remembers -/

def remembered (state : State) (ws : SocketId) : Option String :=
  (state.connections.get? ws).bind Connection.workerId

def Event.registers? : Event → Option SocketId
  | .frame ws (.register _) => some ws
  | _ => none

theorem registers?_of_plain {event : Event} (plain : event.IsPlain) :
    event.registers? = none := by
  cases event with
  | frame ws frame =>
    cases frame with
    | register msg => exact plain.elim
    | _ => rfl
  | _ => rfl

def registrations (inputs : List Input) : List SocketId :=
  inputs.filterMap fun input => input.event.registers?

def RegistersOnce (inputs : List Input) : Prop :=
  (registrations inputs).Nodup

section Remembered

variable {env : Environment} {state : State} {input : Input} {ws : SocketId}

theorem remembered_closeSocket (other : SocketId) :
    remembered (state.closeSocket other) ws = remembered state ws := by
  simp only [remembered, State.closeSocket, OrderedMap.get?_modify]
  split
  · cases state.connections.get? ws with
    | none => rfl
    | some connection =>
      rw [Option.map_some, Option.bind_some, Option.bind_some]
      split <;> rfl
  · rfl

theorem remembered_handleDisconnect (workerId : String) :
    remembered (handleDisconnect workerId state) ws = remembered state ws := by
  rw [handleDisconnect_eq]
  rfl

theorem remembered_handleClose (other : SocketId) :
    remembered (handleClose other state) ws = remembered state ws := by
  have closed : remembered { state with
      connections := state.connections.modify other fun connection =>
        { connection with readyState := .closed } } ws =
      remembered state ws := by
    simp only [remembered, OrderedMap.get?_modify]
    split
    · cases state.connections.get? ws <;> rfl
    · rfl
  unfold handleClose
  cases (state.connections.get? other).bind Connection.workerId with
  | none => exact closed
  | some workerId =>
    exact (remembered_handleDisconnect workerId).trans closed

theorem remembered_pruneStale (now : Nat) :
    remembered (pruneStale now state) ws = remembered state ws := by
  apply pruneStale_induction
    (fun next => remembered next ws = remembered state ws) now rfl
  · exact fun _ other same => (remembered_closeSocket other).trans same
  · exact fun _ workerId same =>
      (remembered_handleDisconnect workerId).trans same

theorem remembered_connect {other : SocketId}
    (unknown : state.readyState other = none) :
    remembered { state with
      connections := state.connections.set other
        { readyState := .open, workerId := none } } ws =
      remembered state ws := by
  by_cases same : ws = other
  · subst same
    have absent : state.connections.get? ws = none := by
      simpa [State.readyState] using unknown
    simp [remembered, absent]
  · simp [remembered, same]

theorem remembered_register {other : SocketId}
    (known : state.readyState other ≠ none) (now : Nat) (id : Uuid)
    (msg : RegisterMsg) :
    remembered (settle state
        (handleMessage env now id other (.register msg) state)) ws =
      if other = ws then some id.text else remembered state ws := by
  rcases Option.ne_none_iff_exists'.mp known with ⟨_, ready⟩
  rcases Option.map_eq_some_iff.mp ready with ⟨connection, found, _⟩
  simp only [handleMessage, settle, remembered, handleRegister]
  rw [State.send_eq]
  simp only [OrderedMap.get?_modify]
  by_cases same : ws = other
  · subst same
    simp [found]
  · simp [same, Ne.symm same]

theorem handle_remembered (offered : state.Offers input.event) :
    remembered (handle env state input) ws =
      if input.event.registers? = some ws then some input.uuid.text
      else remembered state ws := by
  by_cases plain : input.event.IsPlain
  · rw [registers?_of_plain plain, if_neg (by simp), remembered,
      (handle_carries env state plain).connections]
    rfl
  · unfold handle
    cases event : input.event with
    | connect other =>
      rw [event] at offered
      exact remembered_connect offered
    | closing other => exact remembered_closeSocket other
    | close other => exact remembered_handleClose other
    | pruneStale => exact remembered_pruneStale input.now
    | frame other frame =>
      rw [event] at plain offered
      cases frame with
      | register msg =>
        have known : state.readyState other ≠ none := by
          rcases offered with ready | ready <;> rw [ready] <;> nofun
        simp only [Event.registers?, Option.some.injEq]
        exact remembered_register known ..
      | heartbeat msg =>
        simp only [handleMessage, settle, remembered,
          handleHeartbeat_connections]
        rfl
      | _ => exact absurd trivial plain
    | _ =>
      rw [event] at plain
      exact absurd trivial plain

theorem step_remembered (enabled : state.Enabled input) :
    remembered ((machine env).step state input) ws =
      if input.event.registers? = some ws then some input.uuid.text
      else remembered state ws := by
  have offered : (state.issue input.uuid).Offers input.event := by
    have before := enabled.2
    cases event : input.event <;> rw [event] at before <;> exact before
  exact handle_remembered offered

theorem registrations_cons (input : Input) (inputs : List Input) :
    registrations (input :: inputs) =
      input.event.registers?.toList ++ registrations inputs := by
  unfold registrations
  rw [List.filterMap_cons]
  cases input.event.registers? <;> rfl

theorem remembered_run {start final : State} {inputs : List Input}
    (run : (machine env).Run start inputs final)
    (silent : ws ∉ registrations inputs) :
    remembered final ws = remembered start ws := by
  induction run with
  | nil => rfl
  | @cons start final input inputs enabled rest induction =>
    rw [registrations_cons, List.mem_append, not_or] at silent
    rw [induction silent.2, step_remembered enabled, if_neg]
    intro registers
    apply silent.1
    rw [registers]
    exact List.mem_singleton_self ws

structure Linked (past : List SocketId) (state : State) : Prop where
  registered : ∀ ws workerId, remembered state ws = some workerId → ws ∈ past
  own : ∀ workerId worker, state.workers.get? workerId = some worker →
    remembered state worker.ws = some workerId

theorem Linked.step {past : List SocketId} (linked : Linked past state)
    (enabled : state.Enabled input)
    (once : (past ++ input.event.registers?.toList).Nodup) :
    Linked (past ++ input.event.registers?.toList)
      ((machine env).step state input) where
  registered ws workerId known := by
    rw [step_remembered enabled] at known
    split at known
    · next registers =>
        rw [registers]
        exact List.mem_append_right _ (List.mem_singleton_self ws)
    · exact List.mem_append_left _ (linked.registered ws workerId known)
  own workerId worker tracked := by
    rw [step_remembered enabled]
    rcases step_worker tracked with ⟨before, found, same, _⟩ |
      ⟨msg, event, fresh, _⟩
    · -- Its socket has registered, and so does not do it again.
      have known := linked.own workerId before found
      rw [same] at known
      rw [if_neg]
      · exact known
      · intro registers
        rw [registers] at once
        have distinct := (List.nodup_append.mp once).2.2
        exact distinct worker.ws (linked.registered _ _ known) worker.ws
          (List.mem_singleton_self worker.ws) rfl
    · rw [if_pos (by rw [event]; rfl), fresh]

theorem Linked.run {start final : State} {inputs : List Input}
    (run : (machine env).Run start inputs final) {past : List SocketId}
    (linked : Linked past start)
    (once : (past ++ registrations inputs).Nodup) :
    Linked (past ++ registrations inputs) final := by
  induction run generalizing past with
  | nil =>
    rw [registrations, List.filterMap_nil, List.append_nil]
    exact linked
  | @cons start final input inputs enabled rest induction =>
    rw [registrations_cons, ← List.append_assoc] at once ⊢
    exact induction (linked.step enabled (List.nodup_append.mp once).1) once

theorem untracked_run {start final : State} {inputs : List Input}
    (run : (machine env).Run start inputs final)
    (reachable : (machine env).Reachable start) {uuid : Uuid}
    (issued : uuid ∈ start.issued)
    (untracked : start.workers.get? uuid.text = none) :
    final.workers.get? uuid.text = none := by
  have kept := run.invariant
    (fun state => uuid ∈ state.issued ∧ state.workers.get? uuid.text = none)
    reachable ⟨issued, untracked⟩ ?_
  · exact kept.2
  · rintro state input _ ⟨known, absent⟩ enabled
    refine ⟨?_, ?_⟩
    · rw [step_issued]
      exact List.mem_cons_of_mem _ known
    · refine Option.eq_none_iff_forall_ne_some.mpr fun worker tracked => ?_
      rcases step_worker tracked with ⟨before, found, _⟩ | ⟨_, _, fresh, _⟩
      · exact nomatch absent.symm.trans found
      · exact enabled.1 (Uuid.ext fresh ▸ known)

end Remembered

/-! ## Whole runs -/

def closedOnly (ws : SocketId) (state : State) : State :=
  { state with
    connections := state.connections.modify ws fun connection =>
      { connection with readyState := .closed } }

section Closes

variable {env : Environment} {first second : List Input} {state later : State}
  {prune : Input} {ws : SocketId} {workerId : String}

theorem close_of_gone {close : Input} (closes : close.event = .close ws)
    (known : remembered later ws = some workerId)
    (gone : later.workers.get? workerId = none) :
    (machine env).step later close =
      closedOnly ws (later.issue close.uuid) := by
  have remembers : ((later.issue close.uuid).connections.get? ws).bind
      Connection.workerId = some workerId := known
  have absent : (closedOnly ws (later.issue close.uuid)).workers.get?
      workerId = none := gone
  change handle env _ close = _
  rw [handle, closes]
  change handleClose ws (later.issue close.uuid) = _
  rw [handleClose, remembers]
  change handleDisconnect workerId (closedOnly ws _) = _
  rw [handleDisconnect, absent]

theorem remembers_pruned {worker : TrackedWorker}
    (run : (machine env).Run .initial first state)
    (prunes : prune.event = .pruneStale)
    (enabled : (machine env).Enabled state prune)
    (rest : (machine env).Run ((machine env).step state prune) second later)
    (once : RegistersOnce (first ++ second))
    (tracked : state.workers.get? workerId = some worker) :
    remembered later worker.ws = some workerId := by
  rw [RegistersOnce, registrations, List.filterMap_append] at once
  rcases List.nodup_append.mp once with ⟨before, _, distinct⟩
  have nothing : Linked [] State.initial := ⟨nofun, nofun⟩
  have linked := nothing.run run before
  have known := linked.own workerId worker tracked
  have silent : worker.ws ∉ registrations second := fun again =>
    distinct _ (linked.registered _ _ known) _ again rfl
  rw [remembered_run rest silent, step_remembered enabled, prunes]
  exact known

theorem stays_gone {worker : TrackedWorker}
    (reachable : (machine env).Reachable state)
    (enabled : (machine env).Enabled state prune)
    (rest : (machine env).Run ((machine env).step state prune) second later)
    (tracked : state.workers.get? workerId = some worker)
    (gone : ((machine env).step state prune).workers.get? workerId = none) :
    later.workers.get? workerId = none := by
  have listed := (OrderedMap.mem_keys_iff ..).mpr ⟨worker, tracked⟩
  rcases List.mem_map.mp ((keys_issued reachable).subset listed) with
    ⟨uuid, member, rfl⟩
  refine untracked_run rest (reachable.step enabled) ?_ gone
  rw [step_issued]
  exact List.mem_cons_of_mem _ (List.mem_reverse.mp member)

end Closes

/-- In every state that is reached with each socket registering once at most,
pruning removes what is stale and nothing else, whatever slots the map of
workers has; and in every later state a close of a socket whose worker was
pruned changes nothing else. -/
theorem pruneStale_exact (env : Environment) {first second : List Input}
    {state later : State} {prune : Input}
    (run : (machine env).Run .initial first state)
    (prunes : prune.event = .pruneStale)
    (enabled : (machine env).Enabled state prune)
    (rest : (machine env).Run ((machine env).step state prune) second later)
    (once : RegistersOnce (first ++ second)) :
    Pruned prune.now (state.issue prune.uuid)
        ((machine env).step state prune) ∧
      (∀ live : LiveHub, live.hub = state.issue prune.uuid →
        (live.pruneStale prune.now).hub = (machine env).step state prune) ∧
      ∀ close ws workerId worker, close.event = .close ws →
        state.workers.get? workerId = some worker →
        isStale prune.now worker = true → worker.ws = ws →
        (machine env).step later close =
          closedOnly ws (later.issue close.uuid) := by
  have reachable : (machine env).Reachable state := ⟨first, run⟩
  have stepped : (machine env).step state prune =
      pruneStale prune.now (state.issue prune.uuid) := by
    change handle env _ prune = _
    rw [handle, prunes]
  have pruned : Pruned prune.now (state.issue prune.uuid)
      ((machine env).step state prune) := by
    rw [stepped]
    have nonempty := active_ne_empty_of_reachable reachable
    exact pruneStale_pruned prune.now nonempty
  refine ⟨pruned, ?_, ?_⟩
  · intro live same
    rw [LiveHub.hub_pruneStale, same, stepped]
  · intro close ws workerId worker closes tracked stale own
    have gone : ((machine env).step state prune).workers.get? workerId =
        none := by
      have same : (state.issue prune.uuid).workers.get? workerId =
        some worker := tracked
      rw [pruned.workers, same, Option.filter_some, stale]
      rfl
    have known : remembered later ws = some workerId := by
      rw [← own]
      exact remembers_pruned run prunes enabled rest once tracked
    exact close_of_gone closes known
      (stays_gone reachable enabled rest tracked gone)

theorem pruneStale_exact_working :
    let prune : Input :=
      { now := 40000, uuid := Sample.lastUuid, event := .pruneStale }
    let state := (machine Sample.environment).exec .initial Sample.working
    let pruned := (machine Sample.environment).step state prune
    let close := Sample.close 0 Sample.otherUuid
    (machine Sample.environment).Run .initial Sample.working state ∧
      (machine Sample.environment).Enabled state prune ∧
      RegistersOnce (Sample.working ++ []) ∧
      Pruned 40000 (state.issue Sample.lastUuid) pruned ∧
      pruned.workers.get? Sample.workerUuid.text = none ∧
      (pruned.jobs.get? Sample.jobUuid.text).map JobRow.status =
        some .failed ∧
      (machine Sample.environment).step pruned close =
        closedOnly 0 (pruned.issue Sample.otherUuid) := by
  intro prune state pruned close
  have run : (machine Sample.environment).Run .initial Sample.working state :=
    .of_steps (by decide +kernel)
  have enabled : (machine Sample.environment).Enabled state prune := by
    decide +kernel
  have once : RegistersOnce (Sample.working ++ []) := by
    rw [RegistersOnce]
    decide +kernel
  have exactly := pruneStale_exact Sample.environment run rfl enabled
    (.nil _) once
  refine ⟨run, enabled, once, exactly.1, by decide +kernel, by decide +kernel,
    ?_⟩
  exact exactly.2.2 close 0 Sample.workerUuid.text _ rfl rfl
    (by decide +kernel) rfl

end Dispatch.Coordinator
