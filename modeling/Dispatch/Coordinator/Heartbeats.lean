import Dispatch.Coordinator.Sockets

/-! # Heartbeats

A heartbeat is credited to the first tracked worker with the public key that it
names, and a worker is pruned when nothing has been credited to it for a while.
-/

namespace Dispatch.Coordinator

open WorkerHub

structure KeptAlive (inputs : List Input) (state : State) : Prop where
  kept : ∀ now workerId worker, state.workers.get? workerId = some worker →
    (∃ input ∈ inputs, input.event.heartbeat? = some worker.ws ∧
      now ≤ input.now + HEARTBEAT_TIMEOUT_MS) →
    (pruneStale now state).workers.get? workerId = some worker
  removed : ∀ now workerId worker, state.workers.get? workerId = some worker →
    (∀ input ∈ inputs, input.event.signal? = some worker.ws →
      input.now + HEARTBEAT_TIMEOUT_MS < now) →
    (pruneStale now state).workers.get? workerId = none

def CreditsOwn (state : State) : Event → Prop
  | .frame ws (.heartbeat msg) =>
    ∀ entry ∈ state.workers.entries,
      entry.2.ws = ws ↔ findByPubkey state msg.providerPubkey = some entry
  | _ => True

instance (state : State) (event : Event) : Decidable (CreditsOwn state event) :=
  match event with
  | .frame _ (.heartbeat _) => inferInstanceAs (Decidable (∀ _ ∈ _, _))
  | .frame _ .notJson | .frame _ (.unknown _) | .frame _ (.register _)
  | .frame _ (.jobComplete _) | .frame _ (.jobReject _)
  | .frame _ (.receiptSubmit _) | .connect _ | .closing _ | .close _
  | .pruneStale | .commit _ _ | .retryTick _ | .trustCreate _ _
  | .trustClaim _ _ | .demoStart | .demoStop | .demoTick _
  | .reputationFetched _ _ | .stakeFetched _ _ | .feedbackSettled _ _ =>
    inferInstanceAs (Decidable True)

/-! ## What pruning removes -/

theorem pruneStale_loop (now : Nat) (entries : List (String × TrackedWorker))
    (state : State) (workerId : String) :
    (entries.foldl (fun current entry =>
      if isStale now entry.2 then
        handleDisconnect entry.1 (current.closeSocket entry.2.ws)
      else
        current) state).workers.get? workerId =
      if ∃ entry ∈ entries, entry.1 = workerId ∧ isStale now entry.2 = true
      then none else state.workers.get? workerId := by
  induction entries generalizing state with
  | nil => simp
  | cons entry rest induction =>
    rw [List.foldl_cons, induction]
    simp only [List.exists_mem_cons_iff]
    by_cases stale : isStale now entry.2 = true
    · by_cases same : entry.1 = workerId
      · simp [stale, same, handleDisconnect_worker]
      · simp only [stale, if_true, handleDisconnect_worker,
          State.closeSocket, same, Ne.symm same, if_false, false_and,
          false_or]
    · simp only [stale, Bool.false_eq_true, if_false, and_false, false_or]

theorem pruneStale_worker {now : Nat} {state : State} {workerId : String}
    {worker : TrackedWorker}
    (tracked : state.workers.get? workerId = some worker) :
    (pruneStale now state).workers.get? workerId =
      if isStale now worker then none else some worker := by
  have listed := (OrderedMap.get?_eq_some_iff ..).mp tracked
  have alone : (∃ entry ∈ state.workers.entries,
      entry.1 = workerId ∧ isStale now entry.2 = true) ↔
      isStale now worker = true := by
    constructor
    · rintro ⟨⟨_, other⟩, member, rfl, stale⟩
      have stored := (OrderedMap.get?_eq_some_iff ..).mpr member
      rw [tracked, Option.some.injEq] at stored
      rw [stored]
      exact stale
    · intro stale
      exact ⟨_, listed, rfl, stale⟩
  rw [pruneStale, pruneStale_loop, tracked]
  simp only [alone]

/-! ## Whole runs -/

structure Timely (inputs : List Input) (worker : TrackedWorker) : Prop where
  signal : ∃ input ∈ inputs, input.event.signal? = some worker.ws ∧
    input.now = worker.lastHeartbeat
  latest : ∀ input ∈ inputs, input.event.heartbeat? = some worker.ws →
    input.now ≤ worker.lastHeartbeat

def Chronological (inputs : List Input) : Prop :=
  inputs.Pairwise fun earlier later => earlier.now ≤ later.now

section Runs

variable {env : Environment} {past : List Input} {state : State}
  {input : Input}

theorem Timely.now {worker : TrackedWorker}
    (chronological : Chronological (past ++ [input]))
    (signals : input.event.signal? = some worker.ws)
    (time : worker.lastHeartbeat = input.now) :
    Timely (past ++ [input]) worker where
  signal := ⟨input, by simp, signals, time.symm⟩
  latest earlier member _ := by
    have before := (List.pairwise_append.mp chronological).2.2
    rw [time]
    rcases List.mem_append.mp member with old | new
    · exact before earlier old input (List.mem_singleton_self input)
    · rw [List.mem_singleton.mp new]

theorem Timely.kept {before worker : TrackedWorker}
    (timely : Timely past before)
    (other : input.event.heartbeat? ≠ some worker.ws)
    (same : SameSignal before worker) : Timely (past ++ [input]) worker where
  signal := by
    rcases timely.signal with ⟨earlier, member, signals, time⟩
    exact ⟨earlier, List.mem_append_left _ member, same.ws ▸ signals,
      time.trans same.lastHeartbeat⟩
  latest earlier member heartbeat := by
    rcases List.mem_append.mp member with old | new
    · rw [← same.lastHeartbeat]
      exact timely.latest earlier old (same.ws ▸ heartbeat)
    · rw [List.mem_singleton.mp new] at heartbeat
      exact absurd heartbeat other

def AllTimely (inputs : List Input) (state : State) : Prop :=
  Chronological inputs → ∀ workerId worker,
    state.workers.get? workerId = some worker → Timely inputs worker

theorem allTimely_step (allTimely : AllTimely past state)
    (credits : CreditsOwn state input.event) :
    AllTimely (past ++ [input]) ((machine env).step state input) := by
  intro chronological workerId worker tracked
  have timely := allTimely (List.pairwise_append.mp chronological).1
  change (handle env (state.issue input.uuid) input).workers.get? workerId =
    some worker at tracked
  rcases input.event.signal_cases with ⟨silent, noHeartbeat⟩ |
    ⟨ws, msg, event⟩ | ⟨ws, msg, event⟩
  · rcases handle_signals env (state.issue input.uuid) silent tracked with
      ⟨before, found, same⟩
    apply (timely workerId before found).kept _ same
    simp [noHeartbeat]
  · rcases register_worker event tracked with ⟨_, own, _, time⟩ | found
    · exact .now chronological (by rw [event, own]; rfl) time
    · apply (timely workerId worker found).kept _ (.refl worker)
      simp [event, Event.heartbeat?]
  · simp only [handle, event] at tracked
    rcases heartbeat_worker tracked with ⟨before, found, sameWs, same, time⟩
    have listed := (OrderedMap.get?_eq_some_iff ..).mp found
    simp only [CreditsOwn, event] at credits
    have credited := credits (workerId, before) listed
    by_cases own : before.ws = ws
    · have isFound : findByPubkey (state.issue input.uuid)
          msg.providerPubkey = some (workerId, before) := credited.mp own
      rw [if_pos isFound] at time
      exact .now chronological (by rw [event, ← sameWs, own]; rfl) time
    · have notFound : findByPubkey (state.issue input.uuid)
          msg.providerPubkey ≠ some (workerId, before) :=
        fun isFound => own (credited.mpr isFound)
      rw [if_neg notFound] at time
      apply (timely workerId before found).kept _ ⟨sameWs, same, time.symm⟩
      rw [event, ← sameWs]
      simpa [Event.heartbeat?] using Ne.symm own

theorem Timely.keptAlive
    (timely : ∀ workerId worker, state.workers.get? workerId = some worker →
      Timely past worker) : KeptAlive past state where
  kept now workerId worker tracked := by
    rintro ⟨input, member, heartbeat, recent⟩
    have latest := (timely workerId worker tracked).latest input member
      heartbeat
    have fresh : isStale now worker = false := by
      simp only [isStale, decide_eq_false_iff_not]
      omega
    simp [pruneStale_worker tracked, fresh]
  removed now workerId worker tracked silent := by
    rcases (timely workerId worker tracked).signal with
      ⟨input, member, signals, time⟩
    have old := silent input member signals
    have stale : isStale now worker = true := by
      simp only [isStale, decide_eq_true_eq]
      omega
    simp [pruneStale_worker tracked, stale]

end Runs

/-- In a run in which heartbeats are credited to the workers of their sockets
and the clock does not run backwards, pruning goes by what the socket of a
worker has delivered. -/
theorem kept_alive_if_credited (env : Environment) {inputs : List Input}
    {state : State} (run : (machine env).Run .initial inputs state)
    (chronological : Chronological inputs)
    (credits : (machine env).Steps
      (fun state input => CreditsOwn state input.event) .initial inputs) :
    KeptAlive inputs state := by
  have allTimely : AllTimely ([] ++ (machine env).observe
      (fun _ input => [input]) .initial inputs) state :=
    run.observes
      (fun _ _ _ _ allTimely _ credits => allTimely_step allTimely credits)
      .start credits fun _ _ _ tracked => nomatch tracked
  rw [List.nil_append, Machine.observe_events] at allTimely
  exact Timely.keptAlive (allTimely chronological)

namespace Sample

def heartbeat (now : Nat) (ws : SocketId) (uuid : Uuid) : Input where
  now := now
  uuid := uuid
  event := .frame ws (.heartbeat { providerPubkey := pubkey })

def reconnected : List Input :=
  [connect 0 otherUuid, register 0 workerUuid pubkey, connect 1 lastUuid,
    register 1 jobUuid pubkey, heartbeat 20000 1 spareUuid]

end Sample

theorem kept_alive_alone :
    let inputs := [Sample.connect 0 Sample.otherUuid,
      Sample.register 0 Sample.workerUuid Sample.pubkey,
      Sample.heartbeat 20000 0 Sample.spareUuid]
    KeptAlive inputs ((machine Sample.environment).exec .initial inputs) :=
  kept_alive_if_credited _ (Machine.Run.of_steps (by decide +kernel))
    (by unfold Chronological; decide) (by decide +kernel)

theorem heartbeat_credited_to_old_socket :
    let state := (machine Sample.environment).exec .initial Sample.reconnected
    (machine Sample.environment).Run .initial Sample.reconnected state ∧
      Chronological Sample.reconnected ∧
      ((state.workers.get? Sample.jobUuid.text).map TrackedWorker.ws =
          some 1 ∧
        (pruneStale 35000 state).workers.get? Sample.jobUuid.text = none) ∧
      ((state.workers.get? Sample.workerUuid.text).map TrackedWorker.ws =
          some 0 ∧
        (pruneStale 35000 state).workers.get? Sample.workerUuid.text ≠ none) ∧
      ¬ KeptAlive Sample.reconnected state := by
  have newSocket : (((machine Sample.environment).exec .initial
      Sample.reconnected).workers.get? Sample.jobUuid.text).map
        TrackedWorker.ws = some 1 := by decide +kernel
  have pruned : (pruneStale 35000 ((machine Sample.environment).exec .initial
      Sample.reconnected)).workers.get? Sample.jobUuid.text = none := by
    decide +kernel
  refine ⟨.of_steps (by decide +kernel), by unfold Chronological; decide,
    ⟨newSocket, pruned⟩, by decide +kernel, ?_⟩
  intro alive
  rcases Option.map_eq_some_iff.mp newSocket with ⟨worker, tracked, ws⟩
  have kept := alive.kept 35000 Sample.jobUuid.text worker tracked
    ⟨Sample.heartbeat 20000 1 Sample.spareUuid, by simp [Sample.reconnected],
      congrArg some ws.symm, by decide⟩
  rw [pruned] at kept
  cases kept

end Dispatch.Coordinator
