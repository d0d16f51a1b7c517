import Dispatch.Coordinator.Privacy
import Dispatch.Coordinator.Sockets
import Dispatch.Foundation.Selection

/-! # Choosing a worker

`claimWorker` sorts the eligible workers by score and takes the first.
-/

namespace Dispatch.Coordinator

open WorkerHub Selection

/-! ## What is claimed -/

def candidates (jobType : JobType) (privacyClass userId : String)
    (state : State) : List (String × TrackedWorker) :=
  state.workers.entries.filter fun entry =>
    isEligible state jobType privacyClass userId entry.2

def best (score : TrackedWorker → ℚ) (jobType : JobType)
    (privacyClass userId : String) (state : State) :
    Option (String × TrackedWorker) :=
  (candidates jobType privacyClass userId state).argmax fun entry =>
    score entry.2

def marked (claimed : Option (String × TrackedWorker)) (state : State) :
    State :=
  match claimed with
  | none => state
  | some (workerId, _) =>
    state.updateWorker workerId fun worker => { worker with status := .busy }

section Claiming

variable (now : Nat) (jobType : JobType) (policy : Tier)
  (privacyClass userId : String) (state : State)

theorem head_marked (sorted : List (String × TrackedWorker)) :
    (match sorted with
      | [] => (none, state)
      | (workerId, worker) :: _ =>
        (some (workerId, worker), state.updateWorker workerId fun worker =>
          { worker with status := .busy })) =
      (sorted.head?, marked sorted.head? state) := by
  cases sorted <;> rfl

end Claiming

structure Eligible (state : State) (jobType : JobType)
    (privacyClass userId : String) (worker : TrackedWorker) : Prop where
  idle : worker.status = .idle
  capable : jobType ∈ worker.capabilities
  trusted : privacyClass = PrivacyClass.PRIVATE →
    Trusts state userId worker.pubkey

theorem isEligible_iff (state : State) (jobType : JobType)
    (privacyClass userId : String) (worker : TrackedWorker) :
    isEligible state jobType privacyClass userId worker = true ↔
      Eligible state jobType privacyClass userId worker := by
  have parts : isEligible state jobType privacyClass userId worker = true ↔
      (worker.status = .idle ∧ jobType ∈ worker.capabilities) ∧
        (privacyClass ≠ PrivacyClass.PRIVATE ∨
          Trusts state userId worker.pubkey) := by
    simp only [isEligible, trusts_iff, Bool.and_eq_true, Bool.or_eq_true,
      decide_eq_true_eq, List.contains_iff_mem]
  rw [parts]
  constructor
  · rintro ⟨⟨idle, capable⟩, open_ | trusted⟩
    · exact ⟨idle, capable, fun isPrivate => absurd isPrivate open_⟩
    · exact ⟨idle, capable, fun _ => trusted⟩
  · intro eligible
    refine ⟨⟨eligible.idle, eligible.capable⟩, ?_⟩
    by_cases isPrivate : privacyClass = PrivacyClass.PRIVATE
    · exact .inr (eligible.trusted isPrivate)
    · exact .inl isPrivate

theorem mem_candidates_iff {state : State} {jobType : JobType}
    {privacyClass userId workerId : String} {worker : TrackedWorker} :
    (workerId, worker) ∈ candidates jobType privacyClass userId state ↔
      state.workers.get? workerId = some worker ∧
        Eligible state jobType privacyClass userId worker := by
  rw [candidates, List.mem_filter, ← OrderedMap.get?_eq_some_iff,
    isEligible_iff]

/-! ## The order of registration -/

theorem handleDisconnect_keys (workerId : String) (state : State) :
    (handleDisconnect workerId state).workers.keys.Sublist
      state.workers.keys := by
  have outcome := handleDisconnect_cases workerId state
  generalize handleDisconnect workerId state = next at outcome
  cases outcome with
  | untracked => exact .refl _
  | jobless => exact state.workers.keys_delete workerId
  | failed => exact state.workers.keys_delete workerId

theorem handleClose_keys (ws : SocketId) (state : State) :
    (handleClose ws state).workers.keys.Sublist state.workers.keys := by
  unfold handleClose
  cases (state.connections.get? ws).bind Connection.workerId with
  | none => exact .refl _
  | some workerId => exact handleDisconnect_keys workerId _

theorem pruneStale_keys (now : Nat) (state : State) :
    (pruneStale now state).workers.keys.Sublist state.workers.keys :=
  pruneStale_induction
    (fun next => next.workers.keys.Sublist state.workers.keys) now (.refl _)
    (fun _ _ kept => kept)
    (fun next workerId kept => (handleDisconnect_keys workerId next).trans kept)

theorem heartbeat_keys (now : Nat) (msg : HeartbeatMsg) (state : State) :
    (handleHeartbeat now msg state).workers.keys = state.workers.keys := by
  unfold handleHeartbeat
  cases findByPubkey state msg.providerPubkey with
  | none => rfl
  | some entry =>
    rw [State.send_workers]
    exact state.workers.keys_modify entry.1 _

theorem handle_keys (env : Environment) (state : State) (input : Input) :
    (handle env state input).workers.keys.Sublist
      (state.workers.keys ++ [input.uuid.text]) := by
  have grown : state.workers.keys.Sublist
      (state.workers.keys ++ [input.uuid.text]) :=
    List.sublist_append_left _ _
  by_cases plain : input.event.IsPlain
  · rw [(handle_writes env state plain).keys]
    exact grown
  · unfold handle
    cases event : input.event with
    | connect ws => exact grown
    | closing ws => exact grown
    | close ws => exact (handleClose_keys ws state).trans grown
    | pruneStale => exact (pruneStale_keys input.now state).trans grown
    | frame ws frame =>
      rw [event] at plain
      cases frame with
      | register msg =>
        simp only [handleMessage, handleRegister, settle,
          State.send_workers]
        exact state.workers.keys_set _ _
      | heartbeat msg =>
        simp only [handleMessage, settle, heartbeat_keys]
        exact grown
      | _ => exact absurd trivial plain
    | _ =>
      rw [event] at plain
      exact absurd trivial plain

theorem keys_issued {env : Environment} {state : State}
    (reachable : (machine env).Reachable state) :
    state.workers.keys.Sublist (state.issued.reverse.map Uuid.text) := by
  apply reachable.invariant
    (fun state => state.workers.keys.Sublist
      (state.issued.reverse.map Uuid.text)) (.refl _)
  intro state input _ ordered _
  rw [step_issued, List.reverse_cons, List.map_append]
  exact (handle_keys env (state.issue input.uuid) input).trans
    (ordered.append (.refl _))

/-! ## The best worker is claimed -/

namespace Sample

def registeredTwice : List Input :=
  [connect 0 otherUuid, register 0 workerUuid pubkey, connect 1 lastUuid,
    register 1 jobUuid otherPubkey]

end Sample

end Dispatch.Coordinator
