import Dispatch.Coordinator.Ownership
import Dispatch.Deployment.Network

/-! # Where a job is

Every assignment that the coordinator has sent is in one place.
-/

namespace Dispatch.Deployment

open Coordinator Worker

section Custody

variable {env : Environment} {crypto : Crypto} {Number : Type}
  [JsNumber Number] [NumberToString Number] {language : Worker.Language Number}
  {network : Network env crypto Number}

/-! ## Places -/

def jobsFor (state : State) (ws : SocketId) : List String :=
  (inbox state ws).filterMap fun message =>
    (assignment? message).map JobAssignMsg.jobId

def unread (state : State) (ws : SocketId) (received : Nat) : List String :=
  ((inbox state ws).drop received).filterMap fun message =>
    (assignment? message).map JobAssignMsg.jobId

namespace Process

def arrived (process : Process env crypto Number) : List String :=
  (process.sent.take process.delivered).filterMap (answered? Number)

def underway (process : Process env crypto Number) : List String :=
  (process.sent.drop process.delivered).filterMap (answered? Number)

omit [NumberToString Number] in
theorem answered_eq (process : Process env crypto Number) :
    process.answered = process.arrived ++ process.underway := by
  rw [answered, arrived, underway, ← List.filterMap_append,
    List.take_append_drop]

end Process

theorem jobsFor_eq (state : State) (ws : SocketId) (received : Nat) :
    jobsFor state ws = readJobs state ws received ++
      unread state ws received := by
  rw [jobsFor, readJobs, unread, ← List.filterMap_append,
    List.take_append_drop]

theorem ProcessSound.places {state : State} {ws : SocketId}
    {process : Process env crypto Number}
    (sound : ProcessSound language state ws process) :
    (jobsFor state ws).Perm
      (process.kept ++ unread state ws process.received) := by
  rw [jobsFor_eq _ _ process.received]
  exact sound.custody.append_right _

/-- No assignment gets lost or doubled on its way through a deployment. -/
theorem assignments_in_custody
    (reachable : (networkMachine language).Reachable network) :
    network.coordinator.jobsSent.Nodup ∧
      ∀ ws process, network.processes.get? ws = some process →
        (jobsFor network.coordinator ws).Perm
          (process.running.map (fun entry => entry.1.jobId) ++
            process.answered ++ process.dropped.map JobAssignMsg.jobId ++
            unread network.coordinator ws process.received) := by
  have sound := sound_of_reachable reachable
  refine ⟨sound.tells.once, ?_⟩
  intro ws process running
  exact (sound.processes running).places

theorem assignments_in_custody_sample :
    Sample.completed.coordinator.jobsSent.Nodup ∧
      ∀ ws process, Sample.completed.processes.get? ws = some process →
        (jobsFor Sample.completed.coordinator ws).Perm
          (process.running.map (fun entry => entry.1.jobId) ++
            process.answered ++ process.dropped.map JobAssignMsg.jobId ++
            unread Sample.completed.coordinator ws process.received) :=
  assignments_in_custody Sample.completed_reachable

/-! ## Answers that have arrived -/

theorem Honest.told {Told : JobAssignMsg → Prop}
    {process : Process env crypto Number}
    (honest : Honest language Told process) {wire jobId : String}
    (member : wire ∈ process.sent)
    (answers : answered? Number wire = some jobId) :
    ∃ msg, Told msg ∧ msg.jobId = jobId := by
  cases honest.sent wire member with
  | register =>
    rw [answered?_register] at answers
    cases answers
  | heartbeat =>
    rw [answered?_heartbeat] at answers
    cases answers
  | answer told executes given =>
    rw [given.answered, Option.some.injEq] at answers
    exact ⟨_, told, answers⟩

structure Freed (network : Network env crypto Number) (ws : SocketId)
    (process : Process env crypto Number) : Prop where
  bounded : process.delivered ≤ process.sent.length
  free : ∀ {jobId}, jobId ∈ process.arrived →
    ∀ workerId worker, ¬ Holds network.coordinator workerId worker jobId

theorem Moves.sent {process next : Process env crypto Number}
    {heard : List JobAssignMsg} (moves : Moves language process next heard) :
    ∃ more, next.sent = process.sent ++ more := by
  cases moves with
  | quiet running sent => exact ⟨[], sent.trans (List.append_nil _).symm⟩
  | beat running sent => exact ⟨_, sent⟩
  | drop running sent => exact ⟨[], sent.trans (List.append_nil _).symm⟩
  | wait begun running sent => exact ⟨[], sent.trans (List.append_nil _).symm⟩
  | answer begun answers running sent => exact ⟨_, sent⟩
  | finish waited answers running sent => exact ⟨_, sent⟩

theorem Freed.moves {ws : SocketId} {process next : Process env crypto Number}
    {heard : List JobAssignMsg} (freed : Freed network ws process)
    (delivered : next.delivered = process.delivered)
    (moves : Moves language process next heard) : Freed network ws next := by
  rcases moves.sent with ⟨more, sent⟩
  refine ⟨?_, ?_⟩
  · rw [delivered, sent, List.length_append]
    exact Nat.le_add_right_of_le freed.bounded
  · intro jobId member
    rw [Process.arrived, delivered, sent,
      List.take_append_of_le_length freed.bounded] at member
    exact freed.free member

theorem Freed.served {ws : SocketId} {process : Process env crypto Number}
    (sound : Sound language network) (freed : Freed network ws process)
    (honest : Honest language (network.coordinator.Told ws) process)
    {input : Input} (enabled : (machine env).Enabled network.coordinator input)
    {jobId : String} (member : jobId ∈ process.arrived) :
    ∀ workerId worker, ¬ Holds ((machine env).step network.coordinator input)
      workerId worker jobId := by
  intro workerId worker holds
  rcases List.mem_filterMap.mp member with ⟨wire, listed, answers⟩
  rcases honest.told (List.mem_of_mem_take listed) answers with
    ⟨msg, told, rfl⟩
  rcases sound.tells.holders sound.reachable enabled told holds with
    ⟨before, held⟩
  exact freed.free member workerId before held

theorem answer_frees (sound : Sound language network) {ws : SocketId}
    {process : Process env crypto Number} {input : Input} {frame : Frame}
    (enabled : (machine env).Enabled network.coordinator input)
    (is : input.event = .frame ws frame)
    (arrives : Arrives language (network.coordinator.Told ws) process.config
      frame) {jobId : String}
    (answers : ∃ msg, frame = .jobComplete msg ∧ msg.jobId = jobId) :
    ∀ workerId worker, ¬ Holds ((machine env).step network.coordinator input)
      workerId worker jobId := by
  rcases answers with ⟨answer, rfl, rfl⟩
  intro workerId worker holds
  cases arrives with
  | @answer msg output completedAt text told executes written =>
    rcases sound.tells.holders sound.reachable enabled told holds with
      ⟨before, held⟩
    have references : isDemoJob msg.jobId = true ∨
        References network.coordinator (answerMsg process.config.builder
          completedAt msg.jobId text) := by
      cases demo : isDemoJob msg.jobId with
      | true => exact .inl rfl
      | false =>
        rcases (sound.tells.telling told).row demo with ⟨row, stored, _⟩
        exact .inr (references_answer stored)
    rcases settled_frees sound.reachable enabled held
      (.inr ⟨_, is, rfl, references⟩) with ⟨later, tracked, free⟩
    have same := holds.tracked
    rw [tracked, Option.some.injEq] at same
    have active := holds.active
    rw [← same, free] at active
    cases active

def AllFreed (network : Network env crypto Number) : Prop :=
  ∀ {ws process}, network.processes.get? ws = some process →
    Freed network ws process

theorem AllFreed.step (freed : AllFreed network)
    (sound : Sound language network) {input : NetworkInput env crypto Number}
    (enabled : network.enabled input = true) :
    AllFreed (network.step language input) := by
  intro ws next running
  have honest := (sound.processes_step enabled running).honest
  -- The coordinator may have moved on, but it does not give an answered job
  -- to anybody.
  have later : Freed network ws next →
      Freed (network.step language input) ws next := by
    intro before
    refine ⟨before.bounded, ?_⟩
    intro jobId member
    cases coordinator_step sound enabled with
    | stays same =>
      rw [same]
      exact before.free member
    | handles is allowed given becomes =>
      rw [becomes]
      exact before.served sound honest allowed member
  cases process_step enabled running with
  | opened absent starts =>
    rw [starts] at later ⊢
    apply later
    exact ⟨Nat.zero_le _, fun member => absurd member List.not_mem_nil⟩
  | same running => exact later (freed running)
  | heard running incoming becomes =>
    rw [becomes] at later ⊢
    exact later ((freed running).moves
      (Process.receive_stays ..).1.delivered (Process.receive_moves ..))
  | worked running becomes =>
    rw [becomes] at later ⊢
    exact later ((freed running).moves (Process.step_stays ..).1.delivered
      (Process.step_moves language ..))
  | @delivered process wire is running sent becomes =>
    rcases List.getElem?_eq_some_iff.mp sent with ⟨bound, found⟩
    have before := freed running
    rcases ((sound.processes running).honest.sent wire
      (List.mem_of_getElem? sent)).arrives with ⟨frame, reads, arrives⟩
    have given : network.coordinatorEvent? input.event =
        some (.frame ws frame) := by
      rw [is, Network.coordinatorEvent?, Network.arriving?, running]
      simp [sent, reads]
    have allowed := (given_of_enabled sound enabled given).1
    rw [becomes]
    refine ⟨bound, ?_⟩
    intro jobId member
    rw [step_coordinator_some given]
    rw [Process.arrived, List.take_add_one, sent, List.filterMap_append]
      at member
    rcases List.mem_append.mp member with old | new
    · exact before.served sound (sound.processes running).honest allowed old
    · have answers : answered? Number wire = some jobId := by
        simpa using new
      apply answer_frees sound allowed rfl arrives
      rw [answered?, reads] at answers
      cases arrives with
      | register => cases answers
      | heartbeat => cases answers
      | answer => exact ⟨_, rfl, Option.some.inj answers⟩

theorem allFreed_of_reachable
    (reachable : (networkMachine language).Reachable network) :
    AllFreed network := by
  apply reachable.invariant AllFreed
  · intro ws process running
    cases running
  · intro before input reached freed enabled
    exact freed.step (sound_of_reachable reached) enabled

/-- A worker that was told of the job it holds has not been lost sight of: its
answer has not arrived, and the assignment is still to be received, a model is
being waited for, or the answer is on its way, unless the process has dropped
the job. -/
theorem held_jobs_underway
    (reachable : (networkMachine language).Reachable network) {ws : SocketId}
    {msg : JobAssignMsg} (told : network.coordinator.Told ws msg)
    {workerId : String} {worker : TrackedWorker}
    (holds : Holds network.coordinator workerId worker msg.jobId) :
    ∃ process, network.processes.get? ws = some process ∧
      process.config.pubkeyHex = worker.pubkey ∧
      msg.jobId ∉ process.arrived ∧
      (msg.jobId ∈ unread network.coordinator ws process.received ∨
        msg.jobId ∈ process.running.map (fun entry => entry.1.jobId) ∨
        msg.jobId ∈ process.underway ∨
        msg.jobId ∈ process.dropped.map JobAssignMsg.jobId) := by
  have sound := sound_of_reachable reachable
  rcases sound.owners holds.tracked with ⟨process, running, key⟩
  rw [(sound.tells.telling told).holder holds] at running
  have away : msg.jobId ∉ process.arrived := by
    intro arrived
    exact (allFreed_of_reachable reachable running).free arrived workerId worker
      holds
  refine ⟨process, running, key, away, ?_⟩
  have sent : msg.jobId ∈ jobsFor network.coordinator ws := by
    apply List.mem_filterMap.mpr
    refine ⟨.jobAssign msg, ?_, rfl⟩
    exact List.mem_filterMap.mpr ⟨_, told, if_pos rfl⟩
  have placed := (sound.processes running).places.mem_iff.mp sent
  rw [Process.kept, process.answered_eq] at placed
  simp only [List.mem_append] at placed
  rcases placed with ((isRunning | arrived | underway) | dropped) | isUnread
  · exact .inr (.inl isRunning)
  · exact absurd arrived away
  · exact .inr (.inr (.inl underway))
  · exact .inr (.inr (.inr dropped))
  · exact .inl isUnread

/-! ## Other sockets -/

theorem Given.genuine (sound : Sound language network)
    {event : Coordinator.Event} (given : Given language network event)
    (now : Nat) (uuid : Uuid) :
    ¬ Impersonates network.coordinator ⟨now, uuid, event⟩ := by
  rintro ⟨ws, workerId, worker, jobId, holds, foreign, settles⟩
  cases given with
  | served served =>
    rcases settles with ⟨msg, is, _⟩ | ⟨msg, is, _⟩
    · cases is
      cases served
    · cases is
      cases served
  | connect => rcases settles with ⟨msg, is, _⟩ | ⟨msg, is, _⟩ <;> cases is
  | frame running arrives =>
    rcases settles with ⟨msg, is, _⟩ | ⟨msg, is, same, _⟩
    · cases is
      cases arrives
    · cases is
      cases arrives with
      | answer told executes written =>
        subst same
        exact foreign ((sound.tells.telling told).holder holds).symm

omit [NumberToString Number] in
theorem delivered_of_frame {input : NetworkInput env crypto Number}
    (enabled : network.enabled input = true) {ws : SocketId} {frame : Frame}
    (is : network.coordinatorEvent? input.event = some (.frame ws frame)) :
    input.event = .deliver ws := by
  rw [Network.enabled] at enabled
  cases event : input.event with
  | serve served =>
    rw [event] at is enabled
    cases is
    cases enabled
  | connect opened config =>
    rw [event] at is
    cases is
  | deliver other =>
    rw [event] at is
    rcases Option.map_eq_some_iff.mp is with ⟨_, _, same⟩
    cases same
    rfl
  | receive | work =>
    rw [event] at is
    cases is

omit [NumberToString Number] in
theorem delivery {input : NetworkInput env crypto Number}
    (enabled : network.enabled input = true) {ws : SocketId} {frame : Frame}
    (is : network.coordinatorEvent? input.event = some (.frame ws frame)) :
    input.event = .deliver ws ∧ ∃ process wire,
      network.processes.get? ws = some process ∧
      process.sent[process.delivered]? = some wire ∧
      Frame.ofText? Number wire = some frame := by
  have event := delivered_of_frame enabled is
  refine ⟨event, ?_⟩
  rw [event] at is
  rcases Option.map_eq_some_iff.mp is with ⟨_, arriving, same⟩
  rcases Option.bind_eq_some_iff.mp arriving with ⟨process, running, rest⟩
  rcases Option.bind_eq_some_iff.mp rest with ⟨wire, sent, reads⟩
  cases same
  exact ⟨process, wire, running, sent, reads⟩

theorem delivered_process {input : NetworkInput env crypto Number}
    {ws : SocketId} {process : Process env crypto Number}
    (event : input.event = .deliver ws)
    (running : network.processes.get? ws = some process) :
    (network.step language input).processes.get? ws =
      some { process with delivered := process.delivered + 1 } := by
  rw [step_processes, event, Network.atProcesses, Network.updateProcess,
    OrderedMap.get?_modify, if_pos rfl, running]
  rfl

/-- In a deployment, the job of a worker is settled by its own process or not at
all: whatever else happens leaves it with the worker and its row as it is,
unless the worker is lost and the row fails, and asks for no payment. -/
theorem jobs_settled_by_own_process
    (reachable : (networkMachine language).Reachable network)
    {input : NetworkInput env crypto Number}
    (enabled : (networkMachine language).Enabled network input)
    {workerId jobId : String} {worker : TrackedWorker}
    (holds : Holds network.coordinator workerId worker jobId)
    (elsewhere : input.event ≠ .deliver worker.ws) :
    Untouched network.coordinator (network.step language input).coordinator
      workerId jobId := by
  have sound := sound_of_reachable reachable
  cases coordinator_step sound enabled with
  | stays same =>
    rw [same]
    exact untouched_of_same holds rfl rfl rfl
  | handles is allowed given becomes =>
    rw [becomes]
    apply untouched_of_genuine sound.reachable allowed
      (given.genuine sound _ _) holds
    intro frame same
    exact elsewhere (delivered_of_frame enabled
      (is.trans (congrArg some same)))

end Custody

theorem held_jobs_underway_sample : ∃ worker process,
    Holds Sample.answering.coordinator Coordinator.Sample.workerUuid.text
        worker Sample.assigned.jobId ∧
      Sample.answering.processes.get? 0 = some process ∧
      process.config.pubkeyHex = worker.pubkey ∧
      Sample.assigned.jobId ∉ process.arrived ∧
      (Sample.assigned.jobId ∈
          unread Sample.answering.coordinator 0 process.received ∨
        Sample.assigned.jobId ∈
          process.running.map (fun entry => entry.1.jobId) ∨
        Sample.assigned.jobId ∈ process.underway ∨
        Sample.assigned.jobId ∈
          process.dropped.map JobAssignMsg.jobId) := by
  rcases Sample.answering_holds with ⟨worker, row, holds, _⟩
  have told : { ws := 0, message := .jobAssign Sample.assigned } ∈
      Sample.answering.coordinator.sent := by
    decide +kernel
  rcases held_jobs_underway Sample.answering_reachable told holds with
    ⟨process, places⟩
  exact ⟨worker, process, holds, places⟩

theorem jobs_settled_by_own_process_sample :
    Untouched Sample.answering.coordinator
      (Sample.answering.step Sample.language
        ⟨0, Coordinator.Sample.lastUuid, .serve .pruneStale⟩).coordinator
      Coordinator.Sample.workerUuid.text Coordinator.Sample.jobUuid.text := by
  rcases Sample.answering_holds with ⟨worker, row, holds, _⟩
  have enabled : (networkMachine Sample.language).Enabled Sample.answering
      ⟨0, Coordinator.Sample.lastUuid, .serve .pruneStale⟩ := by
    decide +kernel
  apply jobs_settled_by_own_process Sample.answering_reachable enabled holds
  intro same
  cases same

end Dispatch.Deployment
