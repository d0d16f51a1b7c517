import Dispatch.Deployment.Custody

/-! # One job at a time

A process registers once and is one worker, and the coordinator gives a worker
a job only when it is idle.
-/

namespace Dispatch.Coordinator

theorem step_holds {env : Environment} {state : State} {input : Input}
    (reachable : (machine env).Reachable state)
    (enabled : (machine env).Enabled state input) {workerId jobId : String}
    {worker later : TrackedWorker} (holds : Holds state workerId worker jobId)
    (unsettled : ∀ ws,
      (∀ msg, input.event = .frame ws (.jobReject msg) → msg.jobId ≠ jobId) ∧
      ∀ msg, input.event = .frame ws (.jobComplete msg) → msg.jobId ≠ jobId)
    (tracked : ((machine env).step state input).workers.get? workerId =
      some later) : later.activeJobId = some jobId := by
  refine (step_untouched reachable enabled holds ⟨?_, ?_⟩).active later tracked
  · intro ws
    exact (unsettled ws).1
  · intro ws msg event same
    exact absurd same ((unsettled ws).2 msg event)

end Dispatch.Coordinator

namespace Dispatch.Deployment

open Coordinator Worker

section OneJob

variable {env : Environment} {crypto : Crypto} {Number : Type}
  [JsNumber Number] [NumberToString Number] {language : Worker.Language Number}
  {network : Network env crypto Number}

/-! ## Registering once -/

structure RegistersFirst (process : Process env crypto Number) : Prop where
  begun : process.sent ≠ []
  first : ∀ wire ∈ process.sent.tail, ∀ msg,
    Frame.ofText? Number wire ≠ some (.register msg)

omit [NumberToString Number] in
theorem RegistersFirst.opened (config : Config env crypto) :
    RegistersFirst (.opened config : Process env crypto Number) where
  begun := List.cons_ne_nil _ _
  first := List.forall_mem_nil _

omit [NumberToString Number] in
theorem RegistersFirst.more {process next : Process env crypto Number}
    (first : RegistersFirst process) {more : List String}
    (sent : next.sent = process.sent ++ more)
    (others : ∀ wire ∈ more, ∀ msg,
      Frame.ofText? Number wire ≠ some (.register msg)) :
    RegistersFirst next := by
  constructor
  · rw [sent]
    exact List.append_ne_nil_of_left_ne_nil first.begun more
  · rw [sent, List.tail_append_of_ne_nil first.begun]
    intro wire member
    rcases List.mem_append.mp member with older | newer
    · exact first.first wire older
    · exact others wire newer

theorem RegistersFirst.moves {process next : Process env crypto Number}
    {heard : List JobAssignMsg} (first : RegistersFirst process)
    (moves : Moves language process next heard) : RegistersFirst next := by
  have answer : ∀ {msg : JobAssignMsg} {output : JsValue Number}
      {wire : String}, Answers process.config msg output wire →
      ∀ other ∈ [wire], ∀ registers,
        Frame.ofText? Number other ≠ some (.register registers) := by
    intro msg output wire answers other member registers
    rcases answers.reads with ⟨completedAt, text, _, reads⟩
    rw [List.mem_singleton.mp member, reads]
    intro same
    cases same
  cases moves with
  | quiet running sent | drop running sent | wait begun running sent =>
    exact first.more (sent.trans (List.append_nil _).symm)
      (List.forall_mem_nil _)
  | beat running sent =>
    refine first.more sent ?_
    intro wire member registers
    rw [List.mem_singleton.mp member, heartbeat_reads]
    intro same
    cases same
  | answer begun answers running sent => exact first.more sent (answer answers)
  | finish waited answers running sent =>
    exact first.more sent (answer answers)

section Steps

variable {input : NetworkInput env crypto Number}

variable (language) in
theorem process_kept (freed : AllFreed network)
    (enabled : network.enabled input = true) {ws : SocketId}
    {process : Process env crypto Number}
    (running : network.processes.get? ws = some process) :
    ∃ next, (network.step language input).processes.get? ws = some next ∧
      process.delivered ≤ next.delivered ∧
      ∀ jobId ∈ process.arrived, jobId ∈ next.arrived := by
  rcases process_continues language enabled running with ⟨next, later, _⟩
  refine ⟨next, later, ?_⟩
  have moved : ∀ {heard}, Moves language process next heard →
      next.delivered = process.delivered →
      process.delivered ≤ next.delivered ∧
        ∀ jobId ∈ process.arrived, jobId ∈ next.arrived := by
    intro heard moves delivered
    rcases moves.sent with ⟨more, sent⟩
    refine ⟨delivered.ge, ?_⟩
    intro jobId member
    rw [Process.arrived, delivered, sent,
      List.take_append_of_le_length (freed running).bounded]
    exact member
  cases process_step enabled later with
  | opened absent =>
    rw [running] at absent
    cases absent
  | same found =>
    rw [running, Option.some.injEq] at found
    rw [found]
    exact ⟨Nat.le_refl _, fun _ member => member⟩
  | delivered is found sent becomes =>
    rw [running, Option.some.injEq] at found
    subst found
    rw [becomes]
    refine ⟨Nat.le_succ _, ?_⟩
    intro jobId member
    rw [Process.arrived, List.take_add_one, List.filterMap_append]
    exact List.mem_append_left _ member
  | heard found incoming becomes =>
    rw [running, Option.some.injEq] at found
    subst found
    rw [becomes] at moved ⊢
    exact moved (Process.receive_moves ..)
      (Process.receive_stays ..).1.delivered
  | worked found becomes =>
    rw [running, Option.some.injEq] at found
    subst found
    rw [becomes] at moved ⊢
    exact moved (Process.step_moves language ..)
      (Process.step_stays ..).1.delivered

theorem registersFirst_step
    (first : ∀ {ws process}, network.processes.get? ws = some process →
      RegistersFirst process)
    (enabled : network.enabled input = true) {ws : SocketId}
    {next : Process env crypto Number}
    (running : (network.step language input).processes.get? ws = some next) :
    RegistersFirst next := by
  cases process_step enabled running with
  | opened absent starts =>
    rw [starts]
    exact .opened _
  | same running => exact first running
  | delivered is running sent becomes =>
    rw [becomes]
    exact ⟨(first running).begun, (first running).first⟩
  | heard running incoming becomes =>
    rw [becomes]
    exact (first running).moves (Process.receive_moves ..)
  | worked running becomes =>
    rw [becomes]
    exact (first running).moves (Process.step_moves language ..)

end Steps

structure Enlisted (network : Network env crypto Number) : Prop where
  first : ∀ {ws process}, network.processes.get? ws = some process →
    RegistersFirst process
  registered : ∀ {workerId worker},
    network.coordinator.workers.get? workerId = some worker →
    ∃ process, network.processes.get? worker.ws = some process ∧
      0 < process.delivered
  told : ∀ {ws msg}, network.coordinator.Told ws msg →
    ∃ process, network.processes.get? ws = some process ∧
      0 < process.delivered
  unique : ∀ {left right leftWorker rightWorker},
    network.coordinator.workers.get? left = some leftWorker →
    network.coordinator.workers.get? right = some rightWorker →
    leftWorker.ws = rightWorker.ws → left = right

namespace Enlisted

variable {input : NetworkInput env crypto Number}

variable (language) in
theorem delivered_step (freed : AllFreed network)
    (enabled : network.enabled input = true) {ws : SocketId}
    (before : ∃ process, network.processes.get? ws = some process ∧
      0 < process.delivered) :
    ∃ next, (network.step language input).processes.get? ws = some next ∧
      0 < next.delivered := by
  rcases before with ⟨process, running, delivered⟩
  rcases process_kept language freed enabled running with
    ⟨next, later, grown, _⟩
  exact ⟨next, later, Nat.lt_of_lt_of_le delivered grown⟩

omit [NumberToString Number] in
theorem registering (enlisted : Enlisted network)
    (enabled : network.enabled input = true) {ws : SocketId}
    {msg : RegisterMsg}
    (is : network.coordinatorEvent? input.event =
      some (.frame ws (.register msg))) :
    ∃ process, network.processes.get? ws = some process ∧
      process.delivered = 0 := by
  rcases delivery enabled is with ⟨_, process, wire, running, sent, reads⟩
  refine ⟨process, running, ?_⟩
  rcases enlisted.first running with ⟨begun, first⟩
  cases texts : process.sent with
  | nil => exact absurd texts begun
  | cons head tail =>
    rw [texts] at sent first
    cases count : process.delivered with
    | zero => rfl
    | succ count =>
      rw [count, List.getElem?_cons_succ] at sent
      exact absurd reads (first wire (List.mem_of_getElem? sent) msg)

omit [NumberToString Number] in
theorem unregistered (enlisted : Enlisted network)
    (enabled : network.enabled input = true) {ws : SocketId}
    {msg : RegisterMsg}
    (is : network.coordinatorEvent? input.event =
      some (.frame ws (.register msg))) {workerId : String}
    {worker : TrackedWorker}
    (tracked : network.coordinator.workers.get? workerId = some worker) :
    worker.ws ≠ ws := by
  intro same
  rcases enlisted.registering enabled is with ⟨process, running, none⟩
  rcases enlisted.registered tracked with ⟨other, found, some⟩
  rw [same, running, Option.some.injEq] at found
  rw [← found, none] at some
  exact Nat.lt_irrefl 0 some

theorem step (enlisted : Enlisted network) (freed : AllFreed network)
    (sound : Sound language network)
    (enabled : network.enabled input = true) :
    Enlisted (network.step language input) := by
  have first : ∀ {ws process},
      (network.step language input).processes.get? ws = some process →
      RegistersFirst process :=
    registersFirst_step enlisted.first enabled
  cases coordinator_step sound enabled with
  | stays same =>
    refine ⟨first, ?_, ?_, same ▸ enlisted.unique⟩
    · intro workerId worker tracked
      rw [same] at tracked
      exact delivered_step language freed enabled
        (enlisted.registered tracked)
    · intro ws msg told
      rw [same] at told
      exact delivered_step language freed enabled (enlisted.told told)
  | @handles event is allowed given becomes =>
    refine ⟨first, ?_, ?_, ?_⟩
    · intro workerId worker tracked
      rw [becomes] at tracked
      rcases step_owner tracked with ⟨before, found, sameWs, _⟩ |
        ⟨msg, registers, _, _⟩
      · rw [← sameWs]
        exact delivered_step language freed enabled
          (enlisted.registered found)
      · cases registers
        rcases delivery enabled is with ⟨delivers, _, _, running, _⟩
        exact ⟨_, delivered_process delivers running, Nat.succ_pos _⟩
    · intro ws msg told
      rw [becomes] at told
      rcases sound.tells.told sound.reachable allowed told with
        older | ⟨workerId, worker, new, rfl⟩
      · exact delivered_step language freed enabled (enlisted.told older)
      · exact delivered_step language freed enabled
          (enlisted.registered new.one.tracked)
    · intro left right leftWorker rightWorker leftTracked rightTracked same
      rw [becomes] at leftTracked rightTracked
      rcases step_owner leftTracked with
        ⟨leftBefore, leftFound, leftWs, _⟩ | ⟨_, leftNew, _, leftId⟩
      · rcases step_owner rightTracked with
          ⟨rightBefore, rightFound, rightWs, _⟩ | ⟨_, rightNew, _, _⟩
        · exact enlisted.unique leftFound rightFound
            (leftWs.trans (same.trans rightWs.symm))
        · cases rightNew
          exact absurd (leftWs.trans same)
            (enlisted.unregistered enabled is leftFound)
      · rcases step_owner rightTracked with
          ⟨rightBefore, rightFound, rightWs, _⟩ | ⟨_, _, _, rightId⟩
        · cases leftNew
          exact absurd (rightWs.trans same.symm)
            (enlisted.unregistered enabled is rightFound)
        · exact leftId.trans rightId.symm

end Enlisted

/-! ## Open jobs -/

structure OpenJob (network : Network env crypto Number) (ws : SocketId)
    (jobId : String) : Prop where
  told : ∃ msg, network.coordinator.Told ws msg ∧ msg.jobId = jobId
  waits : ∀ process, network.processes.get? ws = some process →
    jobId ∉ process.arrived

structure Single (network : Network env crypto Number) : Prop where
  held : ∀ {ws jobId}, OpenJob network ws jobId → ∀ {workerId worker},
    network.coordinator.workers.get? workerId = some worker →
    worker.ws = ws → worker.activeJobId = some jobId
  one : ∀ {ws left right}, OpenJob network ws left →
    OpenJob network ws right → left = right

section Open

variable {input : NetworkInput env crypto Number}

theorem OpenJob.before (freed : AllFreed network)
    (enabled : network.enabled input = true) {ws : SocketId} {jobId : String}
    (isOpen : OpenJob (network.step language input) ws jobId)
    (told : ∃ msg, network.coordinator.Told ws msg ∧ msg.jobId = jobId) :
    OpenJob network ws jobId := by
  refine ⟨told, ?_⟩
  intro process running arrived
  rcases process_kept language freed enabled running with
    ⟨next, later, _, kept⟩
  exact isOpen.waits next later (kept jobId arrived)

theorem OpenJob.unsettled (sound : Sound language network)
    (enabled : network.enabled input = true) {event : Coordinator.Event}
    (is : network.coordinatorEvent? input.event = some event) {ws : SocketId}
    {jobId : String} (isOpen : OpenJob (network.step language input) ws jobId)
    {workerId : String} {worker : TrackedWorker}
    (holds : Holds network.coordinator workerId worker jobId)
    (own : worker.ws = ws) (source : SocketId) :
    (∀ msg, event = .frame source (.jobReject msg) → msg.jobId ≠ jobId) ∧
      ∀ msg, event = .frame source (.jobComplete msg) → msg.jobId ≠ jobId := by
  have given := (given_of_enabled sound enabled is).2
  constructor
  · intro msg rejects
    cases given with
    | served served =>
      rw [rejects] at served
      cases served
    | connect => cases rejects
    | frame running arrives =>
      cases rejects
      cases arrives
  · intro msg completes same
    cases completes
    rcases delivery enabled is with
      ⟨delivers, process, wire, running, sent, reads⟩
    rcases ((sound.processes running).honest.sent wire
      (List.mem_of_getElem? sent)).arrives with ⟨frame, sameFrame, arrives⟩
    rw [reads, Option.some.injEq] at sameFrame
    subst sameFrame
    cases arrives with
    | @answer assigned output completedAt text told =>
      have sameJob : assigned.jobId = jobId := same
      have sameWs := (sound.tells.telling told).holder (sameJob ▸ holds)
      rw [own] at sameWs
      subst sameWs
      apply isOpen.waits _ (delivered_process delivers running)
      rw [Process.arrived, List.take_add_one, sent, List.filterMap_append]
      apply List.mem_append_right
      simp [answered?, reads, same]

theorem Single.step (single : Single network) (enlisted : Enlisted network)
    (freed : AllFreed network) (sound : Sound language network)
    (enabled : network.enabled input = true) :
    Single (network.step language input) := by
  cases coordinator_step sound enabled with
  | stays same =>
    have before : ∀ {ws jobId},
        OpenJob (network.step language input) ws jobId →
        OpenJob network ws jobId := by
      intro ws jobId isOpen
      exact isOpen.before freed enabled (same ▸ isOpen.told)
    constructor
    · intro ws jobId isOpen workerId worker tracked own
      rw [same] at tracked
      exact single.held (before isOpen) tracked own
    · intro ws left right leftOpen rightOpen
      exact single.one (before leftOpen) (before rightOpen)
  | @handles event is allowed given becomes =>
    -- A job that is open now was open before, or an idle worker on its
    -- socket has just been given it.
    have source : ∀ {ws jobId},
        OpenJob (network.step language input) ws jobId →
        OpenJob network ws jobId ∨ ∃ workerId worker msg,
          AssignsNew env network.coordinator
            ⟨input.now, input.uuid, event⟩ workerId worker msg ∧
          worker.ws = ws ∧ msg.jobId = jobId := by
      intro ws jobId isOpen
      rcases isOpen.told with ⟨msg, told, same⟩
      rw [becomes] at told
      rcases sound.tells.told sound.reachable allowed told with
        older | ⟨workerId, worker, new, own⟩
      · exact .inl (isOpen.before freed enabled ⟨msg, older, same⟩)
      · exact .inr ⟨workerId, worker, msg, new, own, same⟩
    have exclusive : ∀ {ws jobId workerId worker msg},
        OpenJob network ws jobId →
        AssignsNew env network.coordinator
          ⟨input.now, input.uuid, event⟩ workerId worker msg →
        worker.ws ≠ ws := by
      intro ws jobId workerId worker msg isOpen new own
      have active := single.held isOpen new.one.tracked own
      rcases (board_simulation env).reachable sound.reachable with
        ⟨board, represents⟩
      exact ne_of_idle represents ⟨new.one.tracked, active⟩ new.one.tracked
        new.idle rfl
    constructor
    · intro ws jobId isOpen workerId worker tracked own
      rw [becomes] at tracked
      rcases source isOpen with
        wasOpen | ⟨taker, before, msg, new, sameWs, rfl⟩
      · rcases step_owner tracked with ⟨before, found, sameWs, _⟩ |
          ⟨msg, registers, _, _⟩
        · have holds : Holds network.coordinator workerId before jobId :=
            ⟨found, single.held wasOpen found (sameWs.trans own)⟩
          apply step_holds sound.reachable allowed holds _ tracked
          exact isOpen.unsettled sound enabled is holds (sameWs.trans own)
        · cases registers
          rcases enlisted.registering enabled is with
            ⟨process, running, none⟩
          rcases wasOpen.told with ⟨told, sent, _⟩
          rcases enlisted.told sent with ⟨other, found, some⟩
          rw [← own, running, Option.some.injEq] at found
          rw [← found, none] at some
          exact absurd some (Nat.lt_irrefl 0)
      · have next := enlisted.step freed sound enabled
        have taken := new.one.taken
        have sameId : workerId = taker := by
          apply next.unique
          · rw [becomes]
            exact tracked
          · rw [becomes]
            exact taken
          · exact own.trans sameWs.symm
        rw [sameId, taken, Option.some.injEq] at tracked
        rw [← tracked]
    · intro ws left right leftOpen rightOpen
      rcases source leftOpen with
        wasLeft | ⟨leftId, _, _, leftNew, leftWs, rfl⟩
      · rcases source rightOpen with wasRight | ⟨_, _, _, new, own, _⟩
        · exact single.one wasLeft wasRight
        · exact absurd own (exclusive wasLeft new)
      · rcases source rightOpen with wasRight | ⟨rightId, _, _, new, own, rfl⟩
        · exact absurd leftWs (exclusive wasRight leftNew)
        · have sameId : leftId = rightId := by
            apply enlisted.unique leftNew.one.tracked new.one.tracked
            exact leftWs.trans own.symm
          have taken := leftNew.one.taken
          rw [sameId, new.one.taken, Option.some.injEq] at taken
          have active := congrArg TrackedWorker.activeJobId taken
          exact (Option.some.inj active).symm

theorem single_of_reachable
    (reachable : (networkMachine language).Reachable network) :
    Enlisted network ∧ Single network := by
  apply reachable.invariant fun network => Enlisted network ∧ Single network
  · refine ⟨⟨?_, ?_, ?_, ?_⟩, ⟨?_, ?_⟩⟩
    · intro ws process running
      cases running
    · intro workerId worker tracked
      cases tracked
    · intro ws msg told
      cases told
    · intro left right leftWorker rightWorker tracked
      cases tracked
    · intro ws jobId isOpen workerId worker tracked
      cases tracked
    · intro ws left right isOpen
      rcases isOpen.told with ⟨msg, told, _⟩
      cases told
  · intro before input reached known enabled
    have sound := sound_of_reachable reached
    have freed : AllFreed before := allFreed_of_reachable reached
    exact ⟨known.1.step freed sound enabled,
      known.2.step known.1 freed sound enabled⟩

end Open

theorem jobsFor_nodup {state : State} (tells : TellsOnce state)
    (ws : SocketId) : (jobsFor state ws).Nodup := by
  have own : jobsFor state ws =
      (state.sent.filter fun frame => frame.ws = ws).filterMap fun frame =>
        (assignment? frame.message).map JobAssignMsg.jobId := by
    rw [jobsFor, inbox, List.filterMap_filterMap, List.filterMap_filter]
    apply List.filterMap_congr
    intro frame _
    by_cases same : frame.ws = ws <;> simp [same]
  rw [own]
  exact List.Nodup.sublist (List.filter_sublist.filterMap _) tells.once

namespace Process

def openJobs (state : State) (ws : SocketId)
    (process : Process env crypto Number) : List String :=
  unread state ws process.received ++
    process.running.map (fun entry => entry.1.jobId) ++ process.underway ++
    process.dropped.map JobAssignMsg.jobId

end Process

theorem ProcessSound.opens {state : State} {ws : SocketId}
    {process : Process env crypto Number}
    (sound : ProcessSound language state ws process) :
    (jobsFor state ws).Perm (process.arrived ++ process.openJobs state ws) := by
  have places := sound.places
  rw [List.perm_iff_count] at places ⊢
  intro jobId
  rw [places jobId, Process.kept, process.answered_eq, Process.openJobs]
  simp only [List.count_append]
  omega

section Reachable

variable {ws : SocketId} {process : Process env crypto Number}

theorem openJobs_open (reachable : (networkMachine language).Reachable network)
    (running : network.processes.get? ws = some process) {jobId : String}
    (member : jobId ∈ process.openJobs network.coordinator ws) :
    OpenJob network ws jobId := by
  have sound := sound_of_reachable reachable
  have perm := (sound.processes running).opens
  refine ⟨?_, ?_⟩
  · have sent := perm.mem_iff.mpr (List.mem_append_right _ member)
    rcases List.mem_filterMap.mp sent with ⟨message, received, same⟩
    rcases Option.map_eq_some_iff.mp same with ⟨msg, assigned, rfl⟩
    rw [assignment?_eq_some.mp assigned] at received
    exact ⟨msg, told_of_inbox received, rfl⟩
  · intro other found arrived
    rw [running, Option.some.injEq] at found
    have nodup := perm.nodup_iff.mp (jobsFor_nodup sound.tells ws)
    exact (List.nodup_append.mp nodup).2.2 jobId (found ▸ arrived) jobId member
      rfl

theorem openJobs_length (reachable : (networkMachine language).Reachable network)
    (running : network.processes.get? ws = some process) :
    (process.openJobs network.coordinator ws).length ≤ 1 := by
  have sound := sound_of_reachable reachable
  have nodup := (sound.processes running).opens.nodup_iff.mp
    (jobsFor_nodup sound.tells ws)
  have distinct := (List.nodup_append.mp nodup).2.1
  have isOpen : ∀ jobId ∈ process.openJobs network.coordinator ws,
      OpenJob network ws jobId :=
    fun _ => openJobs_open reachable running
  generalize process.openJobs network.coordinator ws = jobs at isOpen distinct
  cases jobs with
  | nil => exact Nat.zero_le 1
  | cons first rest =>
    cases rest with
    | nil => exact Nat.le_refl 1
    | cons second rest =>
      have same := (single_of_reachable reachable).2.one
        (isOpen first (by simp)) (isOpen second (by simp))
      rw [same] at distinct
      simp at distinct

/-- At any moment a worker process has at most one job that the coordinator
waits for, and the worker that is tracked for it holds that job. -/
theorem one_job_at_a_time
    (reachable : (networkMachine language).Reachable network)
    (running : network.processes.get? ws = some process) :
    (process.openJobs network.coordinator ws).length ≤ 1 ∧
      ∀ jobId ∈ process.openJobs network.coordinator ws,
        ∀ workerId worker,
          network.coordinator.workers.get? workerId = some worker →
          worker.ws = ws → worker.activeJobId = some jobId := by
  refine ⟨openJobs_length reachable running, ?_⟩
  intro jobId member workerId worker tracked own
  exact (single_of_reachable reachable).2.held
    (openJobs_open reachable running member) tracked own

end Reachable

theorem one_job_at_a_time_sample : ∃ process,
    Sample.answering.processes.get? 0 = some process ∧
      (process.openJobs Sample.answering.coordinator 0).length ≤ 1 ∧
      ∀ jobId ∈ process.openJobs Sample.answering.coordinator 0,
        ∀ workerId worker,
          Sample.answering.coordinator.workers.get? workerId = some worker →
          worker.ws = 0 → worker.activeJobId = some jobId := by
  rcases Sample.answering_sent with ⟨process, _, running, _⟩
  exact ⟨process, running,
    one_job_at_a_time Sample.answering_reachable running⟩

end OneJob

end Dispatch.Deployment
