import Dispatch.Deployment.Process

/-! # A coordinator with its workers

A deployment.
-/

namespace Dispatch.Deployment

open Coordinator Worker

structure Network (env : Environment) (crypto : Crypto) (Number : Type) where
  coordinator : State
  processes : OrderedMap SocketId (Process env crypto Number)

inductive NetworkEvent (env : Environment) (crypto : Crypto) (Number : Type)
  | serve (event : Coordinator.Event)
  | connect (ws : SocketId) (config : Config env crypto)
  | deliver (ws : SocketId)
  | receive (ws : SocketId) (misfit : Misfit) (completedAt : String)
  | work (ws : SocketId) (event : WorkerEvent Number)

structure NetworkInput (env : Environment) (crypto : Crypto)
    (Number : Type) where
  now : Nat
  uuid : Uuid
  event : NetworkEvent env crypto Number

def isServed : Coordinator.Event → Bool
  | .connect _ | .frame _ _ => false
  | _ => true

def inbox (state : State) (ws : SocketId) : List CoordinatorToWorker :=
  state.sent.filterMap fun frame =>
    if frame.ws = ws then some frame.message else none

namespace Network

variable {env : Environment} {crypto : Crypto} {Number : Type}
  [JsNumber Number] [NumberToString Number] (language : Worker.Language Number)

def initial : Network env crypto Number where
  coordinator := .initial
  processes := .empty

def arriving? (network : Network env crypto Number) (ws : SocketId) :
    Option Frame := do
  let process ← network.processes.get? ws
  let wire ← process.sent[process.delivered]?
  Frame.ofText? Number wire

def coordinatorEvent? (network : Network env crypto Number) :
    NetworkEvent env crypto Number → Option Coordinator.Event
  | .serve event => some event
  | .connect ws _ => some (.connect ws)
  | .deliver ws => (network.arriving? ws).map (.frame ws)
  | .receive _ _ _ | .work _ _ => none

def incoming? (network : Network env crypto Number) (ws : SocketId) :
    Option CoordinatorToWorker := do
  let process ← network.processes.get? ws
  (inbox network.coordinator ws)[process.received]?

def updateProcess (network : Network env crypto Number) (ws : SocketId)
    (change : Process env crypto Number → Process env crypto Number) :
    Network env crypto Number :=
  { network with processes := network.processes.modify ws change }

def atProcesses (network : Network env crypto Number) :
    NetworkEvent env crypto Number → Network env crypto Number
  | .serve _ => network
  | .connect ws config =>
    { network with processes := network.processes.set ws (.opened config) }
  | .deliver ws =>
    network.updateProcess ws fun process =>
      { process with delivered := process.delivered + 1 }
  | .receive ws misfit completedAt =>
    match network.incoming? ws with
    | some message =>
      network.updateProcess ws
        (·.receive language misfit completedAt message)
    | none => network
  | .work ws event => network.updateProcess ws (·.step event)

def step (network : Network env crypto Number)
    (input : NetworkInput env crypto Number) : Network env crypto Number :=
  let next := network.atProcesses language input.event
  match network.coordinatorEvent? input.event with
  | some event =>
    { next with
      coordinator := (machine env).step network.coordinator
        ⟨input.now, input.uuid, event⟩ }
  | none => next

def coordinatorEnabled (network : Network env crypto Number)
    (input : NetworkInput env crypto Number) : Bool :=
  match network.coordinatorEvent? input.event with
  | some event =>
    decide (network.coordinator.Enabled ⟨input.now, input.uuid, event⟩)
  | none => false

def enabled (network : Network env crypto Number)
    (input : NetworkInput env crypto Number) : Bool :=
  match input.event with
  | .serve event => isServed event && network.coordinatorEnabled input
  | .connect ws _ =>
    (network.processes.get? ws).isNone && network.coordinatorEnabled input
  | .deliver _ => network.coordinatorEnabled input
  | .receive ws _ _ =>
    ((network.processes.get? ws).map Process.live).getD false &&
      (network.incoming? ws).isSome
  | .work ws event =>
    ((network.processes.get? ws).map (Process.enabled event)).getD false

end Network

def networkMachine {env : Environment} {crypto : Crypto} {Number : Type}
    [JsNumber Number] [NumberToString Number]
    (language : Worker.Language Number) :
    Machine (Network env crypto Number) (NetworkInput env crypto Number) where
  initial := .initial
  Enabled network input := network.enabled input = true
  step := Network.step language

instance {env : Environment} {crypto : Crypto} {Number : Type}
    [JsNumber Number] [NumberToString Number]
    (language : Worker.Language Number) (network : Network env crypto Number)
    (input : NetworkInput env crypto Number) :
    Decidable ((networkMachine language).Enabled network input) :=
  inferInstanceAs (Decidable (_ = true))

/-! ## What arrives -/

section Arrivals

variable {env : Environment} {crypto : Crypto} {Number : Type}
  [JsNumber Number] [NumberToString Number] (language : Worker.Language Number)

inductive Arrives (Told : JobAssignMsg → Prop) (config : Config env crypto) :
    Frame → Prop
  | register : Arrives Told config (.register config.registerMsg)
  | heartbeat : Arrives Told config (.heartbeat config.heartbeatMsg)
  | answer {msg : JobAssignMsg} {output : JsValue Number}
      {completedAt text : String} (told : Told msg)
      (executes : Executes language config.program msg output)
      (written : output.stringify = some text) :
      Arrives Told config
        (.jobComplete (answerMsg config.builder completedAt msg.jobId text))

variable {language}

theorem Wire.arrives {Told : JobAssignMsg → Prop} {config : Config env crypto}
    {wire : String} (sent : Wire language Told config wire) :
    ∃ frame, Frame.ofText? Number wire = some frame ∧
      Arrives language Told config frame := by
  cases sent with
  | register => exact ⟨_, register_reads _, .register⟩
  | heartbeat => exact ⟨_, heartbeat_reads _, .heartbeat⟩
  | answer told executes answers =>
    rcases answers.reads with ⟨completedAt, text, written, reads⟩
    exact ⟨_, reads, .answer told executes written⟩

theorem references_answer {state : State} {builder : Builder env crypto}
    {completedAt jobId text : String} {row : JobRow}
    (stored : state.jobs.get? jobId = some row) :
    References state (answerMsg builder completedAt jobId text) := by
  intro receipt signature bundled
  rcases Option.bind_eq_some_iff.mp bundled with ⟨typed, given, others⟩
  rcases Option.map_eq_some_iff.mp others with ⟨_, _, pair⟩
  cases given
  cases pair
  exact ⟨row, stored⟩

theorem Config.registerMsg_pubkey (config : Config env crypto) :
    config.registerMsg.providerPubkey = config.pubkeyHex := by
  unfold registerMsg
  split <;> rfl

theorem Arrives.registered {Told : JobAssignMsg → Prop}
    {config : Config env crypto} {msg : RegisterMsg}
    (arrives : Arrives language Told config (.register msg)) :
    msg.providerPubkey = config.pubkeyHex := by
  cases arrives
  exact config.registerMsg_pubkey

/-! ## What holds throughout -/

def readJobs (state : State) (ws : SocketId) (received : Nat) : List String :=
  ((inbox state ws).take received).filterMap fun message =>
    (assignment? message).map JobAssignMsg.jobId

theorem told_of_inbox {state : State} {ws : SocketId} {msg : JobAssignMsg}
    (member : .jobAssign msg ∈ inbox state ws) : state.Told ws msg := by
  rcases List.mem_filterMap.mp member with ⟨⟨own, message⟩, sent, same⟩
  split at same
  · next this =>
      cases same
      cases this
      exact sent
  · cases same

theorem readJobs_succ {state : State} {ws : SocketId} {received : Nat}
    {message : CoordinatorToWorker}
    (incoming : (inbox state ws)[received]? = some message) :
    readJobs state ws (received + 1) =
      readJobs state ws received ++
        (assignment? message).toList.map JobAssignMsg.jobId := by
  rw [readJobs, List.take_add_one, incoming, List.filterMap_append]
  cases message with
  | jobAssign msg => rfl
  | registerAck | heartbeatAck | error | feedbackPosted | feedbackFailed => rfl

variable (language) in
structure ProcessSound (state : State) (ws : SocketId)
    (process : Process env crypto Number) : Prop where
  honest : Honest language (state.Told ws) process
  bounded : process.received ≤ (inbox state ws).length
  custody : (readJobs state ws process.received).Perm process.kept

variable (language) in
structure Sound (network : Network env crypto Number) : Prop where
  reachable : (machine env).Reachable network.coordinator
  tells : TellsOnce network.coordinator
  owners : ∀ {workerId worker},
    network.coordinator.workers.get? workerId = some worker →
    ∃ process, network.processes.get? worker.ws = some process ∧
      process.config.pubkeyHex = worker.pubkey
  processes : ∀ {ws process}, network.processes.get? ws = some process →
    ProcessSound language network.coordinator ws process

namespace ProcessSound

variable {state : State} {ws : SocketId}
  {process next : Process env crypto Number}

theorem opened (config : Config env crypto) :
    ProcessSound language state ws (.opened config) where
  honest := .opened config
  bounded := Nat.zero_le _
  custody := by
    simp [readJobs, Process.kept, Process.answered, Process.opened,
      answered?_register]

theorem served (sound : ProcessSound language state ws process)
    (input : Input) :
    ProcessSound language ((machine env).step state input) ws process := by
  rcases step_sent env state input with ⟨more, sent⟩
  have extended : inbox ((machine env).step state input) ws =
      inbox state ws ++ more.filterMap fun frame =>
        if frame.ws = ws then some frame.message else none := by
    rw [inbox, sent, List.filterMap_append]
    rfl
  refine ⟨?_, ?_, ?_⟩
  · exact sound.honest.mono fun _ => Told.step env input
  · rw [extended, List.length_append]
    exact Nat.le_add_right_of_le sound.bounded
  · rw [readJobs, extended, List.take_append_of_le_length sound.bounded]
    exact sound.custody

theorem of_delivered (sound : ProcessSound language state ws process) :
    ProcessSound language state ws
      { process with delivered := process.delivered + 1 } :=
  ⟨⟨sound.honest.sent, sound.honest.running⟩, sound.bounded, sound.custody⟩

theorem worked (sound : ProcessSound language state ws process)
    (event : WorkerEvent Number) :
    ProcessSound language state ws (process.step event) := by
  have moves := process.step_moves language event
  rcases process.step_stays event with ⟨stays, received⟩
  refine ⟨?_, ?_, ?_⟩
  · exact sound.honest.moves stays.config moves (List.forall_mem_nil _)
  · rw [received]
    exact sound.bounded
  · have kept := moves.kept
    rw [List.map_nil, List.append_nil] at kept
    rw [received]
    exact sound.custody.trans kept

theorem heard (sound : ProcessSound language state ws process)
    {message : CoordinatorToWorker}
    (incoming : (inbox state ws)[process.received]? = some message)
    (misfit : Misfit) (completedAt : String) :
    ProcessSound language state ws
      (process.receive language misfit completedAt message) := by
  have moves := process.receive_moves language misfit completedAt message
  rcases process.receive_stays language misfit completedAt message with
    ⟨stays, received⟩
  rcases List.getElem?_eq_some_iff.mp incoming with ⟨bound, found⟩
  refine ⟨?_, ?_, ?_⟩
  · apply sound.honest.moves stays.config moves
    intro msg member
    rw [Option.mem_toList, assignment?_eq_some] at member
    apply told_of_inbox
    rw [← member, ← found]
    exact List.getElem_mem bound
  · rw [received]
    exact bound
  · rw [received, readJobs_succ incoming]
    exact (sound.custody.append_right _).trans moves.kept

end ProcessSound

/-! ## One event -/

inductive Given (language : Worker.Language Number)
    (network : Network env crypto Number) : Coordinator.Event → Prop
  | served {event : Coordinator.Event} (served : isServed event = true) :
      Given language network event
  | connect (ws : SocketId) : Given language network (.connect ws)
  | frame {ws : SocketId} {process : Process env crypto Number} {frame : Frame}
      (running : network.processes.get? ws = some process)
      (arrives : Arrives language (network.coordinator.Told ws) process.config
        frame)
      {wire : String} (sent : wire ∈ process.sent)
      (reads : Frame.ofText? Number wire = some frame) :
      Given language network (.frame ws frame)

inductive ProcessStep (language : Worker.Language Number)
    (network : Network env crypto Number)
    (event : NetworkEvent env crypto Number) (ws : SocketId)
    (next : Process env crypto Number) : Prop
  | opened {config : Config env crypto}
      (absent : network.processes.get? ws = none)
      (starts : next = .opened config)
  | same (running : network.processes.get? ws = some next)
  | delivered {process : Process env crypto Number} {wire : String}
      (is : event = .deliver ws)
      (running : network.processes.get? ws = some process)
      (sent : process.sent[process.delivered]? = some wire)
      (becomes : next = { process with delivered := process.delivered + 1 })
  | heard {process : Process env crypto Number} {misfit : Misfit}
      {completedAt : String} {message : CoordinatorToWorker}
      (running : network.processes.get? ws = some process)
      (incoming : (inbox network.coordinator ws)[process.received]? =
        some message)
      (becomes : next = process.receive language misfit completedAt message)
  | worked {process : Process env crypto Number} {work : WorkerEvent Number}
      (running : network.processes.get? ws = some process)
      (becomes : next = process.step work)

inductive CoordinatorStep (language : Worker.Language Number)
    (network : Network env crypto Number)
    (input : NetworkInput env crypto Number) : Prop
  | stays (same : (network.step language input).coordinator =
      network.coordinator)
  | handles {event : Coordinator.Event}
      (is : network.coordinatorEvent? input.event = some event)
      (allowed : (machine env).Enabled network.coordinator
        ⟨input.now, input.uuid, event⟩)
      (given : Given language network event)
      (becomes : (network.step language input).coordinator =
        (machine env).step network.coordinator ⟨input.now, input.uuid, event⟩)

section Steps

variable {network : Network env crypto Number}
  {input : NetworkInput env crypto Number}

variable (language) in
theorem atProcesses_coordinator (network : Network env crypto Number)
    (event : NetworkEvent env crypto Number) :
    (network.atProcesses language event).coordinator =
      network.coordinator := by
  cases event with
  | receive ws misfit completedAt =>
    rw [Network.atProcesses]
    split <;> rfl
  | serve | connect | deliver | work => rfl

theorem step_coordinator_none
    (given : network.coordinatorEvent? input.event = none) :
    (network.step language input).coordinator = network.coordinator := by
  rw [Network.step, given]
  exact atProcesses_coordinator language network input.event

theorem step_coordinator_some {event : Coordinator.Event}
    (given : network.coordinatorEvent? input.event = some event) :
    (network.step language input).coordinator =
      (machine env).step network.coordinator
        ⟨input.now, input.uuid, event⟩ := by
  rw [Network.step, given]

theorem step_processes (network : Network env crypto Number)
    (input : NetworkInput env crypto Number) :
    (network.step language input).processes =
      (network.atProcesses language input.event).processes := by
  rw [Network.step]
  split <;> rfl

theorem given_of_enabled (sound : Sound language network)
    (enabled : network.enabled input = true) {event : Coordinator.Event}
    (given : network.coordinatorEvent? input.event = some event) :
    (machine env).Enabled network.coordinator
        ⟨input.now, input.uuid, event⟩ ∧ Given language network event := by
  have allowed : network.coordinatorEnabled input = true →
      (machine env).Enabled network.coordinator
        ⟨input.now, input.uuid, event⟩ := by
    intro enabled
    rw [Network.coordinatorEnabled, given] at enabled
    exact of_decide_eq_true enabled
  rw [Network.enabled] at enabled
  cases is : input.event with
  | serve served =>
    rw [is] at enabled given
    cases given
    rw [Bool.and_eq_true] at enabled
    exact ⟨allowed enabled.2, .served enabled.1⟩
  | connect ws config =>
    rw [is] at enabled given
    cases given
    rw [Bool.and_eq_true] at enabled
    exact ⟨allowed enabled.2, .connect ws⟩
  | deliver ws =>
    rw [is] at enabled given
    refine ⟨allowed enabled, ?_⟩
    rcases Option.map_eq_some_iff.mp given with ⟨frame, arriving, rfl⟩
    rcases Option.bind_eq_some_iff.mp arriving with
      ⟨process, running, rest⟩
    rcases Option.bind_eq_some_iff.mp rest with ⟨wire, next, reads⟩
    have sent := List.mem_of_getElem? next
    rcases ((sound.processes running).honest.sent wire sent).arrives with
      ⟨read, same, arrives⟩
    have frames := Option.some.inj (reads.symm.trans same)
    exact .frame running (frames ▸ arrives) sent reads
  | receive ws misfit completedAt =>
    rw [is] at given
    cases given
  | work ws event =>
    rw [is] at given
    cases given

theorem coordinator_step (sound : Sound language network)
    (enabled : network.enabled input = true) :
    CoordinatorStep language network input := by
  cases is : network.coordinatorEvent? input.event with
  | none => exact .stays (step_coordinator_none is)
  | some event =>
    rcases given_of_enabled sound enabled is with ⟨allowed, given⟩
    exact .handles is allowed given (step_coordinator_some is)

theorem process_step (enabled : network.enabled input = true) {ws : SocketId}
    {next : Process env crypto Number}
    (running : (network.step language input).processes.get? ws = some next) :
    ProcessStep language network input.event ws next := by
  have updated : ∀ {changed : SocketId}
      {change : Process env crypto Number → Process env crypto Number},
      (network.updateProcess changed change).processes.get? ws = some next →
      network.processes.get? ws = some next ∨
        changed = ws ∧ ∃ process, network.processes.get? ws = some process ∧
          next = change process := by
    intro changed change found
    rw [Network.updateProcess, OrderedMap.get?_modify] at found
    split at found
    · next same =>
        rcases Option.map_eq_some_iff.mp found with ⟨process, stored, becomes⟩
        exact .inr ⟨same.symm, process, stored, becomes.symm⟩
    · exact .inl found
  rw [step_processes] at running
  rw [Network.enabled] at enabled
  cases is : input.event with
  | serve event =>
    rw [is] at running
    exact .same running
  | connect opened config =>
    rw [is] at running enabled
    rw [Network.atProcesses, OrderedMap.get?_set] at running
    split at running
    · next same =>
        rw [Bool.and_eq_true, Option.isNone_iff_eq_none] at enabled
        exact .opened (same ▸ enabled.1) (Option.some.inj running).symm
    · exact .same running
  | deliver changed =>
    rw [is] at running enabled
    rcases updated running with same | ⟨this, process, stored, becomes⟩
    · exact .same same
    · subst this
      rw [Network.coordinatorEnabled, is, Network.coordinatorEvent?,
        Network.arriving?, stored] at enabled
      cases sent : process.sent[process.delivered]? with
      | none => simp [sent] at enabled
      | some wire => exact .delivered rfl stored sent becomes
  | receive changed misfit completedAt =>
    rw [is] at running
    rw [Network.atProcesses] at running
    split at running
    · next message incoming =>
        rcases updated running with same | ⟨this, process, stored, becomes⟩
        · exact .same same
        · subst this
          rw [Network.incoming?, stored] at incoming
          exact .heard stored incoming becomes
    · exact .same running
  | work changed event =>
    rw [is] at running
    rcases updated running with same | ⟨_, process, stored, becomes⟩
    · exact .same same
    · exact .worked stored becomes

variable (language) in
theorem process_continues (enabled : network.enabled input = true) {ws : SocketId}
    {process : Process env crypto Number}
    (running : network.processes.get? ws = some process) :
    ∃ next, (network.step language input).processes.get? ws = some next ∧
      next.config = process.config ∧ process.sent ⊆ next.sent := by
  have same : process.config = process.config ∧ process.sent ⊆ process.sent :=
    ⟨rfl, List.Subset.refl _⟩
  have updated : ∀ {changed : SocketId}
      {change : Process env crypto Number → Process env crypto Number},
      ((change process).config = process.config ∧
        process.sent ⊆ (change process).sent) →
      ∃ next, (network.updateProcess changed change).processes.get? ws =
        some next ∧ next.config = process.config ∧
          process.sent ⊆ next.sent := by
    intro changed change kept
    rw [Network.updateProcess, OrderedMap.get?_modify, running]
    split
    · exact ⟨change process, rfl, kept⟩
    · exact ⟨process, rfl, same⟩
  rw [step_processes]
  rw [Network.enabled] at enabled
  cases is : input.event with
  | serve event => exact ⟨process, running, same⟩
  | connect opened config =>
    rw [is] at enabled
    rw [Bool.and_eq_true, Option.isNone_iff_eq_none] at enabled
    have different : ws ≠ opened := by
      intro reopened
      rw [← reopened, running] at enabled
      cases enabled.1
    rw [Network.atProcesses, OrderedMap.get?_set, if_neg different]
    exact ⟨process, running, same⟩
  | deliver changed => exact updated same
  | receive changed misfit completedAt =>
    rw [Network.atProcesses]
    split
    · next message incoming =>
        exact updated ⟨(process.receive_stays language misfit completedAt
            message).1.config,
          Process.sent_subset_of_moves (process.receive_moves language misfit
            completedAt message)⟩
    · exact ⟨process, running, same⟩
  | work changed event =>
    exact updated ⟨(process.step_stays event).1.config,
      Process.sent_subset_of_moves (process.step_moves language event)⟩

theorem Given.accepts {event : Coordinator.Event}
    (given : Given language network event) (now : Nat) (uuid : Uuid) :
    ¬ RejectsJob network.coordinator ⟨now, uuid, event⟩ := by
  rintro ⟨ws, msg, rejects, _⟩
  cases given with
  | served served =>
    cases rejects
    cases served
  | connect => cases rejects
  | frame running arrives =>
    cases rejects
    cases arrives

theorem Given.registers {event : Coordinator.Event} {ws : SocketId}
    {msg : RegisterMsg} (given : Given language network event)
    (is : event = .frame ws (.register msg)) :
    ∃ process, network.processes.get? ws = some process ∧
      msg.providerPubkey = process.config.pubkeyHex := by
  cases given with
  | served served =>
    rw [is] at served
    cases served
  | connect => cases is
  | frame running arrives =>
    cases is
    exact ⟨_, running, arrives.registered⟩

theorem Sound.processes_step (sound : Sound language network)
    (enabled : network.enabled input = true) {ws : SocketId}
    {process : Process env crypto Number}
    (running : (network.step language input).processes.get? ws =
      some process) :
    ProcessSound language network.coordinator ws process := by
  cases process_step enabled running with
  | opened absent starts =>
    rw [starts]
    exact .opened _
  | same running => exact sound.processes running
  | delivered is running sent becomes =>
    rw [becomes]
    exact (sound.processes running).of_delivered
  | heard running incoming becomes =>
    rw [becomes]
    exact (sound.processes running).heard incoming _ _
  | worked running becomes =>
    rw [becomes]
    exact (sound.processes running).worked _

theorem Sound.step (sound : Sound language network)
    (enabled : network.enabled input = true) :
    Sound language (network.step language input) := by
  cases coordinator_step sound enabled with
  | stays same =>
    refine ⟨same ▸ sound.reachable, same ▸ sound.tells, ?_, ?_⟩
    · intro workerId worker tracked
      rw [same] at tracked
      rcases sound.owners tracked with ⟨process, running, key⟩
      rcases process_continues language enabled running with
        ⟨next, later, config, _⟩
      exact ⟨next, later, config ▸ key⟩
    · intro ws process running
      rw [same]
      exact sound.processes_step enabled running
  | handles is allowed given becomes =>
    refine ⟨?_, ?_, ?_, ?_⟩
    · rw [becomes]
      exact sound.reachable.step allowed
    · rw [becomes]
      exact sound.tells.step sound.reachable allowed (given.accepts _ _)
    · intro workerId worker tracked
      rw [becomes] at tracked
      have owned : ∃ process,
          network.processes.get? worker.ws = some process ∧
            process.config.pubkeyHex = worker.pubkey := by
        rcases step_owner tracked with ⟨before, found, sameWs, sameKey⟩ |
          ⟨msg, registers, key, _⟩
        · rw [← sameWs, ← sameKey]
          exact sound.owners found
        · rcases given.registers registers with ⟨process, running, own⟩
          exact ⟨process, running, own.symm.trans key⟩
      rcases owned with ⟨process, running, key⟩
      rcases process_continues language enabled running with
        ⟨next, later, config, _⟩
      exact ⟨next, later, config ▸ key⟩
    · intro ws process running
      rw [becomes]
      exact (sound.processes_step enabled running).served _

theorem Sound.initial : Sound language
    (.initial : Network env crypto Number) where
  reachable := .start
  tells := ⟨fun told => absurd told List.not_mem_nil, List.nodup_nil⟩
  owners tracked := by cases tracked
  processes running := by cases running

end Steps

theorem sound_of_reachable {network : Network env crypto Number}
    (reachable : (networkMachine language).Reachable network) :
    Sound language network := by
  apply reachable.invariant (Sound language)
  · exact .initial
  · intro before input _ sound enabled
    exact sound.step enabled

/-! ## Running a deployment -/

section Running

variable {network : Network env crypto Number} {ws : SocketId} {now : Nat}
  {uuid : Uuid} {process : Process env crypto Number} {wire : String}
  {frame : Frame}

omit [NumberToString Number] in
theorem coordinatorEvent?_deliver
    (running : network.processes.get? ws = some process)
    (sent : process.sent[process.delivered]? = some wire)
    (reads : Frame.ofText? Number wire = some frame) :
    network.coordinatorEvent? (.deliver ws) = some (.frame ws frame) := by
  rw [Network.coordinatorEvent?, Network.arriving?, running]
  simp [sent, reads]

theorem run_deliver (running : network.processes.get? ws = some process)
    (sent : process.sent[process.delivered]? = some wire)
    (reads : Frame.ofText? Number wire = some frame)
    (allowed : network.coordinator.Enabled ⟨now, uuid, .frame ws frame⟩) :
    (networkMachine language).Run network [⟨now, uuid, .deliver ws⟩]
      { coordinator := (machine env).step network.coordinator
          ⟨now, uuid, .frame ws frame⟩
        processes := network.processes.modify ws fun process =>
          { process with delivered := process.delivered + 1 } } := by
  have given := coordinatorEvent?_deliver running sent reads
  have enabled : (networkMachine language).Enabled network
      ⟨now, uuid, .deliver ws⟩ := by
    show network.coordinatorEnabled _ = true
    rw [Network.coordinatorEnabled, given]
    exact decide_eq_true allowed
  have next := Machine.Run.cons enabled (.nil _)
  rw [show (networkMachine language).step network ⟨now, uuid, .deliver ws⟩ =
    network.step language ⟨now, uuid, .deliver ws⟩ from rfl, Network.step,
    given] at next
  exact next

end Running

end Arrivals

/-! A deployment with one worker of the CLI, in which only zero has a text of
its own. -/

namespace Sample

structure Numeral where
  value : ℚ

instance : JsNumber Numeral where
  text _ := ['0']
  read? text := if text = ['0'] then some ⟨0⟩ else none
  truthy number := decide (number.value ≠ 0)
  display _ := "0"
  equal left right := decide (left.value = right.value)

instance : NumberToString Numeral where
  finite? number := if number.value = 0 then some ⟨0⟩ else none
  faithful {number value} written := by
    split at written
    · cases written
      exact ⟨rfl, by decide, List.forall_mem_singleton.mpr (by decide)⟩
    · cases written

def language : Worker.Language Numeral where
  toLowerCase text := text
  parse text := text.text?.bind Json.parse
  number := Numeral.mk

def environment : Environment :=
  { Worker.Sample.environment.toEnvironment with
    boltDistributor := true
    wrappedBoltDistributor := true }

def keys : KeyPair environment Worker.Sample.crypto where
  publicKey := Coordinator.Sample.key
  secretKey := Coordinator.Sample.key
  signs := Worker.Sample.keys.signs

def config : Config environment Worker.Sample.crypto where
  program := .node .cli
  keys := keys
  configured := [.task]
  trustPairingCode := none

abbrev SampleNetwork := Network environment Worker.Sample.crypto Numeral

def time : String := "1970-01-01T00:00:00.000Z"

def payload : Json Numeral :=
  .object (.ofList [("job_type", .string ("TASK" : String)),
    ("task_type", .string ("extract_json" : String)),
    ("input", .string ("none" : String))])

def request : JobRequest where
  jobType := .task
  policy := .cheap
  privacyClass := PrivacyClass.PUBLIC
  userId := "user"
  payload := payload.stringify

def commit : Coordinator.Event :=
  .commit .cheap
    { jobType := some "TASK", payload := some payload.stringify,
      privacyClass := some PrivacyClass.PUBLIC, userId := some "user" }

def assigned : JobAssignMsg :=
  request.assignMsg Coordinator.Sample.jobUuid.text

def output : JsValue Numeral :=
  .ofJson (executeTask language .cli ("extract_json" : String)
    ("none" : String))

def connected : SampleNetwork :=
  Network.initial.step language
    ⟨0, Coordinator.Sample.spareUuid, .connect 0 config⟩

def registered : SampleNetwork where
  coordinator := (machine environment).step connected.coordinator
    ⟨0, Coordinator.Sample.workerUuid, .frame 0 (.register config.registerMsg)⟩
  processes := connected.processes.modify 0 fun process =>
    { process with delivered := process.delivered + 1 }

def starts : List (NetworkInput environment Worker.Sample.crypto Numeral) := [
  ⟨0, Coordinator.Sample.spareUuid, .receive 0 (.ok "") time⟩,
  ⟨0, Coordinator.Sample.spareUuid, .work 0 .registered⟩]

def ready : SampleNetwork :=
  (networkMachine language).exec registered starts

def waiting : SampleNetwork :=
  ready.step language ⟨0, Coordinator.Sample.jobUuid, .serve commit⟩

def answering : SampleNetwork :=
  waiting.step language
    ⟨0, Coordinator.Sample.spareUuid, .receive 0 (.ok "") time⟩

def text : String :=
  "\x7b\"extracted\":[],\"count\":0\x7d"

def answer : Dispatch.JobCompleteMsg :=
  answerMsg config.builder time Coordinator.Sample.jobUuid.text text

def completed : SampleNetwork where
  coordinator := (machine environment).step answering.coordinator
    ⟨0, Coordinator.Sample.lastUuid, .frame 0 (.jobComplete answer)⟩
  processes := answering.processes.modify 0 fun process =>
    { process with delivered := process.delivered + 1 }

structure Evaluated : Type where
  connects : (networkMachine language).Enabled (.initial : SampleNetwork)
    ⟨0, Coordinator.Sample.spareUuid, .connect 0 config⟩
  registers : connected.coordinator.Enabled
    ⟨0, Coordinator.Sample.workerUuid, .frame 0 (.register config.registerMsg)⟩
  starts : (networkMachine language).Steps (networkMachine language).Enabled
    registered starts
  commits : ready.enabled
    ⟨0, Coordinator.Sample.jobUuid, .serve commit⟩ = true
  receives : (networkMachine language).Enabled waiting
    ⟨0, Coordinator.Sample.spareUuid, .receive 0 (.ok "") time⟩
  incoming : waiting.incoming? 0 = some (.jobAssign assigned)
  listens : (waiting.processes.get? 0).map (fun process =>
    (process.start.hears, decide (process.sent.length = process.delivered))) =
      some (true, true)
  keys : Properties.OrderedKeys ["job_type", "task_type", "input"]
  writes : output.stringify = some text
  answers : answering.coordinator.Enabled
    ⟨0, Coordinator.Sample.lastUuid, .frame 0 (.jobComplete answer)⟩
  active : (answering.coordinator.workers.get?
    Coordinator.Sample.workerUuid.text).map TrackedWorker.activeJobId =
      some (some Coordinator.Sample.jobUuid.text)
  asked : (answering.coordinator.jobs.get?
    Coordinator.Sample.jobUuid.text).map JobRow.request = some request
  real : isDemoJob answer.jobId = false

def evaluated : Evaluated where
  connects := by decide +kernel
  registers := by decide +kernel
  starts := by decide +kernel
  commits := by decide +kernel
  receives := by decide +kernel
  incoming := by decide +kernel
  listens := by decide +kernel
  keys := by decide +kernel
  writes := by decide +kernel
  answers := by decide +kernel
  active := by decide +kernel
  asked := by decide +kernel
  real := by decide +kernel

theorem registered_reachable :
    (networkMachine language).Reachable registered := by
  have reachable : (networkMachine language).Reachable connected :=
    Machine.Reachable.start.step evaluated.connects
  exact reachable.run (run_deliver rfl rfl (register_reads _)
    evaluated.registers)

theorem ready_reachable : (networkMachine language).Reachable ready :=
  registered_reachable.run (.of_steps evaluated.starts)

theorem waiting_reachable : (networkMachine language).Reachable waiting :=
  ready_reachable.step evaluated.commits

theorem answering_run : (networkMachine language).Run waiting
    [⟨0, Coordinator.Sample.spareUuid, .receive 0 (.ok "") time⟩] answering :=
  .cons evaluated.receives (.nil _)

theorem answering_reachable : (networkMachine language).Reachable answering :=
  waiting_reachable.run answering_run

theorem begins (misfit : Misfit) :
    beginJob language misfit assigned (.node .cli) = .output output := by
  have normal : payload.Normal :=
    ⟨evaluated.keys, True.intro, True.intro, True.intro, True.intro⟩
  have parsed : Json.parse assigned.payload = some payload :=
    Json.parse_stringify payload normal
  apply beginJob_task rfl
  · rw [payload?, parsed]
    rfl
  · rw [payload?, parsed]
    rfl

theorem waiting_process : ∃ process,
    waiting.processes.get? 0 = some process ∧ process.config = config ∧
      process.start.hears = true ∧
      process.sent.length = process.delivered := by
  have config : (waiting.processes.get? 0).map Process.config =
      some config := rfl
  have state := evaluated.listens
  rcases Option.map_eq_some_iff.mp config with ⟨process, running, same⟩
  rw [running, Option.map_some, Option.some.injEq, Prod.mk.injEq] at state
  exact ⟨process, running, same, state.1, of_decide_eq_true state.2⟩

theorem answering_processes : answering.processes =
    waiting.processes.modify 0
      (·.receive language (.ok "") time (.jobAssign assigned)) := by
  rw [answering, step_processes, Network.atProcesses, evaluated.incoming]
  rfl

theorem answering_sent : ∃ process wire,
    answering.processes.get? 0 = some process ∧
      process.sent[process.delivered]? = some wire ∧
      Frame.ofText? Numeral wire = some (.jobComplete answer) := by
  rcases waiting_process with ⟨process, running, same, hears, delivered⟩
  rcases answer_reads config.builder time Coordinator.Sample.jobUuid.text
    (written_of_begun (begins (.ok ""))) with ⟨wire, spelled, answers, written, reads⟩
  rw [evaluated.writes, Option.some.injEq] at written
  rw [← written] at reads
  rw [← same] at answers
  have begun := begins (.ok "")
  rw [show Program.node .cli = process.config.program from
    congrArg Config.program same.symm] at begun
  refine ⟨process.receive language (.ok "") time (.jobAssign assigned), wire,
    ?_, ?_, reads⟩
  · rw [answering_processes, OrderedMap.get?_modify, if_pos rfl, running]
    rfl
  · rw [Process.receive_answers hears begun answers,
      (Process.receive_stays ..).1.delivered, ← delivered,
      List.getElem?_append_right (Nat.le_refl _), Nat.sub_self]
    rfl

theorem completed_run : (networkMachine language).Run answering
    [⟨0, Coordinator.Sample.lastUuid, .deliver 0⟩] completed := by
  rcases answering_sent with ⟨process, wire, running, sent, reads⟩
  exact run_deliver running sent reads evaluated.answers

theorem completed_reachable :
    (networkMachine language).Reachable completed :=
  answering_reachable.run completed_run

theorem answering_holds : ∃ worker row,
    Holds answering.coordinator Coordinator.Sample.workerUuid.text worker
        Coordinator.Sample.jobUuid.text ∧
      answering.coordinator.jobs.get? Coordinator.Sample.jobUuid.text =
        some row ∧ row.request = request := by
  rcases Option.map_eq_some_iff.mp evaluated.active with
    ⟨worker, tracked, holding⟩
  rcases Option.map_eq_some_iff.mp evaluated.asked with ⟨row, stored, same⟩
  exact ⟨worker, row, ⟨tracked, holding⟩, stored, same⟩

theorem completed_row : ∃ row,
    completed.coordinator.jobs.get? Coordinator.Sample.jobUuid.text =
        some row ∧ row.status = .completed ∧ row.request = request := by
  rcases answering_holds with ⟨worker, row, holds, stored, asked⟩
  have reachable := (sound_of_reachable answering_reachable).reachable
  have completes : Completes answering.coordinator
      ⟨0, Coordinator.Sample.lastUuid, .frame 0 (.jobComplete answer)⟩ answer
      worker :=
    ⟨⟨0, rfl⟩, ⟨_, holds⟩, evaluated.real, references_answer stored⟩
  have jobs := (completes_outcome reachable evaluated.answers completes).1
  refine ⟨completedRow 0 answer.output row, ?_, rfl, asked⟩
  have own : Coordinator.Sample.jobUuid.text = answer.jobId := rfl
  rw [completed, jobs, OrderedMap.get?_modify, if_pos own, stored]
  rfl

end Sample

end Dispatch.Deployment
