import Dispatch.Coordinator.Told
import Dispatch.Worker.Jobs

/-! # Worker processes

A process runs one of the programs for a worker on a computer, on one socket,
from the moment the socket is open.
-/

namespace Dispatch.Deployment

open Coordinator Worker

structure Config (env : Environment) (crypto : Crypto) where
  program : Program
  keys : KeyPair env crypto
  configured : List JobType
  trustPairingCode : Option String

namespace Config

variable {env : Environment} {crypto : Crypto} (config : Config env crypto)

def builder : Builder env crypto :=
  match config.program with
  | .node .desktop => .desktop config.keys
  | .node .cli => .cli config.keys
  | .simulator => .seekerSimulator config.keys

def pubkeyHex : String := config.keys.pubkeyHex

def registerMsg : RegisterMsg :=
  match config.program with
  | .node .desktop =>
    { providerPubkey := config.pubkeyHex, providerType := .desktop,
      capabilities := [.llmInfer, .task] }
  | .node .cli =>
    { providerPubkey := config.pubkeyHex, providerType := .desktop,
      capabilities := config.configured }
  | .simulator =>
    { providerPubkey := config.pubkeyHex, providerType := .seeker,
      capabilities := [.task] }

def heartbeatMsg : HeartbeatMsg := { providerPubkey := config.pubkeyHex }

end Config

/-! ## Starting -/

inductive Start
  | node (config : Startup.Config) (runtime : Startup.Runtime)
  | simulator

namespace Start

def hears : Start → Bool
  | .node _ runtime => runtime.listeners.contains .jobs
  | .simulator => true

def beats : Start → Bool
  | .node _ runtime => runtime.phase = .claiming || runtime.phase = .started
  | .simulator => true

def alive : Start → Bool
  | .node config runtime => Startup.alive config runtime
  | .simulator => true

def step (event : Startup.Event) : Start → Start
  | .node config runtime => .node config (Startup.step config runtime event)
  | .simulator => .simulator

def enabled (event : Startup.Event) : Start → Bool
  | .node config runtime => Startup.enabled config runtime event
  | .simulator => false

end Start

def Config.start {env : Environment} {crypto : Crypto}
    (config : Config env crypto) : Start :=
  match config.program with
  | .node program =>
    .node { program := program, trustPairingCode := config.trustPairingCode }
      .initial
  | .simulator => .simulator

def startupFrame : CoordinatorToWorker → Startup.Frame
  | .registerAck workerId => .registerAck "ok" (some workerId) none
  | .jobAssign msg => .jobAssign msg
  | .heartbeatAck | .error _ _ | .feedbackPosted _ _ _ _
  | .feedbackFailed _ _ => .other

/-! ## Running -/

structure Process (env : Environment) (crypto : Crypto) (Number : Type) where
  config : Config env crypto
  start : Start
  alive : Bool
  running : List (JobAssignMsg × Json Number)
  sent : List String
  delivered : Nat
  received : Nat
  dropped : List JobAssignMsg

inductive WorkerEvent (Number : Type)
  | registrationTimeout
  | registered
  | trustClaimed (outcome : Except String String)
  | heartbeat
  | inferred (index : Nat) (inference : Inference Number) (thrown : JsString)
      (completedAt : String)
  | exit

namespace Process

variable {env : Environment} {crypto : Crypto} {Number : Type}
  [JsNumber Number] [NumberToString Number] (language : Worker.Language Number)

def opened (config : Config env crypto) : Process env crypto Number where
  config := config
  start := config.start
  alive := true
  running := []
  sent := [(registerJson config.registerMsg : Json Number).stringify]
  delivered := 0
  received := 0
  dropped := []

def send (wire : String) (process : Process env crypto Number) :
    Process env crypto Number :=
  { process with sent := process.sent ++ [wire] }

def complete (completedAt : String) (msg : JobAssignMsg)
    (output : JsValue Number) (process : Process env crypto Number) :
    Process env crypto Number :=
  match answer process.config.builder completedAt msg.jobId output with
  | some wire => process.send wire
  | none => { process with dropped := process.dropped ++ [msg] }

def handleJob (misfit : Misfit) (completedAt : String) (msg : JobAssignMsg)
    (process : Process env crypto Number) : Process env crypto Number :=
  match beginJob language misfit msg process.config.program with
  | .output output => process.complete completedAt msg output
  | .inferring prompt =>
    { process with running := process.running ++ [(msg, prompt)] }
  | .crashed =>
    { process with alive := false, dropped := process.dropped ++ [msg] }

def receive (misfit : Misfit) (completedAt : String)
    (message : CoordinatorToWorker) (process : Process env crypto Number) :
    Process env crypto Number :=
  let heard := process.start.hears
  let process := { process with
    start := process.start.step (.frame (startupFrame message))
    received := process.received + 1 }
  match message with
  | .jobAssign msg =>
    if heard then process.handleJob language misfit completedAt msg
    else { process with dropped := process.dropped ++ [msg] }
  | _ => process

def step (event : WorkerEvent Number) (process : Process env crypto Number) :
    Process env crypto Number :=
  match event with
  | .registrationTimeout =>
    { process with start := process.start.step .registrationTimeout }
  | .registered => { process with start := process.start.step .registered }
  | .trustClaimed outcome =>
    { process with start := process.start.step (.trustClaimed outcome) }
  | .heartbeat =>
    process.send
      (heartbeatJson process.config.heartbeatMsg : Json Number).stringify
  | .inferred index inference thrown completedAt =>
    match process.running[index]? with
    | some (msg, prompt) =>
      { process with
        running := process.running.eraseIdx index }.complete completedAt msg
          (infer thrown prompt msg.jobId inference)
    | none => process
  | .exit => { process with alive := false }

def live (process : Process env crypto Number) : Bool :=
  process.alive && process.start.alive

def enabled (event : WorkerEvent Number)
    (process : Process env crypto Number) : Bool :=
  process.live && match event with
    | .registrationTimeout => process.start.enabled .registrationTimeout
    | .registered => process.start.enabled .registered
    | .trustClaimed outcome => process.start.enabled (.trustClaimed outcome)
    | .heartbeat => process.start.beats
    | .inferred index _ _ _ => decide (index < process.running.length)
    | .exit => true

end Process

/-! ## What a process does -/

def answered? (Number : Type) [JsNumber Number] (wire : String) :
    Option String :=
  match Frame.ofText? Number wire with
  | some (.jobComplete msg) => some msg.jobId
  | _ => none

section Moves

variable {env : Environment} {crypto : Crypto} {Number : Type}
  [JsNumber Number] [NumberToString Number] (language : Worker.Language Number)

structure Answers (config : Config env crypto) (msg : JobAssignMsg)
    (output : JsValue Number) (wire : String) : Prop where
  written : output.toJson?.isSome = true
  answer : ∃ completedAt,
    answer config.builder completedAt msg.jobId output = some wire

inductive Moves (process next : Process env crypto Number) :
    List JobAssignMsg → Prop
  | quiet (running : next.running = process.running)
      (sent : next.sent = process.sent)
      (dropped : next.dropped = process.dropped) : Moves process next []
  | beat (running : next.running = process.running)
      (sent : next.sent = process.sent ++
        [(heartbeatJson process.config.heartbeatMsg : Json Number).stringify])
      (dropped : next.dropped = process.dropped) : Moves process next []
  | drop {msg : JobAssignMsg} (running : next.running = process.running)
      (sent : next.sent = process.sent)
      (dropped : next.dropped = process.dropped ++ [msg]) :
      Moves process next [msg]
  | wait {misfit : Misfit} {msg : JobAssignMsg} {prompt : Json Number}
      (begun : beginJob language misfit msg process.config.program =
        .inferring prompt)
      (running : next.running = process.running ++ [(msg, prompt)])
      (sent : next.sent = process.sent)
      (dropped : next.dropped = process.dropped) : Moves process next [msg]
  | answer {misfit : Misfit} {msg : JobAssignMsg} {output : JsValue Number}
      {wire : String}
      (begun : beginJob language misfit msg process.config.program =
        .output output)
      (answers : Answers process.config msg output wire)
      (running : next.running = process.running)
      (sent : next.sent = process.sent ++ [wire])
      (dropped : next.dropped = process.dropped) : Moves process next [msg]
  | finish {index : Nat} {msg : JobAssignMsg} {prompt : Json Number}
      {thrown : JsString} {inference : Inference Number} {wire : String}
      (waited : process.running[index]? = some (msg, prompt))
      (answers : Answers process.config msg
        (infer thrown prompt msg.jobId inference) wire)
      (running : next.running = process.running.eraseIdx index)
      (sent : next.sent = process.sent ++ [wire])
      (dropped : next.dropped = process.dropped) : Moves process next []

namespace Process

variable {language} {process : Process env crypto Number}

theorem complete_eq (process : Process env crypto Number)
    (completedAt : String) (msg : JobAssignMsg)
    {output : JsValue Number} (written : output.toJson?.isSome = true) :
    ∃ wire, process.complete completedAt msg output = process.send wire ∧
      Answers process.config msg output wire := by
  rcases answer_reads process.config.builder completedAt msg.jobId written with
    ⟨wire, text, answered, _⟩
  refine ⟨wire, ?_, written, completedAt, answered⟩
  rw [complete, answered]

@[simp] theorem complete_config (completedAt : String) (msg : JobAssignMsg)
    (output : JsValue Number) :
    (process.complete completedAt msg output).config = process.config := by
  unfold complete
  split <;> rfl

@[simp] theorem complete_delivered (completedAt : String) (msg : JobAssignMsg)
    (output : JsValue Number) :
    (process.complete completedAt msg output).delivered =
      process.delivered := by
  unfold complete
  split <;> rfl

@[simp] theorem complete_received (completedAt : String) (msg : JobAssignMsg)
    (output : JsValue Number) :
    (process.complete completedAt msg output).received = process.received := by
  unfold complete
  split <;> rfl

structure Stays (process next : Process env crypto Number) : Prop where
  config : next.config = process.config
  delivered : next.delivered = process.delivered

theorem handleJob_stays (language : Worker.Language Number)
    (process : Process env crypto Number) (misfit : Misfit)
    (completedAt : String) (msg : JobAssignMsg) :
    Stays process (process.handleJob language misfit completedAt msg) ∧
      (process.handleJob language misfit completedAt msg).received =
        process.received := by
  unfold handleJob
  split
  · exact ⟨⟨complete_config .., complete_delivered ..⟩, complete_received ..⟩
  · exact ⟨⟨rfl, rfl⟩, rfl⟩
  · exact ⟨⟨rfl, rfl⟩, rfl⟩

theorem handleJob_moves (misfit : Misfit) (completedAt : String)
    (msg : JobAssignMsg) :
    Moves language process
      (process.handleJob language misfit completedAt msg) [msg] := by
  unfold handleJob
  split
  · next output begun =>
      rcases process.complete_eq completedAt msg (written_of_begun begun) with
        ⟨wire, sends, answers⟩
      rw [sends]
      exact .answer begun answers rfl rfl rfl
  · next prompt begun => exact .wait begun rfl rfl rfl
  · exact .drop rfl rfl rfl

theorem moves_of_listened {start : Start} {received : Nat}
    {next : Process env crypto Number} {heard : List JobAssignMsg}
    (moves : Moves language
      { process with start := start, received := received } next heard) :
    Moves language process next heard := by
  cases moves with
  | quiet running sent dropped => exact .quiet running sent dropped
  | beat running sent dropped => exact .beat running sent dropped
  | drop running sent dropped => exact .drop running sent dropped
  | wait begun running sent dropped => exact .wait begun running sent dropped
  | answer begun answers running sent dropped =>
    exact .answer begun answers running sent dropped
  | finish waited answers running sent dropped =>
    exact .finish waited answers running sent dropped

variable (language process) in
theorem receive_moves (misfit : Misfit) (completedAt : String)
    (message : CoordinatorToWorker) :
    Moves language process
      (process.receive language misfit completedAt message)
      (assignment? message).toList := by
  cases message with
  | jobAssign msg =>
    cases hears : process.start.hears with
    | true =>
      simp only [receive, hears, if_true]
      exact moves_of_listened (handleJob_moves misfit completedAt msg)
    | false =>
      simp only [receive, hears, Bool.false_eq_true, if_false]
      exact .drop rfl rfl rfl
  | registerAck | heartbeatAck | error | feedbackPosted | feedbackFailed =>
    exact .quiet rfl rfl rfl

variable (language process) in
theorem receive_stays (misfit : Misfit) (completedAt : String)
    (message : CoordinatorToWorker) :
    Stays process (process.receive language misfit completedAt message) ∧
      (process.receive language misfit completedAt message).received =
        process.received + 1 := by
  cases message with
  | jobAssign msg =>
    cases hears : process.start.hears with
    | true =>
      simp only [receive, hears, if_true]
      rcases handleJob_stays language { process with
          start := process.start.step (.frame (.jobAssign msg))
          received := process.received + 1 } misfit completedAt msg with
        ⟨stays, received⟩
      exact ⟨⟨stays.config, stays.delivered⟩, received⟩
    | false =>
      simp only [receive, hears, Bool.false_eq_true, if_false]
      exact ⟨⟨rfl, rfl⟩, trivial⟩
  | registerAck | heartbeatAck | error | feedbackPosted | feedbackFailed =>
    exact ⟨⟨rfl, rfl⟩, rfl⟩

variable (language process) in
theorem step_moves (event : WorkerEvent Number) :
    Moves language process (process.step event) [] := by
  cases event with
  | registrationTimeout | registered | trustClaimed | exit =>
    exact .quiet rfl rfl rfl
  | heartbeat => exact .beat rfl rfl rfl
  | inferred index inference thrown completedAt =>
    rw [step]
    split
    · next msg prompt waited =>
        rcases complete_eq { process with
            running := process.running.eraseIdx index } completedAt msg
          (infer_written thrown prompt msg.jobId inference) with
          ⟨wire, sends, answers⟩
        rw [sends]
        exact .finish waited answers rfl rfl rfl
    · exact .quiet rfl rfl rfl

theorem sent_subset_of_moves {heard : List JobAssignMsg}
    {next : Process env crypto Number}
    (moves : Moves language process next heard) : process.sent ⊆ next.sent := by
  cases moves with
  | quiet _ sent | drop _ sent | wait _ _ sent =>
    rw [sent]
    exact List.Subset.refl _
  | beat _ sent | answer _ _ _ sent | finish _ _ _ sent =>
    rw [sent]
    exact List.subset_append_left ..

theorem receive_answers {misfit : Misfit} {completedAt wire : String}
    {msg : JobAssignMsg} {output : JsValue Number}
    (hears : process.start.hears = true)
    (begun : beginJob language misfit msg process.config.program =
      .output output)
    (answers : Worker.answer process.config.builder completedAt msg.jobId
      output = some wire) :
    (process.receive language misfit completedAt (.jobAssign msg)).sent =
      process.sent ++ [wire] := by
  simp only [receive, hears, if_true, handleJob, begun, complete, answers]
  rfl

variable (process) in
theorem step_stays (event : WorkerEvent Number) :
    Stays process (process.step event) ∧
      (process.step event).received = process.received := by
  cases event with
  | registrationTimeout | registered | trustClaimed | heartbeat | exit =>
    exact ⟨⟨rfl, rfl⟩, rfl⟩
  | inferred index inference thrown completedAt =>
    rw [step]
    split
    · exact ⟨⟨complete_config .., complete_delivered ..⟩,
        complete_received ..⟩
    · exact ⟨⟨rfl, rfl⟩, rfl⟩

end Process

end Moves

/-! ## Honesty -/

section Honesty

variable {env : Environment} {crypto : Crypto} {Number : Type}
  [JsNumber Number] [NumberToString Number] (language : Worker.Language Number)
  (Told : JobAssignMsg → Prop)

inductive Wire (config : Config env crypto) : String → Prop
  | register :
      Wire config (registerJson config.registerMsg : Json Number).stringify
  | heartbeat :
      Wire config (heartbeatJson config.heartbeatMsg : Json Number).stringify
  | answer {msg : JobAssignMsg} {output : JsValue Number} {wire : String}
      (told : Told msg) (executes : Executes language config.program msg output)
      (answers : Answers config msg output wire) : Wire config wire

structure Honest (process : Process env crypto Number) : Prop where
  sent : ∀ wire ∈ process.sent, Wire language Told process.config wire
  running : ∀ entry ∈ process.running, Told entry.1 ∧
    ∃ misfit, beginJob language misfit entry.1 process.config.program =
      .inferring entry.2

variable {language Told} {process next : Process env crypto Number}
  {heard : List JobAssignMsg}

theorem Honest.opened (config : Config env crypto) :
    Honest language Told (.opened config) where
  sent wire member := by
    rw [List.mem_singleton.mp member]
    exact .register
  running := List.forall_mem_nil _

theorem Honest.mono {Later : JobAssignMsg → Prop}
    (honest : Honest language Told process)
    (implies : ∀ msg, Told msg → Later msg) :
    Honest language Later process where
  sent wire member := by
    cases honest.sent wire member with
    | register => exact .register
    | heartbeat => exact .heartbeat
    | answer told executes answers =>
      exact .answer (implies _ told) executes answers
  running entry member := by
    rcases honest.running entry member with ⟨told, begun⟩
    exact ⟨implies _ told, begun⟩

theorem Honest.of_same (honest : Honest language Told process)
    (config : next.config = process.config)
    (running : ∀ entry ∈ next.running, entry ∈ process.running)
    {more : List String} (sent : next.sent = process.sent ++ more)
    (wires : ∀ wire ∈ more, Wire language Told process.config wire) :
    Honest language Told next where
  sent wire member := by
    rw [config]
    rw [sent] at member
    rcases List.mem_append.mp member with older | newer
    · exact honest.sent wire older
    · exact wires wire newer
  running entry member := by
    rw [config]
    exact honest.running entry (running entry member)

theorem Honest.moves (honest : Honest language Told process)
    (config : next.config = process.config)
    (moves : Moves language process next heard)
    (told : ∀ msg ∈ heard, Told msg) : Honest language Told next := by
  cases moves with
  | quiet running sent =>
    refine honest.of_same config (by simp [running])
      (sent.trans (List.append_nil _).symm) (List.forall_mem_nil _)
  | beat running sent =>
    refine honest.of_same config (by simp [running]) sent ?_
    exact List.forall_mem_singleton.mpr .heartbeat
  | drop running sent =>
    exact honest.of_same config (by simp [running])
      (sent.trans (List.append_nil _).symm) (List.forall_mem_nil _)
  | @wait misfit msg prompt begun running sent =>
    refine ⟨?_, ?_⟩
    · rw [config, sent]
      exact honest.sent
    · rw [config, running]
      intro entry member
      rcases List.mem_append.mp member with older | newer
      · exact honest.running entry older
      · rw [List.mem_singleton.mp newer]
        exact ⟨told msg List.mem_cons_self, misfit, begun⟩
  | answer begun answers running sent =>
    refine honest.of_same config (by simp [running]) sent ?_
    exact List.forall_mem_singleton.mpr
      (.answer (told _ List.mem_cons_self) (.begun begun) answers)
  | finish waited answers running sent =>
    rcases honest.running _ (List.mem_of_getElem? waited) with
      ⟨known, misfit, begun⟩
    refine honest.of_same config ?_ sent ?_
    · rw [running]
      exact fun entry => List.mem_of_mem_eraseIdx
    · exact List.forall_mem_singleton.mpr
        (.answer known (.inferred begun _ _) answers)

end Honesty

/-! ## Custody -/

section Custody

variable {env : Environment} {crypto : Crypto} {Number : Type}
  [JsNumber Number] [NumberToString Number] {language : Worker.Language Number}

namespace Process

def answered (process : Process env crypto Number) : List String :=
  process.sent.filterMap (answered? Number)

def kept (process : Process env crypto Number) : List String :=
  process.running.map (fun entry => entry.1.jobId) ++ process.answered ++
    process.dropped.map JobAssignMsg.jobId

end Process

omit [NumberToString Number] in
theorem answered?_register (msg : RegisterMsg) :
    answered? Number (registerJson msg : Json Number).stringify = none := by
  rw [answered?, register_reads]

omit [NumberToString Number] in
theorem answered?_heartbeat (msg : HeartbeatMsg) :
    answered? Number (heartbeatJson msg : Json Number).stringify = none := by
  rw [answered?, heartbeat_reads]

theorem Answers.reads {config : Config env crypto} {msg : JobAssignMsg}
    {output : JsValue Number} {wire : String}
    (answers : Answers config msg output wire) :
    ∃ completedAt text, output.stringify = some text ∧
      Frame.ofText? Number wire = some (.jobComplete
        (answerMsg config.builder completedAt msg.jobId text)) := by
  rcases answers.answer with ⟨completedAt, given⟩
  rcases answer_reads config.builder completedAt msg.jobId answers.written with
    ⟨other, text, same, written, reads⟩
  rw [given, Option.some.injEq] at same
  rw [same]
  exact ⟨completedAt, text, written, reads⟩

theorem Answers.answered {config : Config env crypto} {msg : JobAssignMsg}
    {output : JsValue Number} {wire : String}
    (answers : Answers config msg output wire) :
    answered? Number wire = some msg.jobId := by
  rcases answers.reads with ⟨completedAt, text, _, reads⟩
  rw [answered?, reads]
  rfl

variable {process next : Process env crypto Number}
  {heard : List JobAssignMsg}

theorem Moves.kept (moves : Moves language process next heard) :
    (process.kept ++ heard.map JobAssignMsg.jobId).Perm next.kept := by
  rw [List.perm_iff_count]
  intro jobId
  cases moves with
  | quiet running sent dropped =>
    simp [Process.kept, Process.answered, running, sent, dropped]
  | beat running sent dropped =>
    simp [Process.kept, Process.answered, running, sent, dropped,
      answered?_heartbeat]
  | drop running sent dropped =>
    simp [Process.kept, Process.answered, running, sent, dropped]
  | wait begun running sent dropped =>
    simp only [Process.kept, Process.answered, running, sent, dropped,
      List.map_append, List.map_cons, List.map_nil, List.count_append]
    omega
  | answer begun answers running sent dropped =>
    simp only [Process.kept, Process.answered, running, sent, dropped,
      List.filterMap_append, List.filterMap_cons, List.filterMap_nil,
      answers.answered, List.map_cons, List.map_nil, List.count_append]
    omega
  | @finish index msg prompt thrown inference wire waited answers running sent
      dropped =>
      -- The job leaves the running ones and is answered.
      rcases List.getElem?_eq_some_iff.mp waited with ⟨bound, found⟩
      have split := (List.getElem_cons_eraseIdx_perm bound).map
        fun entry => entry.1.jobId
      rw [found, List.map_cons, ← List.singleton_append] at split
      have counts := split.count_eq jobId
      simp only [List.count_append] at counts
      simp only [Process.kept, Process.answered, running, sent, dropped,
        List.filterMap_append, List.filterMap_cons, List.filterMap_nil,
        answers.answered, List.map_nil, List.append_nil, List.count_append]
      omega

end Custody

end Dispatch.Deployment
