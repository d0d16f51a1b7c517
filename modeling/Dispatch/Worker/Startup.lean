import Dispatch.Foundation.Execution
import Dispatch.Protocol

/-! # How a Node worker starts

`WorkerRuntime.start` of the CLI and `main` of the desktop worker.
-/

namespace Dispatch.Worker.Startup

inductive Program
  | cli
  | desktop
  deriving DecidableEq

structure Config where
  program : Program
  trustPairingCode : Option String

inductive Frame
  | registerAck (status : String) (workerId error : Option String)
  | jobAssign (msg : JobAssignMsg)
  | other
  deriving DecidableEq

inductive Listener
  /-- `onMessage` in `registerWorker` -/
  | registration
  | jobs
  deriving DecidableEq

inductive Phase
  | registering
  | claiming
  | started
  | failed
  deriving DecidableEq

structure Runtime where
  listeners : List Listener
  registration : Option (Except String String)
  timer : Bool
  phase : Phase
  socketOpen : Bool
  acked : Bool
  received : List JobAssignMsg
  /-- The calls of `handleJob`. -/
  handled : List JobAssignMsg

def Runtime.initial : Runtime where
  listeners := [.registration]
  registration := none
  timer := true
  phase := .registering
  socketOpen := true
  acked := false
  received := []
  handled := []

/-! ## Registration -/

def settle (outcome : Except String String) (runtime : Runtime) : Runtime :=
  { runtime with registration := runtime.registration.or (some outcome) }

def removeListener (listener : Listener) (runtime : Runtime) : Runtime :=
  { runtime with listeners := runtime.listeners.filter (· ≠ listener) }

def registrationOutcome (status : String) (workerId error : Option String) :
    Except String String :=
  match workerId.filter (· ≠ "") with
  | some workerId =>
    if status = "ok" then .ok workerId
    else .error ("Registration failed: " ++ error.getD "unknown")
  | none => .error ("Registration failed: " ++ error.getD "unknown")

def registrationMessage (config : Config) (frame : Frame)
    (runtime : Runtime) : Runtime :=
  match frame with
  | .registerAck status workerId error =>
    let runtime := removeListener .registration runtime
    let runtime :=
      if config.program = .cli then { runtime with timer := false }
      else runtime
    settle (registrationOutcome status workerId error) runtime
  | .jobAssign _ | .other => runtime

def registrationTimeout (runtime : Runtime) : Runtime :=
  settle (.error "Registration timeout")
    { removeListener .registration runtime with timer := false }

/-! ## Jobs -/

def handleMessage (frame : Frame) (runtime : Runtime) : Runtime :=
  match frame with
  | .jobAssign msg => { runtime with handled := runtime.handled ++ [msg] }
  | .registerAck _ _ _ | .other => runtime

def listen (runtime : Runtime) : Runtime :=
  { runtime with
      listeners := runtime.listeners ++ [.jobs]
      phase := .started }

def registered (config : Config) (runtime : Runtime) : Runtime :=
  match runtime.registration with
  | some (.ok _) =>
    match config.trustPairingCode.filter (· ≠ "") with
    | some _ => { runtime with phase := .claiming }
    | none => listen runtime
  | some (.error _) => { runtime with phase := .failed }
  | none => runtime

def trustClaimed (_ : Except String String) (runtime : Runtime) : Runtime :=
  listen runtime

/-! ## The machine -/

inductive Event
  | frame (frame : Frame)
  | registrationTimeout
  | registered
  | trustClaimed (outcome : Except String String)
  | close

def note (frame : Frame) (runtime : Runtime) : Runtime :=
  match frame with
  | .registerAck _ _ _ => { runtime with acked := true }
  | .jobAssign msg =>
    if runtime.acked then
      { runtime with received := runtime.received ++ [msg] }
    else
      runtime
  | .other => runtime

def deliver (config : Config) (frame : Frame) (runtime : Runtime)
    (listener : Listener) : Runtime :=
  match listener with
  | .registration => registrationMessage config frame runtime
  | .jobs => handleMessage frame runtime

def emit (config : Config) (frame : Frame) (runtime : Runtime) : Runtime :=
  runtime.listeners.foldl (deliver config frame) (note frame runtime)

def step (config : Config) (runtime : Runtime) : Event → Runtime
  | .frame frame => emit config frame runtime
  | .registrationTimeout => registrationTimeout runtime
  | .registered => registered config runtime
  | .trustClaimed outcome => trustClaimed outcome runtime
  | .close => { runtime with socketOpen := false }

def alive (config : Config) (runtime : Runtime) : Bool :=
  config.program = .cli || runtime.phase ≠ .failed

def enabled (config : Config) (runtime : Runtime) : Event → Bool
  | .frame _ | .close => alive config runtime && runtime.socketOpen
  | .registrationTimeout => alive config runtime && runtime.timer
  | .registered =>
    runtime.phase = .registering && runtime.registration.isSome
  | .trustClaimed _ => runtime.phase = .claiming

def machine (config : Config) : Machine Runtime Event where
  initial := .initial
  Enabled runtime event := enabled config runtime event = true
  step := step config

instance (config : Config) (runtime : Runtime) (event : Event) :
    Decidable ((machine config).Enabled runtime event) :=
  inferInstanceAs (Decidable (_ = true))

/-! ## Listeners -/

structure Tracked (runtime : Runtime) : Prop where
  listeners : runtime.listeners =
    if runtime.phase = .started then [.jobs]
    else if runtime.registration = none then [.registration]
    else []
  acked : ∀ workerId, runtime.registration = some (.ok workerId) →
    runtime.acked = true
  settled : runtime.phase ≠ .registering → runtime.registration ≠ none
  accepted : runtime.phase = .claiming ∨ runtime.phase = .started →
    ∃ workerId, runtime.registration = some (.ok workerId)
  handled : runtime.handled.Sublist runtime.received

namespace Tracked

variable {config : Config} {runtime : Runtime}

theorem initial : Tracked .initial where
  listeners := rfl
  acked := nofun
  settled different := absurd rfl different
  accepted := nofun
  handled := List.Sublist.slnil

theorem emit_started (tracked : Tracked runtime)
    (started : runtime.phase = .started) (frame : Frame) :
    emit config frame runtime = handleMessage frame (note frame runtime) := by
  rw [emit, tracked.listeners, if_pos started]
  rfl

theorem emit_registering (tracked : Tracked runtime)
    (unstarted : runtime.phase ≠ .started)
    (pending : runtime.registration = none) (frame : Frame) :
    emit config frame runtime =
      registrationMessage config frame (note frame runtime) := by
  rw [emit, tracked.listeners, if_neg unstarted, if_pos pending]
  rfl

theorem emit_unheard (tracked : Tracked runtime)
    (unstarted : runtime.phase ≠ .started)
    (settled : runtime.registration ≠ none) (frame : Frame) :
    emit config frame runtime = note frame runtime := by
  rw [emit, tracked.listeners, if_neg unstarted, if_neg settled]
  rfl

theorem listening_iff (tracked : Tracked runtime) :
    .jobs ∈ runtime.listeners ↔ runtime.phase = .started := by
  rw [tracked.listeners]
  split
  · next started => exact iff_of_true (List.mem_singleton.mpr rfl) started
  · next unstarted =>
      refine iff_of_false ?_ unstarted
      split
      · decide
      · exact List.not_mem_nil

theorem acked_of_started (tracked : Tracked runtime)
    (started : runtime.phase = .started) : runtime.acked = true := by
  rcases tracked.accepted (.inr started) with ⟨workerId, accepted⟩
  exact tracked.acked workerId accepted

theorem note (tracked : Tracked runtime) (frame : Frame) :
    Tracked (Startup.note frame runtime) := by
  rcases tracked with ⟨listeners, acked, settled, accepted, handled⟩
  cases frame with
  | registerAck => exact ⟨listeners, fun _ _ => rfl, settled, accepted, handled⟩
  | jobAssign msg =>
    unfold Startup.note
    dsimp only
    split
    · exact ⟨listeners, acked, settled, accepted,
        handled.trans (List.sublist_append_left _ _)⟩
    · exact ⟨listeners, acked, settled, accepted, handled⟩
  | other => exact ⟨listeners, acked, settled, accepted, handled⟩

theorem registrationMessage (tracked : Tracked runtime)
    (pending : runtime.registration = none) (frame : Frame) :
    Tracked (Startup.registrationMessage config frame
      (Startup.note frame runtime)) := by
  have registering : runtime.phase = .registering := by
    by_contra other
    exact tracked.settled other pending
  have attached : runtime.listeners = [.registration] := by
    rw [tracked.listeners, registering, pending]
    rfl
  cases frame with
  | registerAck status workerId error =>
    unfold Startup.registrationMessage Startup.note settle removeListener
    dsimp only
    split
    all_goals
      exact
        { listeners := by simp [attached, registering]
          acked := fun _ _ => rfl
          settled := fun different => absurd registering different
          accepted := by simp [registering]
          handled := tracked.handled }
  | jobAssign msg => exact tracked.note (.jobAssign msg)
  | other => exact tracked

theorem emit (tracked : Tracked runtime) (frame : Frame) :
    Tracked (Startup.emit config frame runtime) := by
  by_cases started : runtime.phase = .started
  · rw [tracked.emit_started started]
    cases frame with
    | registerAck status workerId error =>
      exact tracked.note (.registerAck status workerId error)
    | other => exact tracked.note .other
    | jobAssign msg =>
      have acked := tracked.acked_of_started started
      simp only [handleMessage, Startup.note, acked, if_true]
      exact ⟨tracked.listeners, fun _ _ => rfl, tracked.settled,
        tracked.accepted, tracked.handled.append (List.Sublist.refl _)⟩
  · by_cases pending : runtime.registration = none
    · rw [tracked.emit_registering started pending]
      exact tracked.registrationMessage pending frame
    · rw [tracked.emit_unheard started pending]
      exact tracked.note frame

theorem listen (tracked : Tracked runtime)
    (unstarted : runtime.phase ≠ .started) {workerId : String}
    (accepted : runtime.registration = some (.ok workerId)) :
    Tracked (Startup.listen runtime) where
  listeners := by
    have none : runtime.listeners = [] := by
      rw [tracked.listeners, if_neg unstarted, if_neg (by simp [accepted])]
    simp [Startup.listen, none]
  acked := tracked.acked
  settled _ := by simp [Startup.listen, accepted]
  accepted _ := ⟨workerId, accepted⟩
  handled := tracked.handled

theorem registrationTimeout (tracked : Tracked runtime) :
    Tracked (Startup.registrationTimeout runtime) := by
  have kept : ∀ workerId,
      (runtime.registration.or (some (.error "Registration timeout")) =
        some (.ok workerId) ↔ runtime.registration = some (.ok workerId)) := by
    intro workerId
    cases runtime.registration <;> simp
  refine ⟨?_, ?_, ?_, ?_, tracked.handled⟩
  · simp only [Startup.registrationTimeout, settle, removeListener,
      tracked.listeners]
    split
    · decide
    · simp
  · intro workerId accepted
    exact tracked.acked workerId ((kept workerId).mp accepted)
  · intro _
    simp [Startup.registrationTimeout, settle]
  · intro waiting
    rcases tracked.accepted waiting with ⟨workerId, accepted⟩
    exact ⟨workerId, (kept workerId).mpr accepted⟩

theorem registered (tracked : Tracked runtime)
    (registering : runtime.phase = .registering)
    (settled : runtime.registration.isSome = true) :
    Tracked (Startup.registered config runtime) := by
  have unheard : runtime.listeners = [] := by
    rw [tracked.listeners, if_neg (by simp [registering]),
      if_neg (Option.ne_none_iff_isSome.mpr settled)]
  unfold Startup.registered
  cases outcome : runtime.registration with
  | none => exact tracked
  | some outcome' =>
    cases outcome' with
    | error message =>
      exact ⟨by simp [unheard], nofun, fun _ => nofun, by simp,
        tracked.handled⟩
    | ok workerId =>
      dsimp only
      split
      · exact ⟨by simp [unheard],
          fun _ _ => tracked.acked workerId outcome, fun _ => nofun,
          fun _ => ⟨workerId, rfl⟩, tracked.handled⟩
      · exact tracked.listen (by simp [registering]) outcome

theorem step (tracked : Tracked runtime) {event : Event}
    (enabled : (machine config).Enabled runtime event) :
    Tracked ((machine config).step runtime event) := by
  cases event with
  | frame frame => exact tracked.emit frame
  | registrationTimeout => exact tracked.registrationTimeout
  | registered =>
    have both := (Bool.and_eq_true _ _).mp enabled
    exact tracked.registered (of_decide_eq_true both.1) both.2
  | trustClaimed outcome =>
    have claiming : runtime.phase = .claiming := of_decide_eq_true enabled
    rcases tracked.accepted (.inl claiming) with ⟨workerId, accepted⟩
    exact tracked.listen (by simp [claiming]) accepted
  | close =>
    exact ⟨tracked.listeners, tracked.acked, tracked.settled,
      tracked.accepted, tracked.handled⟩

end Tracked

theorem reachable_tracked (config : Config) {runtime : Runtime}
    (reachable : (machine config).Reachable runtime) : Tracked runtime :=
  reachable.invariant Tracked .initial
    fun _ _ _ tracked enabled => tracked.step enabled

/-! ## Assignments -/

def NoneLost (runtime : Runtime) : Prop := runtime.handled = runtime.received

instance : DecidablePred NoneLost := fun _ =>
  inferInstanceAs (Decidable (_ = _))

def Unheard (runtime : Runtime) : Event → Prop
  | .frame (.jobAssign _) =>
    runtime.acked = true ∧ .jobs ∉ runtime.listeners
  | _ => False

instance (runtime : Runtime) : DecidablePred (Unheard runtime)
  | .frame (.jobAssign _) => inferInstanceAs (Decidable (_ ∧ _))
  | .frame (.registerAck _ _ _) | .frame .other | .registrationTimeout
  | .registered | .trustClaimed _ | .close => inferInstanceAs (Decidable False)

theorem step_same (config : Config) (runtime : Runtime) (event : Event) :
    (∃ frame, event = .frame frame) ∨
      (step config runtime event).handled = runtime.handled ∧
      (step config runtime event).received = runtime.received := by
  cases event with
  | frame frame => exact .inl ⟨frame, rfl⟩
  | registrationTimeout | trustClaimed | close => exact .inr ⟨rfl, rfl⟩
  | registered =>
    right
    unfold step registered
    dsimp only
    split
    · split <;> exact ⟨rfl, rfl⟩
    · exact ⟨rfl, rfl⟩
    · exact ⟨rfl, rfl⟩

theorem note_jobAssign {runtime : Runtime} (acked : runtime.acked = true)
    (msg : JobAssignMsg) :
    note (.jobAssign msg) runtime =
      { runtime with received := runtime.received ++ [msg] } := by
  rw [note, if_pos acked]

theorem emit_history (config : Config) {runtime : Runtime}
    (tracked : Tracked runtime) (frame : Frame) :
    (∃ msg, frame = .jobAssign msg ∧ .jobs ∈ runtime.listeners ∧
      (emit config frame runtime).handled = runtime.handled ++ [msg] ∧
      (emit config frame runtime).received = runtime.received ++ [msg]) ∨
    (∃ msg, Unheard runtime (.frame frame) ∧
      (emit config frame runtime).handled = runtime.handled ∧
      (emit config frame runtime).received = runtime.received ++ [msg]) ∨
    ¬ Unheard runtime (.frame frame) ∧
      (emit config frame runtime).handled = runtime.handled ∧
      (emit config frame runtime).received = runtime.received := by
  by_cases started : runtime.phase = .started
  · rw [tracked.emit_started started]
    cases frame with
    | jobAssign msg =>
      have acked := tracked.acked_of_started started
      rw [note_jobAssign acked]
      exact .inl ⟨msg, rfl, tracked.listening_iff.mpr started, rfl, rfl⟩
    | registerAck | other => exact .inr (.inr ⟨id, rfl, rfl⟩)
  · have silent := mt tracked.listening_iff.mp started
    have passive : (emit config frame runtime).handled =
          (note frame runtime).handled ∧
        (emit config frame runtime).received =
          (note frame runtime).received := by
      by_cases pending : runtime.registration = none
      · rw [tracked.emit_registering started pending]
        cases frame with
        | registerAck =>
          unfold registrationMessage
          dsimp only
          split <;> exact ⟨rfl, rfl⟩
        | jobAssign | other => exact ⟨rfl, rfl⟩
      · rw [tracked.emit_unheard started pending]
        exact ⟨rfl, rfl⟩
    rw [passive.1, passive.2]
    cases frame with
    | jobAssign msg =>
      by_cases acked : runtime.acked = true
      · rw [note_jobAssign acked]
        exact .inr (.inl ⟨msg, ⟨acked, silent⟩, rfl, rfl⟩)
      · rw [note, if_neg acked]
        exact .inr (.inr ⟨fun unheard => acked unheard.1, rfl, rfl⟩)
    | registerAck | other => exact .inr (.inr ⟨id, rfl, rfl⟩)

theorem step_noneLost (config : Config) {runtime : Runtime} {event : Event}
    (tracked : Tracked runtime) (kept : NoneLost runtime)
    (heard : ¬ Unheard runtime event) :
    NoneLost (step config runtime event) := by
  unfold NoneLost at kept ⊢
  rcases step_same config runtime event with
    ⟨frame, rfl⟩ | ⟨handled, received⟩
  · rcases emit_history config tracked frame with
      ⟨msg, _, _, handled, received⟩ | ⟨msg, unheard, _, _⟩ |
        ⟨_, handled, received⟩
    · exact handled.trans ((congrArg (· ++ [msg]) kept).trans received.symm)
    · exact absurd unheard heard
    · exact handled.trans (kept.trans received.symm)
  · exact handled.trans (kept.trans received.symm)

theorem unheard_lost (config : Config) {runtime : Runtime} {event : Event}
    (tracked : Tracked runtime) (unheard : Unheard runtime event) :
    ¬ NoneLost (step config runtime event) := by
  cases event with
  | frame frame =>
    rcases emit_history config tracked frame with
      ⟨msg, rfl, listening, _, _⟩ | ⟨msg, _, handled, received⟩ |
        ⟨heard, _, _⟩
    · exact absurd listening unheard.2
    · intro kept
      have same : runtime.handled = runtime.received ++ [msg] :=
        handled.symm.trans (Eq.trans kept received)
      have shorter := tracked.handled.length_le
      rw [same, List.length_append, List.length_singleton] at shorter
      omega
    · exact absurd unheard heard
  | registrationTimeout | registered | trustClaimed | close =>
    exact unheard.elim

/-- No assignment is lost in a run exactly if none arrives between the
acknowledgement and the moment the listener for jobs is attached. -/
theorem assignments_handled_iff_heard (config : Config) {final : Runtime}
    {events : List Event}
    (run : (machine config).Run (machine config).initial events final) :
    (machine config).Along NoneLost (machine config).initial events ↔
      (machine config).Steps (fun runtime event => ¬ Unheard runtime event)
        (machine config).initial events := by
  have base : NoneLost (machine config).initial := rfl
  refine run.along_iff ?_ ?_ .start base
  · intro runtime event reachable kept _ heard
    exact step_noneLost config (reachable_tracked config reachable) kept heard
  · intro runtime event reachable _ kept unheard
    exact unheard_lost config (reachable_tracked config reachable) unheard kept

namespace Sample

def job : JobAssignMsg where
  jobId := "job-1"
  jobType := .task
  payload := "\x7b\"task_type\":\"summarize\",\"input\":\"text\"\x7d"
  policy := .cheap
  privacyClass := PrivacyClass.PUBLIC
  userId := "user-1"

def ack : Event := .frame (.registerAck "ok" (some "worker-1") none)

def config (program : Program) (code : Option String) : Config where
  program := program
  trustPairingCode := code

def calm : List Event :=
  [ack, .registered, .trustClaimed (.ok "user-1"), .frame (.jobAssign job)]

def hasty : List Event :=
  [ack, .registered, .frame (.jobAssign job), .trustClaimed (.ok "user-1")]

def joined : List Event := [ack, .frame (.jobAssign job), .registered]

end Sample

theorem sample_calm_assignment_handled :
    (machine (Sample.config .cli (some "code"))).Along NoneLost .initial
      Sample.calm :=
  (assignments_handled_iff_heard (Sample.config .cli (some "code"))
    (.of_steps (by decide))).mpr (by decide)

theorem sample_hasty_assignment_lost :
    [Program.cli, Program.desktop].Forall fun program =>
      (machine (Sample.config program (some "code"))).Run .initial Sample.hasty
          ((machine (Sample.config program (some "code"))).exec .initial
            Sample.hasty) ∧
        ¬ NoneLost ((machine (Sample.config program (some "code"))).exec
          .initial Sample.hasty) ∧
        (machine (Sample.config program none)).Run .initial Sample.joined
          ((machine (Sample.config program none)).exec .initial
            Sample.joined) ∧
        ¬ NoneLost ((machine (Sample.config program none)).exec .initial
          Sample.joined) :=
  ⟨⟨.of_steps (by decide), by decide, .of_steps (by decide), by decide⟩,
    ⟨.of_steps (by decide), by decide, .of_steps (by decide), by decide⟩⟩

end Dispatch.Worker.Startup
