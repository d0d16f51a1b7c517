import Dispatch.Mobile.Network

/-! # The sockets of the phone

When the service has just one socket, and registers once on it.
-/

namespace Dispatch.Mobile

variable {Key Output : Type}

/-! ## One socket -/

def Network.Live (network : Network Key Output) (id : Nat) : Prop :=
  (network.sockets id).attached = true ∧
    (network.sockets id).readyState ≠ .closed

instance (network : Network Key Output) (id : Nat) :
    Decidable (network.Live id) :=
  inferInstanceAs (Decidable (_ ∧ _))

def Socket.registrations (socket : Socket Key Output) : Nat :=
  socket.sent.countP Frame.isRegister

structure Network.Sole (network : Network Key Output) : Prop where
  live : ∀ id, network.Live id → network.ws = some id
  registrations : ∀ id, (network.sockets id).registrations ≤ 1

structure Network.Tracked (network : Network Key Output) : Prop where
  current : ∀ id, network.ws = some id →
    id < network.created ∧ (network.sockets id).attached = true
  unmade : ∀ id, network.created ≤ id → network.sockets id = .absent
  silent : ∀ id, (network.sockets id).readyState = .connecting →
    (network.sockets id).sent = []

namespace Network

variable {network next : Network Key Output}
  {Sends : Frame Key Output → Prop} {Mute : Prop}

theorem send_registrations {frame : Frame Key Output}
    (other : frame.isRegister = false) (id : Nat) :
    ((network.send frame).sockets id).registrations =
      (network.sockets id).registrations := by
  rcases network.send_cases frame with same | ⟨current, -, -, sent⟩
  · rw [same]
  · rw [sent]
    refine forall_modify (fun before after =>
      after.registrations = before.registrations) (fun _ => rfl) ?_ id
    simp [Socket.registrations, other]

namespace Tracked

theorem step (tracked : network.Tracked) (step : network.Step Sends Mute next) :
    next.Tracked := by
  rcases step.kept with rfl | ⟨ws, created, kept⟩
  · rcases network.detach_cases with
      ⟨-, same⟩ | ⟨id, current, ws, created, -, notConnecting, -, others⟩
    · rw [same]
      exact tracked
    · have made := (tracked.current id current).1
      refine ⟨?_, ?_, ?_⟩
      · intro other currently
        rw [ws] at currently
        cases currently
      · intro other later
        rw [created] at later
        rw [others other (by omega)]
        exact tracked.unmade other later
      · intro other connecting
        by_cases same : other = id
        · subst same
          exact absurd connecting notConnecting
        · rw [others other same] at connecting ⊢
          exact tracked.silent other connecting
  · refine ⟨?_, ?_, ?_⟩
    · intro id current
      rw [ws] at current
      rw [created, (kept id).attached]
      exact tracked.current id current
    · intro id later
      rw [created] at later
      exact (kept id).absent (tracked.unmade id later)
    · intro id connecting
      rcases (kept id).connecting connecting with ⟨before, sent⟩
      exact sent.trans (tracked.silent id before)

theorem openSocket (tracked : network.Tracked) (url : String) :
    (network.openSocket url).Tracked := by
  refine ⟨?_, ?_, ?_⟩
  · intro id current
    cases current
    refine ⟨Nat.lt_succ_self _, ?_⟩
    simp [Network.openSocket]
  · intro id later
    have different : id ≠ network.created := by
      simp only [Network.openSocket] at later
      omega
    have before : network.created ≤ id := Nat.le_of_succ_le later
    simp only [Network.openSocket, Function.update_of_ne different]
    exact tracked.unmade id before
  · intro id connecting
    by_cases same : id = network.created
    · subst same
      simp [Network.openSocket]
    · simp only [Network.openSocket, Function.update_of_ne same] at connecting ⊢
      exact tracked.silent id connecting

end Tracked

namespace Sole

theorem live_step (sole : network.Sole)
    (step : network.Step Sends Mute next) {id : Nat} (live : next.Live id) :
    next.ws = some id := by
  rcases step.kept with rfl | ⟨ws, -, kept⟩
  · rcases network.detach_cases with
      ⟨-, same⟩ | ⟨current, ws, -, -, detached, -, -, others⟩
    · rw [same] at live ⊢
      exact sole.live id live
    · by_cases same : id = current
      · subst same
        have attached := live.1
        rw [detached] at attached
        cases attached
      · unfold Live at live
        rw [others id same] at live
        have before := sole.live id live
        rw [ws] at before
        exact absurd (Option.some.inj before).symm same
  · have before : network.Live id :=
      ⟨(kept id).attached.symm.trans live.1, fun closed =>
        live.2 ((kept id).closed closed)⟩
    rw [ws]
    exact sole.live id before

theorem registrations_step (sole : network.Sole) (tracked : network.Tracked)
    (step : network.Step Sends Mute next) (id : Nat) :
    (next.sockets id).registrations ≤ 1 := by
  have before := sole.registrations id
  cases step with
  | stay => exact before
  | send _ other =>
    rw [send_registrations other]
    exact before
  | close current =>
    rcases network.close_cases current with same | ⟨-, closing⟩
    · rw [same]
      exact before
    · rw [closing, Socket.registrations, setState_sent]
      exact before
  | closed current =>
    rw [Socket.registrations, setState_sent]
    exact before
  | detach =>
    rcases network.detach_cases with
      ⟨-, same⟩ | ⟨current, -, -, -, -, -, sent, others⟩
    · rw [same]
      exact before
    · by_cases same : id = current
      · subst same
        rw [Socket.registrations, sent]
        exact before
      · rw [others id same]
        exact before
  | opened =>
    rw [Socket.registrations, setState_sent]
    exact before
  | @register opened connecting attached key _ =>
    have current := sole.live opened ⟨attached, by rw [connecting]; nofun⟩
    have silent := tracked.silent opened connecting
    rcases send_cases (network.setState opened .opened) (.register key) with
      same | ⟨target, ws, -, sent⟩
    · rw [same, Socket.registrations, setState_sent]
      exact before
    · have target : target = opened :=
        Option.some.inj (ws.symm.trans current)
      subst target
      rw [sent]
      by_cases same : id = target
      · subst same
        rw [modify_self, Socket.registrations, setState_sent, silent]
        rfl
      · rw [modify_other same, Socket.registrations, setState_sent]
        exact before

theorem step (sole : network.Sole) (tracked : network.Tracked)
    (step : network.Step Sends Mute next) : next.Sole :=
  ⟨fun _ => sole.live_step step, sole.registrations_step tracked step⟩

theorem openSocket (sole : network.Sole)
    (free : ∀ id, network.ws = some id →
      (network.sockets id).readyState = .closed) (url : String) :
    (network.openSocket url).Sole := by
  refine ⟨?_, ?_⟩
  · intro id live
    by_cases same : id = network.created
    · rw [same]
      rfl
    · unfold Live at live
      simp only [Network.openSocket, Function.update_of_ne same] at live
      exact absurd (free id (sole.live id live)) live.2
  · intro id
    by_cases same : id = network.created
    · subst same
      simp [Network.openSocket, Socket.registrations]
    · simp only [Network.openSocket, Function.update_of_ne same]
      exact sole.registrations id

end Sole

theorem Sole.initial :
    (Service.initial : Service Key Output).network.Sole := by
  refine ⟨?_, fun _ => Nat.zero_le 1⟩
  intro id live
  cases live.1

theorem Tracked.initial :
    (Service.initial : Service Key Output).network.Tracked :=
  ⟨nofun, fun _ _ => rfl, nofun⟩

theorem Tracked.step_service (executor : Executor Output)
    {service : Service Key Output} (tracked : service.network.Tracked)
    {event : Event Key} (enabled : service.Enabled event) :
    (Mobile.step executor service event).network.Tracked := by
  rcases service.step_network executor enabled with ⟨-, opens⟩ | ⟨-, step⟩
  · rw [opens]
    exact tracked.openSocket service.coordinatorUrl
  · exact tracked.step step

theorem not_sole_openSocket (tracked : network.Tracked) {id : Nat}
    (current : network.ws = some id)
    (busy : (network.sockets id).readyState ≠ .closed) (url : String) :
    ¬ (network.openSocket url).Sole := by
  intro sole
  rcases tracked.current id current with ⟨made, attached⟩
  have different : id ≠ network.created := by omega
  have live : (network.openSocket url).Live id := by
    unfold Live
    simp only [Network.openSocket, Function.update_of_ne different]
    exact ⟨attached, busy⟩
  have same := sole.live id live
  exact different (Option.some.inj same).symm

end Network

/-! ## Whole runs -/

theorem reachable_tracked (executor : Executor Output)
    {service : Service Key Output}
    (reachable : (machine Key executor).Reachable service) :
    service.network.Tracked := by
  refine reachable.invariant (fun service => service.network.Tracked)
    .initial ?_
  intro service event _ tracked enabled
  exact tracked.step_service executor enabled

def Service.Overwrites (service : Service Key Output) (event : Event Key) :
    Prop :=
  service.opensSocket event = true ∧
    ∃ id ∈ service.network.ws,
      (service.network.sockets id).readyState ≠ .closed

instance (service : Service Key Output) (event : Event Key) :
    Decidable (service.Overwrites event) :=
  inferInstanceAs (Decidable (_ ∧ _))

theorem Network.Sole.step_service (executor : Executor Output)
    {service : Service Key Output} (sole : service.network.Sole)
    (tracked : service.network.Tracked) {event : Event Key}
    (enabled : service.Enabled event) (fresh : ¬ service.Overwrites event) :
    (Mobile.step executor service event).network.Sole := by
  rcases service.step_network executor enabled with
    ⟨opens, network⟩ | ⟨-, step⟩
  · rw [network]
    apply sole.openSocket
    intro id current
    by_contra busy
    exact fresh ⟨opens, id, current, busy⟩
  · exact sole.step tracked step

/-- The service has at most one socket at every moment of a run, the one in
`this.ws`, and registers at most once on each, exactly if it makes no socket
while it has one. -/
theorem one_socket_iff (executor : Executor Output)
    {final : Service Key Output} {events : List (Event Key)}
    (run : (machine Key executor).Run (machine Key executor).initial events
      final) :
    (machine Key executor).Along (fun service => service.network.Sole)
        (machine Key executor).initial events ↔
      (machine Key executor).Steps
        (fun service event => ¬ service.Overwrites event)
        (machine Key executor).initial events := by
  have base : (Service.initial : Service Key Output).network.Sole :=
    .initial
  refine run.along_iff ?_ ?_ .start base
  · intro service event reachable sole enabled fresh
    exact sole.step_service executor (reachable_tracked executor reachable)
      enabled fresh
  · intro service event reachable enabled sole overwrites
    have tracked := reachable_tracked executor reachable
    rcases overwrites with ⟨opens, id, current, busy⟩
    rcases service.step_network executor enabled with
      ⟨-, network⟩ | ⟨never, -⟩
    · have broken := Network.not_sole_openSocket tracked current busy
        service.coordinatorUrl
      rw [← network] at broken
      exact broken sole
    · rw [opens] at never
      cases never

namespace Sample

def executor : Executor String where
  executeTask taskType input := .ok (taskType ++ input)
  failure message := message

abbrev app := machine String executor

def online : List (Event String) :=
  [.restored "wss://dispatch" .device, .connect, .keyStored .device "key",
    .providerConnected 0 true, .publicKeyRead 0 (some "key") false, .opened 0,
    .message 0 (.registerAck "ok" (some "worker"))]

def reconnected : List (Event String) :=
  online ++ [.closed 0, .timer 0 false, .opened 1]

def doubled : List (Event String) :=
  [.restored "wss://dispatch" .device, .connect, .connect,
    .keyStored .device "key", .providerConnected 0 true,
    .providerConnected 1 true, .publicKeyRead 0 (some "key") false,
    .publicKeyRead 1 (some "key") false, .opened 1, .opened 0]

end Sample

theorem sample_reconnection_sole :
    Sample.app.Along (fun service => service.network.Sole) .initial
      Sample.reconnected :=
  (one_socket_iff Sample.executor (.of_steps (by decide +kernel))).mpr
    (by decide +kernel)

theorem sample_double_connect :
    Sample.app.Run .initial Sample.doubled
        (Sample.app.exec .initial Sample.doubled) ∧
      (Sample.app.exec .initial Sample.doubled).network.Live 0 ∧
      (Sample.app.exec .initial Sample.doubled).network.Live 1 ∧
      (Sample.app.exec .initial Sample.doubled).network.ws = some 1 ∧
      ((Sample.app.exec .initial Sample.doubled).network.sockets
        1).registrations = 2 :=
  ⟨.of_steps (by decide +kernel), by decide +kernel, by decide +kernel,
    by decide +kernel, by decide +kernel⟩

end Dispatch.Mobile
