import Dispatch.Mobile.Sockets

/-! # Disconnecting

What can still happen after `disconnect()` as long as `connect()` is not called
again.
-/

namespace Dispatch.Mobile

variable {Key Output : Type}

def Frame.isSignal : Frame Key Output → Bool
  | register _ | heartbeat _ => true
  | jobReject _ _ | jobComplete _ => false

def Socket.signals (socket : Socket Key Output) : List (Frame Key Output) :=
  socket.sent.filter Frame.isSignal

structure Final (since service : Service Key Output) : Prop where
  status : service.status = .disconnected
  created : service.network.created = since.network.created
  signals : ∀ id, (service.network.sockets id).signals =
    (since.network.sockets id).signals

def Event.callsConnect : Event Key → Bool
  | .connect => true
  | .setCoordinatorUrl _ shown =>
    decide (shown = .connected ∨ shown = .reconnecting)
  | _ => false

def Service.Revives (service : Service Key Output) : Event Key → Prop
  | .publicKeyRead _ result _ | .keypairLoaded _ result _ => result.isSome
  | .message id (.registerAck status workerId) =>
    (service.network.sockets id).attached = true ∧ status = "ok" ∧
      (Service.truthy workerId).isSome
  | _ => False

/-! ## The network without a current socket -/

theorem Network.send_of_no_socket {network : Network Key Output}
    (absent : network.ws = none) (frame : Frame Key Output) :
    network.send frame = network := by
  simp only [send, absent]

theorem Network.Step.without_socket {Sends : Frame Key Output → Prop}
    {Mute : Prop} {network next : Network Key Output}
    (step : network.Step Sends Mute next) (absent : network.ws = none) :
    next.ws = none ∧ next.created = network.created ∧
      ∀ id, (next.sockets id).sent = (network.sockets id).sent := by
  cases step with
  | stay => exact ⟨absent, rfl, fun _ => rfl⟩
  | send =>
    rw [send_of_no_socket absent]
    exact ⟨absent, rfl, fun _ => rfl⟩
  | close id =>
    rcases network.close_cases id with same | ⟨-, closing⟩
    · rw [same]
      exact ⟨absent, rfl, fun _ => rfl⟩
    · rw [closing]
      exact ⟨absent, rfl, setState_sent id .closing⟩
  | closed id => exact ⟨absent, rfl, setState_sent id .closed⟩
  | detach =>
    rcases network.detach_cases with ⟨-, same⟩ | ⟨id, current, -⟩
    · rw [same]
      exact ⟨absent, rfl, fun _ => rfl⟩
    · rw [absent] at current
      cases current
  | @opened id => exact ⟨absent, rfl, setState_sent id .opened⟩
  | @register id =>
    rw [send_of_no_socket (by exact absent)]
    exact ⟨absent, rfl, setState_sent id .opened⟩

/-! ## The status and the wish to reconnect -/

namespace Service

variable (service : Service Key Output)

def control : ConnectionStatus × Bool :=
  (service.status, service.shouldReconnect)

theorem handleJobAssign_control (executor : Executor Output)
    (msg : Assignment) :
    (service.handleJobAssign executor msg).control = service.control := by
  unfold handleJobAssign
  split
  · rfl
  · split
    · rw [report_eq]
      rfl
    · rfl

theorem signed_control (call : Nat) (task : Task Output)
    (completedAt : String) (pubkey : Key) (known result : Option Key) :
    (service.signed call task completedAt pubkey known result).control =
      service.control := by
  cases result with
  | none => rfl
  | some key =>
    simp only [signed]
    rw [keepLoaded_eq]
    rfl

theorem signedOwn_control (call : Nat) (task : Task Output)
    (keys : Keys Key) (completedAt : Option String) :
    (service.signedOwn call task keys completedAt).control =
      service.control := by
  unfold signedOwn
  split <;> rfl

theorem handleRegisterAck_control {status : String} {workerId : Option String}
    (refused : ¬ (status = "ok" ∧ (truthy workerId).isSome)) :
    (service.handleRegisterAck status workerId).control = service.control := by
  unfold handleRegisterAck
  split
  case h_1 id accepted named =>
    refine absurd ⟨of_decide_eq_true accepted, ?_⟩ refused
    rw [named]
    rfl
  case h_2 => split <;> rfl

end Service

/-! ## The service after it has been disconnected -/

structure Stopped (since service : Service Key Output) : Prop
    extends Final since service where
  absent : service.network.ws = none
  stopped : service.shouldReconnect = false

theorem disconnect_stopped (service : Service Key Output) :
    Stopped service.disconnect service.disconnect := by
  refine ⟨⟨rfl, rfl, fun _ => rfl⟩, ?_, rfl⟩
  rcases service.network.detach_cases with ⟨absent, same⟩ | ⟨id, -, ws, -⟩
  · exact (congrArg Network.ws same).trans absent
  · exact ws

namespace Stopped

variable {since service : Service Key Output}

theorem opensSocket (stopped : Stopped since service) {event : Event Key}
    (dead : ¬ service.Revives event) : service.opensSocket event = false := by
  cases event with
  | publicKeyRead call result throws =>
    cases result with
    | none => rfl
    | some key => exact absurd rfl dead
  | keypairLoaded call result throws =>
    cases result with
    | none => rfl
    | some key => exact absurd rfl dead
  | timer timer throws =>
    cases throws with
    | true => rfl
    | false => simp [Service.opensSocket, stopped.stopped]
  | _ => rfl

theorem step_control (executor : Executor Output)
    (stopped : Stopped since service) {event : Event Key}
    (quiet : event.callsConnect = false) (dead : ¬ service.Revives event) :
    (step executor service event).control = (.disconnected, false) := by
  have same : service.control = (.disconnected, false) := by
    rw [Service.control, stopped.status, stopped.stopped]
  cases event with
  | connect => cases quiet
  | disconnect => rfl
  | setCoordinatorUrl url shown =>
    rw [step, Service.setCoordinatorUrl, if_neg (of_decide_eq_false quiet)]
    exact same
  | connectWallet | disconnectWallet | switchSigningMode | restored
  | walletConnected | keyStored => exact same
  | walletDisconnected ok =>
    cases ok with
    | true => exact same
    | false => exact same
  | providerConnected call ok =>
    rw [step, service.providerConnected_eq]
    exact same
  | publicKeyRead call result throws =>
    cases result with
    | none =>
      rw [step]
      split
      · exact same
      · exact same
    | some key => exact absurd rfl dead
  | keypairLoaded call result throws =>
    cases result with
    | none => exact same
    | some key => exact absurd rfl dead
  | opened id =>
    rw [step, service.onopen_eq]
    exact same
  | message id message =>
    rw [step, Service.onmessage]
    split
    case isFalse => exact same
    case isTrue attached =>
      cases message with
      | registerAck status workerId =>
        have refused : ¬ (status = "ok" ∧
            (Service.truthy workerId).isSome) :=
          fun accepted => dead ⟨attached, accepted⟩
        exact (service.handleRegisterAck_control refused).trans same
      | jobAssign msg =>
        exact (service.handleJobAssign_control executor msg).trans same
      | other => exact same
  | closed id =>
    rw [step, Service.onclose]
    split
    · simp only [stopped.stopped]
      rfl
    · exact same
  | timer timer throws =>
    have off : ¬ service.shouldReconnect = true := by
      rw [stopped.stopped]
      decide
    rw [step, Service.onTimer, if_neg off]
    exact same
  | heartbeat =>
    rw [step, service.onHeartbeat_eq]
    exact same
  | keyRead call result =>
    rw [step]
    split
    · rw [Service.keyRead_eq]
      exact same
    · exact same
  | hashed call completedAt =>
    rw [step]
    split
    · rw [Service.hashed_eq]
      exact same
    · exact same
  | signed call result =>
    rw [step]
    split
    · exact (service.signed_control _ _ _ _ _ _).trans same
    · exact same
  | signedOwn call completedAt =>
    rw [step]
    split
    · exact (service.signedOwn_control _ _ _ _).trans same
    · exact same

theorem step (executor : Executor Output) (stopped : Stopped since service)
    {event : Event Key} (enabled : service.Enabled event)
    (quiet : event.callsConnect = false) (dead : ¬ service.Revives event) :
    Stopped since (step executor service event) := by
  have control := stopped.step_control executor quiet dead
  rcases service.step_network executor enabled with ⟨opens, -⟩ | ⟨-, network⟩
  · rw [stopped.opensSocket dead] at opens
    cases opens
  · rcases network.without_socket stopped.absent with ⟨absent, created, sent⟩
    refine ⟨⟨congrArg Prod.fst control, created.trans stopped.created, ?_⟩,
      absent, congrArg Prod.snd control⟩
    intro id
    rw [← stopped.signals id, Socket.signals, Socket.signals, sent]

end Stopped

/-! ## Revival -/

theorem Service.doConnect_status {service : Service Key Output}
    {keys : Keys Key} (known : service.keys = some keys) (throws : Bool) :
    (service.doConnect throws).status = .connecting := by
  cases throws with
  | true =>
    simp only [doConnect, known, if_true, scheduleReconnect]
    split <;> rfl
  | false => simp [doConnect, known]

theorem Service.Revives.status {service : Service Key Output}
    (executor : Executor Output) {event : Event Key}
    (enabled : service.Enabled event) (revives : service.Revives event) :
    (step executor service event).status ≠ .disconnected := by
  cases event with
  | publicKeyRead call result throws =>
    rcases enabled.publicKeyRead with ⟨known, waits, -⟩
    cases result with
    | none => cases revives
    | some key =>
      simp only [step, waits, publicKeyRead]
      rw [doConnect_status rfl]
      decide
  | keypairLoaded call result throws =>
    cases result with
    | none => cases revives
    | some key =>
      simp only [step, keypairLoaded]
      rw [doConnect_status rfl]
      decide
  | message id message =>
    cases message with
    | registerAck status workerId =>
      rcases revives with ⟨attached, rfl, named⟩
      rcases Option.isSome_iff_exists.mp named with ⟨worker, truthy⟩
      simp [step, onmessage, attached, handleMessage, handleRegisterAck,
        truthy]
    | jobAssign | other => exact revives.elim
  | _ => exact revives.elim

/-- After `disconnect()` and without another `connect()`, the service stays
disconnected, makes no socket and signals nothing exactly if no suspended
`connect()` gets its key and no socket that still has its handlers is told that
it is registered. -/
theorem disconnect_final_iff (executor : Executor Output)
    {service final : Service Key Output} {events : List (Event Key)}
    (reachable : (machine Key executor).Reachable service)
    (run : (machine Key executor).Run service.disconnect events final)
    (quiet : ∀ event ∈ events, event.callsConnect = false) :
    (machine Key executor).Along (Final service.disconnect)
        service.disconnect events ↔
      (machine Key executor).Steps
        (fun service event => ¬ service.Revives event)
        service.disconnect events := by
  have enabled : (machine Key executor).Enabled service .disconnect := trivial
  have disconnected := reachable.step enabled
  constructor
  · intro along
    refine run.steps_of_along ?_ disconnected along
    intro state event _ enabled stays revives
    exact revives.status executor enabled stays.status
  · intro steps
    have stopped : (machine Key executor).Along (Stopped service.disconnect)
        service.disconnect events := by
      refine run.along ?_ disconnected (disconnect_stopped service)
        (steps.and_forall quiet)
      intro state event _ kept enabled condition
      exact kept.step executor enabled condition.2 condition.1
    exact stopped.mono fun _ => Stopped.toFinal

instance (service : Service Key Output) : DecidablePred service.Revives
  | .publicKeyRead _ _ _ | .keypairLoaded _ _ _ =>
    inferInstanceAs (Decidable (_ = _))
  | .message _ (.registerAck _ _) =>
    inferInstanceAs (Decidable (_ ∧ _ ∧ _))
  | .message _ (.jobAssign _) | .message _ .other | .connect | .disconnect
  | .setCoordinatorUrl _ _ | .connectWallet | .disconnectWallet
  | .switchSigningMode _ | .restored _ _ | .walletConnected _
  | .walletDisconnected _ | .keyStored _ _ | .providerConnected _ _
  | .opened _ | .closed _ | .timer _ _ | .heartbeat | .keyRead _ _
  | .hashed _ _ | .signed _ _ | .signedOwn _ _ =>
    inferInstanceAs (Decidable False)

namespace Sample

def afterwards : List (Event String) :=
  [.closed 0, .connectWallet, .walletConnected true]

def waiting : List (Event String) :=
  [.restored "wss://dispatch" .device, .connect]

def late : List (Event String) :=
  [.keyStored .device "key", .providerConnected 0 true,
    .publicKeyRead 0 (some "key") false, .opened 0,
    .message 0 (.registerAck "ok" (some "worker")), .heartbeat]

end Sample

theorem sample_disconnect_final :
    Sample.app.Along (Final (Sample.app.exec .initial Sample.online).disconnect)
      (Sample.app.exec .initial Sample.online).disconnect Sample.afterwards :=
  (disconnect_final_iff Sample.executor
    (.of_steps (by decide +kernel) : Sample.app.Reachable
      (Sample.app.exec .initial Sample.online))
    (.of_steps (by decide +kernel)) (by decide)).mpr (by decide +kernel)

theorem sample_disconnect_forgotten :
    Sample.app.Reachable (Sample.app.exec .initial Sample.waiting) ∧
      Sample.app.Run (Sample.app.exec .initial Sample.waiting).disconnect
        Sample.late
        (Sample.app.exec (Sample.app.exec .initial Sample.waiting).disconnect
          Sample.late) ∧
      (Sample.late.Forall fun event => event.callsConnect = false) ∧
      (Sample.app.exec (Sample.app.exec .initial Sample.waiting).disconnect
        Sample.late).status = .connected ∧
      ((Sample.app.exec (Sample.app.exec .initial Sample.waiting).disconnect
        Sample.late).network.sockets 0).sent =
          [.register "key", .heartbeat "key"] :=
  ⟨.of_steps (by decide +kernel), .of_steps (by decide +kernel), by decide,
    by decide +kernel, by decide +kernel⟩

end Dispatch.Mobile
