import Dispatch.Mobile.WebSocketService

/-! # Steps of the phone's sockets

What the events do to the sockets that the service has made.
-/

namespace Dispatch.Mobile

variable {Key Output : Type}

def Frame.isRegister : Frame Key Output → Bool
  | register _ => true
  | heartbeat _ | jobReject _ _ | jobComplete _ => false

/-! ## What a step does to the sockets -/

inductive Network.Step (Sends : Frame Key Output → Prop) (Mute : Prop)
    (network : Network Key Output) : Network Key Output → Prop
  | stay : Step Sends Mute network network
  | send {frame} (sends : Sends frame) (other : frame.isRegister = false) :
      Step Sends Mute network (network.send frame)
  | close (id) : Step Sends Mute network (network.close id)
  | closed (id) : Step Sends Mute network (network.setState id .closed)
  | detach : Step Sends Mute network network.detach
  | opened {id} (connecting : (network.sockets id).readyState = .connecting)
      (silent : (network.sockets id).attached = false ∨ Mute) :
      Step Sends Mute network (network.setState id .opened)
  | register {id} (connecting : (network.sockets id).readyState = .connecting)
      (attached : (network.sockets id).attached = true)
      {key} (sends : Sends (.register key)) :
      Step Sends Mute network
        ((network.setState id .opened).send (.register key))

inductive Service.Sends (service : Service Key Output) :
    Event Key → Frame Key Output → Prop
  | register (id) {keys} (known : service.keys = some keys) :
      Sends service (.opened id) (.register keys.pubkey)
  | reject (id message jobId reason) :
      Sends service (.message id message) (.jobReject jobId reason)
  | heartbeat (key) : Sends service .heartbeat (.heartbeat key)
  | complete {call task completedAt pubkey known}
      (waits : service.jobs call =
        some (.signing task completedAt pubkey known)) (key) :
      Sends service (.signed call (some key)) (.jobComplete
        { jobId := task.jobId, output := task.output,
          completedAt := completedAt, provider := pubkey, signer := key })
  | completeOwn {call task key}
      (waits : service.jobs call = some (.signingOwn task (.keypair key)))
      (completedAt) :
      Sends service (.signedOwn call (some completedAt)) (.jobComplete
        { jobId := task.jobId, output := task.output,
          completedAt := completedAt, provider := key, signer := key })

namespace Service

variable (service : Service Key Output)

def opensSocket : Event Key → Bool
  | .publicKeyRead _ (some _) false | .keypairLoaded _ (some _) false => true
  | .timer _ false => service.shouldReconnect && service.keys.isSome
  | _ => false

theorem doConnect_network {keys : Keys Key} (throws : Bool)
    (known : service.keys = some keys) :
    (service.doConnect throws).network =
      if throws then service.network
      else service.network.openSocket service.coordinatorUrl := by
  cases throws with
  | true =>
    simp only [doConnect, known, if_true]
    rw [scheduleReconnect_eq]
  | false => simp [doConnect, known]

theorem handleJobAssign_network (executor : Executor Output) (id : Nat)
    (msg : Assignment) :
    Network.Step (service.Sends (.message id (.jobAssign msg)))
      (service.keys = none) service.network
      (service.handleJobAssign executor msg).network := by
  unfold handleJobAssign
  split
  · exact .stay
  · split
    · rw [report_eq]
      exact .stay
    · exact .send (.reject _ _ _ _) rfl

theorem handleRegisterAck_network {Sends : Frame Key Output → Prop}
    {Mute : Prop} (status : String) (workerId : Option String) :
    Network.Step Sends Mute service.network
      (service.handleRegisterAck status workerId).network := by
  unfold handleRegisterAck
  split
  · exact .stay
  · split
    · exact .close _
    · exact .stay

theorem onmessage_network (executor : Executor Output) (id : Nat)
    (message : Message) :
    Network.Step (service.Sends (.message id message))
      (service.keys = none) service.network
      (service.onmessage executor id message).network := by
  unfold onmessage
  split
  · cases message with
    | registerAck status workerId =>
      exact service.handleRegisterAck_network status workerId
    | jobAssign msg => exact service.handleJobAssign_network executor id msg
    | other => exact .stay
  · exact .stay

theorem sendRegister_network :
    service.sendRegister.network =
      match service.keys with
      | some keys => service.network.send (.register keys.pubkey)
      | none => service.network := by
  unfold sendRegister
  cases service.keys with
  | none => rfl
  | some keys =>
    cases current : service.network.ws with
    | none => simp only [Network.send, current]
    | some id => rfl

theorem onopen_network {id : Nat}
    (connecting : (service.network.sockets id).readyState = .connecting) :
    Network.Step (service.Sends (.opened id)) (service.keys = none)
      service.network (service.onopen id).network := by
  unfold onopen
  split
  case isFalse detached =>
    exact .opened connecting (.inl (Bool.eq_false_of_not_eq_true detached))
  case isTrue attached =>
    rw [sendRegister_network]
    dsimp only
    split
    case h_1 keys known =>
      exact .register connecting attached (.register id known)
    case h_2 unknown => exact .opened connecting (.inr unknown)

theorem onclose_network (id : Nat) :
    (service.onclose id).network = service.network.setState id .closed := by
  unfold onclose
  split
  · dsimp only
    split
    · rw [scheduleReconnect_eq]
    · rfl
  · rfl

theorem onHeartbeat_network :
    Network.Step (service.Sends .heartbeat) (service.keys = none)
      service.network service.onHeartbeat.network := by
  unfold onHeartbeat
  split
  · exact .send (.heartbeat _) rfl
  · exact .stay

theorem setCoordinatorUrl_network {Sends : Frame Key Output → Prop}
    {Mute : Prop} (url : String) (shown : ConnectionStatus) :
    Network.Step Sends Mute service.network
      (service.setCoordinatorUrl url shown).network := by
  unfold setCoordinatorUrl
  split
  · rw [connect_eq]
    exact .detach
  · exact .stay

theorem signed_network {call : Nat} {task : Task Output}
    {completedAt : String} {pubkey : Key} {known : Option Key}
    (waits : service.jobs call = some (.signing task completedAt pubkey known))
    (result : Option Key) :
    Network.Step (service.Sends (.signed call result)) (service.keys = none)
      service.network
      (service.signed call task completedAt pubkey known result).network := by
  cases result with
  | none => exact .stay
  | some key =>
    simp only [signed, send]
    rw [keepLoaded_eq]
    exact .send (.complete waits key) rfl

theorem signedOwn_network {call : Nat} {task : Task Output} {keys : Keys Key}
    (waits : service.jobs call = some (.signingOwn task keys))
    (completedAt : Option String) :
    Network.Step (service.Sends (.signedOwn call completedAt))
      (service.keys = none) service.network
      (service.signedOwn call task keys completedAt).network := by
  unfold signedOwn
  split
  · exact .send (.completeOwn waits _) rfl
  · exact .stay

theorem onTimer_network (timer : Nat) (throws : Bool) :
    (service.opensSocket (.timer timer throws) = true ∧
      (service.onTimer timer throws).network =
        service.network.openSocket service.coordinatorUrl) ∨
    (service.opensSocket (.timer timer throws) = false ∧
      (service.onTimer timer throws).network = service.network) := by
  unfold onTimer
  split
  case isFalse stopped =>
    refine .inr ⟨?_, rfl⟩
    cases throws with
    | true => rfl
    | false => simp [opensSocket, stopped]
  case isTrue wanted =>
    cases known : service.keys with
    | none =>
      refine .inr ⟨?_, ?_⟩
      · cases throws with
        | true => rfl
        | false => simp [opensSocket, known]
      · simp only [doConnect]
    | some keys =>
      dsimp only
      rw [doConnect_network _ throws rfl]
      cases throws with
      | true => exact .inr ⟨rfl, rfl⟩
      | false => exact .inl ⟨by simp [opensSocket, wanted, known], rfl⟩

theorem step_network (executor : Executor Output) {event : Event Key}
    (enabled : service.Enabled event) :
    (service.opensSocket event = true ∧
      (step executor service event).network =
        service.network.openSocket service.coordinatorUrl) ∨
    (service.opensSocket event = false ∧
      Network.Step (service.Sends event) (service.keys = none) service.network
        (step executor service event).network) := by
  cases event with
  | connect =>
    refine .inr ⟨rfl, ?_⟩
    rw [step, connect_eq]
    exact .stay
  | disconnect => exact .inr ⟨rfl, .detach⟩
  | setCoordinatorUrl url shown =>
    exact .inr ⟨rfl, service.setCoordinatorUrl_network url shown⟩
  | connectWallet | disconnectWallet | switchSigningMode | restored
  | walletConnected | keyStored => exact .inr ⟨rfl, .stay⟩
  | walletDisconnected ok =>
    cases ok with
    | true => exact .inr ⟨rfl, .stay⟩
    | false => exact .inr ⟨rfl, .stay⟩
  | providerConnected call ok =>
    refine .inr ⟨rfl, ?_⟩
    rw [step, providerConnected_eq]
    exact .stay
  | publicKeyRead call result throws =>
    rcases enabled.publicKeyRead with ⟨known, waits, _⟩
    simp only [step, waits]
    cases result with
    | none => exact .inr ⟨rfl, .stay⟩
    | some key =>
      simp only [publicKeyRead]
      rw [doConnect_network _ throws rfl, keepLoaded_eq]
      cases throws with
      | true => exact .inr ⟨rfl, .stay⟩
      | false => exact .inl ⟨rfl, rfl⟩
  | keypairLoaded call result throws =>
    simp only [step]
    cases result with
    | none => exact .inr ⟨rfl, .stay⟩
    | some key =>
      simp only [keypairLoaded]
      rw [doConnect_network _ throws rfl]
      cases throws with
      | true => exact .inr ⟨rfl, .stay⟩
      | false => exact .inl ⟨rfl, rfl⟩
  | opened id => exact .inr ⟨rfl, service.onopen_network enabled⟩
  | message id message =>
    exact .inr ⟨rfl, service.onmessage_network executor id message⟩
  | closed id =>
    refine .inr ⟨rfl, ?_⟩
    rw [step, onclose_network]
    exact .closed id
  | timer timer throws =>
    rcases service.onTimer_network timer throws with opens | ⟨never, same⟩
    · exact .inl opens
    · refine .inr ⟨never, ?_⟩
      rw [step, same]
      exact .stay
  | heartbeat => exact .inr ⟨rfl, service.onHeartbeat_network⟩
  | keyRead call result =>
    rcases enabled.keyRead with ⟨task, provider, known, waits, _⟩
    refine .inr ⟨rfl, ?_⟩
    simp only [step, waits]
    rw [keyRead_eq]
    exact .stay
  | hashed call completedAt =>
    rcases enabled.hashed with ⟨task, provider, pubkey, waits⟩
    refine .inr ⟨rfl, ?_⟩
    simp only [step, waits]
    rw [hashed_eq]
    exact .stay
  | signed call result =>
    rcases enabled.signed with ⟨task, completedAt, pubkey, known, waits, _⟩
    refine .inr ⟨rfl, ?_⟩
    simp only [step, waits]
    exact service.signed_network waits result
  | signedOwn call completedAt =>
    rcases enabled.signedOwn with ⟨task, keys, waits⟩
    refine .inr ⟨rfl, ?_⟩
    simp only [step, waits]
    exact service.signedOwn_network waits completedAt

end Service

/-! ## What the operations do to a socket -/

structure Socket.Kept (before after : Socket Key Output) : Prop where
  attached : after.attached = before.attached
  closed : before.readyState = .closed → after.readyState = .closed
  connecting : after.readyState = .connecting →
    before.readyState = .connecting ∧ after.sent = before.sent
  absent : before = .absent → after = .absent

theorem Socket.Kept.refl (socket : Socket Key Output) :
    socket.Kept socket :=
  ⟨rfl, id, fun connecting => ⟨connecting, rfl⟩, id⟩

theorem Socket.Kept.trans {first second third : Socket Key Output}
    (left : first.Kept second) (right : second.Kept third) :
    first.Kept third where
  attached := right.attached.trans left.attached
  closed := right.closed ∘ left.closed
  connecting := fun connecting => by
    rcases right.connecting connecting with ⟨middle, sent⟩
    rcases left.connecting middle with ⟨before, same⟩
    exact ⟨before, sent.trans same⟩
  absent := right.absent ∘ left.absent

namespace Network

variable {network next : Network Key Output}

theorem modify_self (id : Nat)
    (change : Socket Key Output → Socket Key Output) :
    (network.modify id change).sockets id = change (network.sockets id) :=
  Function.update_self _ _ _

theorem modify_other {id other : Nat} (different : other ≠ id)
    (change : Socket Key Output → Socket Key Output) :
    (network.modify id change).sockets other = network.sockets other :=
  Function.update_of_ne different _ _

theorem forall_modify (Related : Socket Key Output → Socket Key Output → Prop)
    (refl : ∀ socket, Related socket socket) {id : Nat}
    {change : Socket Key Output → Socket Key Output}
    (changed : Related (network.sockets id) (change (network.sockets id)))
    (other : Nat) :
    Related (network.sockets other)
      ((network.modify id change).sockets other) := by
  by_cases same : other = id
  · subst same
    rw [modify_self]
    exact changed
  · rw [modify_other same]
    exact refl _

/-! ### Sending -/

theorem send_cases (network : Network Key Output)
    (frame : Frame Key Output) :
    network.send frame = network ∨
      ∃ id, network.ws = some id ∧
        (network.sockets id).readyState = .opened ∧
        network.send frame = network.modify id fun socket =>
          { socket with sent := socket.sent ++ [frame] } := by
  unfold send
  split
  case h_1 id current =>
    split
    case isTrue opened => exact .inr ⟨id, current, opened, rfl⟩
    case isFalse => exact .inl rfl
  case h_2 => exact .inl rfl

theorem send_ws (frame : Frame Key Output) :
    (network.send frame).ws = network.ws := by
  rcases network.send_cases frame with same | ⟨id, -, -, sent⟩
  · rw [same]
  · rw [sent]
    rfl

theorem send_created (frame : Frame Key Output) :
    (network.send frame).created = network.created := by
  rcases network.send_cases frame with same | ⟨id, -, -, sent⟩
  · rw [same]
  · rw [sent]
    rfl

theorem send_kept (frame : Frame Key Output) (id : Nat) :
    (network.sockets id).Kept ((network.send frame).sockets id) := by
  rcases network.send_cases frame with same | ⟨current, -, opened, sent⟩
  · rw [same]
    exact .refl _
  · rw [sent]
    refine forall_modify Socket.Kept .refl ?_ id
    refine ⟨rfl, ?_, ?_, ?_⟩
    · intro closed
      exact closed
    · intro connecting
      rw [opened] at connecting
      cases connecting
    · intro absent
      rw [absent] at opened
      cases opened

/-! ### Changing the state of a socket -/

theorem setState_kept {id : Nat} {readyState : ReadyState}
    (legal : readyState = .closed ∨
      readyState ≠ .connecting ∧
        (network.sockets id).readyState ≠ .closed) (other : Nat) :
    (network.sockets other).Kept
      ((network.setState id readyState).sockets other) := by
  refine forall_modify Socket.Kept .refl ?_ other
  rcases legal with rfl | ⟨different, notClosed⟩
  · refine ⟨rfl, fun _ => rfl, nofun, ?_⟩
    intro absent
    rw [absent]
    rfl
  · refine ⟨rfl, fun closed => absurd closed notClosed,
      fun connecting => absurd connecting different, ?_⟩
    intro absent
    rw [absent] at notClosed
    exact absurd rfl notClosed

theorem setState_opened_kept {id : Nat}
    (connecting : (network.sockets id).readyState = .connecting)
    (other : Nat) :
    (network.sockets other).Kept
      ((network.setState id .opened).sockets other) := by
  apply setState_kept
  rw [connecting]
  exact .inr ⟨nofun, nofun⟩

theorem setState_sent (id : Nat) (readyState : ReadyState) (other : Nat) :
    ((network.setState id readyState).sockets other).sent =
      (network.sockets other).sent :=
  forall_modify (fun before after => after.sent = before.sent)
    (fun _ => rfl) rfl other

theorem close_cases (network : Network Key Output) (id : Nat) :
    network.close id = network ∨
      (network.sockets id).readyState ≠ .closed ∧
        network.close id = network.setState id .closing := by
  unfold close
  cases (network.sockets id).readyState with
  | connecting => exact .inr ⟨nofun, rfl⟩
  | opened => exact .inr ⟨nofun, rfl⟩
  | closing => exact .inl rfl
  | closed => exact .inl rfl

/-! ### Steps -/

theorem detach_cases (network : Network Key Output) :
    network.ws = none ∧ network.detach = network ∨
      ∃ id, network.ws = some id ∧ network.detach.ws = none ∧
        network.detach.created = network.created ∧
        (network.detach.sockets id).attached = false ∧
        (network.detach.sockets id).readyState ≠ .connecting ∧
        (network.detach.sockets id).sent = (network.sockets id).sent ∧
        ∀ other ≠ id, network.detach.sockets other = network.sockets other := by
  unfold detach
  split
  case h_2 absent => exact .inl ⟨absent, rfl⟩
  case h_1 id current =>
    refine .inr ⟨id, current, rfl, ?_⟩
    unfold close
    dsimp only
    rw [modify_self]
    cases readyState : (network.sockets id).readyState with
    | connecting | opened =>
      refine ⟨rfl, ?_, ?_, ?_, ?_⟩
      · simp [setState, modify]
      · simp [setState, modify]
      · simp [setState, modify]
      · intro other different
        simp [setState, modify, different]
    | closing | closed =>
      refine ⟨rfl, ?_, ?_, ?_, ?_⟩
      · simp [modify]
      · simp [modify, readyState]
      · simp [modify]
      · intro other different
        simp [modify, different]

variable {Sends : Frame Key Output → Prop} {Mute : Prop}

theorem Step.kept (step : network.Step Sends Mute next) :
    next = network.detach ∨
      next.ws = network.ws ∧ next.created = network.created ∧
        ∀ id, (network.sockets id).Kept (next.sockets id) := by
  cases step with
  | stay => exact .inr ⟨rfl, rfl, fun _ => .refl _⟩
  | send => exact .inr ⟨send_ws _, send_created _, send_kept _⟩
  | close id =>
    rcases network.close_cases id with same | ⟨notClosed, closing⟩
    · rw [same]
      exact .inr ⟨rfl, rfl, fun _ => .refl _⟩
    · rw [closing]
      exact .inr ⟨rfl, rfl, setState_kept (.inr ⟨nofun, notClosed⟩)⟩
  | closed id => exact .inr ⟨rfl, rfl, setState_kept (.inl rfl)⟩
  | detach => exact .inl rfl
  | opened connecting =>
    exact .inr ⟨rfl, rfl, setState_opened_kept connecting⟩
  | register connecting =>
    refine .inr ⟨send_ws _, send_created _, fun id => ?_⟩
    exact (setState_opened_kept connecting id).trans (send_kept _ id)

end Network

end Dispatch.Mobile
