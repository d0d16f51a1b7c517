import Dispatch.Foundation.Execution
import Dispatch.Foundation.JsString
import Dispatch.Protocol
import Mathlib.Algebra.Group.Nat.Defs
import Mathlib.Logic.Function.Basic

/-! # The connection of the phone

`WebSocketService` of the mobile worker, with what `WalletProvider` does to it.
-/

namespace Dispatch.Mobile

inductive ConnectionStatus
  | disconnected
  | connecting
  | connected
  | reconnecting
  deriving DecidableEq

/-- `WebSocket.readyState` -/
inductive ReadyState
  | connecting
  | opened
  | closing
  | closed
  deriving DecidableEq

inductive Provider
  | device
  | wallet
  deriving DecidableEq

inductive Keys (Key : Type)
  | keypair (key : Key)
  | provided (key : Key)
  deriving DecidableEq

def Keys.pubkey : Keys Key → Key
  | keypair key | provided key => key

structure Completion (Key Output : Type) where
  jobId : JsString
  output : Output
  completedAt : String
  provider : Key
  signer : Key
  deriving DecidableEq

inductive Frame (Key Output : Type)
  | register (pubkey : Key)
  | heartbeat (pubkey : Key)
  | jobReject (jobId : JsString) (reason : String)
  | jobComplete (completion : Completion Key Output)
  deriving DecidableEq

structure Assignment where
  jobId : JsString
  jobType : JobType
  taskType : Option String
  input : Option String
  deriving DecidableEq

inductive Message
  | registerAck (status : String) (workerId : Option String)
  | jobAssign (msg : Assignment)
  | other
  deriving DecidableEq

structure Socket (Key Output : Type) where
  url : String
  readyState : ReadyState
  attached : Bool
  sent : List (Frame Key Output)

def Socket.absent : Socket Key Output where
  url := ""
  readyState := .closed
  attached := false
  sent := []

structure Network (Key Output : Type) where
  ws : Option Nat
  sockets : Nat → Socket Key Output
  created : Nat

namespace Network

variable {Key Output : Type} (network : Network Key Output)

def modify (id : Nat) (change : Socket Key Output → Socket Key Output) :
    Network Key Output :=
  { network with
      sockets := Function.update network.sockets id
        (change (network.sockets id)) }

def setState (id : Nat) (readyState : ReadyState) : Network Key Output :=
  network.modify id fun socket => { socket with readyState := readyState }

/-- `ws.close()` -/
def close (id : Nat) : Network Key Output :=
  match (network.sockets id).readyState with
  | .connecting | .opened => network.setState id .closing
  | .closing | .closed => network

def send (frame : Frame Key Output) : Network Key Output :=
  match network.ws with
  | some id =>
    if (network.sockets id).readyState = .opened then
      network.modify id fun socket =>
        { socket with sent := socket.sent ++ [frame] }
    else network
  | none => network

def openSocket (url : String) : Network Key Output where
  ws := some network.created
  sockets := Function.update network.sockets network.created
    { url := url, readyState := .connecting, attached := true, sent := [] }
  created := network.created + 1

def detach : Network Key Output :=
  match network.ws with
  | some id =>
    let detached := network.modify id fun socket =>
      { socket with attached := false }
    { detached.close id with ws := none }
  | none => network

end Network

inductive Connecting (Key : Type)
  /-- `this._signingProvider.connect()` -/
  | preparing
  | reading (known : Option Key)
  /-- `getOrCreateKeypair()` -/
  | loading

structure Task (Output : Type) where
  jobId : JsString
  output : Output

inductive Job (Key Output : Type)
  /-- `provider.getPublicKeyHex()` -/
  | reading (task : Task Output) (provider : Provider) (known : Option Key)
  | hashing (task : Task Output) (provider : Provider) (pubkey : Key)
  | signing (task : Task Output) (completedAt : String) (pubkey : Key)
      (known : Option Key)
  | signingOwn (task : Task Output) (keys : Keys Key)

structure Service (Key Output : Type) where
  network : Network Key Output
  keys : Option (Keys Key)
  workerId : Option String
  heartbeatInterval : Bool
  reconnectTimeout : Option Nat
  reconnectAttempts : Nat
  signingProvider : Option Provider
  coordinatorUrl : String
  status : ConnectionStatus
  shouldReconnect : Bool
  timers : Nat → Option Nat
  timersSet : Nat
  providerKey : Provider → Option Key
  connects : Nat → Option (Connecting Key)
  connectCalls : Nat
  jobs : Nat → Option (Job Key Output)
  jobCalls : Nat
  walletConnects : Nat
  walletDisconnects : Nat

def Service.initial : Service Key Output where
  network := { ws := none, sockets := fun _ => .absent, created := 0 }
  keys := none
  workerId := none
  heartbeatInterval := false
  reconnectTimeout := none
  reconnectAttempts := 0
  signingProvider := none
  coordinatorUrl := "ws://localhost:4020"
  status := .disconnected
  shouldReconnect := false
  timers _ := none
  timersSet := 0
  providerKey _ := none
  connects _ := none
  connectCalls := 0
  jobs _ := none
  jobCalls := 0
  walletConnects := 0
  walletDisconnects := 0

namespace Service

variable {Key Output : Type} (service : Service Key Output)

def send (frame : Frame Key Output) : Service Key Output :=
  { service with network := service.network.send frame }

def sendRegister : Service Key Output :=
  match service.keys, service.network.ws with
  | some keys, some _ => service.send (.register keys.pubkey)
  | _, _ => service

/-! ## Reconnection -/

def maxReconnectDelay : Nat := 30000

def scheduleReconnect : Service Key Output :=
  if service.shouldReconnect then
    let delay := min (1000 * 2 ^ service.reconnectAttempts) maxReconnectDelay
    { service with
        reconnectAttempts := service.reconnectAttempts + 1
        timers := Function.update service.timers service.timersSet (some delay)
        timersSet := service.timersSet + 1
        reconnectTimeout := some service.timersSet }
  else service

def doConnect (throws : Bool) : Service Key Output :=
  match service.keys with
  | none => service
  | some _ =>
    let service := { service with status := .connecting }
    if throws then service.scheduleReconnect
    else
      { service with
          network := service.network.openSocket service.coordinatorUrl }

/-! ## Connecting -/

def ask : Provider → Option (Option Key)
  | .wallet => (service.providerKey .wallet).map some
  | .device => some (service.providerKey .device)

def keepLoaded (known : Option Key) (key : Key) : Service Key Output :=
  match known with
  | some _ => service
  | none =>
    { service with
        providerKey :=
          Function.update service.providerKey .device (some key) }

/-- `connect()` up to its first wait. -/
def connect : Service Key Output :=
  match service.status with
  | .connected | .connecting => service
  | .disconnected | .reconnecting =>
    let phase : Connecting Key :=
      match service.signingProvider with
      | some _ => .preparing
      | none => .loading
    { service with
        shouldReconnect := true
        reconnectAttempts := 0
        connects := Function.update service.connects service.connectCalls
          (some phase)
        connectCalls := service.connectCalls + 1 }

def endConnect (call : Nat) : Service Key Output :=
  { service with connects := Function.update service.connects call none }

def providerConnected (call : Nat) (ok : Bool) : Service Key Output :=
  match ok, service.signingProvider.bind service.ask with
  | true, some known =>
    { service with
        connects := Function.update service.connects call
          (some (.reading known)) }
  | _, _ => service.endConnect call

def publicKeyRead (call : Nat) (known result : Option Key) (throws : Bool) :
    Service Key Output :=
  let service := service.endConnect call
  match result with
  | none => service
  | some key =>
    doConnect { service.keepLoaded known key with
      keys := some (.provided key) } throws

def keypairLoaded (call : Nat) (result : Option Key) (throws : Bool) :
    Service Key Output :=
  let service := service.endConnect call
  match result with
  | none => service
  | some key => doConnect { service with keys := some (.keypair key) } throws

/-! ## Disconnecting -/

def cleanup : Service Key Output :=
  { service with
      heartbeatInterval := false
      timers := match service.reconnectTimeout with
        | some timer => Function.update service.timers timer none
        | none => service.timers
      reconnectTimeout := none
      network := service.network.detach
      workerId := none }

def disconnect : Service Key Output :=
  { cleanup { service with shouldReconnect := false } with
      status := .disconnected }

/-! ## Events of sockets and timers -/

def truthy (text : Option String) : Option String :=
  text.filter (· ≠ "")

def handleRegisterAck (status : String) (workerId : Option String) :
    Service Key Output :=
  match decide (status = "ok"), truthy workerId with
  | true, some id =>
    { service with
        workerId := some id
        status := .connected
        heartbeatInterval := true }
  | _, _ =>
    match service.network.ws with
    | some id => { service with network := service.network.close id }
    | none => service

def startJob (job : Job Key Output) : Service Key Output :=
  { service with
      jobs := Function.update service.jobs service.jobCalls (some job)
      jobCalls := service.jobCalls + 1 }

def report (keys : Keys Key) (task : Task Output) : Service Key Output :=
  match service.signingProvider with
  | some provider =>
    match service.ask provider with
    | some known => service.startJob (.reading task provider known)
    | none => service
  | none => service.startJob (.signingOwn task keys)

end Service

structure Executor (Output : Type) where
  executeTask : String → String → Except String Output
  failure : String → Output

namespace Service

variable {Key Output : Type} (executor : Executor Output)
  (service : Service Key Output)

def handleJobAssign (msg : Assignment) : Service Key Output :=
  match service.keys with
  | none => service
  | some keys =>
    match msg.jobType, truthy msg.taskType, truthy msg.input with
    | .task, some taskType, some input =>
      let output :=
        match executor.executeTask taskType input with
        | .ok output => output
        | .error message => executor.failure message
      service.report keys { jobId := msg.jobId, output := output }
    | _, _, _ =>
      service.send (.jobReject msg.jobId
        "SEEKER worker does not support LLM_INFER jobs")

def handleMessage (message : Message) : Service Key Output :=
  match message with
  | .registerAck status workerId => service.handleRegisterAck status workerId
  | .jobAssign msg => service.handleJobAssign executor msg
  | .other => service

def onopen (id : Nat) : Service Key Output :=
  let opened :=
    { service with network := service.network.setState id .opened }
  if (service.network.sockets id).attached then
    sendRegister { opened with reconnectAttempts := 0 }
  else opened

def onmessage (id : Nat) (message : Message) : Service Key Output :=
  if (service.network.sockets id).attached then
    service.handleMessage executor message
  else service

def onclose (id : Nat) : Service Key Output :=
  let closed :=
    { service with network := service.network.setState id .closed }
  if (service.network.sockets id).attached then
    let stopped := { closed with heartbeatInterval := false }
    if service.shouldReconnect then
      scheduleReconnect { stopped with status := .reconnecting }
    else { stopped with status := .disconnected }
  else closed

def onTimer (timer : Nat) (throws : Bool) : Service Key Output :=
  let fired :=
    { service with timers := Function.update service.timers timer none }
  if service.shouldReconnect then fired.doConnect throws else fired

def onHeartbeat : Service Key Output :=
  match service.keys with
  | some keys => service.send (.heartbeat keys.pubkey)
  | none => service

/-! ## Receipts -/

def setJob (call : Nat) (job : Option (Job Key Output)) :
    Service Key Output :=
  { service with jobs := Function.update service.jobs call job }

def keyRead (call : Nat) (task : Task Output) (provider : Provider)
    (known result : Option Key) : Service Key Output :=
  match result with
  | none => service.setJob call none
  | some key =>
    (service.keepLoaded known key).setJob call
      (some (.hashing task provider key))

def hashed (call : Nat) (task : Task Output) (provider : Provider)
    (pubkey : Key) (completedAt : Option String) : Service Key Output :=
  match completedAt, service.ask provider with
  | some completedAt, some known =>
    service.setJob call (some (.signing task completedAt pubkey known))
  | _, _ => service.setJob call none

def signed (call : Nat) (task : Task Output) (completedAt : String)
    (pubkey : Key) (known result : Option Key) : Service Key Output :=
  let service := service.setJob call none
  match result with
  | none => service
  | some key =>
    (service.keepLoaded known key).send (.jobComplete
      { jobId := task.jobId, output := task.output,
        completedAt := completedAt, provider := pubkey, signer := key })

def signedOwn (call : Nat) (task : Task Output) (keys : Keys Key)
    (completedAt : Option String) : Service Key Output :=
  let service := service.setJob call none
  match completedAt, keys with
  | some completedAt, .keypair key =>
    service.send (.jobComplete
      { jobId := task.jobId, output := task.output,
        completedAt := completedAt, provider := key, signer := key })
  | _, _ => service

/-! ## Actions of the app -/

def setCoordinatorUrl (url : String) (shown : ConnectionStatus) :
    Service Key Output :=
  if shown = .connected ∨ shown = .reconnecting then
    connect { service.disconnect with coordinatorUrl := url }
  else { service with coordinatorUrl := url }

def setSigningProvider (provider : Provider) : Service Key Output :=
  { service with signingProvider := some provider }

def disconnectWallet : Service Key Output :=
  { service with
      providerKey := Function.update service.providerKey .wallet none
      walletDisconnects := service.walletDisconnects + 1 }

/-! ## What the functions leave alone -/

theorem sendRegister_eq :
    service.sendRegister =
      { service with network := service.sendRegister.network } := by
  unfold sendRegister
  split <;> rfl

theorem onHeartbeat_eq :
    service.onHeartbeat =
      { service with network := service.onHeartbeat.network } := by
  unfold onHeartbeat
  split <;> rfl

theorem onopen_eq (id : Nat) :
    service.onopen id =
      { service with
          network := (service.onopen id).network
          reconnectAttempts := (service.onopen id).reconnectAttempts } := by
  unfold onopen
  split
  · rw [sendRegister_eq]
  · rfl

theorem scheduleReconnect_eq :
    service.scheduleReconnect =
      { service with
          reconnectAttempts := service.scheduleReconnect.reconnectAttempts
          timers := service.scheduleReconnect.timers
          timersSet := service.scheduleReconnect.timersSet
          reconnectTimeout := service.scheduleReconnect.reconnectTimeout } := by
  unfold scheduleReconnect
  split <;> rfl

theorem connect_eq :
    service.connect =
      { service with
          shouldReconnect := service.connect.shouldReconnect
          reconnectAttempts := service.connect.reconnectAttempts
          connects := service.connect.connects
          connectCalls := service.connect.connectCalls } := by
  unfold connect
  split <;> rfl

theorem providerConnected_eq (call : Nat) (ok : Bool) :
    service.providerConnected call ok =
      { service with
          connects := (service.providerConnected call ok).connects } := by
  unfold providerConnected
  split <;> rfl

theorem keepLoaded_eq (known : Option Key) (key : Key) :
    service.keepLoaded known key =
      { service with
          providerKey := (service.keepLoaded known key).providerKey } := by
  cases known with
  | none => rfl
  | some key => rfl

theorem report_eq (keys : Keys Key) (task : Task Output) :
    service.report keys task =
      { service with
          jobs := (service.report keys task).jobs
          jobCalls := (service.report keys task).jobCalls } := by
  unfold report
  split
  · split <;> rfl
  · rfl

theorem keyRead_eq (call : Nat) (task : Task Output) (provider : Provider)
    (known result : Option Key) :
    service.keyRead call task provider known result =
      { service with
          providerKey :=
            (service.keyRead call task provider known result).providerKey
          jobs := (service.keyRead call task provider known result).jobs } := by
  cases result with
  | none => rfl
  | some key =>
    simp only [keyRead]
    rw [keepLoaded_eq]
    rfl

theorem hashed_eq (call : Nat) (task : Task Output) (provider : Provider)
    (pubkey : Key) (completedAt : Option String) :
    service.hashed call task provider pubkey completedAt =
      { service with
          jobs :=
            (service.hashed call task provider pubkey completedAt).jobs } := by
  unfold hashed
  split <;> rfl

end Service

/-! ## The machine -/

inductive Event (Key : Type)
  | connect
  | disconnect
  | setCoordinatorUrl (url : String) (shown : ConnectionStatus)
  | connectWallet
  | disconnectWallet
  | switchSigningMode (provider : Provider)
  | restored (url : String) (provider : Provider)
  | walletConnected (ok : Bool)
  | walletDisconnected (ok : Bool)
  | keyStored (provider : Provider) (key : Key)
  /-- How the waits of `connect()` end. -/
  | providerConnected (call : Nat) (ok : Bool)
  | publicKeyRead (call : Nat) (result : Option Key) (throws : Bool)
  | keypairLoaded (call : Nat) (result : Option Key) (throws : Bool)
  | opened (id : Nat)
  | message (id : Nat) (message : Message)
  | closed (id : Nat)
  | timer (timer : Nat) (throws : Bool)
  | heartbeat
  /-- How the waits of `handleJobAssign` end. -/
  | keyRead (call : Nat) (result : Option Key)
  | hashed (call : Nat) (completedAt : Option String)
  | signed (call : Nat) (result : Option Key)
  | signedOwn (call : Nat) (completedAt : Option String)

def Answers (known result : Option Key) : Prop :=
  result = none ∨ known = none ∨ result = known

instance [DecidableEq Key] (known result : Option Key) :
    Decidable (Answers known result) :=
  inferInstanceAs (Decidable (_ ∨ _ ∨ _))

namespace Connecting

/-! How the waits of a suspended `connect()` may end. -/

def MayPrepare : Option (Connecting Key) → Prop
  | some preparing => True
  | some (reading _) | some loading | none => False

def MayRead (result : Option Key) : Option (Connecting Key) → Prop
  | some (reading known) => Answers known result
  | some preparing | some loading | none => False

def MayLoad : Option (Connecting Key) → Prop
  | some loading => True
  | some preparing | some (reading _) | none => False

instance : DecidablePred fun call : Option (Connecting Key) => MayPrepare call
  | some preparing => inferInstanceAs (Decidable True)
  | some (reading _) | some loading | none => inferInstanceAs (Decidable False)

instance [DecidableEq Key] (result : Option Key) :
    DecidablePred (MayRead result)
  | some (reading known) => inferInstanceAs (Decidable (Answers known result))
  | some preparing | some loading | none => inferInstanceAs (Decidable False)

instance : DecidablePred fun call : Option (Connecting Key) => MayLoad call
  | some loading => inferInstanceAs (Decidable True)
  | some preparing | some (reading _) | none =>
    inferInstanceAs (Decidable False)

end Connecting

namespace Job

/-! How the waits of a suspended `handleJobAssign` may end. -/

variable {Key Output : Type}

def MayRead (result : Option Key) : Option (Job Key Output) → Prop
  | some (reading _ _ known) => Answers known result
  | some (hashing ..) | some (signing ..) | some (signingOwn ..) | none => False

def MayHash : Option (Job Key Output) → Prop
  | some (hashing ..) => True
  | some (reading ..) | some (signing ..) | some (signingOwn ..) | none => False

def MaySign (result : Option Key) : Option (Job Key Output) → Prop
  | some (signing _ _ _ known) => Answers known result
  | some (reading ..) | some (hashing ..) | some (signingOwn ..) | none => False

def MaySignOwn : Option (Job Key Output) → Prop
  | some (signingOwn ..) => True
  | some (reading ..) | some (hashing ..) | some (signing ..) | none => False

instance [DecidableEq Key] (result : Option Key) :
    DecidablePred fun job : Option (Job Key Output) => MayRead result job
  | some (reading _ _ known) => inferInstanceAs (Decidable (Answers known result))
  | some (hashing ..) | some (signing ..) | some (signingOwn ..) | none =>
    inferInstanceAs (Decidable False)

instance : DecidablePred fun job : Option (Job Key Output) => MayHash job
  | some (hashing ..) => inferInstanceAs (Decidable True)
  | some (reading ..) | some (signing ..) | some (signingOwn ..) | none =>
    inferInstanceAs (Decidable False)

instance [DecidableEq Key] (result : Option Key) :
    DecidablePred fun job : Option (Job Key Output) => MaySign result job
  | some (signing _ _ _ known) =>
    inferInstanceAs (Decidable (Answers known result))
  | some (reading ..) | some (hashing ..) | some (signingOwn ..) | none =>
    inferInstanceAs (Decidable False)

instance : DecidablePred fun job : Option (Job Key Output) => MaySignOwn job
  | some (signingOwn ..) => inferInstanceAs (Decidable True)
  | some (reading ..) | some (hashing ..) | some (signing ..) | none =>
    inferInstanceAs (Decidable False)

end Job

variable {Key Output : Type}

def Service.Enabled (service : Service Key Output) : Event Key → Prop
  | .connect | .disconnect | .setCoordinatorUrl _ _ | .connectWallet
  | .disconnectWallet | .switchSigningMode _ | .restored _ _
  | .keyStored _ _ => True
  | .walletConnected _ => 0 < service.walletConnects
  | .walletDisconnected _ => 0 < service.walletDisconnects
  | .providerConnected call _ => Connecting.MayPrepare (service.connects call)
  | .publicKeyRead call result _ =>
    Connecting.MayRead result (service.connects call)
  | .keypairLoaded call _ _ => Connecting.MayLoad (service.connects call)
  | .opened id => (service.network.sockets id).readyState = .connecting
  | .message id _ =>
    (service.network.sockets id).readyState = .opened ∨
      (service.network.sockets id).readyState = .closing
  | .closed id => (service.network.sockets id).readyState ≠ .closed
  | .timer timer _ => (service.timers timer).isSome
  | .heartbeat => service.heartbeatInterval = true
  | .keyRead call result => Job.MayRead result (service.jobs call)
  | .hashed call _ => Job.MayHash (service.jobs call)
  | .signed call result => Job.MaySign result (service.jobs call)
  | .signedOwn call _ => Job.MaySignOwn (service.jobs call)

instance [DecidableEq Key] (service : Service Key Output) :
    DecidablePred service.Enabled
  | .connect | .disconnect | .setCoordinatorUrl _ _ | .connectWallet
  | .disconnectWallet | .switchSigningMode _ | .restored _ _
  | .keyStored _ _ => inferInstanceAs (Decidable True)
  | .walletConnected _ | .walletDisconnected _ =>
    inferInstanceAs (Decidable (_ < _))
  | .providerConnected _ _ =>
    inferInstanceAs (Decidable (Connecting.MayPrepare _))
  | .publicKeyRead _ _ _ =>
    inferInstanceAs (Decidable (Connecting.MayRead _ _))
  | .keypairLoaded _ _ _ =>
    inferInstanceAs (Decidable (Connecting.MayLoad _))
  | .opened _ => inferInstanceAs (Decidable (_ = _))
  | .message _ _ => inferInstanceAs (Decidable (_ ∨ _))
  | .closed _ => inferInstanceAs (Decidable (_ ≠ _))
  | .timer _ _ | .heartbeat => inferInstanceAs (Decidable (_ = _))
  | .keyRead _ _ => inferInstanceAs (Decidable (Job.MayRead _ _))
  | .hashed _ _ => inferInstanceAs (Decidable (Job.MayHash _))
  | .signed _ _ => inferInstanceAs (Decidable (Job.MaySign _ _))
  | .signedOwn _ _ => inferInstanceAs (Decidable (Job.MaySignOwn _))

open Service in
def step (executor : Executor Output) (service : Service Key Output) :
    Event Key → Service Key Output
  | .connect => service.connect
  | .disconnect => service.disconnect
  | .setCoordinatorUrl url shown => service.setCoordinatorUrl url shown
  | .connectWallet =>
    { service with walletConnects := service.walletConnects + 1 }
  | .disconnectWallet => service.disconnectWallet
  | .switchSigningMode provider => service.setSigningProvider provider
  | .restored url provider =>
    { service.setSigningProvider provider with coordinatorUrl := url }
  | .walletConnected ok =>
    { service.setSigningProvider (if ok then .wallet else .device) with
        walletConnects := service.walletConnects - 1 }
  | .walletDisconnected ok =>
    let service :=
      { service with walletDisconnects := service.walletDisconnects - 1 }
    if ok then service.setSigningProvider .device else service
  | .keyStored provider key =>
    { service with
        providerKey :=
          Function.update service.providerKey provider (some key) }
  | .providerConnected call ok => service.providerConnected call ok
  | .publicKeyRead call result throws =>
    match service.connects call with
    | some (.reading known) =>
      service.publicKeyRead call known result throws
    | _ => service
  | .keypairLoaded call result throws =>
    service.keypairLoaded call result throws
  | .opened id => service.onopen id
  | .message id message => service.onmessage executor id message
  | .closed id => service.onclose id
  | .timer timer throws => service.onTimer timer throws
  | .heartbeat => service.onHeartbeat
  | .keyRead call result =>
    match service.jobs call with
    | some (.reading task provider known) =>
      service.keyRead call task provider known result
    | _ => service
  | .hashed call completedAt =>
    match service.jobs call with
    | some (.hashing task provider pubkey) =>
      service.hashed call task provider pubkey completedAt
    | _ => service
  | .signed call result =>
    match service.jobs call with
    | some (.signing task completedAt pubkey known) =>
      service.signed call task completedAt pubkey known result
    | _ => service
  | .signedOwn call completedAt =>
    match service.jobs call with
    | some (.signingOwn task keys) =>
      service.signedOwn call task keys completedAt
    | _ => service

/-! ## What a call that goes on has waited for -/

def Event.call? : Event Key → Option Nat
  | .keyRead call _ | .hashed call _ | .signed call _ | .signedOwn call _ =>
    some call
  | _ => none

namespace Service

variable {service : Service Key Output}

theorem Enabled.publicKeyRead {call : Nat} {result : Option Key}
    {throws : Bool}
    (enabled : service.Enabled (.publicKeyRead call result throws)) :
    ∃ known, service.connects call = some (.reading known) ∧
      Answers known result := by
  rw [Enabled, Connecting.MayRead.eq_def] at enabled
  split at enabled
  case h_1 known waits => exact ⟨known, waits, enabled⟩
  all_goals exact enabled.elim

theorem Enabled.keyRead {call : Nat} {result : Option Key}
    (enabled : service.Enabled (.keyRead call result)) :
    ∃ task provider known,
      service.jobs call = some (.reading task provider known) ∧
        Answers known result := by
  rw [Enabled, Job.MayRead.eq_def] at enabled
  split at enabled
  case h_1 task provider known waits =>
    exact ⟨task, provider, known, waits, enabled⟩
  all_goals exact enabled.elim

theorem Enabled.hashed {call : Nat} {completedAt : Option String}
    (enabled : service.Enabled (.hashed call completedAt)) :
    ∃ task provider pubkey,
      service.jobs call = some (.hashing task provider pubkey) := by
  rw [Enabled, Job.MayHash.eq_def] at enabled
  split at enabled
  case h_1 task provider pubkey waits => exact ⟨task, provider, pubkey, waits⟩
  all_goals exact enabled.elim

theorem Enabled.signed {call : Nat} {result : Option Key}
    (enabled : service.Enabled (.signed call result)) :
    ∃ task completedAt pubkey known,
      service.jobs call = some (.signing task completedAt pubkey known) ∧
        Answers known result := by
  rw [Enabled, Job.MaySign.eq_def] at enabled
  split at enabled
  case h_1 task completedAt pubkey known waits =>
    exact ⟨task, completedAt, pubkey, known, waits, enabled⟩
  all_goals exact enabled.elim

theorem Enabled.signedOwn {call : Nat} {completedAt : Option String}
    (enabled : service.Enabled (.signedOwn call completedAt)) :
    ∃ task keys, service.jobs call = some (.signingOwn task keys) := by
  rw [Enabled, Job.MaySignOwn.eq_def] at enabled
  split at enabled
  case h_1 task keys waits => exact ⟨task, keys, waits⟩
  all_goals exact enabled.elim

inductive Resumes (service : Service Key Output) (call : Nat) :
    Event Key → Job Key Output → Service Key Output → Prop
  | keyRead {task provider known} (result) :
      Resumes service call (.keyRead call result)
        (.reading task provider known)
        (service.keyRead call task provider known result)
  | hashed {task provider pubkey} (completedAt) :
      Resumes service call (.hashed call completedAt)
        (.hashing task provider pubkey)
        (service.hashed call task provider pubkey completedAt)
  | signed {task completedAt pubkey known} (result) :
      Resumes service call (.signed call result)
        (.signing task completedAt pubkey known)
        (service.signed call task completedAt pubkey known result)
  | signedOwn {task keys} (completedAt) :
      Resumes service call (.signedOwn call completedAt)
        (.signingOwn task keys)
        (service.signedOwn call task keys completedAt)

theorem Enabled.resumes (executor : Executor Output) {event : Event Key}
    {call : Nat} (enabled : service.Enabled event)
    (goes : event.call? = some call) :
    ∃ job, service.jobs call = some job ∧
      service.Resumes call event job (step executor service event) := by
  cases event with
  | keyRead number result =>
    cases goes
    rcases enabled.keyRead with ⟨task, provider, known, waits, _⟩
    simp only [step, waits]
    exact ⟨_, rfl, .keyRead result⟩
  | hashed number completedAt =>
    cases goes
    rcases enabled.hashed with ⟨task, provider, pubkey, waits⟩
    simp only [step, waits]
    exact ⟨_, rfl, .hashed completedAt⟩
  | signed number result =>
    cases goes
    rcases enabled.signed with ⟨task, completedAt, pubkey, known, waits, _⟩
    simp only [step, waits]
    exact ⟨_, rfl, .signed result⟩
  | signedOwn number completedAt =>
    cases goes
    rcases enabled.signedOwn with ⟨task, keys, waits⟩
    simp only [step, waits]
    exact ⟨_, rfl, .signedOwn completedAt⟩
  | _ => cases goes

end Service

def machine (Key : Type) (executor : Executor Output) :
    Machine (Service Key Output) (Event Key) where
  initial := .initial
  Enabled := Service.Enabled
  step := step executor

instance [DecidableEq Key] (executor : Executor Output)
    (service : Service Key Output) (event : Event Key) :
    Decidable ((machine Key executor).Enabled service event) :=
  inferInstanceAs (Decidable (service.Enabled event))

end Dispatch.Mobile
