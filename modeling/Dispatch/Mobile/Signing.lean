import Dispatch.Mobile.Sockets

/-! # The key in force -/

namespace Dispatch.Mobile

variable {Key Output : Type}

/-! ## The key in force -/

structure Signing (Key Output : Type) where
  signingProvider : Option Provider
  providerKey : Provider → Option Key
  keys : Option (Keys Key)
  jobs : Nat → Option (Job Key Output)

def Service.signing (service : Service Key Output) : Signing Key Output where
  signingProvider := service.signingProvider
  providerKey := service.providerKey
  keys := service.keys
  jobs := service.jobs

def Signing.signer (signing : Signing Key Output) : Option Key :=
  match signing.signingProvider with
  | some provider => signing.providerKey provider
  | none => signing.keys.map Keys.pubkey

def Job.Fits (current : Option Provider) (key : Key) : Job Key Output → Prop
  | reading _ provider known => current = some provider ∧ known = some key
  | hashing _ provider pubkey => current = some provider ∧ pubkey = key
  | signing _ _ pubkey known => pubkey = key ∧ known = some key
  | signingOwn _ keys => keys.pubkey = key

structure Signing.Holds (signing : Signing Key Output) (key : Key) : Prop where
  signer : signing.signer = some key
  keys : signing.keys.map Keys.pubkey = some key
  jobs : ∀ call job, signing.jobs call = some job →
    job.Fits signing.signingProvider key

def Service.InUse (service : Service Key Output) : Prop :=
  (∃ id ∈ service.network.ws,
    (service.network.sockets id).readyState ≠ .closed) ∨
  (∃ timer, (service.timers timer).isSome) ∨
  ∃ call, (service.jobs call).isSome

def Service.KeepsKey (service : Service Key Output) : Event Key → Prop
  | .switchSigningMode provider | .restored _ provider =>
    service.InUse → service.signingProvider = some provider
  | .walletConnected ok =>
    service.InUse →
      service.signingProvider = some (if ok then .wallet else .device)
  | .walletDisconnected ok =>
    service.InUse → ok = true → service.signingProvider = some .device
  | .disconnectWallet =>
    service.InUse → service.signingProvider ≠ some .wallet
  | .keyStored provider key =>
    service.InUse → service.signingProvider = some provider →
      service.providerKey provider = some key
  | .publicKeyRead call (some key) _ =>
    service.signing.signer = some key ∨
      ¬ service.InUse ∧ service.signingProvider = some .device ∧
        service.connects call = some (.reading none)
  | .keypairLoaded _ (some key) _ =>
    service.signingProvider = none ∧
      (service.InUse → service.signing.signer = some key)
  | _ => True

/-! ## Steps that do not concern the keys -/

namespace Service

variable (service : Service Key Output)

theorem setCoordinatorUrl_signing (url : String) (shown : ConnectionStatus) :
    (service.setCoordinatorUrl url shown).signing = service.signing := by
  unfold setCoordinatorUrl
  split
  · rw [connect_eq]
    rfl
  · rfl

theorem doConnect_signing (throws : Bool) :
    (service.doConnect throws).signing = service.signing := by
  unfold doConnect
  split
  · rfl
  · dsimp only
    split
    · rw [scheduleReconnect_eq]
      rfl
    · rfl

theorem onclose_signing (id : Nat) :
    (service.onclose id).signing = service.signing := by
  unfold onclose
  split
  · dsimp only
    split
    · rw [scheduleReconnect_eq]
      rfl
    · rfl
  · rfl

theorem onTimer_signing (timer : Nat) (throws : Bool) :
    (service.onTimer timer throws).signing = service.signing := by
  unfold onTimer
  split
  · exact doConnect_signing _ throws
  · rfl

theorem handleRegisterAck_signing (status : String)
    (workerId : Option String) :
    (service.handleRegisterAck status workerId).signing =
      service.signing := by
  unfold handleRegisterAck
  split
  · rfl
  · split <;> rfl

end Service

/-! ## The key stays in force -/

namespace Signing.Holds

variable {service next : Service Key Output} {key : Key}

theorem of_signer (holds : service.signing.Holds key)
    (provider : next.signingProvider = service.signingProvider)
    (keys : next.keys = service.keys) (jobs : next.jobs = service.jobs)
    (signer : next.signing.signer = service.signing.signer) :
    next.signing.Holds key where
  signer := signer.trans holds.signer
  keys := (congrArg (Option.map Keys.pubkey) keys).trans holds.keys
  jobs call job pending := by
    have same : next.signing.signingProvider =
        service.signing.signingProvider := provider
    rw [same]
    exact holds.jobs call job ((congrFun jobs.symm call).trans pending)

theorem storeKey (holds : service.signing.Holds key) (provider : Provider)
    (stored : Option Key)
    (same : service.signingProvider = some provider →
      service.providerKey provider = stored) :
    ({ service with providerKey :=
        Function.update service.providerKey provider stored } :
      Service Key Output).signing.Holds key := by
  refine holds.of_signer rfl rfl rfl ?_
  unfold Signing.signer Service.signing
  dsimp only
  cases current : service.signingProvider with
  | none => rfl
  | some set =>
    by_cases equal : set = provider
    · subst equal
      rw [← same current]
      exact Function.update_self _ _ _
    · exact Function.update_of_ne equal _ _

theorem setProvider (holds : service.signing.Holds key) {provider : Provider}
    (same : service.signingProvider = some provider) :
    (service.setSigningProvider provider).signing.Holds key := by
  refine holds.of_signer same.symm rfl rfl ?_
  simp only [Signing.signer, Service.signing, Service.setSigningProvider, same]

theorem ask (holds : service.signing.Holds key) {provider : Provider}
    (current : service.signingProvider = some provider) :
    service.ask provider = some (some key) := by
  have signer := holds.signer
  simp only [Signing.signer, Service.signing, current] at signer
  cases provider with
  | device => exact congrArg some signer
  | wallet => exact congrArg (Option.map some) signer

theorem setJob (holds : service.signing.Holds key) (call : Nat)
    {job : Option (Job Key Output)}
    (fits : ∀ added, job = some added →
      added.Fits service.signingProvider key) :
    (service.setJob call job).signing.Holds key where
  signer := holds.signer
  keys := holds.keys
  jobs other pending waits := by
    have stored : Function.update service.jobs call job other =
        some pending := waits
    by_cases same : other = call
    · subst same
      rw [Function.update_self] at stored
      exact fits pending stored
    · rw [Function.update_of_ne same] at stored
      exact holds.jobs other pending stored

theorem report (holds : service.signing.Holds key) {keys : Keys Key}
    (known : service.keys = some keys) (task : Task Output) :
    (service.report keys task).signing.Holds key := by
  have started : ∀ job : Job Key Output,
      job.Fits service.signingProvider key →
      (service.startJob job).signing.Holds key := by
    intro job fits
    refine holds.setJob service.jobCalls ?_
    rintro added ⟨⟩
    exact fits
  unfold Service.report
  split
  case h_1 provider current =>
    rw [holds.ask current]
    exact started _ ⟨current, rfl⟩
  case h_2 =>
    have own := holds.keys
    simp only [Service.signing, known] at own
    exact started _ (Option.some.inj own)

theorem handleJobAssign (executor : Executor Output)
    (holds : service.signing.Holds key) (msg : Assignment) :
    (service.handleJobAssign executor msg).signing.Holds key := by
  unfold Service.handleJobAssign
  split
  case h_1 => exact holds
  case h_2 keys known =>
    split
    · exact holds.report known _
    · exact holds

theorem keyRead (holds : service.signing.Holds key) {call : Nat}
    {task : Task Output} {provider : Provider} {known result : Option Key}
    (waits : service.jobs call = some (.reading task provider known))
    (answers : Answers known result) :
    (service.keyRead call task provider known result).signing.Holds key := by
  rcases holds.jobs call _ waits with ⟨current, rfl⟩
  unfold Service.keyRead
  cases result with
  | none => exact holds.setJob call nofun
  | some read =>
    have same : read = key := by
      rcases answers with none | none | same
      · cases none
      · cases none
      · exact Option.some.inj same
    refine holds.setJob call ?_
    rintro added ⟨⟩
    exact ⟨current, same⟩

theorem hashed (holds : service.signing.Holds key) {call : Nat}
    {task : Task Output} {provider : Provider} {pubkey : Key}
    (waits : service.jobs call = some (.hashing task provider pubkey))
    (completedAt : Option String) :
    (service.hashed call task provider pubkey completedAt).signing.Holds
      key := by
  rcases holds.jobs call _ waits with ⟨current, same⟩
  unfold Service.hashed
  rw [holds.ask current]
  cases completedAt with
  | none => exact holds.setJob call nofun
  | some completedAt =>
    refine holds.setJob call ?_
    rintro added ⟨⟩
    exact ⟨same, rfl⟩

theorem signed (holds : service.signing.Holds key) {call : Nat}
    {task : Task Output} {completedAt : String} {pubkey : Key}
    {known : Option Key}
    (waits : service.jobs call = some (.signing task completedAt pubkey known))
    (result : Option Key) :
    (service.signed call task completedAt pubkey known result).signing.Holds
      key := by
  rcases holds.jobs call _ waits with ⟨-, rfl⟩
  have ended : (service.setJob call none).signing.Holds key :=
    holds.setJob call nofun
  cases result with
  | none => exact ended
  | some read => exact ended

theorem signedOwn (holds : service.signing.Holds key) (call : Nat)
    (task : Task Output) (keys : Keys Key) (completedAt : Option String) :
    (service.signedOwn call task keys completedAt).signing.Holds key := by
  have ended : (service.setJob call none).signing.Holds key :=
    holds.setJob call nofun
  unfold Service.signedOwn
  split
  · exact ended
  · exact ended

theorem of_publicKeyRead {known : Option Key}
    (signer : service.signing.signer = some key ∨
      service.signingProvider = some .device ∧ known = none)
    (jobs : ∀ call job, service.jobs call = some job →
      job.Fits service.signingProvider key) (call : Nat) (throws : Bool) :
    (service.publicKeyRead call known (some key) throws).signing.Holds
      key := by
  simp only [Service.publicKeyRead]
  rw [Service.doConnect_signing]
  cases known with
  | some _ =>
    refine ⟨?_, rfl, jobs⟩
    rcases signer with signer | ⟨-, loading⟩
    · unfold Signing.signer Service.signing at signer ⊢
      cases current : service.signingProvider with
      | none => simp [Service.keepLoaded, Service.endConnect, current,
          Keys.pubkey]
      | some provider =>
        simpa [Service.keepLoaded, Service.endConnect, current] using
          signer
    · cases loading
  | none =>
    refine ⟨?_, rfl, jobs⟩
    unfold Signing.signer Service.signing at signer ⊢
    cases current : service.signingProvider with
    | none => simp [Service.keepLoaded, Service.endConnect, current,
        Keys.pubkey]
    | some provider =>
      cases provider with
      | device => simp [Service.keepLoaded, Service.endConnect, current]
      | wallet =>
        simpa [Service.keepLoaded, Service.endConnect, current] using
          signer

theorem of_keypairLoaded (own : service.signingProvider = none)
    (jobs : ∀ call job, service.jobs call = some job →
      job.Fits service.signingProvider key) (call : Nat) (throws : Bool) :
    (service.keypairLoaded call (some key) throws).signing.Holds key := by
  simp only [Service.keypairLoaded]
  rw [Service.doConnect_signing]
  refine ⟨?_, rfl, jobs⟩
  simp [Signing.signer, Service.signing, Service.endConnect, own, Keys.pubkey]

theorem step (executor : Executor Output) (holds : service.signing.Holds key)
    (inUse : service.InUse) {event : Event Key}
    (enabled : service.Enabled event) (keeps : service.KeepsKey event) :
    (step executor service event).signing.Holds key := by
  cases event with
  | connect =>
    rw [Mobile.step, service.connect_eq]
    exact holds
  | disconnect => exact holds
  | setCoordinatorUrl url shown =>
    rw [Mobile.step, service.setCoordinatorUrl_signing]
    exact holds
  | connectWallet => exact holds
  | disconnectWallet =>
    refine holds.storeKey .wallet none ?_
    intro current
    exact absurd current (keeps inUse)
  | switchSigningMode provider => exact holds.setProvider (keeps inUse)
  | restored url provider => exact holds.setProvider (keeps inUse)
  | walletConnected ok => exact holds.setProvider (keeps inUse)
  | walletDisconnected ok =>
    cases ok with
    | true => exact holds.setProvider (keeps inUse rfl)
    | false => exact holds
  | keyStored provider stored =>
    exact holds.storeKey provider (some stored) (keeps inUse)
  | providerConnected call ok =>
    rw [Mobile.step, service.providerConnected_eq]
    exact holds
  | publicKeyRead call result throws =>
    rcases enabled.publicKeyRead with ⟨known, waits, -⟩
    simp only [Mobile.step, waits]
    cases result with
    | none => exact holds
    | some read =>
      rcases keeps with signer | ⟨unused, -⟩
      · have same : read = key :=
          Option.some.inj (signer.symm.trans holds.signer)
        subst same
        exact of_publicKeyRead (.inl signer) holds.jobs call throws
      · exact absurd inUse unused
  | keypairLoaded call result throws =>
    cases result with
    | none => exact holds
    | some loaded =>
      have same : loaded = key :=
        Option.some.inj ((keeps.2 inUse).symm.trans holds.signer)
      subst same
      exact of_keypairLoaded keeps.1 holds.jobs call throws
  | opened id =>
    rw [Mobile.step, service.onopen_eq]
    exact holds
  | message id message =>
    rw [Mobile.step, Service.onmessage]
    split
    · cases message with
      | registerAck status workerId =>
        rw [Service.handleMessage, service.handleRegisterAck_signing]
        exact holds
      | jobAssign msg => exact holds.handleJobAssign executor msg
      | other => exact holds
    · exact holds
  | closed id =>
    rw [Mobile.step, service.onclose_signing]
    exact holds
  | timer timer throws =>
    rw [Mobile.step, service.onTimer_signing]
    exact holds
  | heartbeat =>
    rw [Mobile.step, service.onHeartbeat_eq]
    exact holds
  | keyRead call result =>
    rcases enabled.keyRead with ⟨task, provider, known, waits, answers⟩
    simp only [Mobile.step, waits]
    exact holds.keyRead waits answers
  | hashed call completedAt =>
    rcases enabled.hashed with ⟨task, provider, pubkey, waits⟩
    simp only [Mobile.step, waits]
    exact holds.hashed waits completedAt
  | signed call result =>
    rcases enabled.signed with ⟨task, completedAt, pubkey, known, waits, _⟩
    simp only [Mobile.step, waits]
    exact holds.signed waits result
  | signedOwn call completedAt =>
    rcases enabled.signedOwn with ⟨task, keys, waits⟩
    simp only [Mobile.step, waits]
    exact holds.signedOwn call task keys completedAt

end Signing.Holds

/-! ## Coming into use -/

def Event.connectKey : Event Key → Option Key
  | .publicKeyRead _ result _ | .keypairLoaded _ result _ => result
  | _ => none

namespace Service

variable (service : Service Key Output)

theorem disconnect_timers {timer : Nat}
    (pending : (service.disconnect.timers timer).isSome) :
    (service.timers timer).isSome := by
  simp only [disconnect, cleanup] at pending
  cases last : service.reconnectTimeout with
  | none =>
    rw [last] at pending
    exact pending
  | some cleared =>
    rw [last] at pending
    by_cases same : timer = cleared
    · subst same
      simp at pending
    · simpa [same] using pending

theorem setCoordinatorUrl_timers {url : String} {shown : ConnectionStatus}
    {timer : Nat}
    (pending : ((service.setCoordinatorUrl url shown).timers timer).isSome) :
    (service.timers timer).isSome := by
  unfold setCoordinatorUrl at pending
  split at pending
  · rw [connect_eq] at pending
    exact service.disconnect_timers pending
  · exact pending

variable {service}

theorem InUse.of_live (sole : service.network.Sole) {id : Nat}
    (live : service.network.Live id) : service.InUse :=
  .inl ⟨id, sole.live id live, live.2⟩

theorem unused_network {next : Network Key Output}
    {Sends : Frame Key Output → Prop} {Mute : Prop}
    (step : service.network.Step Sends Mute next)
    (unused : ¬ service.InUse) :
    ¬ ∃ id ∈ next.ws, (next.sockets id).readyState ≠ .closed := by
  rintro ⟨id, current, busy⟩
  rcases step.kept with rfl | ⟨ws, -, kept⟩
  · rcases service.network.detach_cases with
      ⟨-, same⟩ | ⟨detached, -, ws, -⟩
    · rw [same] at current busy
      exact unused (.inl ⟨id, current, busy⟩)
    · rw [ws] at current
      cases current
  · rw [ws] at current
    exact unused (.inl ⟨id, current, fun closed =>
      busy ((kept id).closed closed)⟩)

theorem unused_of_same {next : Service Key Output}
    (unused : ¬ service.InUse)
    (network : ¬ ∃ id ∈ next.network.ws,
      (next.network.sockets id).readyState ≠ .closed)
    (timers : ∀ timer, (next.timers timer).isSome →
      (service.timers timer).isSome)
    (jobs : next.jobs = service.jobs) : ¬ next.InUse := by
  rintro (busy | ⟨timer, pending⟩ | ⟨call, pending⟩)
  · exact network busy
  · exact unused (.inr (.inl ⟨timer, timers timer pending⟩))
  · rw [jobs] at pending
    exact unused (.inr (.inr ⟨call, pending⟩))

theorem unused_opensSocket (unused : ¬ service.InUse) {event : Event Key}
    (enabled : service.Enabled event) (keyless : event.connectKey = none) :
    service.opensSocket event = false := by
  cases event with
  | publicKeyRead call result throws =>
    cases keyless
    rfl
  | keypairLoaded call result throws =>
    cases keyless
    rfl
  | timer timer throws => exact absurd (.inr (.inl ⟨timer, enabled⟩)) unused
  | _ => rfl

theorem unused_step (executor : Executor Output)
    (sole : service.network.Sole) (unused : ¬ service.InUse)
    {event : Event Key} (enabled : service.Enabled event)
    (keyless : event.connectKey = none) :
    ¬ (step executor service event).InUse := by
  have network : ¬ ∃ id ∈ (step executor service event).network.ws,
      ((step executor service event).network.sockets id).readyState ≠
        .closed := by
    rcases service.step_network executor enabled with ⟨opens, -⟩ | ⟨-, step⟩
    · rw [unused_opensSocket unused enabled keyless] at opens
      cases opens
    · exact unused_network step unused
  -- A receipt in progress or a live socket would be in use already.
  have idle : ∀ call job, service.jobs call ≠ some job := by
    intro call job pending
    exact unused (.inr (.inr ⟨call, by rw [pending]; rfl⟩))
  have detached : ∀ id, (service.network.sockets id).readyState ≠ .closed →
      ¬ (service.network.sockets id).attached = true := by
    intro id busy attached
    exact unused (.of_live sole ⟨attached, busy⟩)
  cases event with
  | connect =>
    rw [step, connect_eq] at network ⊢
    exact unused_of_same unused network (fun _ => id) rfl
  | disconnect =>
    exact unused_of_same unused network
      (fun _ => service.disconnect_timers) rfl
  | setCoordinatorUrl url shown =>
    exact unused_of_same unused network
      (fun _ => service.setCoordinatorUrl_timers)
      (congrArg Signing.jobs (service.setCoordinatorUrl_signing url shown))
  | connectWallet | disconnectWallet | switchSigningMode | restored
  | walletConnected | keyStored =>
    exact unused_of_same unused network (fun _ => id) rfl
  | walletDisconnected ok =>
    cases ok with
    | true => exact unused_of_same unused network (fun _ => id) rfl
    | false => exact unused_of_same unused network (fun _ => id) rfl
  | providerConnected call ok =>
    rw [step, providerConnected_eq] at network ⊢
    exact unused_of_same unused network (fun _ => id) rfl
  | publicKeyRead call result throws =>
    rcases enabled.publicKeyRead with ⟨known, waits, -⟩
    cases keyless
    refine unused_of_same unused network ?_ ?_
    · simp only [step, waits]
      exact fun _ => id
    · simp only [step, waits]
      rfl
  | keypairLoaded call result throws =>
    cases keyless
    exact unused_of_same unused network (fun _ => id) rfl
  | opened id =>
    rw [step, onopen_eq] at network ⊢
    exact unused_of_same unused network (fun _ pending => pending) rfl
  | message id message =>
    have silent := detached id (by
      rcases enabled with opened | closing
      · rw [opened]
        decide
      · rw [closing]
        decide)
    rw [step, onmessage, if_neg silent]
    exact unused
  | closed id =>
    refine unused_of_same unused network ?_
      (congrArg Signing.jobs (service.onclose_signing id))
    rw [step, onclose, if_neg (detached id enabled)]
    exact fun _ pending => pending
  | timer timer throws => exact absurd (.inr (.inl ⟨timer, enabled⟩)) unused
  | heartbeat =>
    rw [step, onHeartbeat_eq] at network ⊢
    exact unused_of_same unused network (fun _ => id) rfl
  | keyRead | hashed | signed | signedOwn =>
    rcases enabled.resumes executor rfl with ⟨job, waits, -⟩
    exact absurd waits (idle _ job)

end Service

end Dispatch.Mobile
