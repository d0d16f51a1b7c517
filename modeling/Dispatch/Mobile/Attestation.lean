import Dispatch.Mobile.Signing
import Dispatch.Worker.ReceiptSigner

/-! # The receipts of a connection

Whether the results that the phone sends on a connection name the key that is
registered there, are signed with it, and so are verified by the coordinator.
-/

namespace Dispatch.Mobile

variable {Key Output : Type}

/-! ## Attested results -/

def Registered (sent : List (Frame Key Output)) (key : Key) : Prop :=
  ∀ other, .register other ∈ sent ↔ other = key

def Attested (sent : List (Frame Key Output)) : Prop :=
  ∀ completion, .jobComplete completion ∈ sent →
    ∃ key, Registered sent key ∧ completion.provider = key ∧
      completion.signer = key

section Frames

variable {sent : List (Frame Key Output)} {key : Key}

theorem Registered.append {frame : Frame Key Output}
    (registered : Registered sent key) (other : frame.isRegister = false) :
    Registered (sent ++ [frame]) key := by
  intro candidate
  rw [← registered candidate, List.mem_append, List.mem_singleton]
  constructor
  · rintro (member | rfl)
    · exact member
    · cases other
  · exact .inl

theorem Attested.append {frame : Frame Key Output} (attested : Attested sent)
    (other : frame.isRegister = false)
    (fits : ∀ completion, frame = .jobComplete completion →
      ∃ key, Registered sent key ∧ completion.provider = key ∧
        completion.signer = key) :
    Attested (sent ++ [frame]) := by
  intro completion member
  have known : ∃ key, Registered sent key ∧ completion.provider = key ∧
      completion.signer = key := by
    rcases List.mem_append.mp member with earlier | last
    · exact attested completion earlier
    · exact fits completion (List.mem_singleton.mp last).symm
  rcases known with ⟨key, registered, provider, signer⟩
  exact ⟨key, registered.append other, provider, signer⟩

theorem attested_register (key : Key) :
    Attested [(.register key : Frame Key Output)] := by
  intro completion member
  cases List.mem_singleton.mp member

theorem registered_register (key : Key) :
    Registered [(.register key : Frame Key Output)] key := by
  intro other
  rw [List.mem_singleton]
  constructor
  · rintro ⟨⟩
    rfl
  · rintro rfl
    rfl

end Frames

/-! ## What is sent -/

namespace Network

variable {network next : Network Key Output}
  {Sends : Frame Key Output → Prop} {Mute : Prop}

theorem Step.sent_cases (step : network.Step Sends Mute next)
    (sole : network.Sole) (tracked : network.Tracked) (id : Nat) :
    (next.sockets id).sent = (network.sockets id).sent ∨
    (∃ frame, Sends frame ∧ frame.isRegister = false ∧
      network.ws = some id ∧ (network.sockets id).readyState = .opened ∧
      (next.sockets id).sent = (network.sockets id).sent ++ [frame]) ∨
    ∃ key, Sends (.register key) ∧ (next.sockets id).sent = [.register key] := by
  cases step with
  | stay => exact .inl rfl
  | @send frame sends other =>
    rcases network.send_cases frame with same | ⟨target, ws, opened, sent⟩
    · rw [same]
      exact .inl rfl
    · rw [sent]
      by_cases same : id = target
      · subst same
        rw [modify_self]
        exact .inr (.inl ⟨frame, sends, other, ws, opened, rfl⟩)
      · rw [modify_other same]
        exact .inl rfl
  | close target =>
    rcases network.close_cases target with same | ⟨-, closing⟩
    · rw [same]
      exact .inl rfl
    · rw [closing]
      exact .inl (setState_sent target .closing id)
  | closed target => exact .inl (setState_sent target .closed id)
  | detach =>
    rcases network.detach_cases with
      ⟨-, same⟩ | ⟨target, -, -, -, -, -, sent, others⟩
    · rw [same]
      exact .inl rfl
    · by_cases same : id = target
      · subst same
        exact .inl sent
      · rw [others id same]
        exact .inl rfl
  | @opened target => exact .inl (setState_sent target .opened id)
  | @register opened connecting attached key sends =>
    have current := sole.live opened ⟨attached, by rw [connecting]; decide⟩
    have silent := tracked.silent opened connecting
    rcases send_cases (network.setState opened .opened) (.register key) with
      same | ⟨target, ws, -, sent⟩
    · rw [same]
      exact .inl (setState_sent opened .opened id)
    · have target : target = opened :=
        Option.some.inj (ws.symm.trans current)
      subst target
      rw [sent]
      by_cases same : id = target
      · subst same
        rw [modify_self, setState_sent, silent]
        exact .inr (.inr ⟨key, sends, rfl⟩)
      · rw [modify_other same]
        exact .inl (setState_sent target .opened id)

theorem attested_step (step : network.Step Sends Mute next)
    (sole : network.Sole) (tracked : network.Tracked)
    (attested : ∀ id, Attested (network.sockets id).sent)
    (fits : ∀ completion, Sends (.jobComplete completion) →
      ∀ id, network.ws = some id →
      (network.sockets id).readyState = .opened →
      ∃ key, Registered (network.sockets id).sent key ∧
        completion.provider = key ∧ completion.signer = key) (id : Nat) :
    Attested (next.sockets id).sent := by
  rcases step.sent_cases sole tracked id with
    same | ⟨frame, sends, other, current, opened, sent⟩ | ⟨key, -, sent⟩
  · rw [same]
    exact attested id
  · rw [sent]
    refine (attested id).append other ?_
    rintro completion rfl
    exact fits completion sends id current opened
  · rw [sent]
    exact attested_register key

def RegistersWith (network : Network Key Output) (key : Key) : Prop :=
  ∀ id ∈ network.ws, (network.sockets id).readyState = .opened →
    Registered (network.sockets id).sent key

theorem send_readyState (frame : Frame Key Output) (id : Nat) :
    ((network.send frame).sockets id).readyState =
      (network.sockets id).readyState := by
  rcases network.send_cases frame with same | ⟨target, -, -, sent⟩
  · rw [same]
  · rw [sent]
    exact forall_modify (fun before after =>
      after.readyState = before.readyState) (fun _ => rfl) rfl id

theorem setState_readyState {target : Nat} {readyState : ReadyState}
    (other : readyState ≠ .opened) {id : Nat}
    (opened : ((network.setState target readyState).sockets id).readyState =
      .opened) :
    (network.sockets id).readyState = .opened := by
  by_cases same : id = target
  · subst same
    rw [setState, modify_self] at opened
    exact absurd opened other
  · rwa [setState, modify_other same] at opened

theorem Step.opened_cases (step : network.Step Sends Mute next)
    (sole : network.Sole) (tracked : network.Tracked) (loud : ¬ Mute)
    {id : Nat} (current : next.ws = some id)
    (opened : (next.sockets id).readyState = .opened) :
    network.ws = some id ∧ (network.sockets id).readyState = .opened ∨
      ∃ key, Sends (.register key) ∧
        (next.sockets id).sent = [.register key] := by
  cases step with
  | stay => exact .inl ⟨current, opened⟩
  | send =>
    rw [send_ws] at current
    rw [send_readyState] at opened
    exact .inl ⟨current, opened⟩
  | close target =>
    rcases network.close_cases target with same | ⟨-, closing⟩
    · rw [same] at current opened
      exact .inl ⟨current, opened⟩
    · rw [closing] at current opened
      have different : ReadyState.closing ≠ .opened := nofun
      exact .inl ⟨current, setState_readyState different opened⟩
  | closed target =>
    have different : ReadyState.closed ≠ .opened := nofun
    exact .inl ⟨current, setState_readyState different opened⟩
  | detach =>
    rcases network.detach_cases with ⟨-, same⟩ | ⟨target, -, ws, -⟩
    · rw [same] at current opened
      exact .inl ⟨current, opened⟩
    · rw [ws] at current
      cases current
  | @opened target _ silent =>
    by_cases same : id = target
    · subst same
      rcases silent with detached | mute
      · rw [(tracked.current id current).2] at detached
        cases detached
      · exact absurd mute loud
    · rw [setState, modify_other same] at opened
      exact .inl ⟨current, opened⟩
  | @register target connecting attached key sends =>
    have ws := sole.live target ⟨attached, by rw [connecting]; decide⟩
    have silent := tracked.silent target connecting
    have same : target = id := by
      rw [send_ws] at current
      exact Option.some.inj (ws.symm.trans current)
    subst same
    refine .inr ⟨key, sends, ?_⟩
    simp [Network.send, setState, modify, ws, silent]

theorem registersWith_step (step : network.Step Sends Mute next)
    (sole : network.Sole) (tracked : network.Tracked) {key : Key}
    (registers : network.RegistersWith key)
    (sends : ∀ other, Sends (.register other) → other = key)
    (loud : ¬ Mute) : next.RegistersWith key := by
  intro id current opened
  rcases step.opened_cases sole tracked loud current opened with
    ⟨wasCurrent, wasOpen⟩ | ⟨other, allowed, sent⟩
  · have registered := registers id wasCurrent wasOpen
    rcases step.sent_cases sole tracked id with
      same | ⟨frame, -, other, -, -, sent⟩ | ⟨other, allowed, sent⟩
    · rw [same]
      exact registered
    · rw [sent]
      exact registered.append other
    · rw [sent, sends other allowed]
      exact registered_register key
  · rw [sent, sends other allowed]
    exact registered_register key

end Network

theorem Network.registersWith_openSocket {network : Network Key Output}
    (key : Key) (url : String) :
    (network.openSocket url).RegistersWith key := by
  intro id current opened
  cases current
  simp [openSocket] at opened

/-! ## The identity of the service -/

structure Identified (service : Service Key Output) : Prop where
  sole : service.network.Sole
  tracked : service.network.Tracked
  attested : ∀ id, Attested (service.network.sockets id).sent
  inForce : service.InUse → ∃ key, service.signing.Holds key ∧
    service.network.RegistersWith key

def Service.Steady (service : Service Key Output) (event : Event Key) : Prop :=
  ¬ service.Overwrites event ∧ service.KeepsKey event

namespace Identified

variable {service : Service Key Output}

theorem initial : Identified (.initial : Service Key Output) where
  sole := .initial
  tracked := .initial
  attested _ _ := nofun
  inForce := by
    rintro (⟨id, current, -⟩ | ⟨timer, pending⟩ | ⟨call, pending⟩)
    · cases current
    · cases pending
    · cases pending

theorem fits (identified : Identified service) {event : Event Key}
    (enabled : service.Enabled event) {completion : Completion Key Output}
    (sends : service.Sends event (.jobComplete completion)) :
    ∃ key, service.network.RegistersWith key ∧ completion.provider = key ∧
      completion.signer = key := by
  cases sends with
  | @complete call task completedAt pubkey known waits key =>
    have inUse : service.InUse :=
      .inr (.inr ⟨call, by rw [waits]; rfl⟩)
    rcases identified.inForce inUse with ⟨force, holds, registers⟩
    rcases holds.jobs call _ waits with ⟨named, rfl⟩
    rcases enabled.signed with ⟨_, _, _, _, pending, answers⟩
    cases waits.symm.trans pending
    have signed : key = force := by
      rcases answers with none | none | same
      · cases none
      · cases none
      · exact Option.some.inj same
    exact ⟨force, registers, named, signed⟩
  | @completeOwn call task key waits =>
    have inUse : service.InUse :=
      .inr (.inr ⟨call, by rw [waits]; rfl⟩)
    rcases identified.inForce inUse with ⟨force, holds, registers⟩
    have own : key = force := holds.jobs call _ waits
    exact ⟨force, registers, own, own⟩

theorem attested_step (executor : Executor Output)
    (identified : Identified service) {event : Event Key}
    (enabled : service.Enabled event) (id : Nat) :
    Attested ((step executor service event).network.sockets id).sent := by
  rcases service.step_network executor enabled with ⟨-, opens⟩ | ⟨-, step⟩
  · rw [opens]
    by_cases same : id = service.network.created
    · subst same
      rw [Network.openSocket]
      intro completion member
      simp at member
    · simp only [Network.openSocket, Function.update_of_ne same]
      exact identified.attested id
  · refine Network.attested_step step identified.sole identified.tracked
      identified.attested ?_ id
    intro completion sends target current opened
    rcases identified.fits enabled sends with
      ⟨key, registers, provider, signer⟩
    exact ⟨key, registers target current opened, provider, signer⟩

theorem inForce_step (executor : Executor Output)
    (identified : Identified service) {event : Event Key}
    (enabled : service.Enabled event) (keeps : service.KeepsKey event)
    (inUse : service.InUse) :
    ∃ key, (step executor service event).signing.Holds key ∧
      (step executor service event).network.RegistersWith key := by
  rcases identified.inForce inUse with ⟨key, holds, registers⟩
  refine ⟨key, holds.step executor inUse enabled keeps, ?_⟩
  rcases service.step_network executor enabled with ⟨-, opens⟩ | ⟨-, step⟩
  · rw [opens]
    exact Network.registersWith_openSocket key service.coordinatorUrl
  · refine Network.registersWith_step step identified.sole
      identified.tracked registers ?_ ?_
    · intro other sends
      cases sends with
      | register _ known =>
        have cached := holds.keys
        simp only [Service.signing, known] at cached
        exact Option.some.inj cached
    · intro mute
      have cached := holds.keys
      simp only [Service.signing, mute] at cached
      cases cached

theorem inForce_connect (executor : Executor Output)
    (unused : ¬ service.InUse) {event : Event Key}
    (enabled : service.Enabled event) (keeps : service.KeepsKey event)
    {key : Key} (got : event.connectKey = some key) :
    ∃ key, (step executor service event).signing.Holds key ∧
      (step executor service event).network.RegistersWith key := by
  have idle : ∀ call job, service.jobs call = some job →
      job.Fits service.signingProvider key := by
    intro call job pending
    exact absurd (.inr (.inr ⟨call, by rw [pending]; rfl⟩)) unused
  refine ⟨key, ?_, ?_⟩
  · cases event with
    | publicKeyRead call result throws =>
      cases got
      rcases enabled.publicKeyRead with ⟨known, waits, -⟩
      simp only [step, waits]
      refine .of_publicKeyRead ?_ idle call throws
      rcases keeps with signer | ⟨-, device, loading⟩
      · exact .inl signer
      · cases waits.symm.trans loading
        exact .inr ⟨device, rfl⟩
    | keypairLoaded call result throws =>
      cases got
      exact .of_keypairLoaded keeps.1 idle call throws
    | _ => cases got
  · rcases service.step_network executor enabled with ⟨-, opens⟩ | ⟨-, step⟩
    · rw [opens]
      exact Network.registersWith_openSocket key service.coordinatorUrl
    · intro id current opened
      refine absurd ⟨id, current, ?_⟩ (Service.unused_network step unused)
      rw [opened]
      decide

theorem step (executor : Executor Output) (identified : Identified service)
    {event : Event Key} (enabled : service.Enabled event)
    (steady : service.Steady event) :
    Identified (step executor service event) where
  sole := identified.sole.step_service executor identified.tracked enabled
    steady.1
  tracked := identified.tracked.step_service executor enabled
  attested := identified.attested_step executor enabled
  inForce inUse := by
    by_cases before : service.InUse
    · exact identified.inForce_step executor enabled steady.2 before
    · cases got : event.connectKey with
      | none =>
        exact absurd inUse (Service.unused_step executor identified.sole
          before enabled got)
      | some key =>
        exact inForce_connect executor before enabled steady.2 got

end Identified

/-! ## Messages -/

section Messages

open Worker Coordinator

variable {Number : Type} [JsNumber Number] [NumberToString Number]
  {env : Listener.RawEnvironment Number} (crypto : Crypto)
  (signs : Key → SigningProvider env.toEnvironment)

def Completion.message (completion : Completion Key (JsValue Number)) :
    Option (Worker.JobCompleteMsg Number) := do
  let outputHash ← hashOutput crypto completion.output
  let receipt : Worker.Receipt :=
    { jobId := completion.jobId
      providerPubkey := (signs completion.provider).getPublicKeyHex
      outputHash := outputHash, completedAt := completion.completedAt
      paymentRef := none }
  let canonical ← (receipt.toValue : JsValue Number).stringify
  let signature := (signs completion.signer).signMessage (utf8 canonical)
  return { jobId := completion.jobId, output := completion.output,
           outputHash := outputHash, receipt := receipt,
           receiptSignature := signature }

theorem Completion.message_of_same
    {completion : Completion Key (JsValue Number)} {key : Key}
    (provider : completion.provider = key)
    (signer : completion.signer = key) :
    completion.message crypto signs =
      (Builder.mobileProvider (signs key) :
        Builder env.toEnvironment crypto).build completion.completedAt
        completion.jobId completion.output := by
  rw [Completion.message, provider, signer]
  rfl

def Network.Verified (network : Network Key (JsValue Number)) : Prop :=
  ∀ id completion, .jobComplete completion ∈ (network.sockets id).sent →
    ∃ key, Registered (network.sockets id).sent key ∧
      completion.provider = key ∧ completion.signer = key ∧
      ∀ msg, completion.message crypto signs = some msg →
        msg.receipt.providerPubkey = (signs key).getPublicKeyHex ∧
          Verifies env (Builder.mobileProvider (signs key) :
            Builder env.toEnvironment crypto) msg

/-- If no step makes a second socket or changes the key while the service is in
use, all results are verified. -/
theorem results_verified_of_steady
    (decodes : ∀ text bytes, Base64.decode? text.toList = some bytes →
      env.base64Bytes text = bytes)
    (executor : Executor (JsValue Number))
    {final : Service Key (JsValue Number)} {events : List (Event Key)}
    (run : (machine Key executor).Run (machine Key executor).initial events
      final)
    (steady : (machine Key executor).Steps Service.Steady
      (machine Key executor).initial events) :
    (machine Key executor).Along
      (fun service => service.network.Verified crypto signs)
      (machine Key executor).initial events := by
  have identified : (machine Key executor).Along Identified
      (machine Key executor).initial events := by
    refine run.along ?_ .start .initial steady
    intro service event _ identified enabled steady
    exact identified.step executor enabled steady
  refine identified.mono ?_
  intro service identified id completion member
  rcases identified.attested id completion member with
    ⟨key, registered, provider, signer⟩
  refine ⟨key, registered, provider, signer, ?_⟩
  intro msg built
  rw [Completion.message_of_same crypto signs provider signer] at built
  refine ⟨?_, Builder.verifies_of_build env decodes built⟩
  rcases Builder.message_of_build built with ⟨json, -, -, -, rfl⟩
  rfl

end Messages

/-! A phone whose device key and wallet are two keys of the workers'
deployment. -/

namespace Sample

def publicKey : Provider → List UInt8
  | .device => Coordinator.Sample.key
  | .wallet => Coordinator.Sample.otherKey

def signs (key : Provider) :
    Worker.SigningProvider Worker.Sample.environment.toEnvironment where
  publicKey := publicKey key
  signMessage message := Worker.base64
    (Worker.Sample.block (publicKey key) ++ Worker.Sample.block message)
  signs text := by
    refine ⟨_, rfl, ?_, ?_⟩
    · simp [Worker.Sample.block]
    · simp [Worker.Sample.environment]

def echo : Executor (JsValue Worker.Sample.Number) where
  executeTask _ input := .ok (.string input)
  failure message := .string message

abbrev phone := machine Provider echo

def job : Assignment where
  jobId := "job-1"
  jobType := .task
  taskType := some "echo"
  input := some "text"

def registered : List (Event Provider) :=
  [.restored "wss://dispatch" .device, .connect, .keyStored .device .device,
    .providerConnected 0 true, .publicKeyRead 0 (some .device) false,
    .opened 0, .message 0 (.registerAck "ok" (some "worker"))]

def finished (key : Provider) : List (Event Provider) :=
  [.message 0 (.jobAssign job), .keyRead 0 (some key),
    .hashed 0 (some "1970-01-01T00:00:00.000Z"), .signed 0 (some key)]

def swapped : List (Event Provider) :=
  registered ++
    [.connectWallet, .keyStored .wallet .wallet, .walletConnected true] ++
    finished .wallet

def result (key : Provider) :
    Completion Provider (JsValue Worker.Sample.Number) where
  jobId := "job-1"
  output := .string "text"
  completedAt := "1970-01-01T00:00:00.000Z"
  provider := key
  signer := key

theorem decodes (text : String) (bytes : List UInt8)
    (decoded : Base64.decode? text.toList = some bytes) :
    Worker.Sample.environment.base64Bytes text = bytes :=
  congrArg (Option.getD · []) decoded

theorem unused_initial :
    ¬ (Service.initial : Service Key Output).InUse := by
  rintro (⟨id, current, -⟩ | ⟨timer, pending⟩ | ⟨call, pending⟩)
  · cases current
  · cases pending
  · cases pending

theorem calm_steady : phone.Steps Service.Steady .initial
    (registered ++ finished .device) := by
  refine ⟨⟨by decide, ?_⟩, ⟨by decide, trivial⟩, ⟨by decide, ?_⟩,
    ⟨by decide, trivial⟩, ⟨by decide, .inl rfl⟩, ⟨by decide, trivial⟩,
    ⟨by decide, trivial⟩, ⟨by decide, trivial⟩, ⟨by decide, trivial⟩,
    ⟨by decide, trivial⟩, ⟨by decide, trivial⟩, trivial⟩
  · intro inUse
    exact absurd inUse unused_initial
  · intro inUse
    exact absurd inUse unused_initial

end Sample

theorem sample_device_verified :
    (Sample.phone.Along (fun service => service.network.Verified
        Worker.Sample.crypto Sample.signs) .initial
      (Sample.registered ++ Sample.finished .device)) ∧
    (((Sample.phone.exec .initial
        (Sample.registered ++ Sample.finished .device)).network.sockets
          0).sent =
      [.register .device, .jobComplete (Sample.result .device)]) :=
  ⟨results_verified_of_steady Worker.Sample.crypto Sample.signs
    Sample.decodes Sample.echo (.of_steps (by decide +kernel))
    Sample.calm_steady, rfl⟩

theorem sample_wallet_unregistered :
    Sample.phone.Run .initial Sample.swapped
        (Sample.phone.exec .initial Sample.swapped) ∧
      (((Sample.phone.exec .initial Sample.swapped).network.sockets 0).sent =
        [.register .device, .jobComplete (Sample.result .wallet)]) ∧
      ¬ (Sample.phone.exec .initial Sample.swapped).network.Verified
        Worker.Sample.crypto Sample.signs := by
  have sent : ((Sample.phone.exec .initial Sample.swapped).network.sockets
      0).sent = [.register .device, .jobComplete (Sample.result .wallet)] :=
    rfl
  refine ⟨.of_steps (by decide +kernel), sent, ?_⟩
  intro verified
  rcases verified 0 (Sample.result .wallet) (by rw [sent]; simp) with
    ⟨key, registered, provider, -⟩
  rw [sent] at registered
  have device := (registered .device).mp (by simp)
  rw [← device] at provider
  cases provider

end Dispatch.Mobile
