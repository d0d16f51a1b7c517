import Dispatch.Mobile.Sockets

/-! # The calls of `handleJobAssign`

A `handleJobAssign` is suspended up to three times.
-/

namespace Dispatch.Mobile

variable {Key Output : Type}

/-- How a `handleJobAssign` returns. -/
inductive Exit
  | ignored
  | rejected
  | failed
  | completed
  deriving DecidableEq

def Exit.sends : Exit → Bool
  | rejected | completed => true
  | ignored | failed => false

def Job.task : Job Key Output → Task Output
  | reading task _ _ | hashing task _ _ | signing task _ _ _
  | signingOwn task _ => task

def Job.jobId (job : Job Key Output) : JsString :=
  job.task.jobId

def Job.waits : Option (Job Key Output) → Nat
  | some (reading ..) => 3
  | some (hashing ..) => 2
  | some (signing ..) | some (signingOwn ..) => 1
  | none => 0

theorem Job.waits_le (job : Option (Job Key Output)) : Job.waits job ≤ 3 := by
  unfold Job.waits
  split <;> decide

def Frame.isCompletion : Frame Key Output → Bool
  | jobComplete _ => true
  | register _ | heartbeat _ | jobReject _ _ => false

def Frame.repliesTo (jobId : JsString) : Frame Key Output → Bool
  | jobComplete completion => completion.jobId = jobId
  | jobReject rejected _ => rejected = jobId
  | register _ | heartbeat _ => false

namespace Service

variable (service : Service Key Output)

def refuses : Bool :=
  match service.signingProvider with
  | some provider => (service.ask provider).isNone
  | none => false

def exit? : Event Key → Option Exit
  | .message _ (.jobAssign msg) =>
    match service.keys with
    | none => some .ignored
    | some _ =>
      match msg.jobType, truthy msg.taskType, truthy msg.input with
      | .task, some _, some _ =>
        if service.refuses then some .failed else none
      | _, _, _ => some .rejected
  | .keyRead _ result => if result.isSome then none else some .failed
  | .hashed call completedAt =>
    match completedAt, service.jobs call with
    | some _, some (.hashing _ provider _) =>
      if (service.ask provider).isSome then none else some .failed
    | _, _ => some .failed
  | .signed _ result => some (if result.isSome then .completed else .failed)
  | .signedOwn call completedAt =>
    match completedAt, service.jobs call with
    | some _, some (.signingOwn _ (.keypair _)) => some .completed
    | _, _ => some .failed
  | _ => none

variable {service} in
theorem exit?_ignored {event : Event Key}
    (ignored : service.exit? event = some .ignored) :
    service.keys = none ∧ event.call? = none := by
  unfold exit? at ignored
  split at ignored
  case h_1 =>
    cases known : service.keys with
    | none => exact ⟨rfl, rfl⟩
    | some keys =>
      rw [known] at ignored
      dsimp only at ignored
      split at ignored
      · split at ignored <;> cases ignored
      · cases ignored
  case h_2 => split at ignored <;> cases ignored
  case h_3 =>
    split at ignored
    · split at ignored <;> cases ignored
    · cases ignored
  case h_4 => split at ignored <;> cases ignored
  case h_5 => split at ignored <;> cases ignored
  case h_6 => cases ignored

def Numbered : Prop :=
  ∀ call, (service.jobs call).isSome → call < service.jobCalls

structure Turn (number : Nat) (jobId : JsString) (exit : Option Exit)
    (next : Service Key Output) : Prop where
  own : (next.jobs number).map Job.jobId =
    if exit.isSome then none else some jobId
  others : ∀ other ≠ number, next.jobs other = service.jobs other
  numbered : next.Numbered
  calls : service.jobCalls ≤ next.jobCalls
  sends : ∃ frame : Frame Key Output, frame.repliesTo jobId = true ∧
    frame.isCompletion = decide (exit = some .completed) ∧
    next.network =
      if exit.any Exit.sends then service.network.send frame
      else service.network
  keys : next.keys = service.keys

variable {service}

theorem Numbered.fresh (numbered : service.Numbered) :
    service.jobs service.jobCalls = none := by
  by_contra busy
  exact lt_irrefl _ (numbered _ (Option.isSome_iff_ne_none.mpr busy))

theorem Numbered.setJob (numbered : service.Numbered) {call : Nat}
    (suspended : (service.jobs call).isSome)
    (job : Option (Job Key Output)) : (service.setJob call job).Numbered := by
  intro other busy
  by_cases same : other = call
  · rw [same]
    exact numbered call suspended
  · have kept : (service.setJob call job).jobs other = service.jobs other :=
      Function.update_of_ne same ..
    rw [kept] at busy
    exact numbered other busy

theorem Numbered.startJob (numbered : service.Numbered)
    (job : Job Key Output) : (service.startJob job).Numbered := by
  intro other busy
  by_cases same : other = service.jobCalls
  · rw [same]
    exact Nat.lt_succ_self _
  · have kept : (service.startJob job).jobs other = service.jobs other :=
      Function.update_of_ne same ..
    rw [kept] at busy
    exact Nat.lt_succ_of_lt (numbered other busy)

theorem returned_turn (numbered : service.Numbered) (jobId : JsString)
    {exit : Exit} (quiet : exit.sends = false) :
    service.Turn service.jobCalls jobId (some exit) service where
  own := congrArg (Option.map Job.jobId) numbered.fresh
  others _ _ := rfl
  numbered := numbered
  calls := le_rfl
  sends := by
    refine ⟨.jobReject jobId "", decide_eq_true rfl, ?_, ?_⟩
    · cases exit with
      | completed => cases quiet
      | _ => rfl
    · rw [Option.any_some, quiet]
      rfl
  keys := rfl

theorem startJob_turn (numbered : service.Numbered) (job : Job Key Output) :
    service.Turn service.jobCalls job.jobId none (service.startJob job) where
  own := by
    have stored : (service.startJob job).jobs service.jobCalls = some job :=
      Function.update_self ..
    rw [stored]
    rfl
  others _ different := Function.update_of_ne different ..
  numbered := numbered.startJob job
  calls := Nat.le_succ _
  sends := ⟨.jobReject job.jobId "", decide_eq_true rfl, rfl, rfl⟩
  keys := rfl

theorem report_turn (numbered : service.Numbered) (keys : Keys Key)
    (task : Task Output) :
    service.Turn service.jobCalls task.jobId
      (if service.refuses then some .failed else none)
      (service.report keys task) := by
  unfold report refuses
  cases service.signingProvider with
  | none => exact startJob_turn numbered (.signingOwn task keys)
  | some provider =>
    rcases Option.eq_none_or_eq_some (service.ask provider) with
      asked | ⟨known, asked⟩
    · simp only [asked]
      exact returned_turn numbered task.jobId rfl
    · simp only [asked]
      exact startJob_turn numbered (.reading task provider known)

theorem handleJobAssign_turn (executor : Executor Output)
    (numbered : service.Numbered) (id : Nat) (msg : Assignment) :
    service.Turn service.jobCalls msg.jobId
      (service.exit? (.message id (.jobAssign msg)))
      (service.handleJobAssign executor msg) := by
  have rejects : ∀ reason, service.Turn service.jobCalls msg.jobId
      (some .rejected) (service.send (.jobReject msg.jobId reason)) := by
    intro reason
    exact ⟨congrArg (Option.map Job.jobId) numbered.fresh, fun _ _ => rfl,
      numbered, le_rfl,
      ⟨.jobReject msg.jobId reason, decide_eq_true rfl, rfl, rfl⟩, rfl⟩
  unfold handleJobAssign exit?
  dsimp only
  cases service.keys with
  | none => exact returned_turn numbered msg.jobId rfl
  | some keys =>
    dsimp only
    cases msg.jobType with
    | llmInfer => exact rejects _
    | task =>
      cases truthy msg.taskType with
      | none => exact rejects _
      | some taskType =>
        cases truthy msg.input with
        | none => exact rejects _
        | some input =>
          exact report_turn numbered keys ⟨msg.jobId, _⟩

section Goes

variable {call : Nat} {task : Task Output} (numbered : service.Numbered)

include numbered

theorem update_turn {before : Job Key Output} {next : Service Key Output}
    (waits : service.jobs call = some before) {job : Option (Job Key Output)}
    (jobs : next.jobs = Function.update service.jobs call job)
    (calls : next.jobCalls = service.jobCalls)
    (keys : next.keys = service.keys) {exit : Option Exit}
    (own : job.map Job.jobId =
      if exit.isSome then none else some before.jobId)
    (sends : ∃ frame : Frame Key Output,
      frame.repliesTo before.jobId = true ∧
      frame.isCompletion = decide (exit = some .completed) ∧
      next.network =
        if exit.any Exit.sends then service.network.send frame
        else service.network) :
    service.Turn call before.jobId exit next where
  own := by
    rw [jobs, Function.update_self]
    exact own
  others other different := by rw [jobs, Function.update_of_ne different]
  numbered := by
    rw [Numbered, jobs, calls]
    exact numbered.setJob (by rw [waits]; rfl) job
  calls := calls.ge
  sends := sends
  keys := keys

theorem waiting_turn {before job : Job Key Output}
    {next : Service Key Output} (waits : service.jobs call = some before)
    (jobs : next.jobs = Function.update service.jobs call (some job))
    (calls : next.jobCalls = service.jobCalls)
    (keys : next.keys = service.keys) (same : job.jobId = before.jobId)
    (network : next.network = service.network) :
    service.Turn call before.jobId none next :=
  update_turn numbered waits jobs calls keys (congrArg some same)
    ⟨.jobReject before.jobId "", decide_eq_true rfl, rfl, network⟩

theorem failed_turn {before : Job Key Output} {next : Service Key Output}
    (waits : service.jobs call = some before)
    (jobs : next.jobs = Function.update service.jobs call none)
    (calls : next.jobCalls = service.jobCalls)
    (keys : next.keys = service.keys)
    (network : next.network = service.network) :
    service.Turn call before.jobId (some .failed) next :=
  update_turn numbered waits jobs calls keys rfl
    ⟨.jobReject before.jobId "", decide_eq_true rfl, rfl, network⟩

theorem completed_turn {before : Job Key Output} {next : Service Key Output}
    (waits : service.jobs call = some before)
    (jobs : next.jobs = Function.update service.jobs call none)
    (calls : next.jobCalls = service.jobCalls)
    (keys : next.keys = service.keys)
    {completion : Completion Key Output}
    (same : completion.jobId = before.jobId)
    (network : next.network = service.network.send (.jobComplete completion)) :
    service.Turn call before.jobId (some .completed) next :=
  update_turn numbered waits jobs calls keys rfl
    ⟨.jobComplete completion, decide_eq_true same, rfl, network⟩

theorem keyRead_turn {provider : Provider} {known : Option Key}
    (waits : service.jobs call = some (.reading task provider known))
    (result : Option Key) :
    service.Turn call task.jobId (service.exit? (.keyRead call result))
      (service.keyRead call task provider known result) := by
  cases result with
  | none => exact failed_turn numbered waits rfl rfl rfl rfl
  | some key =>
    rw [keyRead, keepLoaded_eq]
    exact waiting_turn numbered waits rfl rfl rfl rfl rfl

theorem hashed_turn {provider : Provider} {pubkey : Key}
    (waits : service.jobs call = some (.hashing task provider pubkey))
    (completedAt : Option String) :
    service.Turn call task.jobId (service.exit? (.hashed call completedAt))
      (service.hashed call task provider pubkey completedAt) := by
  unfold hashed exit?
  dsimp only
  rw [waits]
  cases completedAt with
  | none => exact failed_turn numbered waits rfl rfl rfl rfl
  | some completedAt =>
    rcases Option.eq_none_or_eq_some (service.ask provider) with
      asked | ⟨known, asked⟩
    · simp only [asked]
      exact failed_turn numbered waits rfl rfl rfl rfl
    · simp only [asked]
      exact waiting_turn numbered waits rfl rfl rfl rfl rfl

theorem signed_turn {completedAt : String} {pubkey : Key} {known : Option Key}
    (waits : service.jobs call = some (.signing task completedAt pubkey known))
    (result : Option Key) :
    service.Turn call task.jobId (service.exit? (.signed call result))
      (service.signed call task completedAt pubkey known result) := by
  cases result with
  | none => exact failed_turn numbered waits rfl rfl rfl rfl
  | some key =>
    rw [signed, keepLoaded_eq]
    exact completed_turn numbered waits rfl rfl rfl rfl rfl

theorem signedOwn_turn {keys : Keys Key}
    (waits : service.jobs call = some (.signingOwn task keys))
    (completedAt : Option String) :
    service.Turn call task.jobId (service.exit? (.signedOwn call completedAt))
      (service.signedOwn call task keys completedAt) := by
  unfold signedOwn exit?
  dsimp only
  rw [waits]
  cases completedAt with
  | none => exact failed_turn numbered waits rfl rfl rfl rfl
  | some completedAt =>
    cases keys with
    | provided key => exact failed_turn numbered waits rfl rfl rfl rfl
    | keypair key => exact completed_turn numbered waits rfl rfl rfl rfl rfl

theorem step_turn (executor : Executor Output) {event : Event Key}
    (enabled : service.Enabled event) (goes : event.call? = some call) :
    ∃ job, service.jobs call = some job ∧
      service.Turn call job.jobId (service.exit? event)
        (step executor service event) := by
  rcases enabled.resumes executor goes with ⟨job, waits, resumes⟩
  refine ⟨job, waits, ?_⟩
  generalize step executor service event = next at resumes ⊢
  cases resumes with
  | keyRead result => exact keyRead_turn numbered waits result
  | hashed completedAt => exact hashed_turn numbered waits completedAt
  | signed result => exact signed_turn numbered waits result
  | signedOwn completedAt => exact signedOwn_turn numbered waits completedAt

end Goes

theorem step_waits (executor : Executor Output) {event : Event Key}
    {call : Nat} (enabled : service.Enabled event)
    (goes : event.call? = some call) :
    Job.waits ((step executor service event).jobs call) <
      Job.waits (service.jobs call) := by
  have stored : ∀ (next : Service Key Output) job,
      (next.setJob call job).jobs call = job :=
    fun _ _ => Function.update_self ..
  rcases enabled.resumes executor goes with ⟨job, waits, resumes⟩
  rw [waits]
  generalize step executor service event = next at resumes ⊢
  cases resumes with
  | keyRead result =>
    cases result with
    | none => simp [keyRead, stored, Job.waits]
    | some key => simp [keyRead, stored, Job.waits]
  | hashed completedAt =>
    unfold hashed
    split
    · simp [stored, Job.waits]
    · simp [stored, Job.waits]
  | signed result =>
    cases result with
    | none => simp [signed, stored, Job.waits]
    | some key =>
      rw [signed, keepLoaded_eq]
      simp [send, stored, Job.waits]
  | signedOwn completedAt =>
    unfold signedOwn
    split
    · simp [send, stored, Job.waits]
    · simp [stored, Job.waits]

/-! ## Events that are not about jobs -/

def Assigns (service : Service Key Output) (id : Nat) (msg : Assignment)
    (event : Event Key) : Prop :=
  event = .message id (.jobAssign msg) ∧
    (service.network.sockets id).attached = true

structure Idle (service next : Service Key Output) : Prop where
  jobs : next.jobs = service.jobs
  calls : next.jobCalls = service.jobCalls
  keys : next.keys = service.keys ∨ next.keys.isSome

theorem Idle.of_same {next : Service Key Output}
    (jobs : next.jobs = service.jobs)
    (calls : next.jobCalls = service.jobCalls)
    (keys : next.keys = service.keys) : service.Idle next :=
  ⟨jobs, calls, .inl keys⟩

theorem Idle.keys_isSome {next : Service Key Output}
    (idle : service.Idle next) (known : service.keys.isSome) :
    next.keys.isSome := by
  rcases idle.keys with same | found
  · rw [same]
    exact known
  · exact found

theorem Idle.doConnect {next : Service Key Output}
    (idle : service.Idle next) (throws : Bool) :
    service.Idle (next.doConnect throws) := by
  rcases idle with ⟨jobs, calls, keys⟩
  unfold Service.doConnect
  split
  · exact ⟨jobs, calls, keys⟩
  · dsimp only
    split
    · rw [scheduleReconnect_eq]
      exact ⟨jobs, calls, keys⟩
    · exact ⟨jobs, calls, keys⟩

theorem step_idle (executor : Executor Output) {event : Event Key}
    (enabled : service.Enabled event) (idle : event.call? = none)
    (unassigned : ∀ id msg, ¬ service.Assigns id msg event) :
    service.Idle (step executor service event) := by
  cases event with
  | connect =>
    rw [step, connect_eq]
    exact .of_same rfl rfl rfl
  | disconnect | connectWallet | disconnectWallet | switchSigningMode
  | restored | walletConnected | keyStored => exact .of_same rfl rfl rfl
  | setCoordinatorUrl url shown =>
    simp only [step, setCoordinatorUrl]
    split
    · rw [connect_eq]
      exact .of_same rfl rfl rfl
    · exact .of_same rfl rfl rfl
  | walletDisconnected ok =>
    cases ok with
    | true => exact .of_same rfl rfl rfl
    | false => exact .of_same rfl rfl rfl
  | providerConnected call ok =>
    rw [step, providerConnected_eq]
    exact .of_same rfl rfl rfl
  | publicKeyRead call result throws =>
    rcases enabled.publicKeyRead with ⟨known, waits, _⟩
    simp only [step, waits]
    cases result with
    | none => exact .of_same rfl rfl rfl
    | some key =>
      simp only [publicKeyRead]
      rw [keepLoaded_eq]
      apply Idle.doConnect
      exact ⟨rfl, rfl, .inr rfl⟩
  | keypairLoaded call result throws =>
    cases result with
    | none => exact .of_same rfl rfl rfl
    | some key =>
      rw [step, keypairLoaded]
      apply Idle.doConnect
      exact ⟨rfl, rfl, .inr rfl⟩
  | opened id =>
    rw [step, onopen_eq]
    exact .of_same rfl rfl rfl
  | message id message =>
    simp only [step, onmessage]
    split
    case isFalse => exact .of_same rfl rfl rfl
    case isTrue attached =>
      cases message with
      | registerAck status workerId =>
        simp only [handleMessage, handleRegisterAck]
        split
        · exact .of_same rfl rfl rfl
        · split <;> exact .of_same rfl rfl rfl
      | jobAssign msg => exact absurd ⟨rfl, attached⟩ (unassigned id msg)
      | other => exact .of_same rfl rfl rfl
  | closed id =>
    simp only [step, onclose]
    split
    · split
      · rw [scheduleReconnect_eq]
        exact .of_same rfl rfl rfl
      · exact .of_same rfl rfl rfl
    · exact .of_same rfl rfl rfl
  | timer timer throws =>
    simp only [step, onTimer]
    split
    · apply Idle.doConnect
      exact .of_same rfl rfl rfl
    · exact .of_same rfl rfl rfl
  | heartbeat =>
    rw [step, onHeartbeat_eq]
    exact .of_same rfl rfl rfl
  | keyRead | hashed | signed | signedOwn => cases idle

theorem step_calls (executor : Executor Output) {event : Event Key}
    (numbered : service.Numbered) (enabled : service.Enabled event) :
    (∃ call job, event.call? = some call ∧ service.jobs call = some job ∧
      service.Turn call job.jobId (service.exit? event)
        (step executor service event)) ∨
    (∃ id msg, service.Assigns id msg event ∧
      service.Turn service.jobCalls msg.jobId (service.exit? event)
        (step executor service event)) ∨
    (event.call? = none ∧ (∀ id msg, ¬ service.Assigns id msg event) ∧
      service.Idle (step executor service event)) := by
  cases goes : event.call? with
  | some call =>
    rcases step_turn numbered executor enabled goes with ⟨job, waits, turn⟩
    exact .inl ⟨call, job, rfl, waits, turn⟩
  | none =>
    by_cases assigned : ∃ id msg, service.Assigns id msg event
    · rcases assigned with ⟨id, msg, rfl, attached⟩
      refine .inr (.inl ⟨id, msg, ⟨rfl, attached⟩, ?_⟩)
      rw [step, onmessage, if_pos attached]
      exact handleJobAssign_turn executor numbered id msg
    · have unassigned := fun id msg assigns => assigned ⟨id, msg, assigns⟩
      exact .inr (.inr ⟨rfl, unassigned,
        step_idle executor enabled goes unassigned⟩)

theorem Numbered.step (executor : Executor Output) {event : Event Key}
    (numbered : service.Numbered) (enabled : service.Enabled event) :
    (step executor service event).Numbered := by
  rcases step_calls executor numbered enabled with
    ⟨_, _, _, _, turn⟩ | ⟨_, _, _, turn⟩ | ⟨_, _, idle⟩
  · exact turn.numbered
  · exact turn.numbered
  · rw [Numbered, idle.jobs, idle.calls]
    exact numbered

theorem step_keys (executor : Executor Output) {event : Event Key}
    (numbered : service.Numbered) (enabled : service.Enabled event)
    (known : service.keys.isSome) :
    (step executor service event).keys.isSome := by
  rcases step_calls executor numbered enabled with
    ⟨_, _, _, _, turn⟩ | ⟨_, _, _, turn⟩ | ⟨_, _, idle⟩
  · rw [turn.keys]
    exact known
  · rw [turn.keys]
    exact known
  · exact idle.keys_isSome known

theorem opensSocket_keys (executor : Executor Output) {event : Event Key}
    (enabled : service.Enabled event)
    (opens : service.opensSocket event = true) :
    (step executor service event).keys.isSome := by
  unfold opensSocket at opens
  split at opens
  case h_1 call key =>
    rcases enabled.publicKeyRead with ⟨known, waits, _⟩
    simp only [step, waits, publicKeyRead]
    exact (Idle.doConnect (.of_same rfl rfl rfl) false).keys_isSome rfl
  case h_2 call key =>
    simp only [step, keypairLoaded]
    exact (Idle.doConnect (.of_same rfl rfl rfl) false).keys_isSome rfl
  case h_3 timer =>
    rw [Bool.and_eq_true] at opens
    rw [step, onTimer, if_pos opens.1]
    exact (Idle.doConnect (.of_same rfl rfl rfl) false).keys_isSome opens.2
  case h_4 => cases opens

end Service

/-! ## Whole runs -/

theorem Network.Step.detached {network next : Network Key Output}
    {Sends : Frame Key Output → Prop} {Mute : Prop}
    (step : network.Step Sends Mute next)
    (detached : ∀ id, (network.sockets id).attached = false) (id : Nat) :
    (next.sockets id).attached = false := by
  rcases step.kept with rfl | ⟨_, _, kept⟩
  · rcases network.detach_cases with
      ⟨_, same⟩ | ⟨current, _, _, _, gone, _, _, others⟩
    · rw [same]
      exact detached id
    · by_cases same : id = current
      · rw [same]
        exact gone
      · rw [others id same]
        exact detached id
  · rw [(kept id).attached]
    exact detached id

section Reachable

variable (executor : Executor Output) {service : Service Key Output}

theorem reachable_numbered
    (reachable : (machine Key executor).Reachable service) :
    service.Numbered := by
  refine reachable.invariant Service.Numbered ?_ ?_
  · intro call busy
    cases busy
  · intro service event _ numbered enabled
    exact numbered.step executor enabled

theorem reachable_keys
    (reachable : (machine Key executor).Reachable service) {id : Nat}
    (attached : (service.network.sockets id).attached = true) :
    service.keys.isSome := by
  have keyed := reachable.invariant (fun service => service.keys.isSome ∨
    ∀ id, (service.network.sockets id).attached = false) ?_ ?_
  · rcases keyed with known | detached
    · exact known
    · rw [detached id] at attached
      cases attached
  · exact .inr fun _ => rfl
  · intro service event before keyed enabled
    have numbered := reachable_numbered executor before
    rcases keyed with known | detached
    · exact .inl (service.step_keys executor numbered enabled known)
    rcases service.step_network executor enabled with
      ⟨opens, _⟩ | ⟨_, step⟩
    · exact .inl (service.opensSocket_keys executor enabled opens)
    · exact .inr (step.detached detached)

end Reachable

end Dispatch.Mobile
