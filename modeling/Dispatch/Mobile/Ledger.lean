import Dispatch.Foundation.OrderedMap
import Dispatch.Foundation.Selection
import Dispatch.Mobile.JobCalls
import Dispatch.Mobile.JobHistory

/-! # What becomes of each job

The service with the variables of every `handleJobAssign` that is suspended,
the jobs that it puts into the history and the earnings.
-/

namespace Dispatch.Mobile

open JobHistory (CompletedJob)
open Selection (Rounding)

variable {Key Output : Type}

namespace Network

def written (before after : Network Key Output) (id : Nat) :
    List (Frame Key Output) :=
  (after.sockets id).sent.drop (before.sockets id).sent.length

def target (network : Network Key Output) : Option Nat :=
  network.ws.filter fun id => (network.sockets id).readyState = .opened

variable {network : Network Key Output}

theorem target_eq_some_iff {id : Nat} :
    network.target = some id ↔
      network.ws = some id ∧ (network.sockets id).readyState = .opened := by
  simp [target, Option.filter_eq_some_iff]

theorem written_self (id : Nat) : network.written network id = [] :=
  List.drop_length

theorem written_send (frame : Frame Key Output) (id : Nat) :
    network.written (network.send frame) id =
      if network.target = some id then [frame] else [] := by
  unfold send
  split
  case h_2 absent =>
    rw [written_self, if_neg]
    simp [target, absent]
  case h_1 current known =>
    split
    case isFalse closed =>
      rw [written_self, if_neg]
      rw [target_eq_some_iff, known]
      rintro ⟨same, opened⟩
      cases same
      exact closed opened
    case isTrue opened =>
      have target : network.target = some current :=
        target_eq_some_iff.mpr ⟨known, opened⟩
      rw [target, written]
      by_cases same : current = id
      · subst same
        rw [if_pos rfl, modify_self, List.drop_left]
      · rw [if_neg fun equal => same (Option.some.inj equal),
          modify_other (Ne.symm same), List.drop_length]

end Network

/-! ## Calls -/

structure Call (Key Output : Type) where
  origin : Nat
  msg : Assignment
  success : Bool
  errorMsg : Option String
  durationMs : Nat
  written : Nat → List (Frame Key Output)

structure Returned (Key Output : Type) extends Call Key Output where
  present : Bool
  record : Option CompletedJob

def Returned.succeeded (returned : Returned Key Output) : Bool :=
  returned.record.any CompletedJob.success

structure Ledger (Key Output : Type) where
  service : Service Key Output
  calls : OrderedMap Nat (Call Key Output)
  totalEarnings : ℚ
  handled : Nat
  returned : List (Returned Key Output)
  restored : ℚ
  since : Nat

structure Input (Key : Type) where
  event : Event Key
  now : Nat
  durationMs : Nat
  reason : String
  storedEarnings : Option ℚ

def TASK_PRICE_BOLT : ℚ := 1 / 1000

/-- `earnings + TASK_PRICE_BOLT` -/
def credit (rounding : Rounding) (earnings : ℚ) : ℚ :=
  rounding.round (earnings + rounding.round TASK_PRICE_BOLT)

def Executor.thrown? (executor : Executor Output) (msg : Assignment) :
    Option String :=
  match msg.jobType, Service.truthy msg.taskType, Service.truthy msg.input with
  | .task, some taskType, some input =>
    match executor.executeTask taskType input with
    | .ok _ => none
    | .error message => some message
  | _, _, _ => none

namespace Call

variable (call : Call Key Output)

def begun (executor : Executor Output) (id : Nat) (msg : Assignment)
    (durationMs : Nat) : Call Key Output where
  origin := id
  msg := msg
  success := (executor.thrown? msg).isNone
  errorMsg := executor.thrown? msg
  durationMs := durationMs
  written _ := []

def goesOn (before after : Network Key Output) : Call Key Output :=
  { call with
      written := fun id => call.written id ++ before.written after id }

def completedJob (now : Nat) : CompletedJob where
  jobId := call.msg.jobId
  taskType := call.msg.taskType.getD call.msg.jobType.text
  prompt := call.msg.input
  timestamp := now
  durationMs := call.durationMs
  success := call.success
  error := call.errorMsg
  feedbackTxHash := none
  feedbackExplorerUrl := none
  feedbackNetwork := none
  paymentTxHash := none
  paymentExplorerUrl := none
  paymentAmount := none
  feedbackFailed := none
  paymentFailed := none

def failed (reason : String) : Call Key Output :=
  { call with
      success := false
      errorMsg := some ("Receipt signing failed: " ++ reason) }

def leave (present : Bool) (input : Input Key) : Exit → Returned Key Output
  | .ignored | .rejected =>
    { toCall := call, present := present, record := none }
  | .failed =>
    let call := call.failed input.reason
    { toCall := call, present := present
      record := some (call.completedJob input.now) }
  | .completed =>
    { toCall := call, present := present
      record := some (call.completedJob input.now) }

end Call

/-! ## The machine -/

namespace Ledger

variable (executor : Executor Output) (rounding : Rounding)
  (ledger : Ledger Key Output)

def initial : Ledger Key Output where
  service := .initial
  calls := .empty
  totalEarnings := 0
  handled := 0
  returned := []
  restored := 0
  since := 0

def call? (input : Input Key) : Option (Nat × Call Key Output) :=
  match input.event with
  | .message id (.jobAssign msg) =>
    if (ledger.service.network.sockets id).attached then
      some (ledger.service.jobCalls,
        .begun executor id msg input.durationMs)
    else none
  | event =>
    event.call?.bind fun number =>
      (ledger.calls.get? number).map fun call => (number, call)

def setEarnings (amount : ℚ) : Ledger Key Output :=
  { ledger with
      totalEarnings := amount
      restored := amount
      since := 0 }

def record (returned : Returned Key Output) : Ledger Key Output :=
  { ledger with
      returned := returned :: ledger.returned
      since := ledger.since + 1
      totalEarnings :=
        if returned.succeeded then credit rounding ledger.totalEarnings
        else ledger.totalEarnings }

def step (input : Input Key) : Ledger Key Output :=
  let after :=
    { ledger with
        service := Mobile.step executor ledger.service input.event }
  match ledger.call? executor input with
  | some (number, before) =>
    let call :=
      before.goesOn ledger.service.network after.service.network
    let after :=
      { after with
          handled := ledger.handled +
            if input.event.call?.isNone then 1 else 0 }
    match ledger.service.exit? input.event with
    | none => { after with calls := ledger.calls.set number call }
    | some exit =>
      let present :=
        (ledger.service.network.sockets call.origin).readyState = .opened
      record rounding { after with calls := ledger.calls.delete number }
        (call.leave present input exit)
  | none =>
    match input.event, input.storedEarnings with
    | .restored _ _, some amount => after.setEarnings amount
    | _, _ => after

def machine (Key : Type) :
    Machine (Ledger Key Output) (Input Key) where
  initial := .initial
  Enabled ledger input := ledger.service.Enabled input.event
  step := step executor rounding

instance [DecidableEq Key] (input : Input Key) :
    Decidable ((machine executor rounding Key).Enabled ledger input) :=
  inferInstanceAs (Decidable (ledger.service.Enabled input.event))

/-! ## What an event does -/

variable {executor rounding ledger} {input : Input Key} {number : Nat}
  {call : Call Key Output}

theorem step_service :
    (step executor rounding ledger input).service =
      Mobile.step executor ledger.service input.event := by
  unfold step
  dsimp only
  split
  · split
    · rfl
    · rfl
  · split
    · rfl
    · rfl

theorem call?_cases
    (going : ledger.call? executor input = some (number, call)) :
    (∃ id msg, ledger.service.Assigns id msg input.event ∧
      number = ledger.service.jobCalls ∧
      call = .begun executor id msg input.durationMs) ∨
    (input.event.call? = some number ∧
      ledger.calls.get? number = some call) := by
  unfold call? at going
  split at going
  case h_1 id msg event =>
    split at going
    case isTrue attached =>
      cases going
      exact .inl ⟨id, msg, ⟨event, attached⟩, rfl, rfl⟩
    case isFalse => cases going
  case h_2 =>
    rcases Option.bind_eq_some_iff.mp going with ⟨other, continues, found⟩
    rcases Option.map_eq_some_iff.mp found with ⟨stored, known, same⟩
    cases same
    exact .inr ⟨continues, known⟩

theorem call?_of_assigns {id : Nat} {msg : Assignment}
    (assigns : ledger.service.Assigns id msg input.event) :
    ledger.call? executor input = some (ledger.service.jobCalls,
      .begun executor id msg input.durationMs) := by
  rw [call?, assigns.1]
  exact if_pos assigns.2

theorem call?_of_call (continues : input.event.call? = some number)
    (known : ledger.calls.get? number = some call) :
    ledger.call? executor input = some (number, call) := by
  unfold call?
  split
  case h_1 id msg event =>
    rw [event] at continues
    cases continues
  case h_2 => rw [continues, Option.bind_some, known, Option.map_some]

structure Follows (ledger : Ledger Key Output) : Prop where
  jobs : ∀ number, (ledger.service.jobs number).map Job.jobId =
    (ledger.calls.get? number).map fun call => call.msg.jobId
  silent : ∀ number call, ledger.calls.get? number = some call →
    ∀ id, call.written id = []
  handled : ledger.handled =
    ledger.returned.length + ledger.calls.entries.length

theorem Follows.turn (follows : ledger.Follows)
    (numbered : ledger.service.Numbered)
    (enabled : ledger.service.Enabled input.event)
    (going : ledger.call? executor input = some (number, call)) :
    ledger.service.Turn number call.msg.jobId
        (ledger.service.exit? input.event)
        (Mobile.step executor ledger.service input.event) ∧
      ∀ id, call.written id = [] := by
  rcases Service.step_calls executor numbered enabled with
    ⟨other, job, continues, waits, turn⟩ | ⟨id, msg, assigns, turn⟩ |
      ⟨idle, unassigned, _⟩
  · rcases call?_cases going with ⟨id, msg, assigns, _⟩ | ⟨same, known⟩
    · rw [assigns.1] at continues
      cases continues
    · cases continues.symm.trans same
      have jobs := follows.jobs number
      rw [waits, known] at jobs
      rw [Option.some.inj jobs] at turn
      exact ⟨turn, follows.silent number call known⟩
  · rw [call?_of_assigns assigns] at going
    cases going
    exact ⟨turn, fun _ => rfl⟩
  · rcases call?_cases going with ⟨id, msg, assigns, _⟩ | ⟨same, _⟩
    · exact absurd assigns (unassigned id msg)
    · rw [idle] at same
      cases same

structure Leaves (ledger : Ledger Key Output) (call : Call Key Output)
    (exit : Exit) (returned : Returned Key Output) : Prop where
  origin : returned.origin = call.origin
  msg : returned.msg = call.msg
  present : returned.present = decide
    ((ledger.service.network.sockets call.origin).readyState = .opened)
  succeeded : returned.succeeded =
    (decide (exit = .completed) && call.success)
  written : ∃ frame : Frame Key Output,
    frame.repliesTo call.msg.jobId = true ∧
    frame.isCompletion = decide (exit = .completed) ∧
    ∀ id, returned.written id =
      if exit.sends = true ∧ ledger.service.network.target = some id then
        [frame]
      else []

inductive Effect (executor : Executor Output) (rounding : Rounding)
    (ledger : Ledger Key Output) (input : Input Key) :
    Ledger Key Output → Prop
  | idle {service} (nothing : ledger.call? executor input = none)
      (idle : ledger.service.Idle service) :
      Effect executor rounding ledger input { ledger with service := service }
  | restored {service} (nothing : ledger.call? executor input = none)
      (idle : ledger.service.Idle service) (amount) :
      Effect executor rounding ledger input
        (setEarnings { ledger with service := service } amount)
  | waits {number call service}
      (going : ledger.call? executor input = some (number, call))
      (stays : ledger.service.exit? input.event = none)
      (turn : ledger.service.Turn number call.msg.jobId none service)
      {later : Call Key Output} (msg : later.msg = call.msg)
      (silent : ∀ id, later.written id = []) :
      Effect executor rounding ledger input
        { ledger with
            service := service
            calls := ledger.calls.set number later
            handled := ledger.handled +
              if input.event.call?.isNone then 1 else 0 }
  | returns {number call service exit}
      (going : ledger.call? executor input = some (number, call))
      (exits : ledger.service.exit? input.event = some exit)
      (turn : ledger.service.Turn number call.msg.jobId (some exit) service)
      {returned : Returned Key Output}
      (leaves : ledger.Leaves call exit returned) :
      Effect executor rounding ledger input
        (record rounding
          { ledger with
              service := service
              calls := ledger.calls.delete number
              handled := ledger.handled +
                if input.event.call?.isNone then 1 else 0 } returned)

theorem goesOn_written {next : Service Key Output} {exit : Option Exit}
    (turn : ledger.service.Turn number call.msg.jobId exit next)
    (silent : ∀ id, call.written id = []) :
    ∃ frame : Frame Key Output, frame.repliesTo call.msg.jobId = true ∧
      frame.isCompletion = decide (exit = some .completed) ∧
      ∀ id, (call.goesOn ledger.service.network next.network).written id =
        if exit.any Exit.sends = true ∧
            ledger.service.network.target = some id then
          [frame]
        else [] := by
  rcases turn.sends with ⟨frame, replies, completes, network⟩
  refine ⟨frame, replies, completes, fun id => ?_⟩
  change call.written id ++ ledger.service.network.written next.network id = _
  rw [silent, List.nil_append, network]
  by_cases sends : exit.any Exit.sends = true
  · rw [if_pos sends, Network.written_send]
    simp only [sends, true_and]
  · rw [if_neg sends, Network.written_self, if_neg fun both => sends both.1]

theorem leave_leaves {next : Service Key Output} {exit : Exit}
    (turn : ledger.service.Turn number call.msg.jobId (some exit) next)
    (silent : ∀ id, call.written id = []) {present : Bool}
    (here : present = decide
      ((ledger.service.network.sockets call.origin).readyState = .opened)) :
    ledger.Leaves call exit
      ((call.goesOn ledger.service.network next.network).leave present input
        exit) := by
  rcases goesOn_written turn silent with ⟨frame, replies, completes, written⟩
  simp only [Option.some.injEq] at completes
  cases exit with
  | ignored | rejected =>
    exact ⟨rfl, rfl, here, rfl, frame, replies, completes, written⟩
  | failed => exact ⟨rfl, rfl, here, rfl, frame, replies, completes, written⟩
  | completed =>
    exact ⟨rfl, rfl, here, rfl, frame, replies, completes, written⟩

theorem Follows.idle (follows : ledger.Follows)
    (numbered : ledger.service.Numbered)
    (enabled : ledger.service.Enabled input.event)
    (nothing : ledger.call? executor input = none) :
    ledger.service.Idle
      (Mobile.step executor ledger.service input.event) := by
  rcases Service.step_calls executor numbered enabled with
    ⟨number, job, continues, waits, _⟩ | ⟨id, msg, assigns, _⟩ | ⟨_, _, idle⟩
  · have jobs := follows.jobs number
    rw [waits] at jobs
    rcases Option.map_eq_some_iff.mp jobs.symm with ⟨call, known, _⟩
    rw [call?_of_call continues known] at nothing
    cases nothing
  · rw [call?_of_assigns assigns] at nothing
    cases nothing
  · exact idle

theorem step_effect (follows : ledger.Follows)
    (numbered : ledger.service.Numbered)
    (enabled : ledger.service.Enabled input.event) :
    Effect executor rounding ledger input
      (step executor rounding ledger input) := by
  unfold step
  dsimp only
  split
  case h_1 number call going =>
    rcases follows.turn numbered enabled going with ⟨turn, silent⟩
    split
    case h_1 stays =>
      rw [stays] at turn
      rcases goesOn_written turn silent with ⟨frame, _, _, written⟩
      refine .waits going stays turn rfl fun id => ?_
      rw [written, if_neg nofun]
    case h_2 exit exits =>
      rw [exits] at turn
      exact .returns going exits turn (leave_leaves turn silent rfl)
  case h_2 nothing =>
    have idle := follows.idle numbered enabled nothing
    split
    case h_1 => exact .restored nothing idle _
    case h_2 => exact .idle nothing idle

theorem Follows.jobs_turn (follows : ledger.Follows)
    {service : Service Key Output} {exit : Option Exit}
    (turn : ledger.service.Turn number call.msg.jobId exit service)
    {calls : OrderedMap Nat (Call Key Output)}
    (own : (calls.get? number).map (fun call => call.msg.jobId) =
      if exit.isSome then none else some call.msg.jobId)
    (others : ∀ other ≠ number,
      calls.get? other = ledger.calls.get? other) (other : Nat) :
    (service.jobs other).map Job.jobId =
      (calls.get? other).map fun call => call.msg.jobId := by
  by_cases same : other = number
  · rw [same, turn.own, own]
  · rw [turn.others other same, others other same, follows.jobs]

theorem Follows.size (follows : ledger.Follows)
    (numbered : ledger.service.Numbered)
    (going : ledger.call? executor input = some (number, call)) :
    ledger.handled + (if input.event.call?.isNone then 1 else 0) =
      ledger.returned.length + (ledger.calls.delete number).entries.length +
        1 := by
  rw [follows.handled]
  rcases call?_cases going with ⟨id, msg, assigns, rfl, rfl⟩ | ⟨same, known⟩
  · have fresh : ledger.calls.get? ledger.service.jobCalls = none := by
      have jobs := follows.jobs ledger.service.jobCalls
      rw [numbered.fresh] at jobs
      exact Option.map_eq_none_iff.mp jobs.symm
    rw [assigns.1, OrderedMap.delete_entries_of_fresh fresh]
    rfl
  · have size := (OrderedMap.perm_delete known).length_eq
    rw [List.length_cons] at size
    rw [same, size]
    rfl

theorem Follows.effect {next : Ledger Key Output} (follows : ledger.Follows)
    (numbered : ledger.service.Numbered)
    (effect : Effect executor rounding ledger input next) : next.Follows := by
  cases effect with
  | idle nothing idle | restored nothing idle =>
    refine ⟨fun number => ?_, follows.silent, follows.handled⟩
    exact (congrArg (Option.map Job.jobId) (congrFun idle.jobs number)).trans
      (follows.jobs number)
  | @waits number call service going stays turn later msg silent =>
    refine ⟨follows.jobs_turn turn ?_ ?_, ?_, ?_⟩
    · rw [OrderedMap.get?_set, if_pos rfl, Option.map_some, msg]
      rfl
    · intro other different
      rw [OrderedMap.get?_set, if_neg different]
    · intro other stored known
      rw [OrderedMap.get?_set] at known
      split at known
      · cases known
        exact silent
      · exact follows.silent other stored known
    · dsimp only
      rw [follows.size numbered going,
        (OrderedMap.perm_set ledger.calls number later).length_eq,
        List.length_cons, Nat.add_assoc]
  | @returns number call service exit going exits turn returned leaves =>
    unfold record
    refine ⟨follows.jobs_turn turn ?_ ?_, ?_, ?_⟩
    · rw [OrderedMap.get?_delete, if_pos rfl]
      rfl
    · intro other different
      rw [OrderedMap.get?_delete, if_neg different]
    · intro other stored known
      rw [OrderedMap.get?_delete] at known
      split at known
      · cases known
      · exact follows.silent other stored known
    · dsimp only
      rw [follows.size numbered going, List.length_cons]
      omega

/-! ## Whole runs -/

theorem reachable_service
    (reachable : (machine executor rounding Key).Reachable ledger) :
    (Mobile.machine Key executor).Reachable ledger.service := by
  refine reachable.invariant
    (fun ledger => (Mobile.machine Key executor).Reachable ledger.service)
    .start ?_
  intro ledger input _ service enabled
  change (Mobile.machine Key executor).Reachable
    (step executor rounding ledger input).service
  rw [step_service]
  exact service.step enabled

theorem reachable_follows
    (reachable : (machine executor rounding Key).Reachable ledger) :
    ledger.Follows := by
  refine reachable.invariant Follows ⟨fun _ => rfl, nofun, rfl⟩ ?_
  intro ledger input before follows enabled
  have numbered := reachable_numbered executor (reachable_service before)
  exact follows.effect numbered (step_effect follows numbered enabled)

theorem reachable_effect
    (reachable : (machine executor rounding Key).Reachable ledger)
    (enabled : (machine executor rounding Key).Enabled ledger input) :
    Effect executor rounding ledger input
      ((machine executor rounding Key).step ledger input) :=
  step_effect (reachable_follows reachable)
    (reachable_numbered executor (reachable_service reachable)) enabled

end Ledger

end Dispatch.Mobile
