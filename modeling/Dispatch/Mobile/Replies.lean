import Dispatch.Mobile.Ledger

/-! # One reply for each job

The coordinator waits for a `job_complete` or a `job_reject`.
-/

namespace Dispatch.Mobile

open Selection (Rounding)

variable {Key Output : Type}

def Returned.Answered (returned : Returned Key Output) : Prop :=
  ∃ frame : Frame Key Output, frame.repliesTo returned.msg.jobId = true ∧
    ∀ id, returned.written id = if id = returned.origin then [frame] else []

namespace Ledger

structure Answers (ledger : Ledger Key Output) : Prop where
  answered : ∀ returned ∈ ledger.returned, returned.present = true →
    returned.Answered
  accounted : ledger.handled =
    ledger.returned.length + ledger.calls.entries.length

def Replies (executor : Executor Output) (ledger : Ledger Key Output)
    (input : Input Key) : Prop :=
  ∀ going ∈ ledger.call? executor input,
    (ledger.service.network.sockets going.2.origin).readyState = .opened →
      ledger.service.exit? input.event ≠ some .failed ∧
        ((ledger.service.exit? input.event).any Exit.sends = true →
          ledger.service.network.ws = some going.2.origin)

instance (executor : Executor Output) (ledger : Ledger Key Output)
    (input : Input Key) : Decidable (ledger.Replies executor input) :=
  inferInstanceAs (Decidable (∀ going ∈ ledger.call? executor input, _))

variable {executor : Executor Output} {rounding : Rounding}
  {ledger : Ledger Key Output} {input : Input Key} {number : Nat}
  {call : Call Key Output} {exit : Exit} {returned : Returned Key Output}

/-! ## One event -/

theorem exit?_ne_ignored
    (reachable : (machine executor rounding Key).Reachable ledger)
    (going : ledger.call? executor input = some (number, call)) :
    ledger.service.exit? input.event ≠ some .ignored := by
  intro ignored
  rcases Service.exit?_ignored ignored with ⟨unkeyed, begins⟩
  rcases call?_cases going with ⟨id, msg, assigns, _⟩ | ⟨continues, _⟩
  · have keyed := reachable_keys executor (reachable_service reachable)
      assigns.2
    rw [unkeyed] at keyed
    cases keyed
  · rw [begins] at continues
    cases continues

theorem Leaves.answered (leaves : ledger.Leaves call exit returned)
    (sends : exit.sends = true)
    (target : ledger.service.network.target = some call.origin) :
    returned.Answered := by
  rcases leaves.written with ⟨frame, replies, _, written⟩
  refine ⟨frame, leaves.msg ▸ replies, fun id => ?_⟩
  rw [written, leaves.origin, target]
  simp only [sends, true_and, Option.some.injEq, eq_comm]

theorem Leaves.of_answered (leaves : ledger.Leaves call exit returned)
    (answered : returned.Answered) :
    exit.sends = true ∧
      ledger.service.network.target = some call.origin := by
  rcases leaves.written with ⟨frame, _, _, written⟩
  rcases answered with ⟨reply, _, only⟩
  by_contra silent
  have nothing := written returned.origin
  rw [only, if_pos rfl, if_neg (leaves.origin ▸ silent)] at nothing
  cases nothing

theorem Answers.step (answers : ledger.Answers)
    (reachable : (machine executor rounding Key).Reachable ledger)
    (enabled : (machine executor rounding Key).Enabled ledger input)
    (replies : ledger.Replies executor input) :
    ((machine executor rounding Key).step ledger input).Answers := by
  have effect := reachable_effect reachable enabled
  refine ⟨?_, (reachable_follows (reachable.step enabled)).handled⟩
  generalize (machine executor rounding Key).step ledger input = next at effect
  cases effect with
  | idle | restored | waits => exact answers.answered
  | @returns number call service exit going exits turn returned leaves =>
    intro other member present
    rcases List.mem_cons.mp member with rfl | old
    · rw [leaves.present, decide_eq_true_eq] at present
      rcases replies _ going present with ⟨kept, current⟩
      rw [exits] at kept current
      have unignored := exit?_ne_ignored reachable going
      rw [exits] at unignored
      have sends : exit.sends = true := by
        cases exit with
        | ignored => exact absurd rfl unignored
        | failed => exact absurd rfl kept
        | rejected | completed => rfl
      exact leaves.answered sends
        (Network.target_eq_some_iff.mpr ⟨current sends, present⟩)
    · exact answers.answered other old present

theorem Answers.replies
    (answers : ((machine executor rounding Key).step ledger input).Answers)
    (reachable : (machine executor rounding Key).Reachable ledger)
    (enabled : (machine executor rounding Key).Enabled ledger input) :
    ledger.Replies executor input := by
  have effect := reachable_effect reachable enabled
  generalize (machine executor rounding Key).step ledger input = next
    at effect answers
  rintro ⟨number, call⟩ found opened
  rw [Option.mem_def] at found
  cases effect with
  | idle nothing | restored nothing =>
    rw [found] at nothing
    cases nothing
  | waits going stays =>
    rw [stays]
    exact ⟨nofun, nofun⟩
  | @returns _ _ service exit going exits turn returned leaves =>
    cases going.symm.trans found
    have present : returned.present = true := by
      rw [leaves.present]
      exact decide_eq_true opened
    have answered := answers.answered returned List.mem_cons_self present
    rcases leaves.of_answered answered with ⟨sends, target⟩
    rw [exits]
    refine ⟨?_, fun _ => (Network.target_eq_some_iff.mp target).1⟩
    intro failed
    cases failed
    cases sends

/-! ## Whole runs -/

def waitsLeft (number : Nat) (ledger : Ledger Key Output) : Nat :=
  if number < ledger.service.jobCalls then
    Job.waits (ledger.service.jobs number)
  else 3

theorem waitsLeft_le (number : Nat) (ledger : Ledger Key Output) :
    waitsLeft number ledger ≤ 3 := by
  unfold waitsLeft
  split
  · exact Job.waits_le _
  · exact le_rfl

theorem waitsLeft_step
    (reachable : (machine executor rounding Key).Reachable ledger)
    (enabled : (machine executor rounding Key).Enabled ledger input)
    (number : Nat) :
    (if input.event.call? = some number then 1 else 0) +
        waitsLeft number ((machine executor rounding Key).step ledger input) ≤
      waitsLeft number ledger := by
  have numbered := reachable_numbered executor (reachable_service reachable)
  have stepped : ((machine executor rounding Key).step ledger input).service =
      Mobile.step executor ledger.service input.event := step_service
  by_cases begun : number < ledger.service.jobCalls
  · rw [waitsLeft, waitsLeft, if_pos begun, stepped]
    rcases Service.step_calls executor numbered enabled with
      ⟨other, job, continues, waits, turn⟩ | ⟨id, msg, assigns, turn⟩ |
        ⟨nothing, _, idle⟩
    · rw [if_pos (begun.trans_le turn.calls)]
      by_cases same : number = other
      · subst same
        have fewer := Service.step_waits executor enabled continues
        rw [if_pos continues]
        omega
      · rw [turn.others number same, continues,
          if_neg fun equal => same (Option.some.inj equal).symm]
        omega
    · rw [if_pos (begun.trans_le turn.calls), turn.others number begun.ne,
        assigns.1]
      exact (Nat.zero_add _).le
    · rw [idle.calls, if_pos begun, idle.jobs, nothing]
      exact (Nat.zero_add _).le
  · have other : input.event.call? ≠ some number := by
      intro continues
      rcases Service.step_turn numbered executor enabled continues with
        ⟨job, waits, _⟩
      exact begun (numbered number (by rw [waits]; rfl))
    have bound := waitsLeft_le number
      ((machine executor rounding Key).step ledger input)
    have whole : waitsLeft number ledger = 3 := if_neg begun
    rw [if_neg other, whole, Nat.zero_add]
    exact bound

theorem waitsLeft_run {start final : Ledger Key Output}
    {inputs : List (Input Key)}
    (run : (machine executor rounding Key).Run start inputs final)
    (reachable : (machine executor rounding Key).Reachable start)
    (number : Nat) :
    inputs.countP (fun input => input.event.call? = some number) +
      waitsLeft number final ≤ waitsLeft number start := by
  induction run with
  | nil => simp
  | @cons start final input inputs enabled rest induction =>
    have step := waitsLeft_step reachable enabled number
    have later := induction (reachable.step enabled)
    rw [List.countP_cons]
    simp only [decide_eq_true_eq]
    omega

end Ledger

/-- Every assignment that is handled while its socket stays open is answered
exactly once in a run exactly if no receipt fails meanwhile and every reply is
sent while `this.ws` is that socket. A call goes on with three events at
most. -/
theorem replies_once_iff (executor : Executor Output) (rounding : Rounding)
    {final : Ledger Key Output} {inputs : List (Input Key)}
    (run : (Ledger.machine executor rounding Key).Run .initial inputs final) :
    ((Ledger.machine executor rounding Key).Along Ledger.Answers .initial
        inputs ↔
      (Ledger.machine executor rounding Key).Steps (Ledger.Replies executor)
        .initial inputs) ∧
    ∀ number, inputs.countP
        (fun input => input.event.call? = some number) ≤ 3 := by
  have base : (Ledger.initial : Ledger Key Output).Answers := by
    refine ⟨?_, rfl⟩
    intro returned member
    cases member
  refine ⟨run.along_iff ?_ ?_ .start base, fun number => ?_⟩
  · intro ledger input reachable answers enabled replies
    exact answers.step reachable enabled replies
  · intro ledger input reachable enabled answers
    exact answers.replies reachable enabled
  · have bound := Ledger.waitsLeft_run run .start number
    exact (Nat.le_add_right ..).trans bound

namespace Sample

abbrev accounts := Ledger.machine executor .exact String

def task : Assignment where
  jobId := JsString.ofString "job"
  jobType := .task
  taskType := some "summarize"
  input := some "text"

def input (event : Event String) : Input String where
  event := event
  now := 0
  durationMs := 0
  reason := "declined"
  storedEarnings := none

def working (provider : Provider) : List (Input String) :=
  ([.restored "wss://dispatch" provider, .connect, .keyStored provider "key",
    .providerConnected 0 true, .publicKeyRead 0 (some "key") false, .opened 0,
    .message 0 (.registerAck "ok" (some "worker")),
    .message 0 (.jobAssign task), .keyRead 0 (some "key"),
    .hashed 0 (some "now")] : List (Event String)).map input

end Sample

theorem sample_signed_answered :
    let inputs := Sample.working .device ++
      [Sample.input (.signed 0 (some "key"))]
    Sample.accounts.Along Ledger.Answers .initial inputs ∧
      ∀ number, inputs.countP
        (fun input => input.event.call? = some number) ≤ 3 := by
  intro inputs
  have run : Sample.accounts.Run .initial inputs
      (Sample.accounts.exec .initial inputs) := .of_steps (by decide +kernel)
  have once := replies_once_iff Sample.executor .exact run
  exact ⟨once.1.mpr (by decide +kernel), once.2⟩

theorem sample_declined_unanswered :
    let inputs := Sample.working .wallet ++ [Sample.input (.signed 0 none)]
    let ledger := Sample.accounts.exec .initial inputs
    Sample.accounts.Run .initial inputs ledger ∧
      (ledger.service.network.sockets 0).readyState = .opened ∧
      (ledger.service.network.sockets 0).sent = [.register "key"] ∧
      ledger.handled = 1 ∧ ledger.calls.entries.length = 0 ∧
      ledger.returned.map (fun returned =>
          returned.record.bind JobHistory.CompletedJob.error) =
        [some "Receipt signing failed: declined"] ∧
      ¬ ledger.Answers := by
  refine ⟨.of_steps (by decide +kernel), by decide +kernel, by decide +kernel,
    by decide +kernel, by decide +kernel, by decide +kernel, ?_⟩
  intro answers
  have silent : ∃ returned ∈ (Sample.accounts.exec .initial
      (Sample.working .wallet ++ [Sample.input (.signed 0 none)])).returned,
      returned.present = true ∧ returned.written returned.origin = [] := by
    decide +kernel
  rcases silent with ⟨returned, member, present, nothing⟩
  rcases answers.answered returned member present with ⟨frame, _, only⟩
  have reply := only returned.origin
  rw [nothing, if_pos rfl] at reply
  cases reply

end Dispatch.Mobile
