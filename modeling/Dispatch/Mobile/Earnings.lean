import Dispatch.Mobile.Replies
import Mathlib.Tactic.Ring

/-! # Earnings and deliveries

The phone counts a job as earned when it has called `send`, which says nothing
about what the coordinator gets.
-/

namespace Dispatch.Mobile

open Selection (Rounding)

variable {Key Output : Type}

def Returned.delivered (returned : Returned Key Output) : Bool :=
  returned.present && (returned.written returned.origin).any fun frame =>
    frame.isCompletion && frame.repliesTo returned.msg.jobId

namespace Ledger

def recent (ledger : Ledger Key Output) : List (Returned Key Output) :=
  ledger.returned.take ledger.since

structure Honest (rounding : Rounding) (ledger : Ledger Key Output) :
    Prop where
  only : ∀ returned ∈ ledger.returned, returned.succeeded = true →
    returned.delivered = true
  counted : ledger.recent.countP Returned.succeeded =
    ledger.recent.countP Returned.delivered
  total : ledger.totalEarnings =
    (credit rounding)^[ledger.recent.countP Returned.delivered] ledger.restored

def Pays (executor : Executor Output) (ledger : Ledger Key Output)
    (input : Input Key) : Prop :=
  ∀ going ∈ ledger.call? executor input,
    ledger.service.exit? input.event = some .completed →
      (going.2.success = true ↔
        ledger.service.network.ws = some going.2.origin ∧
          (ledger.service.network.sockets going.2.origin).readyState =
            .opened)

instance (executor : Executor Output) (ledger : Ledger Key Output)
    (input : Input Key) : Decidable (ledger.Pays executor input) :=
  inferInstanceAs (Decidable (∀ going ∈ ledger.call? executor input, _))

variable {executor : Executor Output} {rounding : Rounding}
  {ledger : Ledger Key Output} {input : Input Key} {call : Call Key Output}
  {exit : Exit} {returned : Returned Key Output}

/-! ## One event -/

theorem Leaves.delivered_iff (leaves : ledger.Leaves call exit returned) :
    returned.delivered = true ↔
      exit = .completed ∧
        ledger.service.network.target = some call.origin := by
  rcases leaves.written with ⟨frame, replies, completes, written⟩
  rw [Returned.delivered, leaves.origin, leaves.msg, leaves.present, written,
    Bool.and_eq_true, decide_eq_true_eq]
  constructor
  · rintro ⟨_, found⟩
    split at found
    case isTrue both =>
      rw [List.any_cons, List.any_nil, completes] at found
      simp only [replies, Bool.and_true, Bool.or_false,
        decide_eq_true_eq] at found
      exact ⟨found, both.2⟩
    case isFalse => cases found
  · rintro ⟨rfl, target⟩
    refine ⟨(Network.target_eq_some_iff.mp target).2, ?_⟩
    rw [if_pos ⟨rfl, target⟩, List.any_cons, completes, replies]
    rfl

theorem Leaves.succeeded_iff (leaves : ledger.Leaves call exit returned) :
    returned.succeeded = true ↔ exit = .completed ∧ call.success = true := by
  rw [leaves.succeeded, Bool.and_eq_true, decide_eq_true_eq]

theorem recent_record (base : Ledger Key Output)
    (returned : Returned Key Output) :
    (record rounding base returned).recent = returned :: base.recent :=
  rfl

theorem Honest.step (honest : ledger.Honest rounding)
    (reachable : (machine executor rounding Key).Reachable ledger)
    (enabled : (machine executor rounding Key).Enabled ledger input)
    (pays : ledger.Pays executor input) :
    ((machine executor rounding Key).step ledger input).Honest rounding := by
  have effect := reachable_effect reachable enabled
  generalize (machine executor rounding Key).step ledger input = next at effect
  cases effect with
  | idle | waits => exact ⟨honest.only, honest.counted, honest.total⟩
  | restored => exact ⟨honest.only, rfl, rfl⟩
  | @returns number call service exit going exits turn returned leaves =>
    have same : returned.succeeded = returned.delivered := by
      rw [Bool.eq_iff_iff, leaves.succeeded_iff, leaves.delivered_iff]
      refine and_congr_right fun completed => ?_
      rw [Network.target_eq_some_iff]
      exact pays _ going (exits.trans (congrArg some completed))
    refine ⟨?_, ?_, ?_⟩
    · intro other member success
      rcases List.mem_cons.mp member with rfl | old
      · exact same ▸ success
      · exact honest.only other old success
    · rw [recent_record, List.countP_cons, List.countP_cons, same]
      exact congrArg (· + _) honest.counted
    · rw [recent_record, List.countP_cons, ← same, record]
      dsimp only
      by_cases earned : returned.succeeded = true
      · rw [if_pos earned, if_pos earned, Function.iterate_succ_apply']
        exact congrArg (credit rounding) honest.total
      · rw [if_neg earned, if_neg earned]
        exact honest.total

theorem Honest.pays
    (honest : ((machine executor rounding Key).step ledger input).Honest
      rounding)
    (reachable : (machine executor rounding Key).Reachable ledger)
    (enabled : (machine executor rounding Key).Enabled ledger input) :
    ledger.Pays executor input := by
  have effect := reachable_effect reachable enabled
  generalize (machine executor rounding Key).step ledger input = next
    at effect honest
  rintro ⟨number, call⟩ found completed
  rw [Option.mem_def] at found
  cases effect with
  | idle nothing | restored nothing =>
    rw [found] at nothing
    cases nothing
  | waits going stays =>
    rw [completed] at stays
    cases stays
  | @returns _ _ service exit going exits turn returned leaves =>
    cases going.symm.trans found
    cases exits.symm.trans completed
    rw [← Network.target_eq_some_iff]
    constructor
    · intro success
      have delivered := honest.only returned List.mem_cons_self
        (leaves.succeeded_iff.mpr ⟨rfl, success⟩)
      exact (leaves.delivered_iff.mp delivered).2
    · -- A delivery that is not earned makes the two numbers differ, since
      -- nothing else is earned without a delivery.
      intro target
      by_contra thrown
      have delivered := leaves.delivered_iff.mpr ⟨rfl, target⟩
      have unearned : ¬ returned.succeeded = true := fun earned =>
        thrown (leaves.succeeded_iff.mp earned).2
      have counted := honest.counted
      rw [recent_record, List.countP_cons_of_neg unearned,
        List.countP_cons_of_pos delivered] at counted
      have fewer : ledger.recent.countP Returned.succeeded ≤
          ledger.recent.countP Returned.delivered := by
        apply List.countP_mono_left
        intro other member earned
        have old := List.mem_of_mem_take member
        exact honest.only other (List.mem_cons_of_mem _ old) earned
      exact absurd counted (Nat.lt_succ_of_le fewer).ne

end Ledger

/-! ## Whole runs -/

theorem credit_exact (earnings : ℚ) (count : Nat) :
    (credit .exact)^[count] earnings =
      earnings + count * TASK_PRICE_BOLT := by
  induction count with
  | zero => simp
  | succ count induction =>
    rw [Function.iterate_succ_apply', induction]
    change earnings + count * TASK_PRICE_BOLT + TASK_PRICE_BOLT = _
    push_cast
    ring

/-- In a run, jobs are recorded as successes only with a delivered result and
the earnings are those of the delivered results, exactly if every result is
sent while `this.ws` is the open socket that the assignment came from, and none
of them is that of a task that has thrown. -/
theorem earnings_delivered_iff (executor : Executor Output)
    (rounding : Rounding) {final : Ledger Key Output}
    {inputs : List (Input Key)}
    (run : (Ledger.machine executor rounding Key).Run .initial inputs final) :
    ((Ledger.machine executor rounding Key).Along (Ledger.Honest rounding)
        .initial inputs ↔
      (Ledger.machine executor rounding Key).Steps (Ledger.Pays executor)
        .initial inputs) ∧
    ∀ ledger : Ledger Key Output, ledger.Honest .exact →
      ledger.totalEarnings = ledger.restored +
        ledger.recent.countP Returned.delivered * TASK_PRICE_BOLT := by
  have base : (Ledger.initial : Ledger Key Output).Honest rounding := by
    refine ⟨?_, rfl, rfl⟩
    intro returned member
    cases member
  refine ⟨run.along_iff ?_ ?_ .start base, fun ledger honest => ?_⟩
  · intro ledger input reachable honest enabled pays
    exact honest.step reachable enabled pays
  · intro ledger input reachable enabled honest
    exact honest.pays reachable enabled
  · rw [honest.total, credit_exact]

theorem sample_delivered_earned :
    let inputs := Sample.working .device ++
      [Sample.input (.signed 0 (some "key"))]
    Sample.accounts.Along (Ledger.Honest .exact) .initial inputs ∧
      (Sample.accounts.exec .initial inputs).totalEarnings = 1 / 1000 := by
  intro inputs
  have run : Sample.accounts.Run .initial inputs
      (Sample.accounts.exec .initial inputs) := .of_steps (by decide +kernel)
  exact ⟨(earnings_delivered_iff Sample.executor .exact run).1.mpr
    (by decide +kernel), by decide +kernel⟩

theorem sample_reconnected_earned :
    let inputs := Sample.working .device ++
      [.closed 0, .timer 0 false, .opened 1,
        .signed 0 (some "key")].map Sample.input
    let ledger := Sample.accounts.exec .initial inputs
    Sample.accounts.Run .initial inputs ledger ∧
      (ledger.service.network.sockets 0).sent = [.register "key"] ∧
      (ledger.service.network.sockets 1).sent.map Frame.isCompletion =
        [false, true] ∧
      ledger.returned.map Returned.succeeded = [true] ∧
      ledger.recent.countP Returned.delivered = 0 ∧
      ledger.totalEarnings = 1 / 1000 ∧
      ¬ ledger.Honest .exact := by
  refine ⟨.of_steps (by decide +kernel), by decide +kernel, by decide +kernel,
    by decide +kernel, by decide +kernel, by decide +kernel, ?_⟩
  intro honest
  have counted := honest.counted
  revert counted
  decide +kernel

end Dispatch.Mobile
