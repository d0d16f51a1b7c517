import Dispatch.Bolt.Payment
import Mathlib.Algebra.Order.BigOperators.Group.List
import Mathlib.Algebra.Order.Floor.Ring
import Mathlib.Data.Rat.Floor
import Mathlib.Tactic.Linarith

/-! # Custodial balances

The wrapped distributor mints to the coordinator and keeps the balances of the
workers itself.
-/

namespace Dispatch.Bolt

open Coordinator (PayoutCall)

/-- `BigInt(Math.round(total * 1e9))` -/
def rawAmount (payout : PendingPayout) : ℤ :=
  ⌊payout.total * 10 ^ 9 + 1 / 2⌋

def mintedFor (attempt : Attempt) : ℕ :=
  (rawAmount attempt.payout).toNat

namespace State

variable (state : State)

def minted : ℕ :=
  state.executed.sum mintedFor

def owed : ℚ :=
  state.workerBalances.sum id * 10 ^ 9

def Solvent : Prop :=
  state.owed ≤ state.minted

end State

def Overcredits (state : State) : Event → Prop
  | .confirm id _ =>
    ∃ attempt ∈ state.inFlight.get? id, state.executed.get? id = none ∨
      (mintedFor attempt : ℚ) < attempt.payout.total * 10 ^ 9
  | _ => False

instance (state : State) : DecidablePred (Overcredits state)
  | .confirm _ _ => inferInstanceAs (Decidable (∃ _ ∈ _, _))
  | .queuePayout _ | .settleTimer | .resume | .submit _ | .execute _
  | .reject _ _ | .shutdown => inferInstanceAs (Decidable False)

/-! ## Attempts keep their identity -/

structure Consistent (state : State) : Prop where
  submitted : ∀ id attempt flying, state.submitted.get? id = some attempt →
    state.inFlight.get? id = some flying → attempt = flying
  executed : ∀ id attempt, state.executed.get? id = some attempt →
    state.submitted.get? id = some attempt

section Moves

variable {event : Event} {state next : State} {added : List PayoutCall}

theorem Consistent.land (consistent : Consistent state) (id : Nat) :
    Consistent { state with inFlight := state.inFlight.delete id } :=
  { consistent with
    submitted := by
      intro other attempt flying submitted found
      rw [OrderedMap.get?_delete] at found
      split at found
      · cases found
      · exact consistent.submitted other attempt flying submitted found }

theorem Move.consistent (move : Move event state added next)
    (numbered : Numbered state) (consistent : Consistent state) :
    Consistent next := by
  cases move with
  | idle => exact { consistent with }
  | create => exact { consistent with }
  | push => exact { consistent with }
  | refused =>
    rw [settlementFailed_eq]
    exact { consistent with }
  | started =>
    refine { consistent with submitted := ?_ }
    intro id attempt flying submitted found
    rw [OrderedMap.get?_set] at found
    split at found
    · next same =>
        have below := (numbered.submitted _ _ submitted).2
        omega
    · exact consistent.submitted id attempt flying submitted found
  | @submit id attempt submits flying =>
    refine ⟨?_, ?_⟩
    · intro other submitted inFlight found isFlying
      rw [OrderedMap.get?_set] at found
      split at found
      · next same =>
          rw [same, flying] at isFlying
          exact Option.some.inj (found.symm.trans isFlying)
      · exact consistent.submitted other submitted inFlight found isFlying
    · intro other executed found
      have known := consistent.executed other executed found
      rw [OrderedMap.get?_set]
      split
      · next same =>
          subst same
          rw [consistent.submitted other executed attempt known flying]
      · exact known
  | @execute id attempt executes known =>
    refine { consistent with executed := ?_ }
    intro other executed found
    rw [OrderedMap.get?_set] at found
    split at found
    · next same =>
        rw [same, ← found]
        exact known
    · exact consistent.executed other executed found
  | confirm => exact { consistent.land _ with }
  | reject =>
    rw [rejected, settlementFailed_eq]
    exact { consistent.land _ with }

/-! ## Settled batches are backed -/

structure Backed (state : State) : Prop where
  nodup : (state.settled.map Prod.fst).Nodup
  landed : ∀ attempt ∈ state.settled.map Prod.fst,
    state.inFlight.get? attempt.id = none ∧ attempt.id < state.attempts
  executed : ∀ attempt ∈ state.settled.map Prod.fst,
    state.executed.get? attempt.id = some attempt
  covered : ∀ attempt ∈ state.settled.map Prod.fst,
    attempt.payout.total * 10 ^ 9 ≤ mintedFor attempt

theorem Backed.initial : Backed .initial where
  nodup := List.nodup_nil
  landed _ member := nomatch member
  executed _ member := nomatch member
  covered _ member := nomatch member

theorem Backed.land (backed : Backed state) (id : Nat) :
    Backed { state with inFlight := state.inFlight.delete id } :=
  { backed with
    landed := by
      intro attempt member
      rw [OrderedMap.get?_delete]
      split
      · exact ⟨rfl, (backed.landed attempt member).2⟩
      · exact backed.landed attempt member }

theorem Backed.confirm (backed : Backed state) (numbered : Numbered state)
    (consistent : Consistent state) {id : Nat} {txHash : String}
    {attempt : Attempt} (flying : state.inFlight.get? id = some attempt)
    (careful : ¬ Overcredits state (.confirm id txHash))
    {workerBalances : OrderedMap String ℚ} :
    Backed { state with
      inFlight := state.inFlight.delete attempt.id
      workerBalances := workerBalances
      settled := state.settled ++ [(attempt, txHash)] } := by
  rcases numbered.inFlight id attempt flying with ⟨same, below⟩
  have executed : state.executed.get? attempt.id = some attempt := by
    cases found : state.executed.get? id with
    | none => exact absurd ⟨attempt, flying, .inl found⟩ careful
    | some other =>
      have submitted := consistent.executed id other found
      rw [same, found, consistent.submitted id other attempt submitted flying]
  have covered : attempt.payout.total * 10 ^ 9 ≤ mintedFor attempt := by
    by_contra short
    exact careful ⟨attempt, flying, .inr (not_le.mp short)⟩
  have fresh : attempt ∉ state.settled.map Prod.fst := by
    intro member
    have landed := (backed.landed attempt member).1
    rw [same, flying] at landed
    cases landed
  have others := backed.land attempt.id
  have extended : ∀ {Property : Attempt → Prop},
      (∀ earlier ∈ state.settled.map Prod.fst, Property earlier) →
      Property attempt →
      ∀ each ∈ (state.settled ++ [(attempt, txHash)]).map Prod.fst,
        Property each := by
    intro Property earlier new each member
    rw [List.map_append, List.mem_append] at member
    rcases member with old | isNew
    · exact earlier each old
    · rw [List.map_cons, List.map_nil, List.mem_singleton] at isNew
      rw [isNew]
      exact new
  constructor
  · rw [List.map_append, List.nodup_append]
    refine ⟨backed.nodup, List.nodup_singleton _, ?_⟩
    intro earlier member new isNew equal
    rw [List.map_cons, List.map_nil, List.mem_singleton] at isNew
    rw [equal, isNew] at member
    exact fresh member
  · apply extended others.landed
    refine ⟨by simp, ?_⟩
    rw [same]
    exact below
  · exact extended backed.executed executed
  · exact extended backed.covered covered

theorem Move.backed (move : Move event state added next)
    (numbered : Numbered state) (consistent : Consistent state)
    (careful : ¬ Overcredits state event) (backed : Backed state) :
    Backed next := by
  cases move with
  | idle => exact { backed with }
  | create => exact { backed with }
  | push => exact { backed with }
  | refused =>
    rw [settlementFailed_eq]
    refine { backed with landed := ?_ }
    intro attempt member
    have landed := backed.landed attempt member
    exact ⟨landed.1, Nat.lt_succ_of_lt landed.2⟩
  | started =>
    refine { backed with landed := ?_ }
    intro attempt member
    have landed := backed.landed attempt member
    refine ⟨?_, Nat.lt_succ_of_lt landed.2⟩
    rw [OrderedMap.get?_set, if_neg (by omega)]
    exact landed.1
  | submit => exact { backed with }
  | @execute id attempt executes known =>
    refine { backed with executed := ?_ }
    intro settled member
    have executed := backed.executed settled member
    rw [OrderedMap.get?_set]
    split
    · next same =>
        have submitted := consistent.executed _ _ executed
        rw [same, known] at submitted
        exact submitted
    · exact executed
  | @confirm id txHash attempt balances confirms flying =>
    subst confirms
    exact backed.confirm numbered consistent flying careful
  | reject =>
    rw [rejected, settlementFailed_eq]
    exact { backed.land _ with }

end Moves

theorem Backed.covers {state : State} (backed : Backed state) :
    (state.settled.map fun entry => entry.1.payout.total).sum * 10 ^ 9 ≤
      state.minted := by
  have below : ∀ attempts : List Attempt,
      (∀ attempt ∈ attempts,
        attempt.payout.total * 10 ^ 9 ≤ mintedFor attempt) →
      (attempts.map fun attempt => attempt.payout.total).sum * 10 ^ 9 ≤
        ((attempts.map mintedFor).sum : ℕ) := by
    intro attempts covered
    induction attempts with
    | nil => simp
    | cons first rest induction =>
      have head := covered first List.mem_cons_self
      have tail := induction fun attempt member =>
        covered attempt (List.mem_cons_of_mem _ member)
      push_cast [List.map_cons, List.sum_cons] at tail ⊢
      linarith
  have subset : state.settled.map Prod.fst ⊆ state.executed.values := by
    intro attempt member
    exact (OrderedMap.mem_values_iff _ _).mpr
      ⟨_, backed.executed attempt member⟩
  have part : ((state.settled.map Prod.fst).map mintedFor).sum ≤
      state.minted := by
    rcases List.subperm_of_subset backed.nodup subset with
      ⟨chosen, same, within⟩
    rw [← (same.map mintedFor).sum_eq]
    exact (within.map mintedFor).sum_le_sum fun _ _ => Nat.zero_le _
  calc (state.settled.map fun entry => entry.1.payout.total).sum * 10 ^ 9
      = ((state.settled.map Prod.fst).map
          fun attempt => attempt.payout.total).sum * 10 ^ 9 := by
        rw [List.map_map]
        rfl
    _ ≤ ((((state.settled.map Prod.fst).map mintedFor).sum : ℕ) : ℚ) :=
        below _ backed.covered
    _ ≤ (state.minted : ℚ) := by exact_mod_cast part

/-! ## Balances -/

section Balances

variable {config : Config} {state : State}

def State.books (state : State) :
    OrderedMap String ℚ × List (Attempt × String) :=
  (state.workerBalances, state.settled)

theorem settlementFailed_books (attempt : Attempt) (error : String)
    (state : State) :
    (settlementFailed attempt error state).books = state.books := by
  rw [settlementFailed_eq]
  rfl

theorem settleWorker_books (config : Config) (workerPubkey : String)
    (state : State) :
    (settleWorker config workerPubkey state).1.books = state.books := by
  unfold settleWorker
  split
  · rfl
  · split
    · rfl
    · dsimp only
      split
      · exact settlementFailed_books ..
      · rfl

theorem continuePass_books (config : Config) (workers : List String)
    (state : State) :
    (continuePass config workers state).books = state.books := by
  cases workers with
  | nil => rfl
  | cons workerPubkey rest =>
    exact settleWorker_books config workerPubkey state

theorem queuePayout_books (config : Config) (call : PayoutCall)
    (state : State) :
    (queuePayout config call state).books = state.books := by
  unfold queuePayout
  split
  · dsimp only
    split
    · exact settleWorker_books config call.workerPubkey _
    · rfl
  · rfl

def Balanced (state : State) : Prop :=
  state.workerBalances.sum id =
    (state.settled.map fun entry => entry.1.payout.total).sum

theorem balanced_confirm (custodial : config.custodial = true)
    (balanced : Balanced state) (attempt : Attempt) (txHash : String) :
    Balanced (confirmed config attempt txHash state) := by
  have total : ((state.workerBalances.get? attempt.workerPubkey).getD 0) +
      (state.workerBalances.delete attempt.workerPubkey).sum id =
        state.workerBalances.sum id := by
    cases stored : state.workerBalances.get? attempt.workerPubkey with
    | none =>
      rw [Option.getD_none, OrderedMap.sum_delete_of_fresh id stored,
        zero_add]
    | some balance =>
      rw [Option.getD_some, OrderedMap.sum_delete id stored, id]
  simp only [Balanced, confirmed, custodial, if_true, OrderedMap.sum_set,
    List.map_append, List.sum_append, List.map_cons, List.map_nil,
    List.sum_cons, List.sum_nil, id] at balanced ⊢
  linarith

theorem balanced_step (custodial : config.custodial = true)
    (balanced : Balanced state) (event : Event) :
    Balanced ((machine config).step state event) := by
  have unchanged : ∀ next : State, next.books = state.books →
      Balanced next := by
    intro next same
    rw [State.books, State.books, Prod.mk.injEq] at same
    rw [Balanced, same.1, same.2]
    exact balanced
  simp only [machine]
  cases event with
  | queuePayout call => exact unchanged _ (queuePayout_books config call state)
  | settleTimer =>
    simp only [handle, settleAll]
    split
    · exact balanced
    · exact unchanged _ (continuePass_books ..)
  | resume =>
    simp only [handle]
    split
    · exact unchanged _ (continuePass_books ..)
    · exact balanced
  | submit id =>
    simp only [handle, withAttempt]
    split <;> exact balanced
  | execute id =>
    simp only [handle, withAttempt]
    split <;> exact balanced
  | confirm id txHash =>
    simp only [handle, withAttempt]
    split
    · exact balanced_confirm custodial balanced _ txHash
    · exact balanced
  | reject id error =>
    simp only [handle, withAttempt]
    split
    · exact unchanged _ (settlementFailed_books ..)
    · exact balanced
  | shutdown => exact balanced

end Balances

/-! ## Whole runs -/

structure Covered (state : State) : Prop where
  balanced : Balanced state
  backed : Backed state
  consistent : Consistent state

theorem Covered.initial : Covered .initial where
  balanced := rfl
  backed := .initial
  consistent := ⟨nofun, nofun⟩

theorem Covered.step {config : Config} {state : State} {event : Event}
    (custodial : config.custodial = true) (covered : Covered state)
    (reachable : (machine config).Reachable state)
    (careful : ¬ Overcredits state event) :
    Covered ((machine config).step state event) := by
  have numbered := reachable_numbered reachable
  rcases step_moves config state event with ⟨middle, first, second⟩
  have between := first.backed numbered covered.consistent careful
    covered.backed
  have consistent := first.consistent numbered covered.consistent
  have numberedBetween := first.numbered numbered
  exact
    { balanced := balanced_step custodial covered.balanced event
      backed := second.backed numberedBetween consistent (fun held => held)
        between
      consistent := second.consistent numberedBetween consistent }

theorem Covered.solvent {state : State} (covered : Covered state) :
    state.Solvent := by
  rw [State.Solvent, State.owed, covered.balanced]
  exact covered.backed.covers

/-- The workers of the wrapped distributor are never owed more than was minted,
as long as only executed transactions that minted enough are credited. -/
theorem solvent_unless_overcredited (bigIntError : ℚ → Option String)
    {events : List Event} {state : State}
    (run : (Distributor.wrappedBolt bigIntError).machine.Run .initial events
      state)
    (careful : (Distributor.wrappedBolt bigIntError).machine.Steps
      (fun state event => ¬ Overcredits state event) .initial events) :
    (Distributor.wrappedBolt bigIntError).machine.Along State.Solvent .initial
      events := by
  have covered : (Distributor.wrappedBolt bigIntError).machine.Along Covered
      .initial events := by
    apply run.along _ .start Covered.initial careful
    intro before event reachable covered _ carefulNow
    exact covered.step rfl reachable carefulNow
  exact covered.mono fun _ => Covered.solvent

theorem solvent_unless_overcredited_minted :
    let events := Sample.submitted ++ [.execute 0, .confirm 0 "0x1"]
    let machine := (Distributor.wrappedBolt fun _ => none).machine
    let final := machine.exec .initial events
    (final.owed = 1000000 ∧ final.minted = 1000000) ∧
      machine.Along State.Solvent .initial events :=
  ⟨by decide +kernel, solvent_unless_overcredited _
    (Machine.Run.of_steps (by decide +kernel)) (by decide +kernel)⟩

theorem reverted_mint_credited :
    let events := Sample.submitted ++ [.confirm 0 "0x1"]
    let machine := (Distributor.wrappedBolt fun _ => none).machine
    let final := machine.exec .initial events
    machine.Run .initial events final ∧
      final.owed = 1000000 ∧ final.minted = 0 ∧ ¬ final.Solvent := by
  refine ⟨.of_steps (by decide +kernel), by decide +kernel, by decide +kernel,
    ?_⟩
  unfold State.Solvent
  decide +kernel

end Dispatch.Bolt
