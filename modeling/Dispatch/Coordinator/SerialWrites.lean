import Dispatch.Coordinator.MonadQueue

/-! # Monad writes are serialized

What the promise chain of `queueMonadTx` is for.
-/

namespace Dispatch.Coordinator.MonadQueue

open Promise

/-! ## Serial queues -/

structure SerialQueue (Result : Type) where
  enqueued : Nat
  finished : List Result
  active : Bool
  bound : finished.length + active.toNat ≤ enqueued

namespace SerialQueue

variable {Result : Type}

def started (queue : SerialQueue Result) : Nat :=
  queue.finished.length + queue.active.toNat

inductive Advance : SerialQueue Result → SerialQueue Result → Prop
  | stay (queue) : Advance queue queue
  | enqueue (enqueued finished active bound nextBound) :
      Advance ⟨enqueued, finished, active, bound⟩
        ⟨enqueued + 1, finished, active, nextBound⟩
  | start (enqueued finished bound nextBound) :
      Advance ⟨enqueued, finished, false, bound⟩
        ⟨enqueued, finished, true, nextBound⟩
  | finish (enqueued finished result bound nextBound) :
      Advance ⟨enqueued, finished, true, bound⟩
        ⟨enqueued, finished ++ [result], false, nextBound⟩

theorem finished_of_lt_started {queue : SerialQueue Result}
    {earlier later : Nat} (order : earlier < later)
    (started : later < queue.started) : queue.finished[earlier]?.isSome := by
  have bound : queue.active.toNat ≤ 1 := Bool.toNat_le queue.active
  have inside : earlier < queue.finished.length := by
    unfold SerialQueue.started at started
    omega
  rw [List.getElem?_eq_getElem inside]
  rfl

end SerialQueue

/-! ## The chain implements a serial queue -/

variable {Value Reason : Type}

namespace Stage

def active : Stage Value Reason → Bool
  | running | following none | waiting => true
  | idle | due | following (some _) | passing _ | ending _ => false

def finishedCount (call : Nat) (stage : Stage Value Reason) : Nat :=
  call + stage.outcome?.isSome.toNat

theorem startedCount_eq (call : Nat) (stage : Stage Value Reason) :
    stage.startedCount call = stage.finishedCount call + stage.active.toNat := by
  cases stage with
  | following settled =>
    cases settled with
    | none => rfl
    | some outcome => rfl
  | idle | due | running | waiting | passing | ending => rfl

end Stage

structure Implements (state : State Value Reason) (current : Nat)
    (stage : Stage Value Reason)
    (queue : SerialQueue (Outcome Value Reason)) : Prop where
  shape : Shape state current stage
  enqueued : queue.enqueued = state.calls
  finished : queue.finished.length = stage.finishedCount current
  active : queue.active = stage.active
  outcome : ∀ call, state.outcome call = queue.finished[call]?

namespace Implements

variable {state next : State Value Reason} {current nextCall : Nat}
  {stage nextStage : Stage Value Reason}
  {queue : SerialQueue (Outcome Value Reason)}

theorem started (implements : Implements state current stage queue) :
    state.started = List.range queue.started := by
  rw [implements.shape.started, Stage.startedCount_eq, SerialQueue.started,
    implements.finished, implements.active]

theorem stay (implements : Implements state current stage queue)
    (shape : Shape next nextCall nextStage) (calls : next.calls = state.calls)
    (outcomes : next.outcome = state.outcome)
    (finished : nextStage.finishedCount nextCall = stage.finishedCount current)
    (active : nextStage.active = stage.active) :
    ∃ nextQueue, queue.Advance nextQueue ∧
      Implements next nextCall nextStage nextQueue :=
  ⟨queue, .stay queue,
    { shape := shape
      enqueued := implements.enqueued.trans calls.symm
      finished := implements.finished.trans finished.symm
      active := implements.active.trans active.symm
      outcome := fun call => by rw [outcomes, implements.outcome] }⟩

theorem enqueue (implements : Implements state current stage queue)
    (shape : Shape next nextCall nextStage)
    (calls : next.calls = state.calls + 1)
    (outcomes : next.outcome = state.outcome)
    (finished : nextStage.finishedCount nextCall = stage.finishedCount current)
    (active : nextStage.active = stage.active) :
    ∃ nextQueue, queue.Advance nextQueue ∧
      Implements next nextCall nextStage nextQueue := by
  have enqueued := implements.enqueued
  rcases queue with ⟨count, results, busy, bound⟩
  refine ⟨_, .enqueue count results busy bound (Nat.le_succ_of_le bound), ?_⟩
  exact
    { shape := shape
      enqueued := by rw [calls, ← enqueued]
      finished := implements.finished.trans finished.symm
      active := implements.active.trans active.symm
      outcome := fun call => by rw [outcomes, implements.outcome] }

theorem start (implements : Implements state current stage queue)
    (shape : Shape next current nextStage) (calls : next.calls = state.calls)
    (outcomes : next.outcome = state.outcome) (more : current < state.calls)
    (unsettled : stage.outcome? = none) (inactive : stage.active = false)
    (stillUnsettled : nextStage.outcome? = none)
    (active : nextStage.active = true) :
    ∃ nextQueue, queue.Advance nextQueue ∧
      Implements next current nextStage nextQueue := by
  have enqueued := implements.enqueued
  have finished := implements.finished
  have free := implements.active.trans inactive
  rcases queue with ⟨count, results, busy, bound⟩
  simp only [Stage.finishedCount, unsettled] at enqueued finished free
  subst free
  have nextBound : results.length + true.toNat ≤ count := by
    rw [finished, enqueued]
    exact more
  refine ⟨_, .start count results bound nextBound, ?_⟩
  exact
    { shape := shape
      enqueued := enqueued.trans calls.symm
      finished := by rw [finished, Stage.finishedCount, stillUnsettled]
      active := active.symm
      outcome := fun call => by rw [outcomes, implements.outcome] }

theorem finish (implements : Implements state current stage queue)
    {outcome : Outcome Value Reason} (shape : Shape next current nextStage)
    (calls : next.calls = state.calls)
    (outcomes : next.outcome =
      Function.update state.outcome current (some outcome))
    (active : stage.active = true) (unsettled : stage.outcome? = none)
    (settled : nextStage.outcome? = some outcome)
    (inactive : nextStage.active = false) :
    ∃ nextQueue, queue.Advance nextQueue ∧
      Implements next current nextStage nextQueue := by
  have enqueued := implements.enqueued
  have finished := implements.finished
  have recorded := implements.outcome
  have busy := implements.active.trans active
  rcases queue with ⟨count, results, busy, bound⟩
  simp only [Stage.finishedCount, unsettled] at enqueued finished busy recorded
  subst busy
  have length : results.length = current := finished
  have nextBound : (results ++ [outcome]).length + false.toNat ≤ count := by
    rw [List.length_append]
    exact bound
  refine ⟨_, .finish count results outcome bound nextBound, ?_⟩
  exact
    { shape := shape
      enqueued := enqueued.trans calls.symm
      finished := by
        rw [List.length_append, Stage.finishedCount, settled, length]
        rfl
      active := inactive.symm
      outcome := fun call => by
        rw [outcomes]
        by_cases same : call = current
        · subst same
          rw [Function.update_self, ← length, List.getElem?_concat_length]
        · rw [Function.update_of_ne same, recorded]
          by_cases inside : call < results.length
          · rw [List.getElem?_append_left inside]
          · rw [List.getElem?_eq_none (by omega),
              List.getElem?_eq_none (by
                rw [List.length_append, List.length_singleton]
                omega)] }

end Implements

theorem runJob_calls (state : State Value Reason) :
    (runJob state).calls = state.calls := by
  unfold runJob
  split
  · rfl
  · dsimp only
    split <;> rfl

theorem runJob_outcome (state : State Value Reason) :
    (runJob state).outcome = state.outcome := by
  unfold runJob
  split
  · rfl
  · dsimp only
    split <;> rfl

theorem simulates_serialQueue :
    (machine Value Reason).Simulation SerialQueue.Advance
      fun state queue =>
        ∃ current stage, Implements state current stage queue where
  start := ⟨⟨0, [], false, Nat.le_refl 0⟩, 0, .idle,
    { shape := .initial
      enqueued := rfl
      finished := rfl
      active := rfl
      outcome := fun _ => rfl }⟩
  step := by
    intro state queue event related enabled
    rcases related with ⟨current, stage, implements⟩
    rcases implements.shape.step enabled with ⟨nextCall, next, moves, shape⟩
    have calls := runJob_calls state
    have outcomes := runJob_outcome state
    suffices found : ∃ nextQueue, queue.Advance nextQueue ∧
        Implements (step state event) nextCall next nextQueue by
      rcases found with ⟨nextQueue, advance, related⟩
      exact ⟨nextQueue, advance, nextCall, next, related⟩
    cases moves with
    | queue => exact implements.enqueue shape rfl rfl rfl rfl
    | queueBehind => exact implements.enqueue shape rfl rfl rfl rfl
    | start =>
      exact implements.start shape calls outcomes
        (implements.shape.current_lt nofun) rfl rfl rfl rfl
    | wait => exact implements.stay shape calls outcomes rfl rfl
    | pass => exact implements.stay shape calls outcomes rfl rfl
    | settle => exact implements.stay shape calls outcomes rfl rfl
    | next =>
      have fresh : (Stage.afterEnd state current).finishedCount
            (current + 1) = current + 1 ∧
          (Stage.afterEnd state current).active = false := by
        unfold Stage.afterEnd
        split
        · exact ⟨rfl, rfl⟩
        · exact ⟨rfl, rfl⟩
      exact implements.stay shape calls outcomes fresh.1 fresh.2
    | returned _ result =>
      cases result with
      | threw => exact implements.finish shape rfl rfl rfl rfl rfl rfl
      | plain => exact implements.finish shape rfl rfl rfl rfl rfl rfl
      | promise settled =>
        cases settled with
        | none =>
          refine implements.stay shape rfl ?_ rfl rfl
          exact Function.update_eq_self_iff.mpr
            implements.shape.outcome.symm
        | some outcome =>
          exact implements.finish shape rfl rfl rfl rfl rfl rfl
    | finish => exact implements.finish shape rfl rfl rfl rfl rfl rfl
    | wake => exact implements.finish shape rfl rfl rfl rfl rfl rfl

/-! ## The queue's own work ends -/

def Event.internal : Event Value Reason → Bool
  | .job | .returned _ _ => true
  | .call | .settled _ _ => false

def Stage.work : Stage Value Reason → Nat
  | idle => 0
  | due => 5
  | running => 4
  | following _ => 3
  | waiting | passing _ => 2
  | ending _ => 1

def work (state : State Value Reason) (current : Nat)
    (stage : Stage Value Reason) : Nat :=
  stage.work + 5 * (state.calls - (current + 1))

theorem Shape.work_le {state : State Value Reason} {current : Nat}
    {stage : Stage Value Reason} (shape : Shape state current stage) :
    work state current stage ≤ 5 * state.calls := by
  unfold work
  rcases shape.idle with ⟨idle, same⟩ | ⟨-, bound⟩
  · rw [idle, same]
    simp only [Stage.work]
    omega
  · have most : stage.work ≤ 5 := by
      cases stage with
      | idle | due | running | following | waiting | passing | ending =>
        simp [Stage.work]
    omega

theorem Moves.work_lt {state : State Value Reason}
    {event : Event Value Reason} {current nextCall : Nat}
    {stage next : Stage Value Reason}
    (moves : Moves state event current stage nextCall next)
    (internal : event.internal = true) :
    work (step state event) nextCall next < work state current stage := by
  cases moves with
  | queue => cases internal
  | queueBehind => cases internal
  | next =>
    simp only [work, step, runJob_calls, Stage.afterEnd]
    split
    · simp only [Stage.work]
      omega
    · simp only [Stage.work]
      omega
  | returned _ result =>
    cases result with
    | threw | plain | promise =>
      simp [work, step, MonadQueue.returned, Stage.afterReturn, Stage.work]
  | finish => cases internal
  | wake => cases internal
  | start | wait | pass | settle =>
    simp [work, step, runJob_calls, Stage.work]

theorem Shape.internal_run_le {state final : State Value Reason}
    {events : List (Event Value Reason)}
    (run : (machine Value Reason).Run state events final)
    (internal : ∀ event ∈ events, event.internal = true) {current : Nat}
    {stage : Stage Value Reason} (shape : Shape state current stage) :
    events.length ≤ work state current stage := by
  induction run generalizing current stage with
  | nil => exact Nat.zero_le _
  | cons enabled _ induction =>
    rcases shape.step enabled with ⟨nextCall, next, moves, stepped⟩
    rcases List.forall_mem_cons.mp internal with ⟨head, tail⟩
    have first := moves.work_lt head
    have later := induction tail stepped
    exact Nat.succ_le_of_lt (Nat.lt_of_le_of_lt later first)

/-! ## Serialization -/

structure Serialized (state : State Value Reason) : Prop where
  inOrder : ∃ count ≤ state.calls, state.started = List.range count
  oneAtATime : ∀ earlier later, earlier < later → later ∈ state.started →
    (state.outcome earlier).isSome
  own : ∀ call outcome, state.heap.state (.result call) = .settled outcome →
    state.outcome call = some outcome
  quiet : state.running = none → state.heap.jobs = [] →
    (∀ call outcome, state.outcome call = some outcome →
      state.heap.state (.result call) = .settled outcome) ∧
    ((∀ call ∈ state.started, (state.outcome call).isSome) →
      state.started = List.range state.calls)

namespace Shape

variable {state : State Value Reason} {current : Nat}
  {stage : Stage Value Reason}

theorem own_outcome (shape : Shape state current stage) {call : Nat}
    {outcome : Outcome Value Reason}
    (settled : state.heap.state (.result call) = .settled outcome) :
    state.outcome call = some outcome := by
  rcases Nat.lt_trichotomy call current with earlier | same | later
  · rcases shape.resultDone call earlier with ⟨other, known, result⟩
    rw [result] at settled
    cases settled
    exact known
  · subst same
    have current := shape.result.symm.trans settled
    rw [shape.outcome]
    cases stage with
    | ending => exact congrArg Stage.outcome? (congrArg Stage.ending (by
        simpa [Stage.result] using current))
    | idle | due | running | following | waiting | passing => cases current
  · rw [shape.resultLater call later] at settled
    cases settled

theorem quiet_stage (shape : Shape state current stage)
    (notRunning : state.running = none) (noJobs : state.heap.jobs = []) :
    stage = .idle ∨ stage = .waiting := by
  have jobs := shape.jobs.symm.trans noJobs
  have running := shape.running.symm.trans notRunning
  cases stage with
  | idle => exact .inl rfl
  | waiting => exact .inr rfl
  | running => cases running
  | due | following | passing | ending => cases jobs

theorem quiet_result (shape : Shape state current stage)
    (quiet : stage = .idle ∨ stage = .waiting) {call : Nat}
    {outcome : Outcome Value Reason}
    (known : state.outcome call = some outcome) :
    state.heap.state (.result call) = .settled outcome := by
  have unsettled : stage.outcome? = none := by
    rcases quiet with rfl | rfl
    · rfl
    · rfl
  rcases Nat.lt_trichotomy call current with earlier | same | later
  · rcases shape.resultDone call earlier with ⟨other, same, result⟩
    rw [known] at same
    cases same
    exact result
  · subst same
    rw [shape.outcome, unsettled] at known
    cases known
  · rw [shape.outcomeLater call later] at known
    cases known

theorem quiet_started (shape : Shape state current stage)
    (quiet : stage = .idle ∨ stage = .waiting)
    (settled : ∀ call ∈ state.started, (state.outcome call).isSome) :
    state.started = List.range state.calls := by
  rcases quiet with rfl | rfl
  · rw [shape.started, ← shape.current_eq]
    rfl
  · have member : current ∈ state.started := by
      rw [shape.started]
      exact List.self_mem_range_succ
    have known := settled current member
    rw [shape.outcome] at known
    cases known

end Shape

/-- Whatever the order of the calls and of what the functions come to: they are
called in the order of the calls, one at a time, each settles its own caller's
promise, and no outcome keeps the queue from going on. From every state the
queue's own work ends. -/
theorem monad_writes_serialized {state : State Value Reason}
    (reachable : (machine Value Reason).Reachable state) :
    Serialized state ∧
      ∀ events final, (machine Value Reason).Run state events final →
        (∀ event ∈ events, event.internal = true) →
        events.length ≤ 5 * state.calls := by
  rcases simulates_serialQueue.reachable reachable with
    ⟨queue, current, stage, implements⟩
  have shape := implements.shape
  refine ⟨⟨?_, ?_, ?_, ?_⟩, ?_⟩
  · exact ⟨queue.started, implements.enqueued ▸ queue.bound,
      implements.started⟩
  · intro earlier later order member
    rw [implements.started, List.mem_range] at member
    rw [implements.outcome]
    exact SerialQueue.finished_of_lt_started order member
  · intro call outcome settled
    exact shape.own_outcome settled
  · intro notRunning noJobs
    have quiet := shape.quiet_stage notRunning noJobs
    exact ⟨fun call outcome known => shape.quiet_result quiet known,
      shape.quiet_started quiet⟩
  · intro events final run internal
    exact Nat.le_trans (shape.internal_run_le run internal) shape.work_le

namespace Sample

instance (state : State Nat Nat) (event : Event Nat Nat) :
    Decidable ((machine Nat Nat).Enabled state event) :=
  match event with
  | .call => .isTrue trivial
  | .job => inferInstanceAs (Decidable (_ ∧ _))
  | .returned _ _ => inferInstanceAs (Decidable (_ = _))
  | .settled _ _ => inferInstanceAs (Decidable (_ ∧ _ ∧ _))

def events : List (Event Nat Nat) :=
  [.call, .job, .call, .returned 0 (.promise none), .job,
    .settled 0 (.rejected 7), .job, .job, .job,
    .returned 1 (.plain (some 8)), .job]

def final : State Nat Nat := (machine Nat Nat).exec .initial events

theorem final_reachable : (machine Nat Nat).Reachable final :=
  .of_steps (by decide +kernel)

theorem sample_failed_write_passed : Serialized final ∧
    final.started = [0, 1] ∧
    final.heap.state (.result 0) = .settled (.rejected 7) ∧
    final.heap.state (.result 1) = .settled (.fulfilled (some 8)) :=
  ⟨(monad_writes_serialized final_reachable).1, by decide +kernel,
    by decide +kernel, by decide +kernel⟩

end Sample

end Dispatch.Coordinator.MonadQueue
