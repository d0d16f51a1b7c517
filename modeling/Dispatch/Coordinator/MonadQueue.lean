import Dispatch.Foundation.Execution
import Dispatch.Foundation.Promise

/-! # The queue of Monad transactions

`queueMonadTx`, which both coordinators define in the same two lines, for the
feedback, its retries and the distributor of wrapped BOLT.
-/

namespace Dispatch.Coordinator.MonadQueue

open Promise

inductive PromiseId
  | tail (call : Nat)
  | result (call : Nat)
  | task (call : Nat)
  deriving DecidableEq

inductive Handler
  | start (call : Nat)
  /-- `() => {}` -/
  | ignore
  deriving DecidableEq

variable {Value Reason : Type}

abbrev Outcome (Value Reason : Type) := Promise.Outcome (Option Value) Reason

abbrev Heap (Value Reason : Type) :=
  Promise.Heap PromiseId Handler (Option Value) Reason

structure State (Value Reason : Type) where
  heap : Heap Value Reason
  calls : Nat
  running : Option Nat
  started : List Nat
  outcome : Nat → Option (Outcome Value Reason)

def State.initial : State Value Reason where
  heap :=
    { state := fun
        | .tail 0 => .settled (.fulfilled none)
        | _ => .pending []
      jobs := [] }
  calls := 0
  running := none
  started := []
  outcome _ := none

def queueMonadTx (state : State Value Reason) : State Value Reason :=
  let call := state.calls
  -- const result = monadTxQueue.then(fn)
  let heap := state.heap.andThen (.tail call) (some (.start call)) none
    (.result call)
  -- monadTxQueue = result.then(() => {}, () => {})
  let heap := heap.andThen (.result call) (some .ignore) (some .ignore)
    (.tail (call + 1))
  { state with heap := heap, calls := call + 1 }

def runJob (state : State Value Reason) : State Value Reason :=
  match state.heap.jobs with
  | [] => state
  | job :: jobs =>
    let heap := { state.heap with jobs := jobs }
    match heap.perform job with
    | .done heap => { state with heap := heap }
    | .call (.start call) _ =>
      { state with
        heap := heap
        running := some call
        started := state.started ++ [call] }
    | .call .ignore derived =>
      { state with heap := heap.complete derived (.value none) }

inductive Return (Value Reason : Type)
  | threw (reason : Reason)
  | plain (value : Option Value)
  | promise (settled : Option (Outcome Value Reason))

def Return.outcome? : Return Value Reason → Option (Outcome Value Reason)
  | threw reason => some (.rejected reason)
  | plain value => some (.fulfilled value)
  | promise settled => settled

def Return.task (call : Nat) (heap : Heap Value Reason) :
    Return Value Reason → Heap Value Reason
  | promise (some outcome) => heap.settle (.task call) outcome
  | promise none | threw _ | plain _ => heap

def Return.completion (call : Nat) :
    Return Value Reason → Completion PromiseId (Option Value) Reason
  | threw reason => .thrown reason
  | plain value => .value value
  | promise _ => .promise (.task call)

def returned (call : Nat) (result : Return Value Reason)
    (state : State Value Reason) : State Value Reason :=
  { state with
      heap := (result.task call state.heap).complete (.result call)
        (result.completion call)
      running := none
      outcome := Function.update state.outcome call result.outcome? }

def settled (call : Nat) (outcome : Outcome Value Reason)
    (state : State Value Reason) : State Value Reason :=
  { state with
      heap := state.heap.settle (.task call) outcome
      outcome := Function.update state.outcome call (some outcome) }

inductive Event (Value Reason : Type)
  | call
  | job
  | returned (call : Nat) (result : Return Value Reason)
  | settled (call : Nat) (outcome : Outcome Value Reason)

def State.Enabled (state : State Value Reason) : Event Value Reason → Prop
  | .call => True
  | .job => state.running = none ∧ state.heap.jobs ≠ []
  | .returned call _ => state.running = some call
  | .settled call _ =>
    call ∈ state.started ∧ state.running ≠ some call ∧
      state.outcome call = none

def step (state : State Value Reason) :
    Event Value Reason → State Value Reason
  | .call => queueMonadTx state
  | .job => runJob state
  | .returned call result => returned call result state
  | .settled call outcome => settled call outcome state

def machine (Value Reason : Type) :
    Machine (State Value Reason) (Event Value Reason) where
  initial := .initial
  Enabled := State.Enabled
  step := step

/-! ## The shape of the queue

All calls before some number have been settled, all behind it wait for each
other, and there is at most one job: what to do next for the call of that
number. -/

inductive Stage (Value Reason : Type)
  | idle
  | due
  | running
  | following (settled : Option (Outcome Value Reason))
  | waiting
  | passing (outcome : Outcome Value Reason)
  | ending (outcome : Outcome Value Reason)

def startReaction (call : Nat) : Reaction PromiseId Handler :=
  .handlers (some (.start call)) none (.result call)

def ignoreReaction (call : Nat) : Reaction PromiseId Handler :=
  .handlers (some .ignore) (some .ignore) (.tail (call + 1))

namespace Stage

variable (call : Nat)

def jobs : Stage Value Reason →
    List (Job PromiseId Handler (Option Value) Reason)
  | idle | running | waiting => []
  | due => [.react (startReaction call) (.fulfilled none)]
  | following _ => [.follow (.result call) (.task call)]
  | passing outcome => [.react (.adopt (.result call)) outcome]
  | ending outcome => [.react (ignoreReaction call) outcome]

def running? : Stage Value Reason → Option Nat
  | running => some call
  | _ => none

def outcome? : Stage Value Reason → Option (Outcome Value Reason)
  | idle | due | running | waiting => none
  | following settled => settled
  | passing outcome | ending outcome => some outcome

def startedCount : Stage Value Reason → Nat
  | idle | due => call
  | running | following _ | waiting | passing _ | ending _ => call + 1

def result : Stage Value Reason →
    Promise.State PromiseId Handler (Option Value) Reason
  | idle => .pending []
  | ending outcome => .settled outcome
  | due | running | following _ | waiting | passing _ =>
    .pending [ignoreReaction call]

def Task (state : Promise.State PromiseId Handler (Option Value) Reason) :
    Stage Value Reason → Prop
  | idle | due | running | following none => state = .pending []
  | following (some outcome) => state = .settled outcome
  | waiting => state = .pending [.adopt (.result call)]
  | passing _ | ending _ => True

def afterReturn : Return Value Reason → Stage Value Reason
  | .threw reason => ending (.rejected reason)
  | .plain value => ending (.fulfilled value)
  | .promise settled => following settled

def afterEnd (state : State Value Reason) (call : Nat) : Stage Value Reason :=
  if call + 1 < state.calls then due else idle

end Stage

def behind (state : State Value Reason) (call : Nat)
    (reaction : Reaction PromiseId Handler) :
    Promise.State PromiseId Handler (Option Value) Reason :=
  .pending (if call < state.calls then [reaction] else [])

namespace Stage

variable (state : State Value Reason) (call : Nat)

theorem afterEnd_running? :
    (afterEnd state call).running? (call + 1) = none := by
  unfold afterEnd
  split <;> rfl

theorem afterEnd_startedCount :
    (afterEnd state call).startedCount (call + 1) = call + 1 := by
  unfold afterEnd
  split <;> rfl

theorem afterEnd_outcome? : (afterEnd state call).outcome? = none := by
  unfold afterEnd
  split <;> rfl

theorem afterEnd_result :
    (afterEnd state call).result (call + 1) =
      behind state (call + 1) (ignoreReaction (call + 1)) := by
  unfold afterEnd behind
  split <;> rfl

theorem afterEnd_task
    {promise : Promise.State PromiseId Handler (Option Value) Reason}
    (pending : promise = .pending []) :
    (afterEnd state call).Task (call + 1) promise := by
  unfold afterEnd
  split <;> exact pending

end Stage

structure Shape (state : State Value Reason) (current : Nat)
    (stage : Stage Value Reason) : Prop where
  idle : stage = .idle ∧ current = state.calls ∨
    stage ≠ .idle ∧ current < state.calls
  jobs : state.heap.jobs = stage.jobs current
  running : state.running = stage.running? current
  started : state.started = List.range (stage.startedCount current)
  tailDone : ∀ call ≤ current,
    state.heap.state (.tail call) = .settled (.fulfilled none)
  tailLater : ∀ call > current,
    state.heap.state (.tail call) = behind state call (startReaction call)
  resultDone : ∀ call < current, ∃ outcome,
    state.outcome call = some outcome ∧
      state.heap.state (.result call) = .settled outcome
  result : state.heap.state (.result current) = stage.result current
  resultLater : ∀ call > current,
    state.heap.state (.result call) = behind state call (ignoreReaction call)
  task : stage.Task current (state.heap.state (.task current))
  taskLater : ∀ call > current,
    state.heap.state (.task call) = .pending []
  outcome : state.outcome current = stage.outcome?
  outcomeLater : ∀ call > current, state.outcome call = none

namespace Shape

variable {state : State Value Reason} {current : Nat}
  {stage : Stage Value Reason}

theorem initial : Shape (.initial : State Value Reason) 0 .idle where
  idle := .inl ⟨rfl, rfl⟩
  jobs := rfl
  running := rfl
  started := rfl
  tailDone call bound := by
    rw [Nat.le_zero.mp bound]
    rfl
  tailLater call later := by
    cases call with
    | zero => omega
    | succ call => rfl
  resultDone call earlier := absurd earlier (Nat.not_lt_zero call)
  result := rfl
  resultLater call later := rfl
  task := rfl
  taskLater call later := rfl
  outcome := rfl
  outcomeLater call later := rfl

theorem current_eq (shape : Shape state current .idle) :
    current = state.calls := by
  rcases shape.idle with ⟨-, equal⟩ | ⟨different, -⟩
  · exact equal
  · exact absurd rfl different

theorem current_lt (shape : Shape state current stage)
    (busy : stage ≠ .idle) : current < state.calls := by
  rcases shape.idle with ⟨same, -⟩ | ⟨-, bound⟩
  · exact absurd same busy
  · exact bound

/-! ### Calls -/

theorem queueMonadTx_heap_idle (shape : Shape state current .idle) :
    (queueMonadTx state).heap =
      { state := Function.update state.heap.state (.result current)
          (.pending [ignoreReaction current])
        jobs := [.react (startReaction current) (.fulfilled none)] } := by
  have same := shape.current_eq
  have settled := shape.tailDone current (Nat.le_refl current)
  have pending := shape.result
  have jobs := shape.jobs
  simp only [queueMonadTx, Heap.andThen, ← same]
  rw [Heap.addReaction_settled settled, Heap.addReaction_pending pending, jobs]
  rfl

theorem queueMonadTx_heap_busy (shape : Shape state current stage)
    (busy : stage ≠ .idle) :
    (queueMonadTx state).heap =
      { state := Function.update
          (Function.update state.heap.state (.tail state.calls)
            (.pending [startReaction state.calls]))
          (.result state.calls) (.pending [ignoreReaction state.calls])
        jobs := stage.jobs current } := by
  have later := shape.current_lt busy
  have tail := shape.tailLater state.calls later
  have result := shape.resultLater state.calls later
  simp only [behind, Nat.lt_irrefl, if_false] at tail result
  have distinct : PromiseId.result state.calls ≠ .tail state.calls := nofun
  simp only [queueMonadTx, Heap.andThen]
  rw [Heap.addReaction_pending tail, Heap.addReaction_pending
    ((Function.update_of_ne distinct _ _).trans result), shape.jobs]
  rfl

theorem call_idle (shape : Shape state current .idle) :
    Shape (queueMonadTx state) current .due := by
  have heap := shape.queueMonadTx_heap_idle
  have frame : ∀ id, id ≠ .result current →
      (queueMonadTx state).heap.state id = state.heap.state id := by
    intro id different
    rw [heap]
    exact Function.update_of_ne different _ _
  have same := shape.current_eq
  have calls : (queueMonadTx state).calls = current + 1 := by
    rw [same]
    rfl
  have unchanged : ∀ call > current, ∀ reaction,
      behind (queueMonadTx state) call reaction =
        behind state call reaction := by
    intro call later reaction
    simp only [behind, calls]
    rw [if_neg (by omega), if_neg (by omega)]
  constructor
  case idle => exact .inr ⟨nofun, by omega⟩
  case jobs => exact congrArg Heap.jobs heap
  case running => exact shape.running
  case started => exact shape.started
  case tailDone =>
    intro call bound
    exact (frame (.tail call) nofun).trans (shape.tailDone call bound)
  case tailLater =>
    intro call later
    rw [frame (.tail call) nofun, unchanged call later]
    exact shape.tailLater call later
  case resultDone =>
    intro call earlier
    rw [frame _ (by simp; omega)]
    exact shape.resultDone call earlier
  case result =>
    rw [heap]
    exact Function.update_self _ _ _
  case resultLater =>
    intro call later
    rw [frame _ (by simp; omega), unchanged call later]
    exact shape.resultLater call later
  case task =>
    rw [frame (.task current) nofun]
    exact shape.task
  case taskLater =>
    intro call later
    exact (frame (.task call) nofun).trans (shape.taskLater call later)
  case outcome => exact shape.outcome
  case outcomeLater => exact shape.outcomeLater

theorem call_busy (shape : Shape state current stage)
    (busy : stage ≠ .idle) : Shape (queueMonadTx state) current stage := by
  have heap := shape.queueMonadTx_heap_busy busy
  have frame : ∀ id, id ≠ .tail state.calls → id ≠ .result state.calls →
      (queueMonadTx state).heap.state id = state.heap.state id := by
    intro id notTail notResult
    rw [heap]
    exact (Function.update_of_ne notResult _ _).trans
      (Function.update_of_ne notTail _ _)
  have bound := shape.current_lt busy
  have unchanged : ∀ call ≠ state.calls, ∀ reaction,
      behind (queueMonadTx state) call reaction =
        behind state call reaction := by
    intro call different reaction
    have same : call < state.calls + 1 ↔ call < state.calls := by omega
    simp only [behind, queueMonadTx, same]
  have added : ∀ reaction, behind (queueMonadTx state) state.calls reaction =
      .pending [reaction] := by
    intro reaction
    simp [behind, queueMonadTx]
  constructor
  case idle => exact .inr ⟨busy, Nat.lt_succ_of_lt bound⟩
  case jobs => exact congrArg Heap.jobs heap
  case running => exact shape.running
  case started => exact shape.started
  case tailDone =>
    intro call earlier
    rw [frame (.tail call) (by simp; omega) nofun]
    exact shape.tailDone call earlier
  case tailLater =>
    intro call later
    by_cases same : call = state.calls
    · subst same
      have distinct : PromiseId.tail state.calls ≠ .result state.calls := nofun
      rw [heap, added]
      simp only [Function.update_of_ne distinct, Function.update_self]
    · rw [frame (.tail call) (by simpa using same) nofun, unchanged call same]
      exact shape.tailLater call later
  case resultDone =>
    intro call earlier
    rw [frame (.result call) nofun (by simp; omega)]
    exact shape.resultDone call earlier
  case result =>
    rw [frame (.result current) nofun (by simp; omega)]
    exact shape.result
  case resultLater =>
    intro call later
    by_cases same : call = state.calls
    · subst same
      rw [heap, added]
      exact Function.update_self _ _ _
    · rw [frame (.result call) nofun (by simpa using same),
        unchanged call same]
      exact shape.resultLater call later
  case task =>
    rw [frame (.task current) nofun nofun]
    exact shape.task
  case taskLater =>
    intro call later
    exact (frame (.task call) nofun nofun).trans (shape.taskLater call later)
  case outcome => exact shape.outcome
  case outcomeLater => exact shape.outcomeLater

/-! ### The current call -/

theorem progress {next : State Value Reason} {nextStage : Stage Value Reason}
    (shape : Shape state current stage) (busy : stage ≠ .idle)
    (nextBusy : nextStage ≠ .idle) (calls : next.calls = state.calls)
    (frame : ∀ id, id ≠ .result current → id ≠ .task current →
      next.heap.state id = state.heap.state id)
    (outcomes : ∀ call ≠ current, next.outcome call = state.outcome call)
    (jobs : next.heap.jobs = nextStage.jobs current)
    (running : next.running = nextStage.running? current)
    (started : next.started = List.range (nextStage.startedCount current))
    (result : next.heap.state (.result current) = nextStage.result current)
    (task : nextStage.Task current (next.heap.state (.task current)))
    (outcome : next.outcome current = nextStage.outcome?) :
    Shape next current nextStage where
  idle := .inr ⟨nextBusy, calls ▸ shape.current_lt busy⟩
  jobs := jobs
  running := running
  started := started
  tailDone call earlier :=
    (frame (.tail call) nofun nofun).trans (shape.tailDone call earlier)
  tailLater call later := by
    rw [frame (.tail call) nofun nofun, shape.tailLater call later, behind,
      behind, calls]
  resultDone call earlier := by
    rw [frame (.result call) (by simp; omega) nofun, outcomes call (by omega)]
    exact shape.resultDone call earlier
  result := result
  resultLater call later := by
    rw [frame (.result call) (by simp; omega) nofun,
      shape.resultLater call later, behind, behind, calls]
  task := task
  taskLater call later := by
    rw [frame (.task call) nofun (by simp; omega)]
    exact shape.taskLater call later
  outcome := outcome
  outcomeLater call later := by
    rw [outcomes call (by omega)]
    exact shape.outcomeLater call later

theorem job_due (shape : Shape state current .due) :
    Shape (runJob state) current .running := by
  have stepEq : runJob state =
      { state with
        heap := { state.heap with jobs := [] }
        running := some current
        started := state.started ++ [current] } := by
    rw [runJob, shape.jobs]
    rfl
  rw [stepEq]
  refine shape.progress nofun nofun rfl ?_ ?_ rfl rfl ?_ shape.result
    shape.task shape.outcome
  · intros
    rfl
  · intros
    rfl
  · rw [shape.started]
    exact List.range_succ.symm

theorem job_following_pending (shape : Shape state current (.following none)) :
    Shape (runJob state) current .waiting := by
  have pending := shape.task
  have stepEq : runJob state =
      { state with
        heap := ⟨Function.update state.heap.state (.task current)
          (.pending [.adopt (.result current)]), []⟩ } := by
    simp only [runJob, shape.jobs, Stage.jobs, Heap.perform]
    rw [Heap.addReaction_pending pending]
    rfl
  have frame : ∀ id, id ≠ .task current →
      (runJob state).heap.state id = state.heap.state id := by
    intro id different
    rw [stepEq]
    exact Function.update_of_ne different _ _
  refine shape.progress nofun nofun ?_ (fun id _ => frame id) ?_ ?_ ?_ ?_
    ((frame (.result current) nofun).trans shape.result) ?_ ?_
  all_goals rw [stepEq]
  · intros
    rfl
  · rfl
  · exact shape.running
  · exact shape.started
  · exact Function.update_self _ _ _
  · exact shape.outcome

theorem job_following_settled {outcome : Outcome Value Reason}
    (shape : Shape state current (.following (some outcome))) :
    Shape (runJob state) current (.passing outcome) := by
  have settled := shape.task
  have stepEq : runJob state =
      { state with
        heap := ⟨state.heap.state,
          [.react (.adopt (.result current)) outcome]⟩ } := by
    simp only [runJob, shape.jobs, Stage.jobs, Heap.perform]
    rw [Heap.addReaction_settled settled]
    rfl
  rw [stepEq]
  refine shape.progress nofun nofun rfl ?_ ?_ rfl shape.running shape.started
    shape.result trivial shape.outcome
  · intros
    rfl
  · intros
    rfl

theorem job_passing {outcome : Outcome Value Reason}
    (shape : Shape state current (.passing outcome)) :
    Shape (runJob state) current (.ending outcome) := by
  have pending := shape.result
  have stepEq : runJob state =
      { state with
        heap := ⟨Function.update state.heap.state (.result current)
          (.settled outcome), [.react (ignoreReaction current) outcome]⟩ } := by
    simp only [runJob, shape.jobs, Stage.jobs, Heap.perform]
    rw [Heap.settle_pending pending]
    rfl
  rw [stepEq]
  refine shape.progress nofun nofun rfl ?_ ?_ rfl shape.running shape.started
    ?_ trivial shape.outcome
  · intro id different _
    exact Function.update_of_ne different _ _
  · intros
    rfl
  · exact Function.update_self _ _ _

theorem returned_promise (shape : Shape state current .running) :
    Shape (returned current (.promise none) state) current
      (.following none) := by
  have jobs := shape.jobs
  refine shape.progress nofun nofun rfl ?_ ?_ ?_ rfl shape.started shape.result
    shape.task ?_
  · intros
    rfl
  · intro call different
    exact Function.update_of_ne different _ _
  · simp only [returned, Return.task, Return.completion, Heap.complete, jobs]
    rfl
  · exact Function.update_self _ _ _

theorem returned_settled {outcome : Outcome Value Reason}
    (shape : Shape state current .running) :
    Shape (returned current (.promise (some outcome)) state) current
      (.following (some outcome)) := by
  have pending := shape.task
  have jobs := shape.jobs
  have heap : (returned current (.promise (some outcome)) state).heap =
      ⟨Function.update state.heap.state (.task current) (.settled outcome),
        [.follow (.result current) (.task current)]⟩ := by
    simp only [returned, Return.task, Return.completion, Heap.complete]
    rw [Heap.settle_pending pending, jobs]
    rfl
  have frame : ∀ id, id ≠ .task current →
      (returned current (.promise (some outcome)) state).heap.state id =
        state.heap.state id := by
    intro id different
    rw [heap]
    exact Function.update_of_ne different _ _
  refine shape.progress nofun nofun rfl (fun id _ => frame id) ?_ ?_ rfl
    shape.started ((frame (.result current) nofun).trans shape.result) ?_ ?_
  · intro call different
    exact Function.update_of_ne different _ _
  · exact congrArg Heap.jobs heap
  · rw [heap]
    exact Function.update_self _ _ _
  · exact Function.update_self _ _ _

theorem returned_outcome {result : Return Value Reason}
    {outcome : Outcome Value Reason} (shape : Shape state current .running)
    (known : result.outcome? = some outcome)
    (direct : (returned current result state).heap =
      state.heap.settle (.result current) outcome) :
    Shape (returned current result state) current (.ending outcome) := by
  have pending := shape.result
  rw [Heap.settle_pending pending, shape.jobs] at direct
  refine shape.progress nofun nofun rfl ?_ ?_ ?_ rfl shape.started ?_ trivial ?_
  · intro id different _
    rw [direct]
    exact Function.update_of_ne different _ _
  · intro call different
    exact Function.update_of_ne different _ _
  · exact congrArg Heap.jobs direct
  · rw [direct]
    exact Function.update_self _ _ _
  · exact (Function.update_self _ _ _).trans known

theorem returned_running (shape : Shape state current .running)
    (result : Return Value Reason) :
    Shape (returned current result state) current (.afterReturn result) := by
  cases result with
  | threw reason => exact shape.returned_outcome rfl rfl
  | plain value => exact shape.returned_outcome rfl rfl
  | promise outcome =>
    cases outcome with
    | none => exact shape.returned_promise
    | some outcome => exact shape.returned_settled

theorem settled_state_of_ne (outcome : Outcome Value Reason)
    {reactions : List (Reaction PromiseId Handler)}
    (pending : state.heap.state (.task current) = .pending reactions)
    (id : PromiseId) (different : id ≠ .task current) :
    (settled current outcome state).heap.state id = state.heap.state id := by
  simp only [settled]
  rw [Heap.settle_pending pending]
  exact Function.update_of_ne different _ _

theorem settled_following {outcome : Outcome Value Reason}
    (shape : Shape state current (.following none)) :
    Shape (settled current outcome state) current
      (.following (some outcome)) := by
  have pending := shape.task
  have heap : (settled current outcome state).heap =
      ⟨Function.update state.heap.state (.task current) (.settled outcome),
        state.heap.jobs⟩ := by
    simp only [settled]
    rw [Heap.settle_pending pending]
    exact congrArg (Heap.mk _) (List.append_nil _)
  have frame := settled_state_of_ne outcome pending
  refine shape.progress nofun nofun rfl (fun id _ => frame id) ?_ ?_
    shape.running shape.started
    ((frame (.result current) nofun).trans shape.result) ?_
    (Function.update_self _ _ _)
  · intro call different
    exact Function.update_of_ne different _ _
  · rw [heap]
    exact shape.jobs
  · rw [heap]
    exact Function.update_self _ _ _

theorem settled_waiting {outcome : Outcome Value Reason}
    (shape : Shape state current .waiting) :
    Shape (settled current outcome state) current (.passing outcome) := by
  have pending := shape.task
  have jobs := shape.jobs
  have heap : (settled current outcome state).heap =
      ⟨Function.update state.heap.state (.task current) (.settled outcome),
        [.react (.adopt (.result current)) outcome]⟩ := by
    simp only [settled]
    rw [Heap.settle_pending pending, jobs]
    rfl
  have frame := settled_state_of_ne outcome pending
  refine shape.progress nofun nofun rfl (fun id _ => frame id) ?_ ?_
    shape.running shape.started
    ((frame (.result current) nofun).trans shape.result) trivial
    (Function.update_self _ _ _)
  · intro call different
    exact Function.update_of_ne different _ _
  · exact congrArg Heap.jobs heap

/-! ### The next call -/

theorem runJob_ending {outcome : Outcome Value Reason}
    (shape : Shape state current (.ending outcome)) :
    runJob state =
      { state with
        heap := ⟨Function.update state.heap.state (.tail (current + 1))
          (.settled (.fulfilled none)),
          (Stage.afterEnd state current).jobs (current + 1)⟩ } := by
  have pending := shape.tailLater (current + 1) (Nat.lt_succ_self current)
  have handler : outcome.handler? (some Handler.ignore) (some .ignore) =
      some .ignore := by
    cases outcome with
    | fulfilled value => rfl
    | rejected reason => rfl
  simp only [runJob, shape.jobs, Stage.jobs, ignoreReaction, Heap.perform,
    handler, Heap.complete]
  rw [Heap.settle_pending pending]
  unfold Stage.afterEnd
  split
  · rfl
  · rfl

theorem job_ending {outcome : Outcome Value Reason}
    (shape : Shape state current (.ending outcome)) :
    Shape (runJob state) (current + 1) (.afterEnd state current) := by
  have stepEq := shape.runJob_ending
  have calls : (runJob state).calls = state.calls := by rw [stepEq]
  have frame : ∀ id, id ≠ .tail (current + 1) →
      (runJob state).heap.state id = state.heap.state id := by
    intro id different
    rw [stepEq]
    exact Function.update_of_ne different _ _
  have outcomes : (runJob state).outcome = state.outcome := by rw [stepEq]
  have later : current + 1 > current := Nat.lt_succ_self current
  constructor
  case idle =>
    have bound := shape.current_lt nofun
    rw [calls, Stage.afterEnd]
    split
    case isTrue more => exact .inr ⟨nofun, more⟩
    case isFalse last => exact .inl ⟨rfl, by omega⟩
  case jobs => rw [stepEq]
  case running =>
    rw [stepEq, Stage.afterEnd_running?]
    exact shape.running
  case started =>
    rw [stepEq, Stage.afterEnd_startedCount]
    exact shape.started
  case tailDone =>
    intro call earlier
    by_cases same : call = current + 1
    · subst same
      rw [stepEq]
      exact Function.update_self _ _ _
    · rw [frame (.tail call) (by simpa using same)]
      exact shape.tailDone call (by omega)
  case tailLater =>
    intro call later
    rw [frame (.tail call) (by simp; omega),
      shape.tailLater call (by omega), behind, behind, calls]
  case resultDone =>
    intro call earlier
    rw [frame (.result call) nofun, outcomes]
    by_cases same : call = current
    · subst same
      exact ⟨outcome, shape.outcome, shape.result⟩
    · exact shape.resultDone call (by omega)
  case result =>
    rw [frame (.result (current + 1)) nofun, Stage.afterEnd_result]
    exact shape.resultLater (current + 1) later
  case resultLater =>
    intro call later
    rw [frame (.result call) nofun,
      shape.resultLater call (by omega), behind, behind, calls]
  case task =>
    apply Stage.afterEnd_task
    rw [frame (.task (current + 1)) nofun]
    exact shape.taskLater (current + 1) later
  case taskLater =>
    intro call later
    rw [frame (.task call) nofun]
    exact shape.taskLater call (by omega)
  case outcome =>
    rw [outcomes, Stage.afterEnd_outcome?]
    exact shape.outcomeLater (current + 1) later
  case outcomeLater =>
    intro call later
    rw [outcomes]
    exact shape.outcomeLater call (by omega)

end Shape

/-! ## Steps -/

inductive Moves (state : State Value Reason) : Event Value Reason →
    Nat → Stage Value Reason → Nat → Stage Value Reason → Prop
  | queue (call) : Moves state .call call .idle call .due
  | queueBehind {stage} (busy : stage ≠ .idle) (call) :
      Moves state .call call stage call stage
  | start (call) : Moves state .job call .due call .running
  | wait (call) : Moves state .job call (.following none) call .waiting
  | pass (call) (outcome) :
      Moves state .job call (.following (some outcome)) call (.passing outcome)
  | settle (call) (outcome) :
      Moves state .job call (.passing outcome) call (.ending outcome)
  | next (call) (outcome) :
      Moves state .job call (.ending outcome) (call + 1) (.afterEnd state call)
  | returned (call) (result) :
      Moves state (.returned call result) call .running call
        (.afterReturn result)
  | finish (call) (outcome) :
      Moves state (.settled call outcome) call (.following none) call
        (.following (some outcome))
  | wake (call) (outcome) :
      Moves state (.settled call outcome) call .waiting call (.passing outcome)

namespace Shape

variable {state : State Value Reason} {current : Nat}
  {stage : Stage Value Reason}

theorem step_job (shape : Shape state current stage)
    (more : state.heap.jobs ≠ []) :
    ∃ nextCall next, Moves state .job current stage nextCall next ∧
      Shape (runJob state) nextCall next := by
  rw [shape.jobs] at more
  cases stage with
  | idle => exact absurd rfl more
  | due => exact ⟨_, _, .start _, shape.job_due⟩
  | running => exact absurd rfl more
  | following outcome =>
    cases outcome with
    | none => exact ⟨_, _, .wait _, shape.job_following_pending⟩
    | some outcome => exact ⟨_, _, .pass _ _, shape.job_following_settled⟩
  | waiting => exact absurd rfl more
  | passing outcome => exact ⟨_, _, .settle _ _, shape.job_passing⟩
  | ending outcome => exact ⟨_, _, .next _ _, shape.job_ending⟩

theorem unsettled_current (shape : Shape state current stage) {call : Nat}
    (started : call ∈ state.started) (unsettled : state.outcome call = none) :
    call = current ∧ stage.outcome? = none ∧
      current < stage.startedCount current := by
  rw [shape.started, List.mem_range] at started
  have bound : stage.startedCount current ≤ current + 1 := by
    cases stage with
    | idle | due => exact Nat.le_succ current
    | running | following | waiting | passing | ending => exact Nat.le_refl _
  have notEarlier : ¬ call < current := by
    intro earlier
    rcases shape.resultDone call earlier with ⟨outcome, settled, -⟩
    rw [unsettled] at settled
    cases settled
  have same : call = current := by omega
  subst same
  exact ⟨rfl, shape.outcome.symm.trans unsettled, started⟩

theorem step_settled (shape : Shape state current stage) {call : Nat}
    (started : call ∈ state.started) (notRunning : state.running ≠ some call)
    (unsettled : state.outcome call = none) (outcome : Outcome Value Reason) :
    ∃ nextCall next, Moves state (.settled call outcome) current stage nextCall
        next ∧
      Shape (settled call outcome state) nextCall next := by
  rcases shape.unsettled_current started unsettled with ⟨rfl, open_, called⟩
  cases stage with
  | idle => exact absurd called (Nat.lt_irrefl _)
  | due => exact absurd called (Nat.lt_irrefl _)
  | running => exact absurd shape.running notRunning
  | following known =>
    cases open_
    exact ⟨_, _, .finish _ _, shape.settled_following⟩
  | waiting => exact ⟨_, _, .wake _ _, shape.settled_waiting⟩
  | passing => cases open_
  | ending => cases open_

theorem step (shape : Shape state current stage) {event : Event Value Reason}
    (enabled : state.Enabled event) :
    ∃ nextCall next, Moves state event current stage nextCall next ∧
      Shape (step state event) nextCall next := by
  cases event with
  | call =>
    by_cases idle : stage = .idle
    · subst idle
      exact ⟨_, _, .queue _, shape.call_idle⟩
    · exact ⟨_, _, .queueBehind idle _, shape.call_busy idle⟩
  | job => exact shape.step_job enabled.2
  | returned call result =>
    have running : stage.running? current = some call :=
      shape.running.symm.trans enabled
    cases stage with
    | running =>
      cases running
      exact ⟨_, _, .returned _ _, shape.returned_running result⟩
    | idle | due | following | waiting | passing | ending => cases running
  | settled call outcome =>
    exact shape.step_settled enabled.1 enabled.2.1 enabled.2.2 outcome

end Shape

end Dispatch.Coordinator.MonadQueue
