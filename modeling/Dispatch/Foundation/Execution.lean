import Mathlib.Algebra.GroupWithZero.Nat
import Mathlib.Data.List.Basic
import Mathlib.Logic.Relation

/-! # Event-driven machines

A machine takes one event at a time from an environment that may offer any
enabled event in any order.
-/

namespace Dispatch

structure Machine (State : Type u) (Event : Type v) where
  initial : State
  Enabled : State → Event → Prop
  step : State → Event → State

namespace Machine

variable {State : Type u} {Event : Type v} {machine : Machine State Event}

inductive Run (machine : Machine State Event) :
    State → List Event → State → Prop
  | nil (state : State) : Run machine state [] state
  | cons {state final : State} {event : Event} {events : List Event} :
      machine.Enabled state event →
      Run machine (machine.step state event) events final →
      Run machine state (event :: events) final

def Reachable (machine : Machine State Event) (state : State) : Prop :=
  ∃ events, machine.Run machine.initial events state

/-! ## Composing runs -/

theorem Run.append {start middle final : State} {first second : List Event}
    (left : machine.Run start first middle)
    (right : machine.Run middle second final) :
    machine.Run start (first ++ second) final := by
  induction left with
  | nil => exact right
  | cons enabled _ induction => exact .cons enabled (induction right)

theorem Run.snoc {start state : State} {events : List Event} {event : Event}
    (run : machine.Run start events state)
    (enabled : machine.Enabled state event) :
    machine.Run start (events ++ [event]) (machine.step state event) :=
  run.append (.cons enabled (.nil _))

theorem Run.single {start final : State} {event : Event}
    (run : machine.Run start [event] final) :
    machine.Enabled start event ∧ machine.step start event = final := by
  cases run with
  | cons enabled rest =>
    cases rest
    exact ⟨enabled, rfl⟩

theorem Reachable.start : machine.Reachable machine.initial :=
  ⟨[], .nil _⟩

theorem Reachable.step {state : State} {event : Event}
    (reachable : machine.Reachable state)
    (enabled : machine.Enabled state event) :
    machine.Reachable (machine.step state event) := by
  rcases reachable with ⟨events, run⟩
  exact ⟨events ++ [event], run.snoc enabled⟩

theorem Reachable.run {state final : State} {events : List Event}
    (reachable : machine.Reachable state)
    (run : machine.Run state events final) : machine.Reachable final := by
  rcases reachable with ⟨earlier, reached⟩
  exact ⟨earlier ++ events, reached.append run⟩

/-! ## Invariants -/

theorem Run.invariant (Property : State → Prop) {start final : State}
    {events : List Event} (run : machine.Run start events final)
    (reachable : machine.Reachable start) (base : Property start)
    (preserved : ∀ state event, machine.Reachable state → Property state →
      machine.Enabled state event → Property (machine.step state event)) :
    Property final := by
  induction run with
  | nil => exact base
  | cons enabled _ induction =>
    exact induction (reachable.step enabled)
      (preserved _ _ reachable base enabled)

theorem Reachable.invariant (Property : State → Prop) {state : State}
    (reachable : machine.Reachable state) (base : Property machine.initial)
    (preserved : ∀ state event, machine.Reachable state → Property state →
      machine.Enabled state event → Property (machine.step state event)) :
    Property state := by
  rcases reachable with ⟨events, run⟩
  exact run.invariant Property .start base preserved

theorem Run.accumulates (quantity : State → Nat) (added : Event → Nat)
    (stepAdds : ∀ state event, machine.Reachable state →
      machine.Enabled state event →
      quantity (machine.step state event) = quantity state + added event)
    {start final : State} {events : List Event}
    (run : machine.Run start events final)
    (reachable : machine.Reachable start) :
    quantity final = quantity start + (events.map added).sum := by
  induction run with
  | nil => simp
  | cons enabled _ induction =>
    have first := stepAdds _ _ reachable enabled
    have later := induction (reachable.step enabled)
    rw [List.map_cons, List.sum_cons]
    omega

/-! ## Whole runs -/

def Along (machine : Machine State Event) (Property : State → Prop) :
    State → List Event → Prop
  | state, [] => Property state
  | state, event :: events =>
    Property state ∧ machine.Along Property (machine.step state event) events

def Steps (machine : Machine State Event) (Condition : State → Event → Prop) :
    State → List Event → Prop
  | _, [] => True
  | state, event :: events =>
    Condition state event ∧
      machine.Steps Condition (machine.step state event) events

instance instDecidableSteps (machine : Machine State Event)
    (Condition : State → Event → Prop)
    [decidable : ∀ state event, Decidable (Condition state event)]
    (state : State) (events : List Event) :
    Decidable (machine.Steps Condition state events) :=
  match events with
  | [] => .isTrue trivial
  | event :: events =>
    have := instDecidableSteps machine Condition (machine.step state event)
      events
    inferInstanceAs (Decidable (_ ∧ _))

def exec (machine : Machine State Event) (state : State)
    (events : List Event) : State :=
  events.foldl machine.step state

theorem Run.of_steps {state : State} {events : List Event}
    (legal : machine.Steps machine.Enabled state events) :
    machine.Run state events (machine.exec state events) := by
  induction events generalizing state with
  | nil => exact .nil state
  | cons event events induction => exact .cons legal.1 (induction legal.2)

theorem Reachable.of_steps {events : List Event}
    (legal : machine.Steps machine.Enabled machine.initial events) :
    machine.Reachable (machine.exec machine.initial events) :=
  ⟨events, .of_steps legal⟩

def observe (machine : Machine State Event)
    (observation : State → Event → List Output) :
    State → List Event → List Output
  | _, [] => []
  | state, event :: events =>
    observation state event ++
      machine.observe observation (machine.step state event) events

theorem observe_events (machine : Machine State Event) (state : State)
    (events : List Event) :
    machine.observe (fun _ event => [event]) state events = events := by
  induction events generalizing state with
  | nil => rfl
  | cons event events induction =>
    exact congrArg (event :: ·) (induction (machine.step state event))

theorem Steps.always (machine : Machine State Event) (state : State)
    (events : List Event) : machine.Steps (fun _ _ => True) state events := by
  induction events generalizing state with
  | nil => trivial
  | cons event events induction => exact ⟨trivial, induction _⟩

theorem Steps.append {Condition : State → Event → Prop} {state : State}
    {first second : List Event} (left : machine.Steps Condition state first)
    (right : machine.Steps Condition (machine.exec state first) second) :
    machine.Steps Condition state (first ++ second) := by
  induction first generalizing state with
  | nil => exact right
  | cons event events induction => exact ⟨left.1, induction left.2 right⟩

theorem Steps.and_forall {Condition : State → Event → Prop}
    {Goal : Event → Prop} {state : State} {events : List Event}
    (steps : machine.Steps Condition state events)
    (all : ∀ event ∈ events, Goal event) :
    machine.Steps (fun state event => Condition state event ∧ Goal event)
      state events := by
  induction events generalizing state with
  | nil => trivial
  | cons event events induction =>
    rcases List.forall_mem_cons.mp all with ⟨head, tail⟩
    exact ⟨⟨steps.1, head⟩, induction steps.2 tail⟩

theorem Along.head {Property : State → Prop} {state : State}
    {events : List Event} (along : machine.Along Property state events) :
    Property state := by
  cases events with
  | nil => exact along
  | cons => exact along.1

theorem Along.mono {Property Goal : State → Prop}
    (implies : ∀ state, Property state → Goal state) {state : State}
    {events : List Event} (along : machine.Along Property state events) :
    machine.Along Goal state events := by
  induction events generalizing state with
  | nil => exact implies state along
  | cons event events induction =>
    exact ⟨implies state along.1, induction along.2⟩

theorem Along.combine {First Second Goal : State → Prop}
    (combined : ∀ state, First state → Second state → Goal state)
    {state : State} {events : List Event}
    (first : machine.Along First state events)
    (second : machine.Along Second state events) :
    machine.Along Goal state events := by
  induction events generalizing state with
  | nil => exact combined state first second
  | cons event events induction =>
    exact ⟨combined state first.1 second.1, induction first.2 second.2⟩

theorem Run.condition_at {Condition : State → Event → Prop}
    {start state : State} {first second : List Event} {event : Event}
    (run : machine.Run start first state)
    (steps : machine.Steps Condition start (first ++ event :: second)) :
    Condition state event := by
  induction run with
  | nil => exact steps.1
  | cons _ _ induction => exact induction steps.2

theorem Run.along {Property : State → Prop}
    {Condition : State → Event → Prop}
    (preserved : ∀ state event, machine.Reachable state → Property state →
      machine.Enabled state event → Condition state event →
      Property (machine.step state event))
    {start final : State} {events : List Event}
    (run : machine.Run start events final)
    (reachable : machine.Reachable start) (base : Property start)
    (steps : machine.Steps Condition start events) :
    machine.Along Property start events := by
  induction run with
  | nil => exact base
  | cons enabled _ induction =>
    exact ⟨base, induction (reachable.step enabled)
      (preserved _ _ reachable base enabled steps.1) steps.2⟩

theorem Run.along_of_prefixes {Property : State → Prop}
    {start final : State} {events : List Event}
    (run : machine.Run start events final)
    (ends : ∀ first second middle, first ++ second = events →
      machine.Run start first middle → Property middle) :
    machine.Along Property start events := by
  induction run with
  | nil state => exact ends [] [] state rfl (.nil state)
  | @cons state final event events enabled _ induction =>
    refine ⟨ends [] _ state rfl (.nil state), ?_⟩
    apply induction
    intro first second middle split later
    exact ends (event :: first) second middle (congrArg (event :: ·) split)
      (.cons enabled later)

theorem Run.steps_of_along {Property : State → Prop}
    {Condition : State → Event → Prop}
    (needed : ∀ state event, machine.Reachable state →
      machine.Enabled state event → Property (machine.step state event) →
      Condition state event)
    {start final : State} {events : List Event}
    (run : machine.Run start events final)
    (reachable : machine.Reachable start)
    (along : machine.Along Property start events) :
    machine.Steps Condition start events := by
  induction run with
  | nil => trivial
  | cons enabled _ induction =>
    exact ⟨needed _ _ reachable enabled along.2.head,
      induction (reachable.step enabled) along.2⟩

theorem Run.along_iff {Property : State → Prop}
    {Condition : State → Event → Prop}
    (preserved : ∀ state event, machine.Reachable state → Property state →
      machine.Enabled state event → Condition state event →
      Property (machine.step state event))
    (needed : ∀ state event, machine.Reachable state →
      machine.Enabled state event → Property (machine.step state event) →
      Condition state event)
    {start final : State} {events : List Event}
    (run : machine.Run start events final)
    (reachable : machine.Reachable start) (base : Property start) :
    machine.Along Property start events ↔
      machine.Steps Condition start events :=
  ⟨run.steps_of_along needed reachable, run.along preserved reachable base⟩

theorem Run.observes {Property : List Output → State → Prop}
    {Condition : State → Event → Prop}
    {observation : State → Event → List Output}
    (preserved : ∀ past state event, machine.Reachable state →
      Property past state → machine.Enabled state event →
      Condition state event →
      Property (past ++ observation state event) (machine.step state event))
    {start final : State} {events : List Event}
    (run : machine.Run start events final)
    (reachable : machine.Reachable start)
    (steps : machine.Steps Condition start events) {past : List Output}
    (base : Property past start) :
    Property (past ++ machine.observe observation start events) final := by
  induction run generalizing past with
  | nil => simpa [observe] using base
  | cons enabled _ induction =>
    rw [observe, ← List.append_assoc]
    exact induction (reachable.step enabled) steps.2
      (preserved _ _ _ reachable base enabled steps.1)

theorem Run.steps_along {Property : State → Prop}
    {Given Goal : State → Event → Prop}
    (preserved : ∀ state event, machine.Reachable state → Property state →
      machine.Enabled state event → Given state event →
      Property (machine.step state event))
    (transfer : ∀ state event, machine.Reachable state → Property state →
      machine.Enabled state event → Given state event → Goal state event)
    {start final : State} {events : List Event}
    (run : machine.Run start events final)
    (reachable : machine.Reachable start) (base : Property start)
    (steps : machine.Steps Given start events) :
    machine.Steps Goal start events := by
  induction run with
  | nil => trivial
  | cons enabled _ induction =>
    exact ⟨transfer _ _ reachable base enabled steps.1,
      induction (reachable.step enabled)
        (preserved _ _ reachable base enabled steps.1) steps.2⟩

theorem Run.steps {Given Goal : State → Event → Prop}
    (transfer : ∀ state event, machine.Reachable state →
      machine.Enabled state event → Given state event → Goal state event)
    {start final : State} {events : List Event}
    (run : machine.Run start events final)
    (reachable : machine.Reachable start)
    (steps : machine.Steps Given start events) :
    machine.Steps Goal start events := by
  have preserved : ∀ state event, machine.Reachable state → True →
      machine.Enabled state event → Given state event → True :=
    fun _ _ _ _ _ _ => trivial
  refine run.steps_along preserved ?_ reachable trivial steps
  intro state event reached _
  exact transfer state event reached

/-! ## Simulation -/

structure Simulation {Abstract : Type w} (machine : Machine State Event)
    (Advance : Abstract → Abstract → Prop)
    (Relates : State → Abstract → Prop) : Prop where
  start : ∃ abstract, Relates machine.initial abstract
  step : ∀ {state abstract event}, Relates state abstract →
    machine.Enabled state event →
    ∃ next, Advance abstract next ∧ Relates (machine.step state event) next

namespace Simulation

variable {Abstract : Type w} {Advance : Abstract → Abstract → Prop}
  {Relates : State → Abstract → Prop}

theorem run (simulation : machine.Simulation Advance Relates)
    {start final : State} {events : List Event} {abstract : Abstract}
    (run : machine.Run start events final) (related : Relates start abstract) :
    ∃ next, Relation.ReflTransGen Advance abstract next ∧
      Relates final next := by
  induction run generalizing abstract with
  | nil => exact ⟨abstract, .refl, related⟩
  | cons enabled _ induction =>
    rcases simulation.step related enabled with ⟨middle, advance, stepped⟩
    rcases induction stepped with ⟨next, advances, reached⟩
    exact ⟨next, .head advance advances, reached⟩

theorem reachable (simulation : machine.Simulation Advance Relates)
    {state : State} (reachable : machine.Reachable state) :
    ∃ abstract, Relates state abstract := by
  rcases reachable with ⟨events, run⟩
  rcases simulation.start with ⟨abstract, related⟩
  rcases simulation.run run related with ⟨next, _, reached⟩
  exact ⟨next, reached⟩

end Simulation

end Machine

end Dispatch
