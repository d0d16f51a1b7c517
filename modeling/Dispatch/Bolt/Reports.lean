import Dispatch.Bolt.Conservation

/-! # Reports of a distributor

A distributor that is called and left to itself otherwise.
-/

namespace Dispatch.Bolt

open Coordinator (PayoutCall)

namespace Reports

end Reports

/-! ## Fed by calls -/

def Fed (config : Config) (calls : List PayoutCall) (state : State) :
    Prop :=
  ∃ events, (machine config).Run .initial events state ∧ queuedBy events = calls

namespace Fed

variable {config : Config} {calls : List PayoutCall} {state : State}

theorem initial : Fed config [] .initial :=
  ⟨[], .nil _, rfl⟩

theorem queue (fed : Fed config calls state)
    (more : List PayoutCall) :
    Fed config (calls ++ more)
      ((machine config).exec state (more.map .queuePayout)) := by
  induction more generalizing calls state with
  | nil =>
    rw [List.append_nil]
    exact fed
  | cons call more induction =>
    rcases fed with ⟨events, run, queued⟩
    have next : Fed config (calls ++ [call])
        ((machine config).step state (.queuePayout call)) := by
      have enabled : (machine config).Enabled state (.queuePayout call) :=
        trivial
      refine ⟨events ++ [.queuePayout call], run.snoc enabled, ?_⟩
      rw [queuedBy, List.flatMap_append]
      exact congrArg (· ++ [call]) queued
    rw [List.append_cons]
    exact induction next

theorem step (fed : Fed config calls state) {event : Event}
    (own : event.queued = []) (enabled : state.Enabled event) :
    Fed config calls ((machine config).step state event) := by
  rcases fed with ⟨events, run, queued⟩
  refine ⟨events ++ [event], run.snoc enabled, ?_⟩
  rw [queuedBy, List.flatMap_append, List.flatMap_singleton, own,
    List.append_nil]
  exact queued

end Fed

end Dispatch.Bolt
