import Mathlib.Data.List.Basic
import Mathlib.Logic.Function.Basic

/-! # Promises

The promises of ECMAScript, as far as `then` and promises returned from
handlers go.
-/

namespace Dispatch.Promise

inductive Outcome (Value Reason : Type)
  | fulfilled (value : Value)
  | rejected (reason : Reason)
  deriving DecidableEq

inductive Reaction (Id Handler : Type)
  | handlers (onFulfilled onRejected : Option Handler) (derived : Id)
  | adopt (target : Id)
  deriving DecidableEq

inductive State (Id Handler Value Reason : Type)
  | pending (reactions : List (Reaction Id Handler))
  | settled (outcome : Outcome Value Reason)
  deriving DecidableEq

inductive Job (Id Handler Value Reason : Type)
  | react (reaction : Reaction Id Handler) (outcome : Outcome Value Reason)
  | follow (target followed : Id)
  deriving DecidableEq

inductive Completion (Id Value Reason : Type)
  | value (value : Value)
  | thrown (reason : Reason)
  | promise (id : Id)

structure Heap (Id Handler Value Reason : Type) where
  state : Id → State Id Handler Value Reason
  jobs : List (Job Id Handler Value Reason)

namespace Heap

variable {Id Handler Value Reason : Type} [DecidableEq Id]
variable (heap : Heap Id Handler Value Reason)

def settle (id : Id) (outcome : Outcome Value Reason) :
    Heap Id Handler Value Reason :=
  match heap.state id with
  | .pending reactions =>
    { state := Function.update heap.state id (.settled outcome)
      jobs := heap.jobs ++ reactions.map (.react · outcome) }
  | .settled _ => heap

def addReaction (id : Id) (reaction : Reaction Id Handler) :
    Heap Id Handler Value Reason :=
  match heap.state id with
  | .pending reactions =>
    { heap with state :=
        Function.update heap.state id (.pending (reactions ++ [reaction])) }
  | .settled outcome =>
    { heap with jobs := heap.jobs ++ [.react reaction outcome] }

def andThen (id : Id) (onFulfilled onRejected : Option Handler)
    (derived : Id) : Heap Id Handler Value Reason :=
  heap.addReaction id (.handlers onFulfilled onRejected derived)

def complete (derived : Id) (completion : Completion Id Value Reason) :
    Heap Id Handler Value Reason :=
  match completion with
  | .value value => heap.settle derived (.fulfilled value)
  | .thrown reason => heap.settle derived (.rejected reason)
  | .promise id =>
    { heap with jobs := heap.jobs ++ [.follow derived id] }

end Heap

def Outcome.handler? (outcome : Outcome Value Reason)
    (onFulfilled onRejected : Option Handler) : Option Handler :=
  match outcome with
  | .fulfilled _ => onFulfilled
  | .rejected _ => onRejected

inductive Effect (Id Handler Value Reason : Type)
  | done (heap : Heap Id Handler Value Reason)
  | call (handler : Handler) (derived : Id)

namespace Heap

variable {Id Handler Value Reason : Type} [DecidableEq Id]
variable (heap : Heap Id Handler Value Reason)

def perform (job : Job Id Handler Value Reason) :
    Effect Id Handler Value Reason :=
  match job with
  | .follow target followed => .done (heap.addReaction followed (.adopt target))
  | .react (.adopt target) outcome => .done (heap.settle target outcome)
  | .react (.handlers onFulfilled onRejected derived) outcome =>
    match outcome.handler? onFulfilled onRejected with
    | some handler => .call handler derived
    | none => .done (heap.settle derived outcome)

/-! ## Rules -/

section Rules

variable {states : Id → State Id Handler Value Reason}
variable {jobs : List (Job Id Handler Value Reason)} {id : Id}

theorem settle_pending {reactions : List (Reaction Id Handler)}
    (pending : states id = .pending reactions)
    (outcome : Outcome Value Reason) :
    settle ⟨states, jobs⟩ id outcome =
      ⟨Function.update states id (.settled outcome),
        jobs ++ reactions.map (.react · outcome)⟩ := by
  simp only [settle, pending]

theorem addReaction_pending {reactions : List (Reaction Id Handler)}
    (pending : states id = .pending reactions)
    (reaction : Reaction Id Handler) :
    addReaction ⟨states, jobs⟩ id reaction =
      ⟨Function.update states id (.pending (reactions ++ [reaction])), jobs⟩
    := by
  simp only [addReaction, pending]

theorem addReaction_settled {outcome : Outcome Value Reason}
    (settled : states id = .settled outcome)
    (reaction : Reaction Id Handler) :
    addReaction ⟨states, jobs⟩ id reaction =
      ⟨states, jobs ++ [.react reaction outcome]⟩ := by
  simp only [addReaction, settled]

end Rules

end Heap

end Dispatch.Promise
