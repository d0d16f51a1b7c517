import Mathlib.Data.List.Nodup
import Mathlib.Logic.Function.Basic
import Mathlib.Logic.Relation

/-! # Task boards

A board says for each job whether it waits, which worker holds it or how it
ended.
-/

namespace Dispatch

inductive Stage (Worker : Type u) (Record : Type v)
  | waiting
  | held (worker : Worker)
  | finished (record : Record)
  | failed (record : Record)

namespace Stage

variable {Worker : Type u} {Record : Type v}

inductive Next : Option (Stage Worker Record) →
    Option (Stage Worker Record) → Prop
  | stay (stage) : Next stage stage
  | post : Next none (some waiting)
  | postTake (worker) : Next none (some (held worker))
  | postFail (record) : Next none (some (failed record))
  | take (worker) : Next (some waiting) (some (held worker))
  | giveUp (record) : Next (some waiting) (some (failed record))
  | finish (worker) (record) : Next (some (held worker)) (some (finished record))
  | giveBack (worker) : Next (some (held worker)) (some waiting)
  | fail (worker) (record) : Next (some (held worker)) (some (failed record))

def IsFinal : Stage Worker Record → Prop
  | finished _ | failed _ => True
  | waiting | held _ => False

theorem Next.of_final {stage : Stage Worker Record} (final : stage.IsFinal)
    {next : Option (Stage Worker Record)} (step : Next (some stage) next) :
    next = some stage := by
  cases step with
  | stay => rfl
  | take => cases final
  | giveUp => cases final
  | finish => cases final
  | giveBack => cases final
  | fail => cases final

end Stage

structure Board (Worker : Type u) (Job : Type v) (Record : Type w) where
  stage : Job → Option (Stage Worker Record)
  ledger : List (Job × Record)
  exclusive : ∀ {worker left right}, stage left = some (.held worker) →
    stage right = some (.held worker) → left = right
  ledger_nodup : (ledger.map Prod.fst).Nodup
  mem_ledger : ∀ job record,
    (job, record) ∈ ledger ↔ stage job = some (.finished record)

namespace Board

variable {Worker : Type u} {Job : Type v} {Record : Type w}

def empty : Board Worker Job Record where
  stage _ := none
  ledger := []
  exclusive := fun left => nomatch left
  ledger_nodup := List.nodup_nil
  mem_ledger _ _ := by simp

def Advance (board next : Board Worker Job Record) : Prop :=
  ∀ job, Stage.Next (board.stage job) (next.stage job)

theorem Advance.refl (board : Board Worker Job Record) : Advance board board :=
  fun _ => .stay _

theorem Advance.final {board next : Board Worker Job Record}
    (advances : Relation.ReflTransGen Advance board next) {job : Job}
    {stage : Stage Worker Record} (ended : stage.IsFinal)
    (before : board.stage job = some stage) : next.stage job = some stage := by
  induction advances with
  | refl => exact before
  | tail _ advance induction =>
    have step := advance job
    rw [induction] at step
    exact step.of_final ended

def Drops (board next : Board Worker Job Record) : Prop :=
  ∀ job, next.stage job = board.stage job ∨
    ∃ worker record, board.stage job = some (.held worker) ∧
      next.stage job = some (.failed record)

theorem Drops.refl (board : Board Worker Job Record) : Drops board board :=
  fun _ => .inl rfl

theorem Drops.trans {first second third : Board Worker Job Record}
    (left : Drops first second) (right : Drops second third) :
    Drops first third := by
  intro job
  rcases right job with same | ⟨worker, record, held, failed⟩
  · rw [same]
    exact left job
  · rcases left job with same | ⟨_, _, _, alreadyFailed⟩
    · exact .inr ⟨worker, record, same ▸ held, failed⟩
    · rw [alreadyFailed] at held
      cases held

theorem Drops.advance {board next : Board Worker Job Record}
    (drops : Drops board next) : Advance board next := by
  intro job
  rcases drops job with same | ⟨worker, record, held, failed⟩
  · rw [same]
    exact .stay _
  · rw [held, failed]
    exact .fail worker record

variable [DecidableEq Job]

/-! ## Moves

Each move asks for what keeps the board one. -/

def place (board : Board Worker Job Record) (job : Job)
    (stage : Stage Worker Record)
    (unfinished : ∀ record, board.stage job ≠ some (.finished record))
    (notFinish : ∀ record, stage ≠ .finished record)
    (free : ∀ worker, stage = .held worker → ∀ other,
      board.stage other ≠ some (.held worker)) :
    Board Worker Job Record where
  stage := Function.update board.stage job (some stage)
  ledger := board.ledger
  exclusive := by
    intro worker left right leftHeld rightHeld
    by_cases leftSame : left = job <;> by_cases rightSame : right = job
    · rw [leftSame, rightSame]
    · rw [leftSame, Function.update_self] at leftHeld
      rw [Function.update_of_ne rightSame] at rightHeld
      exact absurd rightHeld (free worker (Option.some.inj leftHeld) right)
    · rw [Function.update_of_ne leftSame] at leftHeld
      rw [rightSame, Function.update_self] at rightHeld
      exact absurd leftHeld (free worker (Option.some.inj rightHeld) left)
    · rw [Function.update_of_ne leftSame] at leftHeld
      rw [Function.update_of_ne rightSame] at rightHeld
      exact board.exclusive leftHeld rightHeld
  ledger_nodup := board.ledger_nodup
  mem_ledger other record := by
    rw [board.mem_ledger]
    by_cases same : other = job
    · subst same
      simp [unfinished record, notFinish record]
    · rw [Function.update_of_ne same]

def finish (board : Board Worker Job Record) (job : Job) (record : Record)
    (held : ∃ worker, board.stage job = some (.held worker)) :
    Board Worker Job Record where
  stage := Function.update board.stage job (some (.finished record))
  ledger := board.ledger ++ [(job, record)]
  exclusive := by
    intro worker left right leftHeld rightHeld
    by_cases leftSame : left = job
    · simp [leftSame] at leftHeld
    · by_cases rightSame : right = job
      · simp [rightSame] at rightHeld
      · rw [Function.update_of_ne leftSame] at leftHeld
        rw [Function.update_of_ne rightSame] at rightHeld
        exact board.exclusive leftHeld rightHeld
  ledger_nodup := by
    rcases held with ⟨worker, held⟩
    have absent : job ∉ board.ledger.map Prod.fst := by
      intro member
      rcases List.mem_map.mp member with ⟨⟨other, earlier⟩, listed, same⟩
      have finished := (board.mem_ledger other earlier).mp listed
      rw [show other = job from same, held] at finished
      cases finished
    rw [List.map_append, List.nodup_append]
    refine ⟨board.ledger_nodup, by simp, ?_⟩
    intro left leftMember right rightMember equal
    simp only [List.map_cons, List.map_nil, List.mem_singleton] at rightMember
    exact absent (rightMember ▸ equal ▸ leftMember)
  mem_ledger other earlier := by
    rw [List.mem_append, board.mem_ledger]
    rcases held with ⟨worker, held⟩
    by_cases same : other = job
    · subst same
      simp [held, eq_comm]
    · simp [same]

theorem Advance.of_update {board next : Board Worker Job Record} {job : Job}
    {stage : Option (Stage Worker Record)}
    (update : next.stage = Function.update board.stage job stage)
    (step : Stage.Next (board.stage job) stage) : Advance board next := by
  intro other
  rw [update]
  by_cases same : other = job
  · subst same
    rw [Function.update_self]
    exact step
  · rw [Function.update_of_ne same]
    exact .stay _

end Board

end Dispatch
