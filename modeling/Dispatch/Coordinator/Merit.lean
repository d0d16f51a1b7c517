import Dispatch.Coordinator.Matching
import Mathlib.Algebra.Order.Field.Rat
import Mathlib.Data.Nat.Cast.Order.Ring
import Mathlib.Tactic.NormNum

/-! # Merit

A worker that gains stake, reputation or a fresher heartbeat does not lose a
job by it, and one that loses them does not gain a job.
-/

namespace Dispatch.Coordinator

open WorkerHub Selection

/-! ## Scores in floating point -/

namespace WorkerHub

def reputationBonus (rounding : Rounding) (score multiplier : ℚ) : ℚ :=
  rounding.round
    (rounding.round (rounding.round (score / 100) * 10) * multiplier)

def workerScoreIn (rounding : Rounding) (now : Nat) (worker : TrackedWorker)
    (policy : Tier) (jobType : JobType) : ℚ :=
  let preference : ℚ :=
    match policy with
    | .fast => if worker.type = .desktop then 10 else 0
    | .cheap => if jobType = .task ∧ worker.type = .seeker then 10 else 0
  let age := rounding.round ((now : ℚ) - worker.lastHeartbeat)
  let freshness := max 0 (rounding.round (5 - rounding.round (age / 10000)))
  let score := rounding.round (preference + freshness)
  let stake := STAKE_PRIORITY (worker.stakeLevel.getD .open)
  let score :=
    match worker.reputationScore with
    | some reputation =>
      rounding.round
        (score + reputationBonus rounding reputation stake.repMultiplier)
    | none => score
  rounding.round (score + stake.bonus)

def claimWorkerIn (rounding : Rounding) (now : Nat) (jobType : JobType)
    (policy : Tier) (privacyClass userId : String) (state : State) :
    Option (String × TrackedWorker) × State :=
  let candidates := state.workers.entries.filter fun entry =>
    isEligible state jobType privacyClass userId entry.2
  let sorted := candidates.insertionSort fun left right =>
    rounding.round (workerScoreIn rounding now right.2 policy jobType -
      workerScoreIn rounding now left.2 policy jobType) ≤ 0
  match sorted with
  | [] => (none, state)
  | (workerId, worker) :: _ =>
    (some (workerId, worker), state.updateWorker workerId fun worker =>
      { worker with status := .busy })

end WorkerHub

section Claiming

variable (rounding : Rounding) (now : Nat) (jobType : JobType) (policy : Tier)
  (privacyClass userId : String) (state : State)

theorem claimWorkerIn_eq :
    claimWorkerIn rounding now jobType policy privacyClass userId state =
      let claimed := best
        (fun worker => workerScoreIn rounding now worker policy jobType)
        jobType privacyClass userId state
      (claimed, marked claimed state) := by
  -- A score is a rounded number, so that the comparator sees its order.
  have byScore (left right : String × TrackedWorker) :
      rounding.round (workerScoreIn rounding now right.2 policy jobType -
          workerScoreIn rounding now left.2 policy jobType) ≤ 0 ↔
        workerScoreIn rounding now right.2 policy jobType ≤
          workerScoreIn rounding now left.2 policy jobType :=
    rounding.sub_nonpos_iff _ _
  rw [best, ← head?_insertionSort byScore]
  exact head_marked state _

end Claiming

/-! ## Better workers score higher -/

def stakeRank : StakeTier → Nat
  | .open => 0
  | .verified => 1
  | .sentinel => 2

structure Improves (before after : TrackedWorker) : Prop where
  same : after = { before with
    lastHeartbeat := after.lastHeartbeat
    reputationScore := after.reputationScore
    stakeLevel := after.stakeLevel }
  heartbeat : before.lastHeartbeat ≤ after.lastHeartbeat
  reputation : ∀ score, before.reputationScore = some score →
    ∃ higher, after.reputationScore = some higher ∧ score ≤ higher
  stake : stakeRank (before.stakeLevel.getD .open) ≤
    stakeRank (after.stakeLevel.getD .open)

def Rated (worker : TrackedWorker) : Prop :=
  ∀ score, worker.reputationScore = some score → 0 ≤ score ∧ score ≤ 100

theorem stakePriority_mono {lower higher : StakeTier}
    (rank : stakeRank lower ≤ stakeRank higher) :
    (STAKE_PRIORITY lower).bonus ≤ (STAKE_PRIORITY higher).bonus ∧
      (STAKE_PRIORITY lower).repMultiplier ≤
        (STAKE_PRIORITY higher).repMultiplier := by
  revert rank
  cases lower <;> cases higher <;> norm_num [STAKE_PRIORITY, stakeRank]

theorem repMultiplier_nonneg (tier : StakeTier) :
    0 ≤ (STAKE_PRIORITY tier).repMultiplier := by
  cases tier <;> norm_num [STAKE_PRIORITY]

section Scores

variable (rounding : Rounding)

theorem reputationPoints_nonneg {score : ℚ} (nonneg : 0 ≤ score) :
    0 ≤ rounding.round (rounding.round (score / 100) * 10) := by
  have share := rounding.nonneg
    (div_nonneg nonneg (by norm_num : (0 : ℚ) ≤ 100))
  exact rounding.nonneg (mul_nonneg share (by norm_num))

theorem reputationBonus_nonneg {score multiplier : ℚ} (nonneg : 0 ≤ score)
    (factor : 0 ≤ multiplier) :
    0 ≤ reputationBonus rounding score multiplier :=
  rounding.nonneg (mul_nonneg (reputationPoints_nonneg rounding nonneg) factor)

theorem reputationBonus_mono {score higher multiplier larger : ℚ}
    (nonneg : 0 ≤ score) (factor : 0 ≤ multiplier) (rises : score ≤ higher)
    (grows : multiplier ≤ larger) :
    reputationBonus rounding score multiplier ≤
      reputationBonus rounding higher larger := by
  have points := reputationPoints_nonneg rounding nonneg
  have moreShare : rounding.round (score / 100) ≤
      rounding.round (higher / 100) :=
    rounding.monotone (div_le_div_of_nonneg_right rises (by norm_num))
  have morePoints : rounding.round (rounding.round (score / 100) * 10) ≤
      rounding.round (rounding.round (higher / 100) * 10) :=
    rounding.monotone (mul_le_mul_of_nonneg_right moreShare (by norm_num))
  apply rounding.monotone
  exact mul_le_mul morePoints grows factor (points.trans morePoints)

theorem freshness_mono (now : Nat) {earlier later : Nat}
    (recent : earlier ≤ later) :
    max 0 (rounding.round
        (5 - rounding.round (rounding.round ((now : ℚ) - earlier) / 10000))) ≤
      max 0 (rounding.round
        (5 - rounding.round (rounding.round ((now : ℚ) - later) / 10000))) := by
  have time : (earlier : ℚ) ≤ later := Nat.cast_le.mpr recent
  have age : rounding.round ((now : ℚ) - later) ≤
      rounding.round ((now : ℚ) - earlier) :=
    rounding.monotone (sub_le_sub_left time _)
  have scaled : rounding.round (rounding.round ((now : ℚ) - later) / 10000) ≤
      rounding.round (rounding.round ((now : ℚ) - earlier) / 10000) :=
    rounding.monotone (div_le_div_of_nonneg_right age (by norm_num))
  exact max_le_max le_rfl (rounding.monotone (sub_le_sub_left scaled _))

theorem addReputation_mono {score larger : ℚ} {before after : TrackedWorker}
    {lower higher : StakeTier} (improves : Improves before after)
    (ratedBefore : Rated before) (ratedAfter : Rated after)
    (isNumber : rounding.round larger = larger) (grows : score ≤ larger)
    (stake : (STAKE_PRIORITY lower).repMultiplier ≤
      (STAKE_PRIORITY higher).repMultiplier) :
    (match before.reputationScore with
      | some reputation => rounding.round (score +
          reputationBonus rounding reputation
            (STAKE_PRIORITY lower).repMultiplier)
      | none => score) ≤
      match after.reputationScore with
      | some reputation => rounding.round (larger +
          reputationBonus rounding reputation
            (STAKE_PRIORITY higher).repMultiplier)
      | none => larger := by
  cases first : before.reputationScore with
  | some reputation =>
    rcases improves.reputation reputation first with ⟨risen, second, rises⟩
    simp only [second]
    apply rounding.monotone
    exact add_le_add grows (reputationBonus_mono rounding
      (ratedBefore reputation first).1 (repMultiplier_nonneg lower) rises
      stake)
  | none =>
    cases second : after.reputationScore with
    | none => exact grows
    | some reputation =>
      have bonus := reputationBonus_nonneg rounding
        (ratedAfter reputation second).1 (repMultiplier_nonneg higher)
      exact grows.trans (rounding.le_round_add isNumber bonus)

theorem workerScoreIn_mono (now : Nat) (policy : Tier) (jobType : JobType)
    {before after : TrackedWorker} (improves : Improves before after)
    (ratedBefore : Rated before) (ratedAfter : Rated after) :
    workerScoreIn rounding now before policy jobType ≤
      workerScoreIn rounding now after policy jobType := by
  have sameType : after.type = before.type := by rw [improves.same]
  have stake := stakePriority_mono improves.stake
  simp only [workerScoreIn, sameType]
  apply rounding.monotone
  apply add_le_add _ stake.1
  apply addReputation_mono rounding improves ratedBefore ratedAfter
    (rounding.idempotent _) _ stake.2
  apply rounding.monotone
  exact add_le_add_right (freshness_mono rounding now improves.heartbeat) _

end Scores

/-! ## Selection follows merit -/

section Selection

variable {jobType : JobType} {privacyClass userId : String} {state : State}
  {score : TrackedWorker → ℚ} {workerId : String} {worker : TrackedWorker}

theorem Improves.isEligible_eq {before after : TrackedWorker}
    (improves : Improves before after) :
    isEligible state jobType privacyClass userId after =
      isEligible state jobType privacyClass userId before := by
  rw [improves.same]
  rfl

def replaced (workerId : String) (worker : TrackedWorker) (state : State) :
    State :=
  state.updateWorker workerId fun _ => worker

theorem candidates_replaced {changedId : String}
    {before after : TrackedWorker}
    (tracked : state.workers.get? changedId = some before)
    (sameEligible : isEligible state jobType privacyClass userId after =
      isEligible state jobType privacyClass userId before) :
    candidates jobType privacyClass userId (replaced changedId after state) =
      (candidates jobType privacyClass userId state).map fun entry =>
        if entry.1 = changedId then (entry.1, after) else entry := by
  have sameFilter (worker : TrackedWorker) :
      isEligible (replaced changedId after state) jobType privacyClass userId
        worker = isEligible state jobType privacyClass userId worker := rfl
  simp only [candidates, sameFilter]
  rw [replaced, State.updateWorker, OrderedMap.modify, List.filter_map]
  congr 1
  apply List.filter_congr
  intro entry member
  simp only [Function.comp_apply]
  split
  · next same =>
      have stored := (OrderedMap.get?_eq_some_iff ..).mpr member
      rw [same, tracked, Option.some.injEq] at stored
      rw [sameEligible, stored]
  · rfl

theorem best_of_improved
    (selected : best score jobType privacyClass userId state =
      some (workerId, worker))
    {improved : TrackedWorker}
    (sameEligible : isEligible state jobType privacyClass userId improved =
      isEligible state jobType privacyClass userId worker)
    (gains : score worker ≤ score improved) :
    best score jobType privacyClass userId
      (replaced workerId improved state) = some (workerId, improved) := by
  have tracked := (mem_candidates_iff.mp (List.argmax_mem selected)).1
  rw [best, candidates_replaced tracked sameEligible]
  have changed := argmax_map (fun entry : String × TrackedWorker =>
    if entry.1 = workerId then (entry.1, improved) else entry) selected
    (by simpa using gains) ?_
  · simpa using changed
  · rintro ⟨other, rival⟩ member differs
    have otherId : other ≠ workerId := by
      rintro rfl
      have stored := (mem_candidates_iff.mp member).1
      rw [tracked, Option.some.injEq] at stored
      exact differs (by rw [stored])
    simp [otherId]

theorem best_of_weakened
    (selected : best score jobType privacyClass userId state =
      some (workerId, worker))
    {other : String} {rival weakened : TrackedWorker}
    (tracked : state.workers.get? other = some rival)
    (notSelected : other ≠ workerId)
    (sameEligible : isEligible state jobType privacyClass userId weakened =
      isEligible state jobType privacyClass userId rival)
    (loses : score weakened ≤ score rival) :
    best score jobType privacyClass userId (replaced other weakened state) =
      some (workerId, worker) := by
  rw [best, candidates_replaced tracked sameEligible]
  have changed := argmax_map (fun entry : String × TrackedWorker =>
    if entry.1 = other then (entry.1, weakened) else entry) selected
    (by simp [Ne.symm notSelected]) ?_
  · simpa [Ne.symm notSelected] using changed
  · rintro ⟨entryId, found⟩ member _
    dsimp only
    split
    · next same =>
        have stored := (mem_candidates_iff.mp member).1
        rw [same, tracked, Option.some.injEq] at stored
        rw [← stored]
        exact loses
    · exact le_rfl

end Selection

/-- In every hub whose workers have a reputation in range, the worker that
`claimWorker` selects is still selected when it alone gains stake, reputation
or a fresher heartbeat, and when another eligible worker alone loses some. -/
theorem selection_follows_merit (rounding : Rounding) (now : Nat)
    (jobType : JobType) (policy : Tier) (privacyClass userId : String)
    {state : State} (rated : ∀ workerId worker,
      state.workers.get? workerId = some worker → Rated worker)
    {workerId : String} {worker : TrackedWorker}
    (selected : (claimWorkerIn rounding now jobType policy privacyClass userId
      state).1 = some (workerId, worker)) :
    (∀ improved, Improves worker improved → Rated improved →
      (claimWorkerIn rounding now jobType policy privacyClass userId
        (replaced workerId improved state)).1 = some (workerId, improved)) ∧
    ∀ other rival weakened, state.workers.get? other = some rival →
      Eligible state jobType privacyClass userId rival → other ≠ workerId →
      Improves weakened rival → Rated weakened →
      (claimWorkerIn rounding now jobType policy privacyClass userId
        (replaced other weakened state)).1 = some (workerId, worker) := by
  simp only [claimWorkerIn_eq] at selected ⊢
  have tracked := (mem_candidates_iff.mp (List.argmax_mem selected)).1
  constructor
  · intro improved improves ratedImproved
    apply best_of_improved selected improves.isEligible_eq
    exact workerScoreIn_mono rounding now policy jobType improves
      (rated workerId worker tracked) ratedImproved
  · intro other rival weakened found _ notSelected improves ratedWeakened
    apply best_of_weakened selected found notSelected
      improves.isEligible_eq.symm
    exact workerScoreIn_mono rounding now policy jobType improves
      ratedWeakened (rated other rival found)

namespace Sample

def ratedTwice : List Input :=
  registeredTwice ++ [
    { now := 0, uuid := spareUuid,
      event := .reputationFetched workerUuid.text (some 50) },
    { now := 0, uuid := extraUuid,
      event := .reputationFetched jobUuid.text (some 50) }]

def firstWorker : TrackedWorker where
  ws := 0
  pubkey := pubkey
  type := .desktop
  capabilities := [.task]
  status := .idle
  lastHeartbeat := 0
  activeJobId := none
  reputationScore := some 50
  stakeLevel := none

end Sample

theorem selection_follows_stake :
    let state := (machine Sample.environment).exec .initial Sample.ratedTwice
    let staked := { Sample.firstWorker with stakeLevel := some .sentinel }
    (claimWorkerIn .exact 0 .task .fast PrivacyClass.PUBLIC "user" state).1 =
        some (Sample.workerUuid.text, Sample.firstWorker) ∧
      (claimWorkerIn .exact 0 .task .fast PrivacyClass.PUBLIC "user"
        (replaced Sample.workerUuid.text staked state)).1 =
        some (Sample.workerUuid.text, staked) := by
  have reputations : ∀ entry ∈ ((machine Sample.environment).exec .initial
      Sample.ratedTwice).workers.entries,
      entry.2.reputationScore = some 50 := by decide +kernel
  have rated : ∀ workerId worker, ((machine Sample.environment).exec .initial
      Sample.ratedTwice).workers.get? workerId = some worker →
      Rated worker := by
    intro workerId worker tracked score found
    rw [reputations _ ((OrderedMap.get?_eq_some_iff ..).mp tracked)] at found
    cases found
    norm_num
  have selected : (claimWorkerIn .exact 0 .task .fast PrivacyClass.PUBLIC "user"
      ((machine Sample.environment).exec .initial Sample.ratedTwice)).1 =
      some (Sample.workerUuid.text, Sample.firstWorker) := by decide +kernel
  refine ⟨selected, (selection_follows_merit .exact 0 .task .fast
    PrivacyClass.PUBLIC "user" rated selected).1 _ ?_ ?_⟩
  · exact ⟨rfl, le_rfl, fun score found => ⟨score, found, le_rfl⟩, by decide⟩
  · intro score found
    cases found
    norm_num

end Dispatch.Coordinator
