import Dispatch.Coordinator.ServerSteps

/-! # Claiming a worker

`claimWorker` on workers, pairings and requests of any shape.
-/

namespace Dispatch.Coordinator.Server

open Sqlite Listener

/-! ## The order of registration -/

section Order

variable {Number : Type}

def IssuedBefore (server : Server Number) (first second : String) : Prop :=
  [first, second].Sublist (server.issued.reverse.map Uuid.text)

theorem keys_marked (server : Server Number) (workerId : String) :
    (server.marked workerId).hub.workers.keys = server.hub.workers.keys :=
  OrderedMap.keys_modify ..

theorem keys_given (server : Server Number) (workerId : String)
    (worker : RawWorker Number) (jobId : String)
    (request : RawRequest Number) :
    (server.given workerId worker jobId request).hub.workers.keys =
      server.hub.workers.keys :=
  OrderedMap.keys_modify ..

theorem keys_freed (server : Server Number) (workerId : String) :
    (server.freed workerId).hub.workers.keys = server.hub.workers.keys :=
  OrderedMap.keys_modify ..

theorem keys_matchedWith (server : Server Number) (jobId : String)
    (request : RawRequest Number) (workerId : String)
    (worker : RawWorker Number) (key : Value) :
    (server.matchedWith jobId request workerId worker key).hub.workers.keys =
      server.hub.workers.keys :=
  (keys_given ..).trans (keys_marked ..)

theorem keys_drops {server next : Server Number}
    (drops : Relation.ReflTransGen Drop server next) :
    next.hub.workers.keys.Sublist server.hub.workers.keys := by
  induction drops with
  | refl => exact .refl _
  | tail _ drop induction =>
    cases drop with
    | quiet quiet => exact quiet.keys ▸ induction
    | jobless => exact (OrderedMap.keys_delete ..).trans induction
    | failed => exact (OrderedMap.keys_delete ..).trans induction

variable [JsNumber Number] [SqlNumber Number] {env : RawEnvironment Number}
  {input : Input Number} {server next : Server Number}

theorem Routed.keys {now : Nat} {jobId : String}
    {request : RawRequest Number}
    (routed : Routed now jobId request server next) :
    next.hub.workers.keys = server.hub.workers.keys := by
  cases routed with
  | stopped | refused | waiting => rfl
  | stuck => exact keys_marked ..
  | assigned => exact keys_matchedWith ..

theorem Ticked.keys {now : Nat} {jobId : String} {interval : Interval Number}
    (ticked : Ticked now jobId interval server next) :
    next.hub.workers.keys = server.hub.workers.keys := by
  cases ticked with
  | closed | settled | stopped | failed | counted => rfl
  | stuck => exact keys_marked ..
  | @assigned _ workerId worker key =>
    exact keys_matchedWith server jobId interval.request workerId worker key

theorem Effect.keys (effect : Effect env input server next) :
    next.hub.workers.keys.Sublist
      (server.hub.workers.keys ++ [input.uuid.text]) := by
  have grown : ∀ {keys : List String}, keys = server.hub.workers.keys →
      keys.Sublist (server.hub.workers.keys ++ [input.uuid.text]) := by
    intro keys same
    rw [same]
    exact List.sublist_append_left ..
  cases effect with
  | quiet quiet => exact grown quiet.keys
  | register _ quiet =>
    rw [quiet.keys]
    exact OrderedMap.keys_set ..
  | receipt => exact grown rfl
  | complete _ _ _ _ written =>
    rcases storeResult_tables written with ⟨receipts, rfl, _⟩
    exact grown (keys_freed ..)
  | completeDemo => exact grown (keys_freed ..)
  | reject => exact grown (keys_freed ..)
  | rejectDemo => exact grown (keys_freed ..)
  | dropped drops =>
    exact (keys_drops drops).trans (List.sublist_append_left ..)
  | commit _ _ _ _ _ routed => exact grown routed.keys
  | tick _ _ ticked => exact grown ticked.keys
  | demo => exact grown ((keys_given ..).trans (keys_marked ..))

theorem step_issued (env : RawEnvironment Number) (server : Server Number)
    (input : Input Number) :
    ((machine env).step server input).issued =
      input.uuid :: server.issued := by
  rcases step_continues env server input with
    continues | ⟨_, _, _, _, _, _, _, _, continues⟩
  · exact continues.issued
  · exact continues.issued

theorem keys_issued (reachable : (machine env).Reachable server) :
    server.hub.workers.keys.Sublist
      (server.issued.reverse.map Uuid.text) := by
  apply reachable.invariant
    (fun server => server.hub.workers.keys.Sublist
      (server.issued.reverse.map Uuid.text)) (.refl _)
  intro server input _ ordered _
  rw [step_issued, List.reverse_cons, List.map_append]
  exact (step_effect env server input).keys.trans (ordered.append (.refl _))

end Order

/-! ## The best worker is claimed -/

section Best

variable {Number : Type} [JsNumber Number] [SqlNumber Number]

structure ClaimsBest (now : Nat) (request : RawRequest Number)
    (server : Server Number) (claimed : Option (String × RawWorker Number))
    (next : Server Number) : Prop where
  none_iff : claimed = none ↔ NoneEligible server request
  eligible : ∀ workerId worker, claimed = some (workerId, worker) →
    server.hub.workers.get? workerId = some worker ∧
      Eligible server request worker
  highest : ∀ workerId worker, claimed = some (workerId, worker) →
    ∀ other rival, server.hub.workers.get? other = some rival →
      Eligible server request rival →
      workerScore now rival request.policy request.jobType ≤
        workerScore now worker request.policy request.jobType
  earliest : ∀ workerId worker, claimed = some (workerId, worker) →
    ∀ other rival, server.hub.workers.get? other = some rival →
      Eligible server request rival →
      workerScore now rival request.policy request.jobType =
        workerScore now worker request.policy request.jobType →
      other ≠ workerId → IssuedBefore server workerId other
  busy : ∀ workerId worker, claimed = some (workerId, worker) →
    next.hub.workers.get? workerId = some { worker with status := .busy }
  others : ∀ other, (∀ worker, claimed ≠ some (other, worker)) →
    next.hub.workers.get? other = server.hub.workers.get? other
  order : next.hub.workers.keys = server.hub.workers.keys
  elsewhere : next = { server with
    hub := { server.hub with workers := next.hub.workers } }

variable {env : RawEnvironment Number} {server : Server Number} {now : Nat}
  {request : RawRequest Number}

theorem claimsBest_none (none : NoneEligible server request) :
    ClaimsBest now request server Option.none server where
  none_iff := iff_of_true rfl none
  eligible _ _ claimed := by cases claimed
  highest _ _ claimed := by cases claimed
  earliest _ _ claimed := by cases claimed
  busy _ _ claimed := by cases claimed
  others _ _ := rfl
  order := rfl
  elsewhere := rfl

theorem Chosen.claimsBest {workerId : String} {worker : RawWorker Number}
    (reachable : (machine env).Reachable server)
    (chosen : Chosen now request server workerId worker) :
    ClaimsBest now request server (some (workerId, worker))
      (server.marked workerId) where
  none_iff := by
    refine iff_of_false (Option.some_ne_none _) ?_
    intro none
    exact none workerId worker chosen.tracked chosen.eligible
  eligible _ _ claimed := by
    cases claimed
    exact ⟨chosen.tracked, chosen.eligible⟩
  highest _ _ claimed := by
    cases claimed
    exact chosen.highest
  earliest _ _ claimed other rival tracked eligible level differs := by
    cases claimed
    exact (chosen.earliest other rival tracked eligible level differs).trans
      (keys_issued reachable)
  busy _ _ claimed := by
    cases claimed
    rw [marked, Hub.updateWorker, OrderedMap.get?_modify, if_pos rfl,
      chosen.tracked]
    rfl
  others other unclaimed := by
    rw [marked, Hub.updateWorker, OrderedMap.get?_modify, if_neg]
    rintro rfl
    exact unclaimed worker rfl
  order := keys_marked server workerId
  elsewhere := rfl

end Best

namespace Sample

def request : RawRequest Empty where
  jobType := .task
  policy := .fast
  privacyClass := .string PrivacyClass.PUBLIC
  userId := .string "user"
  payload := .object .nil

def incapable : String :=
  "\x7b\"type\":\"register\",\"provider_pubkey\":\"3d4017\"," ++
    "\"provider_type\":\"DESKTOP\"\x7d"

def registering (first : String) : List (Input Empty) :=
  [at0 Coordinator.Sample.extraUuid (.connect 0),
    at0 Coordinator.Sample.otherUuid (.frame 0 first),
    at0 Coordinator.Sample.spareUuid (.connect 1),
    at0 Coordinator.Sample.workerUuid (.frame 1 Listener.Sample.registration)]

def afterRegistering (first : String) : Server Empty :=
  (machine Listener.Sample.environment).exec initial (registering first)

theorem request_public : isPrivate request = false := by
  decide +kernel

end Sample

end Dispatch.Coordinator.Server
