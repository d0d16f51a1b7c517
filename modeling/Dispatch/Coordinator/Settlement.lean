import Dispatch.Coordinator.ActiveJobs

/-! # Settlement

Each completed job is paid for and reported exactly once, whatever frames are
repeated, late or out of order.
-/

namespace Dispatch.Coordinator.Server

open Sqlite Listener

/-! ## Calls -/

section Calls

variable {Number : Type}

inductive Service
  | feedback
  | bolt
  | wrappedBolt

def Service.configured (env : RawEnvironment Number) : Service → Bool
  | feedback => env.postFeedback
  | bolt => env.boltDistributor
  | wrappedBolt => env.wrappedBoltDistributor

def Service.read :
    Service → Call Number → Option (String × Option (Json Number))
  | feedback, .postFeedback pubkey jobId => some (jobId, pubkey)
  | bolt, .queueBoltPayout pubkey jobId _ => some (jobId, pubkey)
  | wrappedBolt, .queueWrappedBoltPayout pubkey jobId _ => some (jobId, pubkey)
  | _, _ => none

def callsTo (server : Server Number) (service : Service) :
    List (String × Option (Json Number)) :=
  server.hub.calls.filterMap service.read

theorem callsTo_rewarded {env : RawEnvironment Number} {service : Service}
    (configured : service.configured env = true) (worker : RawWorker Number)
    (jobId : String) (server : Server Number) :
    (server.rewarded env worker jobId).callsTo service =
      server.callsTo service ++ [(jobId, worker.pubkey)] := by
  simp only [callsTo, rewarded, Listener.reward, List.filterMap_append,
    List.append_assoc]
  congr 1
  cases service with
  | feedback =>
    have isOn : env.postFeedback = true := configured
    rw [isOn]
    cases env.boltDistributor <;> cases env.wrappedBoltDistributor <;> rfl
  | bolt =>
    have isOn : env.boltDistributor = true := configured
    rw [isOn]
    cases env.postFeedback <;> cases env.wrappedBoltDistributor <;> rfl
  | wrappedBolt =>
    have isOn : env.wrappedBoltDistributor = true := configured
    rw [isOn]
    cases env.postFeedback <;> cases env.boltDistributor <;> rfl

def finished (server : Server Number) (jobId : String) :
    Option (Option String × Option JsonText) :=
  (server.hub.jobs.get? jobId).bind fun row =>
    if row.status = .completed then some (row.workerPubkey, row.result)
    else none

theorem finished_changeRow {server : Server Number} {jobId : String}
    {change : JobRow → JobRow} (unfinished : server.finished jobId = none)
    (opens : ∀ row, (change row).status ≠ .completed) (other : String) :
    (server.changeRow jobId change).finished other = server.finished other := by
  rw [finished, changeRow, OrderedMap.get?_modify]
  split
  · next same =>
      rw [same, unfinished, Option.bind_map]
      exact (Option.bind_congr fun row _ => if_neg (opens row)).trans
        (Option.bind_fun_none _)
  · rfl

theorem finished_of_status {server : Server Number} {jobId : String}
    {row : JobRow} (stored : server.hub.jobs.get? jobId = some row)
    (unfinished : row.status ≠ .completed) : server.finished jobId = none := by
  rw [finished, stored, Option.bind_some, if_neg unfinished]

theorem finished_iff {server : Server Number} {jobId : String}
    {worker : Option String} {result : Option JsonText} :
    server.finished jobId = some (worker, result) ↔
      ∃ row, server.hub.jobs.get? jobId = some row ∧ row.status = .completed ∧
        row.workerPubkey = worker ∧ row.result = result := by
  rw [finished, Option.bind_eq_some_iff]
  constructor
  · rintro ⟨row, stored, found⟩
    split at found
    · next completed =>
        rw [Option.some.injEq, Prod.mk.injEq] at found
        exact ⟨row, stored, completed, found⟩
    · cases found
  · rintro ⟨row, stored, completed, rfl, rfl⟩
    exact ⟨row, stored, if_pos completed⟩

end Calls

/-! ## What is finished stays so -/

section Finished

variable {Number : Type} [JsNumber Number] [SqlNumber Number]
  {env : RawEnvironment Number} {input : Input Number}
  {server next : Server Number}

omit [JsNumber Number] in
theorem Custody.unfinished (custody : Custody server) {workerId jobId : String}
    {worker : RawWorker Number} (holds : Holds server workerId worker jobId)
    (real : isDemoJob jobId = false) : server.finished jobId = none := by
  rcases custody.held workerId jobId _ holds.hand real with ⟨_, _, assigned⟩
  rcases Option.bind_eq_some_iff.mp assigned with ⟨row, stored, status⟩
  refine finished_of_status stored fun completed => ?_
  rw [completed] at status
  cases status

omit [JsNumber Number] in
theorem finished_drops (custody : Custody server)
    (drops : Relation.ReflTransGen Drop server next) (jobId : String) :
    next.finished jobId = server.finished jobId := by
  have both : Custody next ∧ next.finished jobId = server.finished jobId := by
    induction drops with
    | refl => exact ⟨custody, rfl⟩
    | tail _ drop induction =>
      refine ⟨drop_custody induction.1 drop, ?_⟩
      rw [← induction.2]
      cases drop with
      | quiet quiet => rw [finished, quiet.jobs]; rfl
      | jobless => rfl
      | failed holds real =>
        exact finished_changeRow (induction.1.unfinished holds real)
          (fun _ status => by cases status) jobId
  exact both.2

theorem Routed.finished {now : Nat} {jobId : String}
    {request : RawRequest Number}
    (routed : Routed now jobId request server next)
    (unfinished : server.finished jobId = none) (other : String) :
    next.finished other = server.finished other := by
  cases routed with
  | stopped | stuck | waiting => rfl
  | assigned | refused =>
    exact finished_changeRow unfinished (fun _ status => by cases status)
      other

theorem Ticked.finished {now : Nat} {jobId : String}
    {interval : Interval Number}
    (ticked : Ticked now jobId interval server next) (other : String) :
    next.finished other = server.finished other := by
  cases ticked with
  | closed | settled | stopped | stuck | counted => rfl
  | assigned stored pending | failed stored pending =>
    refine finished_changeRow (finished_of_status stored ?_)
      (fun _ status => by cases status) other
    rw [pending]
    exact fun status => by cases status

inductive Settles (env : RawEnvironment Number) (input : Input Number)
    (server next : Server Number) : Prop
  | none (calls : next.hub.calls = server.hub.calls)
      (finished : ∀ jobId, next.finished jobId = server.finished jobId)
  | complete {ws : SocketId} {msg : Json Number} {workerId jobId : String}
      {worker : RawWorker Number} {hub : Hub Number}
      (carries : Carries input ws .jobComplete msg)
      (found : server.hub.findByActiveJob (msg.get? "job_id") =
        some (workerId, worker))
      (holds : Holds server workerId worker jobId)
      (real : isDemoJob jobId = false)
      (written : Listener.storeResult env input.now input.uuid jobId msg worker
        server.hub = .ok hub)
      (ends : next =
        ({ server with hub := hub }.rewarded env worker jobId).freed workerId)
  | completeDemo {ws : SocketId} {msg : Json Number} {workerId jobId : String}
      {worker : RawWorker Number} (carries : Carries input ws .jobComplete msg)
      (found : server.hub.findByActiveJob (msg.get? "job_id") =
        some (workerId, worker))
      (holds : Holds server workerId worker jobId)
      (demo : isDemoJob jobId = true)
      (ends : next = (server.freed workerId).rewarded env worker jobId)

omit [JsNumber Number] [SqlNumber Number] in
theorem drops_calls (drops : Relation.ReflTransGen Drop server next) :
    next.hub.calls = server.hub.calls := by
  induction drops with
  | refl => rfl
  | tail _ drop induction =>
    rw [← induction]
    cases drop with
    | quiet quiet => exact quiet.calls
    | jobless | failed => rfl

theorem Effect.settles (effect : Effect env input server next)
    (custody : Custody server) : Settles env input server next := by
  cases effect with
  | quiet quiet =>
    refine .none quiet.calls fun jobId => ?_
    rw [Server.finished, quiet.jobs]
    rfl
  | register _ quiet =>
    refine .none quiet.calls fun jobId => ?_
    rw [Server.finished, quiet.jobs]
    rfl
  | receipt | rejectDemo | demo => exact .none rfl fun _ => rfl
  | complete carries found holds real written =>
    exact .complete carries found holds real written rfl
  | completeDemo carries found holds demo =>
    exact .completeDemo carries found holds demo rfl
  | reject _ _ holds real =>
    exact .none rfl (finished_changeRow (custody.unfinished holds real)
      fun _ status => by cases status)
  | dropped drops =>
    exact .none (drops_calls drops) (finished_drops custody drops)
  | @commit _ _ _ row _ _ _ built fresh _ routed =>
    have calls : next.hub.calls = server.hub.calls := by
      cases routed <;> rfl
    have pending := jobRow_pending built
    have inserted : ∀ jobId, (server.withJob input.uuid.text row).finished
        jobId = server.finished jobId := by
      intro jobId
      rw [Server.finished, withJob_get?]
      split
      · next same =>
          rw [same, Server.finished, fresh, Option.bind_some, pending]
          rfl
      · rfl
    refine .none calls fun jobId => (routed.finished ?_ jobId).trans
      (inserted jobId)
    rw [inserted, Server.finished, fresh]
    rfl
  | tick _ _ ticked =>
    have calls : next.hub.calls = server.hub.calls := by
      cases ticked <;> rfl
    exact .none calls ticked.finished

end Finished

/-! ## The ledger -/

section Ledger

variable {Number : Type} [JsNumber Number] [SqlNumber Number]
  {env : RawEnvironment Number} {input : Input Number}
  {server next : Server Number}

omit [SqlNumber Number] in
def acceptedDemo (server : Server Number) (input : Input Number) :
    List String :=
  match input.event with
  | .frame _ text =>
    match (Json.parse text : Option (Json Number)) with
    | some msg =>
      if messageType? msg = some .jobComplete then
        match server.hub.findByActiveJob (msg.get? "job_id") with
        | some (_, worker) => worker.activeJobId.toList.filter isDemoJob
        | none => []
      else
        []
    | none => []
  | _ => []

omit [SqlNumber Number] in
theorem acceptedDemo_eq {ws : SocketId} {msg : Json Number}
    (carries : Carries input ws .jobComplete msg) :
    acceptedDemo server input =
      match server.hub.findByActiveJob (msg.get? "job_id") with
      | some (_, worker) => worker.activeJobId.toList.filter isDemoJob
      | none => [] := by
  rcases carries with ⟨⟨text, event, parsed⟩, typed⟩
  rw [acceptedDemo, event]
  dsimp only
  rw [parsed]
  dsimp only
  rw [if_pos typed]

omit [SqlNumber Number] in
theorem acceptedDemo_cases (server : Server Number) (input : Input Number) :
    acceptedDemo server input = [] ∨ ∃ ws msg workerId worker jobId,
      Carries input ws .jobComplete msg ∧
      server.hub.findByActiveJob (msg.get? "job_id") =
        some (workerId, worker) ∧
      worker.activeJobId = some jobId ∧ isDemoJob jobId = true ∧
      acceptedDemo server input = [jobId] := by
  by_cases completion : ∃ ws msg, Carries input ws .jobComplete msg
  · rcases completion with ⟨ws, msg, carries⟩
    rw [acceptedDemo_eq carries]
    cases found : server.hub.findByActiveJob (msg.get? "job_id") with
    | none => exact .inl rfl
    | some entry =>
      rcases entry with ⟨workerId, worker⟩
      dsimp only
      cases active : worker.activeJobId with
      | none => exact .inl rfl
      | some jobId =>
        cases demo : isDemoJob jobId with
        | true =>
          exact .inr ⟨ws, msg, workerId, worker, jobId, carries, found,
            active, demo, List.filter_cons_of_pos demo⟩
        | false =>
          exact .inl (List.filter_cons_of_neg (by simp [demo]))
  · left
    unfold acceptedDemo
    split
    · next ws text event =>
        split
        · next msg parsed =>
            rw [if_neg]
            intro typed
            exact completion ⟨ws, msg, ⟨text, event, parsed⟩, typed⟩
        · rfl
    · rfl

theorem run_carried {ws : SocketId} {type : MessageType} {msg : Json Number}
    (carries : Carries input ws type msg) :
    (handle env input).run server =
      (handleMessage env input.now input.uuid ws msg).run server := by
  rcases carries with ⟨⟨text, event, parsed⟩, typed⟩
  rw [handle, event]
  dsimp only
  rw [onMessage, parsed]
  cases msg with
  | null => cases typed
  | _ => rfl

theorem step_completeDemo {ws : SocketId} {msg : Json Number}
    {workerId jobId : String} {worker : RawWorker Number}
    (carries : Carries input ws .jobComplete msg)
    (found : server.hub.findByActiveJob (msg.get? "job_id") =
      some (workerId, worker))
    (active : worker.activeJobId = some jobId)
    (demo : isDemoJob jobId = true) :
    (machine env).step server input =
      ((server.issue input.uuid).freed workerId).rewarded env worker jobId := by
  change ((handle env input).run (server.issue input.uuid)).2 = _
  have issuedFound : (server.issue input.uuid).hub.findByActiveJob
      (msg.get? "job_id") = some (workerId, worker) := found
  rw [run_carried carries, handleMessage, carries.typed]
  dsimp only
  rw [handleJobComplete, Procedure.run_read_bind, issuedFound]
  dsimp only
  rw [active]
  dsimp only
  rw [if_pos demo, resetWorker, run_updateHub_bind, run_reward]
  rfl

structure Ledger (server : Server Number) (accepted : List String)
    (calls : List (String × Option (Json Number))) : Prop where
  nodup : (calls.map Prod.fst).Nodup
  completed : ∀ jobId payee result,
    server.finished jobId = some (payee, result) →
    ∃ pubkey key, (jobId, pubkey) ∈ calls ∧ bindOne pubkey = .ok key ∧
      payee = key.text?
  real : ∀ call ∈ calls, isDemoJob call.1 = false →
    server.finished call.1 ≠ none
  demos : (calls.map Prod.fst).filter isDemoJob = accepted
  closed : ∀ call ∈ calls, isDemoJob call.1 = true → ∀ workerId pubkey,
    server.hand workerId ≠ some (call.1, pubkey)
  issued : ∀ call ∈ calls, isDemoJob call.1 = true →
    ∃ uuid ∈ server.issued, call.1 = demoJobId uuid

omit [JsNumber Number] in
theorem ledger_initial : Ledger (initial : Server Number) [] [] where
  nodup := .nil
  completed jobId payee result found := by cases found
  real call member := by cases member
  demos := rfl
  closed call member := by cases member
  issued call member := by cases member

namespace Ledger

variable {accepted : List String}
  {calls : List (String × Option (Json Number))}

omit [JsNumber Number] in
theorem kept (ledger : Ledger server accepted calls) {uuid : Uuid}
    (finished : ∀ jobId, next.finished jobId = server.finished jobId)
    (hands : ∀ workerId jobId pubkey, isDemoJob jobId = true →
      next.hand workerId = some (jobId, pubkey) →
      server.hand workerId = some (jobId, pubkey) ∨ jobId = demoJobId uuid)
    (fresh : uuid ∉ server.issued)
    (issued : next.issued = uuid :: server.issued) :
    Ledger next accepted calls where
  nodup := ledger.nodup
  completed jobId payee result found :=
    ledger.completed jobId payee result ((finished jobId).symm.trans found)
  real call member isReal := by
    rw [finished]
    exact ledger.real call member isReal
  demos := ledger.demos
  closed call member demo workerId pubkey held := by
    rcases hands workerId call.1 pubkey demo held with before | new
    · exact ledger.closed call member demo workerId pubkey before
    · rcases ledger.issued call member demo with ⟨old, known, same⟩
      exact fresh (demoJobId_injective (same.symm.trans new) ▸ known)
  issued call member demo := by
    rcases ledger.issued call member demo with ⟨old, known, same⟩
    rw [issued]
    exact ⟨old, .tail _ known, same⟩

omit [JsNumber Number] in
theorem add (ledger : Ledger server accepted calls) {jobId : String}
    {pubkey : Option (Json Number)} {key : Value} {result : Option JsonText}
    (new : jobId ∉ calls.map Prod.fst)
    (bound : isDemoJob jobId = false → bindOne pubkey = .ok key)
    (finished : ∀ other, next.finished other =
      if other = jobId ∧ isDemoJob jobId = false then
        some (key.text?, result)
      else server.finished other)
    (hands : ∀ workerId entry, next.hand workerId = some entry →
      server.hand workerId = some entry ∧ entry.1 ≠ jobId)
    (named : isDemoJob jobId = true →
      ∃ uuid ∈ next.issued, jobId = demoJobId uuid)
    (issued : server.issued ⊆ next.issued) :
    Ledger next (accepted ++ [jobId].filter isDemoJob)
      (calls ++ [(jobId, pubkey)]) where
  nodup := by
    rw [List.map_append]
    exact ledger.nodup.append (List.nodup_singleton _) (by simpa using new)
  completed other payee found isFinished := by
    rw [finished] at isFinished
    split at isFinished
    · next own =>
        cases isFinished
        exact ⟨pubkey, key, List.mem_append_right _ (own.1 ▸ .head _),
          bound own.2, rfl⟩
    · rcases ledger.completed other payee found isFinished with
        ⟨pubkey, key, member, facts⟩
      exact ⟨pubkey, key, List.mem_append_left _ member, facts⟩
  real call member isReal := by
    rw [finished]
    split
    · exact Option.some_ne_none _
    · next other =>
        rcases List.mem_append.mp member with before | last
        · exact ledger.real call before isReal
        · rw [List.mem_singleton] at last
          subst last
          exact absurd ⟨rfl, isReal⟩ other
  demos := by
    rw [List.map_append, List.filter_append, ledger.demos]
    rfl
  closed call member demo workerId key held := by
    rcases hands workerId _ held with ⟨before, differs⟩
    rcases List.mem_append.mp member with earlier | last
    · exact ledger.closed call earlier demo workerId key before
    · rw [List.mem_singleton] at last
      exact differs (congrArg Prod.fst last)
  issued call member demo := by
    rcases List.mem_append.mp member with earlier | last
    · rcases ledger.issued call earlier demo with ⟨uuid, known, same⟩
      exact ⟨uuid, issued known, same⟩
    · rw [List.mem_singleton] at last
      subst last
      exact named demo

omit [JsNumber Number] in
theorem not_called (ledger : Ledger server accepted calls)
    (custody : Custody server) {workerId jobId : String}
    {worker : RawWorker Number} (holds : Holds server workerId worker jobId) :
    jobId ∉ calls.map Prod.fst := by
  intro listed
  rcases List.mem_map.mp listed with ⟨call, member, rfl⟩
  cases demo : isDemoJob call.1 with
  | true => exact ledger.closed call member demo workerId _ holds.hand
  | false =>
    exact ledger.real call member demo (custody.unfinished holds demo)

omit [JsNumber Number] in
theorem pay (ledger : Ledger server accepted calls) (custody : Custody server)
    {workerId jobId : String} {worker : RawWorker Number}
    {result : Option JsonText} (holds : Holds server workerId worker jobId)
    (finished : ∀ other, next.finished other =
      if other = jobId ∧ isDemoJob jobId = false then
        (server.assignedTo jobId).map fun payee => (payee, result)
      else server.finished other)
    (hands : ∀ other, next.hand other =
      if other = workerId then none else server.hand other)
    (issued : next.issued = server.issued) :
    Ledger next (accepted ++ [jobId].filter isDemoJob)
      (calls ++ [(jobId, worker.pubkey)]) := by
  have named : isDemoJob jobId = false → ∃ key,
      bindOne worker.pubkey = .ok key ∧
        server.assignedTo jobId = some key.text? :=
    custody.held workerId jobId _ holds.hand
  have chosen : ∃ key, isDemoJob jobId = false →
      bindOne worker.pubkey = .ok key ∧
        server.assignedTo jobId = some key.text? := by
    cases demo : isDemoJob jobId with
    | true => exact ⟨.null, fun real => by cases real⟩
    | false =>
      rcases named demo with ⟨key, facts⟩
      exact ⟨key, fun _ => facts⟩
  rcases chosen with ⟨key, facts⟩
  have finishedBy : ∀ other, next.finished other =
      if other = jobId ∧ isDemoJob jobId = false then
        some (key.text?, result)
      else server.finished other := by
    intro other
    rw [finished]
    split
    · next own => rw [(facts own.2).2]; rfl
    · rfl
  refine ledger.add (ledger.not_called custody holds)
    (fun real => (facts real).1) finishedBy ?_ ?_ (issued ▸ List.Subset.refl _)
  · intro other entry held
    rw [hands] at held
    split at held
    · cases held
    · next differs =>
        refine ⟨held, fun same => differs ?_⟩
        exact custody.single other workerId jobId entry.2 worker.pubkey
          (same ▸ held) holds.hand
  · intro demo
    rw [issued]
    exact custody.issued workerId jobId _ holds.hand demo

omit [JsNumber Number] in
theorem issue (ledger : Ledger server accepted calls) (uuid : Uuid) :
    Ledger (server.issue uuid) accepted calls where
  nodup := ledger.nodup
  completed := ledger.completed
  real := ledger.real
  demos := ledger.demos
  closed := ledger.closed
  issued call member demo := by
    rcases ledger.issued call member demo with ⟨old, known, same⟩
    exact ⟨old, .tail _ known, same⟩

end Ledger

theorem finished_completed {now : Nat} {id : Uuid} {jobId : String}
    {msg : Json Number} {worker : RawWorker Number} {hub : Hub Number}
    (custody : Custody server) {workerId : String}
    (holds : Holds server workerId worker jobId)
    (real : isDemoJob jobId = false)
    (written : Listener.storeResult env now id jobId msg worker server.hub =
      .ok hub) (other : String) :
    ({ server with hub := hub } : Server Number).finished other =
      if other = jobId then
        (server.assignedTo jobId).map fun payee =>
          (payee, (msg.get? "output").map Json.stringify)
      else server.finished other := by
  rcases storeResult_tables written with ⟨receipts, rfl, _⟩
  rw [finished, OrderedMap.get?_modify]
  split
  · next same =>
      rcases custody.held workerId jobId _ holds.hand real with ⟨_, _, named⟩
      rcases Option.bind_eq_some_iff.mp named with ⟨row, stored, status⟩
      rw [assignedTo, same, stored]
      split at status
      · next assigned =>
          rw [Option.bind_some, if_pos assigned]
          rfl
      · cases status
  · rfl

theorem Ledger.pay_complete {service : Service} {accepted : List String}
    (configured : service.configured env = true)
    (ledger : Ledger server accepted (server.callsTo service))
    (custody : Custody server) {now : Nat} {id : Uuid} {msg : Json Number}
    {workerId jobId : String} {worker : RawWorker Number} {hub : Hub Number}
    (holds : Holds server workerId worker jobId)
    (real : isDemoJob jobId = false)
    (written : Listener.storeResult env now id jobId msg worker server.hub =
      .ok hub)
    (ends : next =
      ({ server with hub := hub }.rewarded env worker jobId).freed workerId) :
    Ledger next accepted (next.callsTo service) := by
  have finished : ∀ other, next.finished other =
      if other = jobId ∧ isDemoJob jobId = false then
        (server.assignedTo jobId).map fun payee =>
          (payee, (msg.get? "output").map Json.stringify)
      else server.finished other := by
    intro other
    rw [ends]
    simp only [real, and_true]
    exact finished_completed custody holds real written other
  rcases storeResult_tables written with ⟨receipts, rfl, _⟩
  have paid := ledger.pay custody holds finished
    (by rw [ends]; exact hand_freed _ workerId) (by rw [ends]; rfl)
  have calls : next.callsTo service =
      server.callsTo service ++ [(jobId, worker.pubkey)] := by
    rw [ends]
    exact callsTo_rewarded configured worker jobId _
  rw [calls]
  rwa [List.filter_cons_of_neg (by simp [real]), List.filter_nil,
    List.append_nil] at paid

omit [JsNumber Number] in
theorem Ledger.pay_demo {service : Service} {accepted : List String}
    (configured : service.configured env = true)
    (ledger : Ledger server accepted (server.callsTo service))
    (custody : Custody server) {workerId jobId : String}
    {worker : RawWorker Number} (holds : Holds server workerId worker jobId)
    (demo : isDemoJob jobId = true)
    (ends : next = (server.freed workerId).rewarded env worker jobId) :
    Ledger next (accepted ++ [jobId]) (next.callsTo service) := by
  have finished : ∀ other, next.finished other =
      if other = jobId ∧ isDemoJob jobId = false then
        (server.assignedTo jobId).map fun payee => (payee, none)
      else server.finished other := by
    intro other
    rw [ends, if_neg]
    · rfl
    · rintro ⟨_, real⟩
      rw [demo] at real
      cases real
  have paid := ledger.pay custody holds finished
    (by rw [ends]; exact hand_freed server workerId) (by rw [ends]; rfl)
  rw [List.filter_cons_of_pos demo, List.filter_nil] at paid
  rw [ends, callsTo_rewarded configured, ← ends]
  exact paid

omit [SqlNumber Number] in
theorem acceptedDemo_of_holds {ws : SocketId} {msg : Json Number}
    {workerId jobId : String} {worker : RawWorker Number}
    (carries : Carries input ws .jobComplete msg)
    (found : server.hub.findByActiveJob (msg.get? "job_id") =
      some (workerId, worker))
    (active : worker.activeJobId = some jobId)
    (demo : isDemoJob jobId = true) : acceptedDemo server input = [jobId] := by
  rw [acceptedDemo_eq carries, found]
  dsimp only
  rw [active]
  exact List.filter_cons_of_pos demo

theorem step_ledger {service : Service} {accepted : List String}
    (configured : service.configured env = true)
    (reachable : (machine env).Reachable server)
    (enabled : (machine env).Enabled server input)
    (ledger : Ledger server accepted (server.callsTo service)) :
    Ledger ((machine env).step server input)
      (accepted ++ acceptedDemo server input)
      (((machine env).step server input).callsTo service) := by
  have effect := step_effect env server input
  have issued := (custody reachable).issue input.uuid
  have called : Ledger (server.issue input.uuid) accepted
      ((server.issue input.uuid).callsTo service) := ledger.issue input.uuid
  rcases acceptedDemo_cases server input with nothing |
    ⟨ws, msg, workerId, worker, jobId, carries, found, active, demo, accepts⟩
  · rw [nothing, List.append_nil]
    cases effect.settles issued with
    | none calls finished =>
      have same : ((machine env).step server input).callsTo service =
          server.callsTo service := congrArg (List.filterMap _) calls
      rw [same]
      refine ledger.kept finished ?_ enabled.1 (step_issued ..)
      intro workerId jobId pubkey demo held
      rcases effect.hand held with had | isNew | ⟨row, stored⟩
      · exact .inl had
      · exact .inr isNew
      · rcases jobsIssued (reachable.step enabled) jobId row stored with
          ⟨uuid, _, rfl⟩
        rw [isDemoJob_uuid] at demo
        cases demo
    | complete _ _ holds real written ends =>
      exact called.pay_complete configured issued holds real written ends
    | completeDemo carries found holds demo =>
      rw [acceptedDemo_of_holds carries (by exact found) holds.active demo]
        at nothing
      cases nothing
  · rw [accepts]
    exact called.pay_demo configured issued (active_of_found found active) demo
      (step_completeDemo carries found active demo)

structure ExactlyOnce (server : Server Number) (accepted : List String)
    (calls : List (String × Option (Json Number))) : Prop where
  completed : ∀ jobId row, server.hub.jobs.get? jobId = some row →
    row.status = .completed → (calls.map Prod.fst).count jobId = 1 ∧
      ∀ call ∈ calls, call.1 = jobId → ∃ key : String,
        call.2 = some (.string key) ∧ row.workerPubkey = some key
  demo : ∀ jobId ∈ accepted, (calls.map Prod.fst).count jobId = 1
  only : ∀ call ∈ calls,
    (isDemoJob call.1 = false ∧ ∃ row,
      server.hub.jobs.get? call.1 = some row ∧ row.status = .completed) ∨
    (isDemoJob call.1 = true ∧ call.1 ∈ accepted)

omit [JsNumber Number] in
theorem Ledger.exactlyOnce {accepted : List String}
    {calls : List (String × Option (Json Number))}
    (ledger : Ledger server accepted calls)
    (texts : ∀ call ∈ calls, ∃ key : String, call.2 = some (.string key)) :
    ExactlyOnce server accepted calls where
  completed jobId row stored completed := by
    rcases ledger.completed jobId _ _
      (finished_iff.mpr ⟨row, stored, completed, rfl, rfl⟩) with
      ⟨pubkey, value, member, bound, payee⟩
    refine ⟨List.count_eq_one_of_mem ledger.nodup
      (List.mem_map_of_mem member), ?_⟩
    intro call called same
    have isCall : call = (jobId, pubkey) :=
      List.inj_on_of_nodup_map ledger.nodup called member same
    rcases texts call called with ⟨key, isText⟩
    refine ⟨key, isText, ?_⟩
    subst isCall
    dsimp only at isText
    rw [isText, bindOne_string] at bound
    cases bound
    exact payee
  demo jobId member := by
    rw [← ledger.demos, List.mem_filter] at member
    exact List.count_eq_one_of_mem ledger.nodup member.1
  only call member := by
    cases demo : isDemoJob call.1 with
    | true =>
      refine .inr ⟨rfl, ?_⟩
      rw [← ledger.demos]
      exact List.mem_filter.mpr ⟨List.mem_map_of_mem member, demo⟩
    | false =>
      refine .inl ⟨rfl, ?_⟩
      cases found : server.finished call.1 with
      | none => exact absurd found (ledger.real call member demo)
      | some entry =>
        rcases finished_iff.mp found with ⟨row, stored, completed, _⟩
        exact ⟨row, stored, completed⟩

def CallsText (server : Server Number) (service : Service) : Prop :=
  ∀ call ∈ server.callsTo service, ∃ key : String,
    call.2 = some (.string key)

theorem Settles.callsText {service : Service}
    (configured : service.configured env = true)
    (settles : Settles env input server next) (keyed : Keyed server)
    (texts : CallsText server service) : CallsText next service := by
  have added : ∀ {workerId worker jobId}, Holds server workerId worker jobId →
      next.callsTo service =
        server.callsTo service ++ [(jobId, worker.pubkey)] →
      CallsText next service := by
    intro workerId worker jobId holds same call member
    rw [same] at member
    rcases List.mem_append.mp member with earlier | last
    · exact texts call earlier
    · rw [List.mem_singleton] at last
      rw [last]
      exact keyed.text workerId worker holds.tracked
  cases settles with
  | none calls =>
    have same : next.callsTo service = server.callsTo service :=
      congrArg (List.filterMap _) calls
    intro call member
    exact texts call (same ▸ member)
  | complete _ _ holds _ written ends =>
    refine added holds ?_
    rcases storeResult_tables written with ⟨receipts, rfl, _⟩
    rw [ends]
    exact callsTo_rewarded configured _ _ _
  | completeDemo _ _ holds _ ends =>
    refine added holds ?_
    rw [ends]
    exact callsTo_rewarded configured _ _ _

/-- In every run in which the registered keys are texts, each configured
distributor and the feedback hook are called once for every completed row, with
the key in the row, once for every accepted demo job, and for nothing else. -/
theorem completions_paid_exactly_once {events : List (Input Number)}
    {final : Server Number} (run : (machine env).Run initial events final)
    (registers : (machine env).Steps RegistersText initial events)
    (service : Service) (configured : service.configured env = true) :
    ExactlyOnce final ((machine env).observe acceptedDemo initial events)
      (final.callsTo service) := by
  have preserved : ∀ past server input, (machine env).Reachable server →
      (Keyed server ∧ CallsText server service ∧
        Ledger server past (server.callsTo service)) →
      (machine env).Enabled server input → RegistersText server input →
      Keyed ((machine env).step server input) ∧
        CallsText ((machine env).step server input) service ∧
        Ledger ((machine env).step server input)
          (past ++ acceptedDemo server input)
          (((machine env).step server input).callsTo service) := by
    rintro past server input reachable ⟨keyed, texts, ledger⟩ enabled registers
    have effect := step_effect env server input
    have settles := effect.settles ((custody reachable).issue input.uuid)
    have issued := keyed.issue input.uuid
    exact ⟨effect.keyed issued (by exact registers),
      settles.callsText configured issued (by exact texts),
      step_ledger configured reachable enabled ledger⟩
  have start : CallsText (initial : Server Number) service := by
    intro call member
    cases member
  have facts := run.observes preserved .start registers
    ⟨keyed_initial, start, ledger_initial⟩
  exact facts.2.2.exactlyOnce facts.2.1

end Ledger

namespace Sample

def completion (uuid : Uuid) : Input Empty :=
  at0 uuid (.frame 0 message.stringify)

def halfCompleted : Server Empty :=
  (machine Listener.Sample.environment).exec initial
    (halfMatching ++ [completion Coordinator.Sample.otherUuid])

end Sample

theorem completions_paid_exactly_once_repeated :
    let events := Sample.matching ++
      [Sample.completion Coordinator.Sample.otherUuid,
        Sample.completion Coordinator.Sample.lastUuid]
    let final := (machine Listener.Sample.environment).exec initial events
    (final.callsTo .bolt).map Prod.fst = [Coordinator.Sample.jobUuid.text] ∧
      ExactlyOnce final
        ((machine Listener.Sample.environment).observe acceptedDemo initial
          events) (final.callsTo .bolt) := by
  have typed : (Json.parse Sample.message.stringify :
      Option (Json Empty)).bind messageType? ≠ some .register := by
    decide +kernel
  have registers := Sample.matching_registers
  refine ⟨by decide +kernel, completions_paid_exactly_once
    (.of_steps (by decide +kernel)) ?_ .bolt rfl⟩
  exact ⟨registers.1, registers.2.1, registers.2.2.1,
    registersText_of_type rfl typed, registersText_of_type rfl typed, trivial⟩

theorem half_key_paid :
    (machine Listener.Sample.environment).Reachable Sample.halfCompleted ∧
      (Sample.halfCompleted.hub.jobs.get? Coordinator.Sample.jobUuid.text).map
        (fun row => (row.status, row.workerPubkey)) =
        some (.completed, some "\uFFFD") ∧
      (∃ call ∈ Sample.halfCompleted.callsTo .bolt,
        call.1 = Coordinator.Sample.jobUuid.text ∧
          call.2 = some (.string [0xd800])) ∧
      ∀ accepted, ¬ ExactlyOnce Sample.halfCompleted accepted
        (Sample.halfCompleted.callsTo .bolt) := by
  have stored : (Sample.halfCompleted.hub.jobs.get?
      Coordinator.Sample.jobUuid.text).map
      (fun row => (row.status, row.workerPubkey)) =
      some (.completed, some "\uFFFD") := by
    decide +kernel
  have called : ((Sample.halfCompleted.callsTo .bolt).any fun call =>
      call.1 = Coordinator.Sample.jobUuid.text &&
        Json.strictEqual call.2 (some (.string [0xd800]))) = true := by
    decide +kernel
  rcases List.any_eq_true.mp called with ⟨call, member, facts⟩
  rw [Bool.and_eq_true, decide_eq_true_eq] at facts
  have key := eq_of_strictEqual facts.2
  refine ⟨⟨_, .of_steps (by decide +kernel)⟩, stored,
    ⟨call, member, facts.1, key⟩, ?_⟩
  intro accepted once
  rcases Option.map_eq_some_iff.mp stored with ⟨row, isRow, columns⟩
  rw [Prod.mk.injEq] at columns
  rcases (once.completed _ row isRow columns.1).2 call member facts.1 with
    ⟨text, isText, named⟩
  cases named.symm.trans columns.2
  exact Sample.half_ne_replacement (isText.symm.trans key)

end Dispatch.Coordinator.Server
