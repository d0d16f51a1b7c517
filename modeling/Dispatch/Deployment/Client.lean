import Dispatch.Coordinator.RowResults
import Dispatch.Deployment.Results
import Dispatch.Deployment.Session

/-! # What a client gets back -/

namespace Dispatch.Coordinator

open WorkerHub

/-! ## Commits -/

theorem validateCommit_payload {tier : Tier} {body : CommitBody}
    {request : JobRequest} (valid : validateCommit tier body = .ok request) :
    body.payload = some request.payload := by
  rw [validateCommit] at valid
  split at valid
  · next given _ =>
      split at valid
      · cases valid
      · cases valid
        exact (Option.filter_eq_some_iff.mp given).1
  · cases valid

theorem commitJob_stores {now : Nat} {id : Uuid} {request : JobRequest}
    {state next : State} {reply : CommitReply}
    (done : commitJob now id request state = .ok (next, reply)) :
    (∃ row, next.jobs.get? id.text = some row ∧ row.request = request) ∧
      (reply = .created id.text ∨ reply = .noTrustedWorker id.text) := by
  rw [commitJob] at done
  cases inserted : state.jobs.insert? id.text (request.row now) with
  | none =>
    rw [inserted] at done
    cases done
  | some jobs =>
    have stored : jobs.get? id.text = some (request.row now) := by
      rw [(OrderedMap.insert?_eq_some inserted).2, OrderedMap.get?_set,
        if_pos rfl]
    simp only [inserted] at done
    rcases claimWorker_cases now request { state with jobs := jobs } with
      ⟨unclaimed, _⟩ | ⟨workerId, worker, _, claimed⟩
    · simp only [unclaimed] at done
      split at done
      · cases done
        refine ⟨⟨{ request.row now with
          status := .failed, result := some noTrustedWorkerResult }, ?_,
          rfl⟩, .inr rfl⟩
        simp [failJob, State.updateJob, stored]
      · cases done
        exact ⟨⟨_, stored, rfl⟩, .inl rfl⟩
    · simp only [claimed] at done
      cases done
      refine ⟨⟨assignedRow worker (request.row now), ?_, rfl⟩, .inl rfl⟩
      simp [matchJob, assignJob, State.updateJob, stored, assignedRow]

/-! ## Polls -/

section Polls

variable {Number : Type} [JsNumber Number]

def Spelled (Number : Type) [JsNumber Number] (result : Option JsonText) :
    Prop :=
  ∀ text, result = some text →
    ∃ json : Json Number, json.Normal ∧ text = json.stringify

private theorem error_key : Properties.OrderedKeys ["error"] := by
  decide

theorem spelled_failure {text : JsonText} (listed : text ∈ failureResults) :
    Spelled Number (some text) := by
  have errors : ∀ message : String, ∃ json : Json Number, json.Normal ∧
      (Json.object (.ofList [("error", .string message)]) :
        Json Number).stringify = json.stringify := by
    intro message
    exact ⟨.object (.ofList [("error", .string message)]),
      ⟨error_key, True.intro, True.intro⟩, rfl⟩
  intro other same
  cases same
  simp only [failureResults, List.mem_cons, List.not_mem_nil, or_false]
    at listed
  rcases listed with rfl | rfl | rfl
  · exact errors "no_trusted_worker"
  · exact errors "no_eligible_worker"
  · exact errors "worker_disconnected"

theorem Spelled.shown {result : Option JsonText}
    (spelled : Spelled Number result) :
    result.filter (· ≠ "") = result := by
  cases result with
  | none => rfl
  | some text =>
    rcases spelled text rfl with ⟨json, normal, rfl⟩
    exact Option.filter_some_pos
      (decide_eq_true (Json.stringify_ne_empty normal))

theorem Spelled.reads {result : Option JsonText}
    (spelled : Spelled Number result) :
    ∃ output : Json Number, parseResult? result = some output ∧
      output.Normal := by
  cases result with
  | none => exact ⟨.null, rfl, True.intro⟩
  | some text =>
    rcases spelled text rfl with ⟨json, normal, rfl⟩
    exact ⟨json, Json.parse_stringify json normal, normal⟩

private theorem body_keys : Properties.OrderedKeys
    ["id", "status", "result", "receipt", "created_at", "completed_at"] := by
  decide +kernel

theorem found_reads (datetime : Nat → String) (id : String)
    (status : JobStatus) {result : Option JsonText}
    (spelled : Spelled Number result) (receipt : Option PolledReceipt)
    (createdAt : Nat) (completedAt : Option Nat) :
    ∃ text, ∃ job : Json Number,
      (PollReply.found id status result receipt createdAt
        completedAt).text? Number datetime = some text ∧
      Json.parse text = some job ∧
      job.get? "status" = some (.string status.text) ∧
      job.get? "result" = parseResult? result ∧
      job.get? "receipt" = some (receipt.elim .null PolledReceipt.toJson) := by
  rcases spelled.reads with ⟨output, read, normal⟩
  let shown : Json Number := receipt.elim .null PolledReceipt.toJson
  let ended : Json Number :=
    completedAt.elim .null fun time => .string (datetime time)
  let body : Json Number := .object (.ofList [
    ("id", .string id), ("status", .string status.text), ("result", output),
    ("receipt", shown), ("created_at", .string (datetime createdAt)),
    ("completed_at", ended)])
  have written : (PollReply.found id status result receipt createdAt
      completedAt).body? datetime = some body := by
    simp only [PollReply.body?, read]
    cases receipt <;> cases completedAt <;> rfl
  have shownNormal : shown.Normal := by
    cases receipt with
    | none => exact True.intro
    | some polled => exact polled.toJson_normal
  have endedNormal : ended.Normal := by
    cases completedAt <;> exact True.intro
  have bodyNormal : body.Normal :=
    ⟨body_keys, True.intro, True.intro, normal, shownNormal, True.intro,
      endedNormal, True.intro⟩
  refine ⟨body.stringify, body, ?_, Json.parse_stringify body bodyNormal, rfl,
    read.symm, rfl⟩
  rw [PollReply.text?, written, Option.map_some]

theorem completed_of_text {status : JobStatus}
    (same : JsString.ofString status.text = JsString.ofString "completed") :
    status = .completed := by
  cases status with
  | completed => rfl
  | pending | assigned | running | failed => exact absurd same (by decide)

theorem pollJob_unsettled (env : Environment) {jobId : String} {row : JobRow}
    {state : State} (stored : state.jobs.get? jobId = some row)
    (unsettled : row.status ≠ .completed) :
    pollJob env jobId state = .found jobId row.status
      (row.result.filter (· ≠ "")) none row.createdAt row.completedAt := by
  simp only [pollJob, stored, if_neg unsettled]

end Polls

end Dispatch.Coordinator

namespace Dispatch.Deployment

open Coordinator WorkerHub Worker

section Client

variable {env : Environment} {crypto : Crypto} {Number : Type}
  [JsNumber Number] [NumberToString Number]

/-! ## Over the wire -/

private theorem client_keys :
    Properties.OrderedKeys ["job_type", "payload", "privacy_class", "user_id"] ∧
      Properties.OrderedKeys ["job_type", "task_type", "input"] ∧
      Properties.OrderedKeys ["job_id"] := by
  decide +kernel

theorem payload_written (work : Router.Work Number) :
    ∃ json : Json Number, (Router.payload work).toJson? = some json := by
  cases work with
  | llm => exact ⟨_, rfl⟩
  | task => exact ⟨_, rfl⟩

theorem task_reads {msg : JobAssignMsg} {taskType : Router.TaskType}
    {input : JsString} (nonempty : input.isEmpty = false)
    (written : (Router.payload (.task taskType input) :
      JsValue Number).stringify = some msg.payload) :
    payload? msg "task_type" =
        some (.string (JsString.ofString taskType.text) : Json Number) ∧
      payload? msg "input" = some (.string input : Json Number) := by
  rcases JsValue.parse_of_stringify written with ⟨json, same, _, _, parsed⟩
  let members : List (JsString × Json Number) := [
    ("job_type", .string JobType.task.text),
    ("task_type", .string taskType.text), ("input", .string input)]
  have serialized : (Router.payload (.task taskType input) :
      JsValue Number).toJson? = some (.object (.ofList members)) :=
    JsValue.toJson?_object client_keys.2.1 rfl
  rw [serialized, Option.some.injEq] at same
  rw [payload?, payload?, parsed, ← same]
  constructor
  · show Option.filter Json.truthy (some (.string ↑taskType.text)) = _
    cases taskType <;> rfl
  · show Option.filter Json.truthy (some (.string input)) = _
    exact Option.filter_some_pos (by simp [Json.truthy, nonempty])

theorem jobType_text_injective {left right : JobType}
    (same : left.text = right.text) : left = right := by
  cases left with
  | llmInfer =>
    cases right with
    | llmInfer => rfl
    | task => exact absurd same (by decide)
  | task =>
    cases right with
    | llmInfer => exact absurd same (by decide)
    | task => rfl

theorem commit_reads {request : Router.Request Number} {text : String}
    (written : Router.commitBody request = some text) :
    CommitBody.ofText? Number text = request.userId.text?.map fun userId =>
      { jobType := some request.work.jobType.text
        payload := (Router.payload request.work).stringify
        privacyClass := some request.privacy
        userId := some userId } := by
  rcases payload_written request.work with ⟨payload, payloadWritten⟩
  let members : List (JsString × Json Number) := [
    ("job_type", .string request.work.jobType.text),
    ("payload", payload),
    ("privacy_class", .string request.privacy),
    ("user_id", .string request.userId)]
  have serialized : (JsValue.object (.ofList [
      ("job_type", .string request.work.jobType.text),
      ("payload", Router.payload request.work),
      ("privacy_class", .string request.privacy),
      ("user_id", .string request.userId)])).toJson? =
      some (.object (.ofList members)) := by
    apply JsValue.toJson?_object
    · exact client_keys.1
    · simp only [members, List.map_cons, List.map_nil, payloadWritten]
      rfl
  rcases JsValue.parse_of_stringify written with ⟨json, same, _, _, parsed⟩
  rw [serialized, Option.some.injEq] at same
  have jobType : Frame.optionalText? (.object (.ofList members)) "job_type" =
      some (some request.work.jobType.text) :=
    congrArg (Option.map some) (JsString.text?_ofString _)
  have privacyClass : Frame.optionalText? (.object (.ofList members))
      "privacy_class" = some (some request.privacy) :=
    congrArg (Option.map some) (JsString.text?_ofString _)
  have userId : Frame.optionalText? (.object (.ofList members)) "user_id" =
      request.userId.text?.map some := rfl
  rw [CommitBody.ofText?, parsed, ← same]
  simp only [Option.bind_eq_bind, Option.bind_some, jobType, privacyClass,
    userId, JsValue.stringify, payloadWritten]
  cases request.userId.text? with
  | none => rfl
  | some userId => rfl

omit [NumberToString Number] in
theorem commit_created (env : Environment) {state : State} {input : Input}
    {tier : Tier} {body : CommitBody} (event : input.event = .commit tier body)
    {reply : Router.Reply} {jobId : Option (Json Number)}
    (replied : commitReply? Number state input = some reply)
    (read : reply.jobId? = some jobId) :
    ∃ request row, validateCommit tier body = .ok request ∧
      jobId = some (.string input.uuid.text) ∧
      ((machine env).step state input).jobs.get? input.uuid.text = some row ∧
      row.request = request := by
  simp only [commitReply?, event] at replied
  cases done : handleCommit input.now input.uuid tier body
      (state.issue input.uuid) with
  | error error =>
    rw [done] at replied
    cases replied
  | ok ends =>
    rcases ends with ⟨next, sent⟩
    rw [done] at replied
    cases replied
    have becomes : (machine env).step state input = next := by
      show handle env (state.issue input.uuid) input = next
      rw [handle, event]
      show settle _ (Except.map _ (handleCommit ..)) = next
      rw [done]
      rfl
    have accepted : Router.ok sent.status = true := by
      by_contra refused
      rw [Router.Reply.jobId?_of_not_ok Number refused] at read
      cases read
    rw [handleCommit] at done
    cases valid : validateCommit tier body with
    | error reply =>
      rw [valid] at done
      cases done
      rw [Pricing.status_of_validateCommit_error valid] at accepted
      cases accepted
    | ok request =>
      rw [valid] at done
      rcases commitJob_stores done with ⟨⟨row, stored, asked⟩, rfl | rfl⟩
      · refine ⟨request, row, rfl, ?_, becomes ▸ stored, asked⟩
        let created : Json Number :=
          .object (.ofList [("job_id", .string input.uuid.text)])
        have parsed : Json.parse
            ((CommitReply.created input.uuid.text).text Number) =
            some created :=
          Json.parse_stringify created
            ⟨client_keys.2.2, True.intro, True.intro⟩
        rw [Router.Reply.jobId?, Router.Reply.json?, if_pos accepted,
          parsed] at read
        cases read
        rfl
      · cases accepted

/-! ## What the call knows of the deployment -/

structure Asked (work : Router.Work Number) (row : JobRow) : Prop where
  type : row.type = work.jobType
  payload : (Router.payload work).stringify = some row.payload

theorem Asked.of_request {work : Router.Work Number} {row later : JobRow}
    (asked : Asked work row) (same : later.request = row.request) :
    Asked work later where
  type := (congrArg JobRequest.jobType same).trans asked.type
  payload := by
    rw [asked.payload]
    exact congrArg (fun request => some request.payload) same.symm

def Waits (state : State) (work : Router.Work Number)
    (jobId : Option (Json Number)) : Prop :=
  ∃ id row, jobId = some (.string (JsString.ofString id)) ∧
    state.jobs.get? id = some row ∧ Asked work row

structure Shows (sha256Hex : String → String) (jobId : String) (row : JobRow)
    (output receipt : Option (Json Number)) (polled : PolledReceipt) :
    Prop where
  completed : row.status = .completed
  output : output = parseResult? row.result
  receipt : receipt = some polled.toJson
  verified : polled.verified = true
  own : polled.receipt.jobId = jobId
  attests : Attests sha256Hex row.workerPubkey row.result polled.receipt

def Returns (sha256Hex : String → String) (state : State)
    (options : Router.Options Number) (result : Router.ComputeResult Number) :
    Prop :=
  result.route = "decentralized:" ++ options.chain.text →
    ∃ id row polled, state.jobs.get? id = some row ∧ Asked options.work row ∧
      Shows sha256Hex id row result.output result.receipt polled

omit [JsNumber Number] [NumberToString Number] in
theorem StageMeets.mono {Waits Later : Option (Json Number) → Prop}
    {Returns After : Router.ComputeResult Number → Prop}
    (waits : ∀ jobId, Waits jobId → Later jobId)
    (returns : ∀ result, Returns result → After result)
    {stage : Router.Stage Number} (meets : StageMeets Waits Returns stage) :
    StageMeets Later After stage := by
  cases stage with
  | loopHead | polling | sleeping => exact waits _ meets
  | returned => exact returns _ meets
  | quoting | committing | paying | recommitting | hosted | threw => trivial

section Steps

variable {state : State} {input : Input}
  (reachable : (machine env).Reachable state)
  (enabled : (machine env).Enabled state input)

include reachable enabled

theorem Waits.step {work : Router.Work Number} {jobId : Option (Json Number)}
    (waits : Waits state work jobId) :
    Waits ((machine env).step state input) work jobId := by
  rcases waits with ⟨id, row, same, stored, asked⟩
  rcases row_kept reachable enabled stored with ⟨later, kept, request⟩
  exact ⟨id, later, same, kept, asked.of_request request⟩

theorem Returns.step {sha256Hex : String → String}
    {options : Router.Options Number} {result : Router.ComputeResult Number}
    (returns : Returns sha256Hex state options result) :
    Returns sha256Hex ((machine env).step state input) options result := by
  intro route
  rcases returns route with ⟨id, row, polled, stored, asked, shows⟩
  have kept := final_row_fixed reachable (.cons enabled (.nil _)) stored
    (.inl shows.completed)
  exact ⟨id, row, polled, kept, asked, shows⟩

end Steps

section Polling

variable {language : Worker.Language Number}
  {network : Network env crypto Number}

theorem Settled.spelled (settled : Settled language network)
    (reachable : (machine env).Reachable network.coordinator)
    {jobId : String} {row : JobRow}
    (stored : network.coordinator.jobs.get? jobId = some row) :
    Spelled Number row.result := by
  intro text result
  by_cases completed : row.status = .completed
  · rcases settled.rows stored completed with ⟨process, output, computed⟩
    have written := computed.result.symm.trans result
    rcases JsValue.parse_of_stringify written with ⟨json, _, normal, same, _⟩
    exact ⟨json, normal, same⟩
  · have listed := plain_results reachable jobId row stored completed text
      result
    exact spelled_failure listed text rfl

theorem Settled.reads (settled : Settled language network)
    (selects : Selects env)
    (reachable : (machine env).Reachable network.coordinator)
    (setting : Setting Number) (page : String) {jobId : String} {row : JobRow}
    (stored : network.coordinator.jobs.get? jobId = some row) :
    ∃ job : Json Number,
      (setting.pollReply env page jobId network.coordinator).json? =
        some job ∧
      job.get? "status" = some (.string row.status.text) ∧
      (row.status = .completed → ∃ polled, Shows crypto.sha256Hex jobId row
        (job.get? "result") (job.get? "receipt") polled) := by
  have spelled := settled.spelled reachable stored
  -- The text of the reply reads back as the object that was written.
  have reads : ∀ receipt, pollJob env jobId network.coordinator =
        .found jobId row.status row.result receipt row.createdAt
          row.completedAt →
      ∃ job : Json Number,
        (setting.pollReply env page jobId network.coordinator).json? =
          some job ∧
        job.get? "status" = some (.string row.status.text) ∧
        job.get? "result" = parseResult? row.result ∧
        job.get? "receipt" =
          some (receipt.elim .null PolledReceipt.toJson) := by
    intro receipt replied
    rcases found_reads setting.datetime jobId row.status spelled receipt
      row.createdAt row.completedAt with ⟨text, job, written, parsed, shown⟩
    refine ⟨job, ?_, shown⟩
    rw [Setting.pollReply, replied, written]
    exact parsed
  by_cases ended : row.status = .completed
  · rcases settled.polls selects reachable stored ended with
      ⟨polled, replied, verified, own, attests⟩
    rw [← ended] at replied
    rcases reads _ replied with ⟨job, read, status, output, receipt⟩
    refine ⟨job, read, status, fun _ => ⟨polled, ?_⟩⟩
    exact ⟨ended, output, receipt, verified, own, attests⟩
  · have replied := pollJob_unsettled env stored ended
    rw [spelled.shown] at replied
    rcases reads _ replied with ⟨job, read, status, _⟩
    exact ⟨job, read, status, fun completed => absurd completed ended⟩

end Polling

/-! ## Sessions -/

structure Serves (setting : Setting Number)
    (session : Session env crypto Number) : Prop where
  reachable : (networkMachine setting.language).Reachable session.network
  knows : StageMeets (Waits session.network.coordinator setting.options.work)
    (Returns crypto.sha256Hex session.network.coordinator setting.options)
    session.call.stage

section Serving

variable {setting : Setting Number} {session : Session env crypto Number}

theorem hosted_returns (sha256Hex : String → String) (state : State)
    (options : Router.Options Number) (result : Router.ComputeResult Number)
    (adapter : Router.Hosted) (name : result.route = adapter.name) :
    Returns sha256Hex state options result := by
  intro route
  rw [name] at route
  exfalso
  revert route
  cases adapter <;> cases options.chain <;> decide

theorem Serves.network_step (serves : Serves setting session)
    {input : NetworkInput env crypto Number}
    (enabled : session.network.enabled input = true) :
    Serves setting
      { session with network := session.network.step setting.language input }
    where
  reachable := serves.reachable.step enabled
  knows := by
    have sound := sound_of_reachable serves.reachable
    cases coordinator_step sound enabled with
    | stays same =>
      show StageMeets (Waits (session.network.step _ input).coordinator _) _ _
      rw [same]
      exact serves.knows
    | handles is allowed given becomes =>
      rw [becomes]
      exact serves.knows.mono
        (fun jobId waits => waits.step sound.reachable allowed)
        (fun result returns => returns.step sound.reachable allowed)

omit [NumberToString Number] in
theorem foreign_silent {stage : Router.Stage Number}
    {outcome : Router.Outcome Number}
    (foreign : isForeign stage outcome = true) {reply : Router.Reply}
    (is : outcome = .reply reply)
    (asked : awaitsCommit stage = true ∨ (polledJob? stage).isSome = true) :
    (reply.json? : Option (Json Number)) = none := by
  cases is
  cases reply with
  | rejected message => rfl
  | response status body =>
    have refused : Router.ok status = false := by
      rcases asked with asked | asked <;>
        simpa [isForeign, asked] using foreign
    cases body with
    | error message => rfl
    | ok text => simp [Router.Reply.json?, refused]

theorem Serves.client_step (serves : Serves setting session)
    {event : Router.Event Number}
    (foreign : isForeign session.call.stage event.outcome = true) :
    Serves setting (session.onCall setting event) where
  reachable := serves.reachable
  knows := by
    apply call_meets serves.knows
    · intro reply jobId awaits is read
      rw [Router.Reply.jobId?, foreign_silent foreign is (.inl awaits)] at read
      cases read
    · intro quote jobId deadline reply job stage is read _
      have knows := serves.knows
      rw [stage] at knows foreign
      rcases knows with ⟨id, row, same, _⟩
      have silent := foreign_silent foreign is (.inr (by
        rw [same]
        rfl))
      rw [silent] at read
      cases read
    · intro result adapter
      exact hosted_returns _ _ _ result adapter

theorem Serves.poll_step (serves : Serves setting session)
    (settled : Settled setting.language session.network)
    (selects : Selects env) {jobId : String}
    (polled : polledJob? session.call.stage = some jobId) (page : String)
    (later : Nat) :
    Serves setting (session.poll setting page later jobId) where
  reachable := serves.reachable
  knows := by
    have sound := sound_of_reachable serves.reachable
    apply call_meets serves.knows
    · intro reply created awaits
      cases stage : session.call.stage with
      | committing | recommitting =>
        rw [stage] at polled
        cases polled
      | _ =>
        rw [stage] at awaits
        cases awaits
    · intro quote waited deadline reply job stage is read completed route
      cases is
      have knows := serves.knows
      rw [stage] at knows polled
      rcases knows with ⟨id, row, rfl, stored, asked⟩
      have own : id = jobId := by
        have shown : some (JsString.ofString id).toText = some jobId := polled
        rw [JsString.toText_ofString] at shown
        exact Option.some.inj shown
      subst own
      rcases settled.reads selects sound.reachable setting page stored with
        ⟨body, same, status, shown⟩
      rw [same, Option.some.injEq] at read
      rw [Router.hasStatus, ← read, status] at completed
      rcases shown (completed_of_text (beq_iff_eq.mp completed)) with
        ⟨polled, shows⟩
      exact ⟨id, row, polled, stored, asked, read ▸ shows⟩
    · intro result adapter
      exact hosted_returns _ _ _ result adapter

theorem Serves.commit_step (serves : Serves setting session) {now : Nat}
    {uuid : Uuid} {event : Coordinator.Event}
    (awaits : awaitsCommit session.call.stage = true)
    (commits : setting.commitEvent? = some event)
    (enabled : session.network.enabled ⟨now, uuid, .serve event⟩ = true)
    (later : Nat) :
    Serves setting (session.commit setting now uuid later event) := by
  rw [Session.commit]
  cases replied : commitReply? Number session.network.coordinator
      ⟨now, uuid, event⟩ with
  | none => exact serves
  | some reply =>
    have moved := serves.network_step enabled
    refine ⟨moved.reachable, ?_⟩
    apply call_meets moved.knows
    · intro given jobId _ is read
      cases is
      simp only [Setting.commitEvent?, Option.bind_eq_bind,
        Option.bind_eq_some_iff] at commits
      rcases commits with ⟨text, written, body, bodyRead, is⟩
      cases is
      rw [commit_reads written, Option.map_eq_some_iff] at bodyRead
      rcases bodyRead with ⟨userId, _, rfl⟩
      rcases commit_created env rfl replied read with
        ⟨request, row, valid, rfl, stored, asked⟩
      have typed := (Pricing.validateCommit_request valid).2
      have payload := validateCommit_payload valid
      refine ⟨uuid.text, row, rfl, stored, ?_, ?_⟩
      · rw [Option.some.injEq] at typed
        exact (congrArg JobRequest.jobType asked).trans
          (jobType_text_injective typed.symm)
      · rw [← asked] at payload
        exact payload
    · intro quote jobId deadline given job stage
      rw [stage] at awaits
      cases awaits
    · intro result adapter
      exact hosted_returns _ _ _ result adapter

theorem serves_of_reachable
    (decodes : ∀ text bytes, Base64.decode? text.toList = some bytes →
      env.base64Bytes text = bytes)
    (selects : Selects env)
    (reachable : (sessionMachine setting).Reachable session) :
    Serves setting session := by
  apply reachable.invariant (Serves setting)
  · exact ⟨⟨[], .nil _⟩, trivial⟩
  · intro before event _ serves enabled
    change before.enabled setting event = true at enabled
    change Serves setting (before.step setting event)
    cases event with
    | network input => exact serves.network_step enabled
    | client event =>
      rw [Session.enabled, Bool.and_eq_true] at enabled
      exact serves.client_step enabled.2
    | commit now uuid later =>
      rw [Session.enabled, Bool.and_eq_true] at enabled
      rw [Session.step]
      cases commits : setting.commitEvent? with
      | none => exact serves
      | some event =>
        rw [commits] at enabled
        exact serves.commit_step enabled.1 commits enabled.2 later
    | poll page later =>
      rw [Session.step]
      cases polled : polledJob? before.call.stage with
      | none => exact serves
      | some jobId =>
        exact serves.poll_step
          (settled_of_reachable decodes serves.reachable) selects polled
          page later

structure Delivered (setting : Setting Number)
    (network : Network env crypto Number) (result : Router.ComputeResult Number)
    (process : Process env crypto Number) (value : JsValue Number)
    (json : Json Number) (polled : PolledReceipt) : Prop where
  running : ∃ ws, network.processes.get? ws = some process
  executes : ∃ msg : JobAssignMsg, msg.jobType = setting.options.work.jobType ∧
    (Router.payload setting.options.work).stringify = some msg.payload ∧
    Executes setting.language process.config.program msg value
  task : ∀ taskType input, setting.options.work = .task taskType input →
    input.isEmpty = false →
    value = .ofJson (executeTask setting.language process.config.program.kind
      taskType.text input)
  written : value.toJson? = some json
  output : result.output = some json
  receipt : result.receipt = some polled.toJson
  verified : polled.verified = true
  provider : polled.receipt.providerPubkey = process.config.pubkeyHex
  hash : polled.receipt.outputHash = crypto.sha256Hex json.stringify

/-- A call of `runTask` or `runLLM` that comes back over the decentralized
route has the output that a worker of the deployment has computed for it. -/
theorem call_returns_computed
    (decodes : ∀ text bytes, Base64.decode? text.toList = some bytes →
      env.base64Bytes text = bytes)
    (selects : Selects env)
    (reachable : (sessionMachine setting).Reachable session)
    {result : Router.ComputeResult Number}
    (returned : session.call.stage = .returned result)
    (route : result.route = "decentralized:" ++ setting.options.chain.text) :
    ∃ process value json polled, Delivered setting session.network result
      process value json polled := by
  have serves := serves_of_reachable decodes selects reachable
  have settled := settled_of_reachable decodes serves.reachable
  have knows := serves.knows
  rw [returned] at knows
  rcases knows route with ⟨id, row, polled, stored, asked, shows⟩
  rcases settled.rows stored shows.completed with ⟨process, value, computed⟩
  have isWritten := computed.executes.written
  rcases Option.isSome_iff_exists.mp isWritten with ⟨json, written⟩
  have spelled : row.result = some json.stringify := by
    rw [computed.result, JsValue.stringify, written]
    rfl
  have normal : json.Normal := JsValue.serialize_normal value true written
  refine ⟨process, value, json, polled, ?_⟩
  exact
    { running := computed.running
      executes := ⟨_, asked.type, asked.payload, computed.executes⟩
      task := by
        intro taskType input work nonempty
        have payload : (Router.payload setting.options.work).stringify =
            some (row.request.assignMsg id).payload := asked.payload
        have type := asked.type
        rw [work] at payload type
        rcases task_reads nonempty payload with ⟨typed, given⟩
        exact computed.executes.task type typed given
      written := written
      output := by
        rw [shows.output, spelled]
        exact Json.parse_stringify json normal
      receipt := shows.receipt
      verified := shows.verified
      provider := by
        have key := shows.attests.1
        rw [computed.key, Option.some.injEq] at key
        exact key.symm
      hash := by
        have hash := shows.attests.2
        rw [spelled, Option.map_some, Option.some.injEq] at hash
        exact hash.symm }

end Serving

/-! ## Running a session -/

section Running

variable {setting : Setting Number} {session : Session env crypto Number}

theorem reachable_network
    (reachable : (sessionMachine setting).Reachable session)
    {network : Network env crypto Number}
    {inputs : List (NetworkInput env crypto Number)}
    (run : (networkMachine setting.language).Run session.network inputs
      network) :
    (sessionMachine setting).Reachable { session with network := network } := by
  generalize start : session.network = first at run
  induction run generalizing session with
  | nil =>
    rw [← start]
    exact reachable
  | @cons first _ input _ enabled _ induction =>
    have allowed : (sessionMachine setting).Enabled session
        (.network input) := by
      rw [← start] at enabled
      exact enabled
    have next := reachable.step allowed
    have moved := induction next (by
      rw [← start]
      rfl)
    exact moved

theorem reachable_commit
    (reachable : (sessionMachine setting).Reachable session)
    {now later : Nat} {uuid : Uuid} {event : Coordinator.Event}
    (awaits : awaitsCommit session.call.stage = true)
    (commits : setting.commitEvent? = some event)
    (enabled : session.network.enabled ⟨now, uuid, .serve event⟩ = true) :
    (sessionMachine setting).Reachable
      (session.commit setting now uuid later event) := by
  have allowed : session.enabled setting (.commit now uuid later) = true := by
    rw [Session.enabled, awaits, commits]
    exact enabled
  have next := reachable.step allowed
  rw [sessionMachine_step, Session.step, commits] at next
  exact next

theorem reachable_poll (reachable : (sessionMachine setting).Reachable session)
    {page jobId : String} {later : Nat}
    (polled : polledJob? session.call.stage = some jobId) :
    (sessionMachine setting).Reachable
      (session.poll setting page later jobId) := by
  have allowed : session.enabled setting (.poll page later) = true := by
    rw [Session.enabled, polled]
    rfl
  have next := reachable.step allowed
  rw [sessionMachine_step, Session.step, polled] at next
  exact next

theorem poll_returns {quote job : Json Number} {jobId : Option (Json Number)}
    {deadline now : Nat} {reply : Router.Reply}
    (stage : session.call.stage = .polling quote jobId deadline)
    (quoted : quote ≠ .null) (read : reply.json? = some job)
    (completed : Router.hasStatus job "completed" = true) :
    (session.onCall setting ⟨now, .reply reply⟩).call.stage =
      .returned (decentralizedResult setting.options quote job setting.start
        now) := by
  have notNull : job ≠ .null := by
    intro null
    rw [null] at completed
    cases completed
  have fetched : Router.fetchJson reply = .ok job := by
    rcases Router.fetchJson_cases Number reply with
      ⟨value, fetched, same⟩ | ⟨error, _, none⟩
    · rw [read, Option.some.injEq] at same
      rw [same]
      exact fetched
    · rw [read] at none
      cases none
  have submitted : Router.submit setting.config setting.options setting.start
      session.call.stage ⟨now, .reply reply⟩ =
      .ok (.returned (decentralizedResult setting.options quote job
        setting.start now), []) := by
    rw [stage]
    show Router.polled setting.options quote jobId deadline setting.start now
      reply = _
    rw [Router.polled_eq setting.options fetched notNull]
    simp only [Router.answered, completed]
    cases quote with
    | null => exact absurd rfl quoted
    | bool | number | string | array | object => rfl
  show (Router.step setting.config setting.options setting.start session.call
    ⟨now, .reply reply⟩).stage = _
  unfold Router.step
  split
  · next completion => cases completion
  · rw [submitted]

end Running

end Client

namespace Sample

abbrev SampleSession := Session environment Worker.Sample.crypto Numeral

def routerConfig : Router.Config where
  coordinatorUrls _ := "http://localhost:4010"
  preferredHosted := none
  x402Clients _ := false
  apiKey _ := none

def options : Router.Options Numeral where
  work := .task .extractJson ("none" : String)
  policy := none
  privacy := none
  userId := ("user" : String)
  chainPreference := none

def setting : Setting Numeral where
  language := language
  config := routerConfig
  options := options
  start := 0
  datetime _ := time

def opened : SampleSession where
  network := ready
  call := (Router.machine routerConfig options 0).initial

def quoted : SampleSession :=
  opened.onCall setting ⟨0, .reply (.response 200 (.ok "\x7b\x7d"))⟩

def accepted : SampleSession :=
  quoted.commit setting 0 Coordinator.Sample.jobUuid 0 commit

def polling : SampleSession :=
  { accepted.onCall setting ⟨0, .clock⟩ with network := completed }

def polled : SampleSession :=
  polling.poll setting "" 1 Coordinator.Sample.jobUuid.text

def pollsQuoted : Router.Stage Numeral → Bool
  | .polling .null _ _ => false
  | .polling _ jobId _ =>
    (Json.displayProperty? jobId).map JsString.toText ==
      some Coordinator.Sample.jobUuid.text
  | _ => false

structure CallEvaluated : Type where
  payload : (Router.payload options.work).stringify = some payload.stringify
  quotes : opened.enabled setting
    (.client ⟨0, .reply (.response 200 (.ok "\x7b\x7d"))⟩) = true
  commits : awaitsCommit quoted.call.stage = true
  replies : (commitReply? Numeral quoted.network.coordinator
    ⟨0, Coordinator.Sample.jobUuid, commit⟩).isSome = true
  ticks : accepted.enabled setting (.client ⟨0, .clock⟩) = true
  polls : pollsQuoted polling.call.stage = true

def callEvaluated : CallEvaluated where
  payload := by decide +kernel
  quotes := by decide +kernel
  commits := by decide +kernel
  replies := by decide +kernel
  ticks := by decide +kernel
  polls := by decide +kernel

theorem commitEvent : setting.commitEvent? = some commit := by
  have written : (Router.commitBody options.request).isSome = true := rfl
  rcases Option.isSome_iff_exists.mp written with ⟨text, spelled⟩
  have read := commit_reads spelled
  have work : options.request.work = options.work := rfl
  have userId : options.request.userId.text? = some "user" :=
    JsString.text?_ofString "user"
  rw [work, callEvaluated.payload, userId, Option.map_some] at read
  simp only [Setting.commitEvent?, Option.bind_eq_bind,
    Option.bind_eq_some_iff]
  exact ⟨text, spelled, _, read, rfl⟩

theorem accepted_reachable : (sessionMachine setting).Reachable accepted := by
  rcases ready_reachable with ⟨inputs, run⟩
  have opens : (sessionMachine setting).Reachable opened :=
    reachable_network .start run
  have quotes : (sessionMachine setting).Reachable quoted :=
    opens.step callEvaluated.quotes
  exact reachable_commit quotes callEvaluated.commits commitEvent
    evaluated.commits

theorem accepted_network : accepted.network = waiting := by
  rcases Option.isSome_iff_exists.mp callEvaluated.replies with ⟨reply, is⟩
  rw [accepted, Session.commit, is]
  rfl

theorem polling_reachable : (sessionMachine setting).Reachable polling := by
  apply reachable_network (accepted_reachable.step callEvaluated.ticks)
  have same : ((sessionMachine setting).step accepted
      (.client ⟨0, .clock⟩)).network = waiting := accepted_network
  rw [same]
  exact answering_run.append completed_run

theorem polling_stage : ∃ quote jobId deadline,
    polling.call.stage = .polling quote jobId deadline ∧ quote ≠ .null ∧
      polledJob? polling.call.stage =
        some Coordinator.Sample.jobUuid.text := by
  have polls := callEvaluated.polls
  cases stage : polling.call.stage with
  | polling quote jobId deadline =>
    rw [stage] at polls
    cases quote with
    | null => cases polls
    | bool | number | string | array | object =>
      refine ⟨_, jobId, deadline, rfl, ?_, beq_iff_eq.mp polls⟩
      intro same
      cases same
  | _ =>
    rw [stage] at polls
    cases polls

theorem polled_reachable : (sessionMachine setting).Reachable polled := by
  rcases polling_stage with ⟨_, _, _, _, _, asked⟩
  exact reachable_poll polling_reachable asked

theorem polled_returns : ∃ result, polled.call.stage = .returned result ∧
    result.route = "decentralized:" ++ setting.options.chain.text := by
  rcases polling_stage with ⟨quote, jobId, deadline, stage, notNull, _⟩
  rcases completed_row with ⟨row, stored, ended, _⟩
  have settled := settled_of_reachable decodes completed_reachable
  have reachable := (sound_of_reachable completed_reachable).reachable
  rcases settled.reads selects reachable setting "" stored with
    ⟨job, read, status, _⟩
  have completed : Router.hasStatus job "completed" = true := by
    rw [Router.hasStatus, status, ended]
    exact beq_self_eq_true _
  exact ⟨_, poll_returns stage notNull read completed, rfl⟩

end Sample

theorem call_returns_computed_sample : ∃ result,
    Sample.polled.call.stage = .returned result ∧
      ∃ process value json polled, Delivered Sample.setting
        Sample.polled.network result process value json polled := by
  rcases Sample.polled_returns with ⟨result, returned, route⟩
  exact ⟨result, returned, call_returns_computed Sample.decodes Sample.selects
    Sample.polled_reachable returned route⟩

end Dispatch.Deployment
