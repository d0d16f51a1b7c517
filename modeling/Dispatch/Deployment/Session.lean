import Dispatch.Deployment.Network
import Dispatch.Router.Fallback

/-! # A client of a deployment

One call of `runTask` or `runLLM` of the SDK, with the deployment that answers
it.
-/

namespace Dispatch.Coordinator

/-! ## What goes over the wire -/

def CommitBody.ofText? (Number : Type) [JsNumber Number] (text : String) :
    Option CommitBody := do
  let body : Json Number ← Json.parse text
  let jobType ← Frame.optionalText? body "job_type"
  let privacyClass ← Frame.optionalText? body "privacy_class"
  let userId ← Frame.optionalText? body "user_id"
  return { jobType := jobType
           payload := (body.get? "payload").map Json.stringify
           privacyClass := privacyClass
           userId := userId }

def CommitReply.text (Number : Type) [JsNumber Number] (reply : CommitReply) :
    String :=
  (Json.object (.ofList (reply.body.map fun member =>
    (↑member.1, .string member.2))) : Json Number).stringify

end Dispatch.Coordinator

namespace Dispatch.Deployment

open Coordinator Worker

section Session

variable {env : Environment} {crypto : Crypto} {Number : Type}
  [JsNumber Number] [NumberToString Number]

structure Session (env : Environment) (crypto : Crypto) (Number : Type) where
  network : Network env crypto Number
  call : Router.Call Number

inductive SessionEvent (env : Environment) (crypto : Crypto) (Number : Type)
  | network (input : NetworkInput env crypto Number)
  | client (event : Router.Event Number)
  | commit (now : Nat) (uuid : Uuid) (later : Nat)
  | poll (page : String) (later : Nat)

def commitReply? (Number : Type) [JsNumber Number] (state : State)
    (input : Input) : Option Router.Reply :=
  match input.event with
  | .commit tier body =>
    match handleCommit input.now input.uuid tier body
        (state.issue input.uuid) with
    | .ok (_, reply) =>
      some (.response reply.status (.ok (reply.text Number)))
    | .error _ => none
  | _ => none

structure Setting (Number : Type) where
  language : Worker.Language Number
  config : Router.Config
  options : Router.Options Number
  start : Nat
  datetime : Nat → String

namespace Setting

variable (setting : Setting Number)

def commitEvent? : Option Coordinator.Event := do
  let request := setting.options.request
  let text ← Router.commitBody request
  let body ← CommitBody.ofText? Number text
  let policy := Pricing.resolvePolicy request.policy request.work.jobType
  let tier : Tier := if policy = Policy.fast.text then .fast else .cheap
  return .commit tier body

def pollReply (env : Environment) (page jobId : String) (state : State) :
    Router.Reply :=
  let reply := pollJob env jobId state
  match reply.text? Number setting.datetime with
  | some text => .response (if reply = .notFound then 404 else 200) (.ok text)
  | none => .response 500 (.ok page)

end Setting

def polledJob? : Router.Stage Number → Option String
  | .polling _ jobId _ => (Json.displayProperty? jobId).map JsString.toText
  | _ => none

def awaitsCommit : Router.Stage Number → Bool
  | .committing _ | .recommitting _ => true
  | _ => false

def isForeign (stage : Router.Stage Number) : Router.Outcome Number → Bool
  | .reply (.response status _) =>
    !((awaitsCommit stage || (polledJob? stage).isSome) && Router.ok status)
  | _ => true

namespace Session

variable (setting : Setting Number) (session : Session env crypto Number)

def onCall (event : Router.Event Number) : Session env crypto Number :=
  { session with
    call := (Router.machine setting.config setting.options setting.start).step
      session.call event }

def commit (now : Nat) (uuid : Uuid) (later : Nat) (event : Coordinator.Event) :
    Session env crypto Number :=
  match commitReply? Number session.network.coordinator ⟨now, uuid, event⟩ with
  | none => session
  | some reply =>
    { network := session.network.step setting.language
        ⟨now, uuid, .serve event⟩
      call := (session.onCall setting ⟨later, .reply reply⟩).call }

def poll (page : String) (later : Nat) (jobId : String) :
    Session env crypto Number :=
  session.onCall setting ⟨later, .reply (setting.pollReply env page jobId
    session.network.coordinator)⟩

def step (event : SessionEvent env crypto Number) :
    Session env crypto Number :=
  match event with
  | .network input =>
    { session with network := session.network.step setting.language input }
  | .client event => session.onCall setting event
  | .commit now uuid later =>
    setting.commitEvent?.elim session (session.commit setting now uuid later)
  | .poll page later =>
    (polledJob? session.call.stage).elim session
      (session.poll setting page later)

def enabled (event : SessionEvent env crypto Number) : Bool :=
  match event with
  | .network input => session.network.enabled input
  | .client event =>
    session.call.stage.awaits event.outcome &&
      isForeign session.call.stage event.outcome
  | .commit now uuid _ =>
    awaitsCommit session.call.stage &&
      (setting.commitEvent?.map fun event =>
        session.network.enabled ⟨now, uuid, .serve event⟩).getD false
  | .poll _ _ => (polledJob? session.call.stage).isSome

end Session

def sessionMachine (setting : Setting Number) :
    Machine (Session env crypto Number) (SessionEvent env crypto Number) where
  initial :=
    { network := .initial
      call := (Router.machine setting.config setting.options
        setting.start).initial }
  Enabled session event := session.enabled setting event = true
  step := Session.step setting

theorem sessionMachine_step (setting : Setting Number)
    (session : Session env crypto Number)
    (event : SessionEvent env crypto Number) :
    (sessionMachine setting).step session event = session.step setting event :=
  rfl

/-! ## What a call knows -/

def StageMeets (Waits : Option (Json Number) → Prop)
    (Returns : Router.ComputeResult Number → Prop) :
    Router.Stage Number → Prop
  | .loopHead _ jobId _ | .polling _ jobId _ | .sleeping _ jobId _ =>
    Waits jobId
  | .returned result => Returns result
  | .quoting | .committing _ | .paying _ | .recommitting _ | .hosted _ _ _
  | .threw _ => True

def decentralizedResult (options : Router.Options Number)
    (quote job : Json Number) (start now : Nat) :
    Router.ComputeResult Number where
  output := job.get? "result"
  route := "decentralized:" ++ options.chain.text
  price := quote.get? "price"
  latencyMs := now - start
  receipt := job.get? "receipt"

section Calls

variable {config : Router.Config} {options : Router.Options Number}
  {start : Nat} {Waits : Option (Json Number) → Prop}
  {Returns : Router.ComputeResult Number → Prop}

omit [NumberToString Number] in
theorem committed_meets {quote : Json Number} {now status : Nat}
    {body : Except String String} {next : Router.Stage Number}
    {actions : List (Router.Action Number)}
    (result : Router.committed options quote now status body =
      .ok (next, actions))
    (commits : ∀ jobId, (Router.Reply.response status body).jobId? =
      some jobId → Waits jobId) : StageMeets Waits Returns next := by
  rw [Router.committed] at result
  rcases Router.commitResponse_cases Number status body with
    ⟨jobId, returned, found⟩ | ⟨error, thrown, _⟩
  · rw [returned] at result
    cases result
    exact commits jobId found
  · rw [thrown] at result
    cases result

omit [NumberToString Number] in
theorem polled_meets {quote : Json Number} {jobId : Option (Json Number)}
    {deadline now : Nat} {reply : Router.Reply} {next : Router.Stage Number}
    {actions : List (Router.Action Number)}
    (result : Router.polled options quote jobId deadline start now reply =
      .ok (next, actions))
    (waits : Waits jobId)
    (polls : ∀ job, reply.json? = some job →
      Router.hasStatus job "completed" = true →
      Returns (decentralizedResult options quote job start now)) :
    StageMeets Waits Returns next := by
  rcases Router.fetchJson_cases Number reply with
    ⟨job, fetched, found⟩ | ⟨error, thrown, _⟩
  · by_cases null : job = .null
    · rw [Router.polled, fetched, null] at result
      cases result
    rw [Router.polled_eq options fetched null] at result
    unfold Router.answered at result
    split at result
    · next completed =>
        cases quote with
        | null => cases result
        | bool | number | string | array | object =>
          cases result
          exact polls job found completed
    · split at result
      · split at result <;> cases result
      · cases result
        exact waits
  · rw [Router.polled, thrown] at result
    cases result

theorem submit_meets {stage next : Router.Stage Number}
    {event : Router.Event Number} {actions : List (Router.Action Number)}
    (result : Router.submit config options start stage event =
      .ok (next, actions))
    (meets : StageMeets Waits Returns stage)
    (commits : ∀ reply jobId, awaitsCommit stage = true →
      event.outcome = .reply reply → reply.jobId? = some jobId → Waits jobId)
    (polls : ∀ quote jobId deadline reply job,
      stage = .polling quote jobId deadline → event.outcome = .reply reply →
      reply.json? = some job → Router.hasStatus job "completed" = true →
      Returns (decentralizedResult options quote job start event.now)) :
    StageMeets Waits Returns next := by
  rcases event with ⟨now, outcome⟩
  cases stage with
  | quoting =>
    cases outcome with
    | reply reply =>
      simp only [Router.submit] at result
      cases fetched : (Router.fetchJson reply :
          Except _ (Json Number)) with
      | error error =>
        rw [fetched] at result
        cases result
      | ok quote =>
        rw [fetched] at result
        cases result
        trivial
    | payment | clock | awake | completion =>
      cases result
      trivial
  | committing quote =>
    cases outcome with
    | reply reply =>
      cases reply with
      | rejected message => cases result
      | response status body =>
        simp only [Router.submit] at result
        split at result
        · split at result
          · cases result
            trivial
          · cases result
        · exact committed_meets result fun jobId =>
            commits _ jobId rfl rfl
    | payment | clock | awake | completion =>
      cases result
      trivial
  | paying quote =>
    cases outcome with
    | payment headers =>
      cases headers with
      | error message => cases result
      | ok headers =>
        cases result
        trivial
    | reply | clock | awake | completion =>
      cases result
      trivial
  | recommitting quote =>
    cases outcome with
    | reply reply =>
      cases reply with
      | rejected message => cases result
      | response status body =>
        exact committed_meets result fun jobId => commits _ jobId rfl rfl
    | payment | clock | awake | completion =>
      cases result
      trivial
  | loopHead quote jobId deadline =>
    cases outcome with
    | clock =>
      simp only [Router.submit, Router.loopHead] at result
      split at result
      · cases result
      · split at result
        · cases result
          exact meets
        · cases result
    | reply | payment | awake | completion =>
      cases result
      exact meets
  | polling quote jobId deadline =>
    cases outcome with
    | reply reply =>
      exact polled_meets result meets fun job =>
        polls quote jobId deadline reply job rfl rfl
    | payment | clock | awake | completion =>
      cases result
      exact meets
  | sleeping quote jobId deadline =>
    cases outcome with
    | awake =>
      cases result
      exact meets
    | reply | payment | clock | completion =>
      cases result
      exact meets
  | hosted | returned | threw =>
    cases result
    exact meets

omit [JsNumber Number] [NumberToString Number] in
theorem hostedFallback_meets (request : Router.Request Number) (now : Nat)
    (adapters : List Router.Hosted) (call : Router.Call Number) :
    StageMeets Waits Returns
      (Router.hostedFallback config request now adapters call).stage := by
  rcases Router.hostedFallback_spec config request now adapters call with
    ⟨_, _, _, _, _, threw | ⟨adapter, rest, _, waits⟩⟩
  · rw [threw]
    trivial
  · rw [waits]
    trivial

theorem call_meets {call : Router.Call Number} {event : Router.Event Number}
    (meets : StageMeets Waits Returns call.stage)
    (commits : ∀ reply jobId, awaitsCommit call.stage = true →
      event.outcome = .reply reply → reply.jobId? = some jobId → Waits jobId)
    (polls : ∀ quote jobId deadline reply job,
      call.stage = .polling quote jobId deadline →
      event.outcome = .reply reply → reply.json? = some job →
      Router.hasStatus job "completed" = true →
      Returns (decentralizedResult options quote job start event.now))
    (hosted : ∀ result (adapter : Router.Hosted),
      result.route = adapter.name → Returns result) :
    StageMeets Waits Returns
      ((Router.machine config options start).step call event).stage := by
  change StageMeets Waits Returns
    (Router.step config options start call event).stage
  unfold Router.step
  split
  · next adapter rest began output _ _ =>
      cases output with
      | ok output => exact hosted _ adapter rfl
      | error message => exact hostedFallback_meets _ _ _ _
  · next stage outcome other =>
      cases submitted : Router.submit config options start call.stage event with
      | error error => exact hostedFallback_meets _ _ _ _
      | ok result => exact submit_meets submitted meets commits polls

end Calls

end Session

end Dispatch.Deployment
