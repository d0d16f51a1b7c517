import Dispatch.Coordinator.Pricing
import Dispatch.Foundation.JsonValue
import Dispatch.Foundation.JsValue

/-! # The compute router

The client SDK, `packages/compute-router`.
-/

namespace Dispatch.Router

open Coordinator.Pricing (resolvePolicy endpoint)

/-! ## Requests -/

inductive Chain
  | monad
  | solana
  deriving DecidableEq

def Chain.text : Chain → String
  | .monad => "monad"
  | .solana => "solana"

inductive TaskType
  | summarize
  | classify
  | extractJson
  deriving DecidableEq

def TaskType.text : TaskType → String
  | .summarize => "summarize"
  | .classify => "classify"
  | .extractJson => "extract_json"

inductive Hosted
  | openai
  | anthropic
  deriving DecidableEq

namespace Hosted

def name : Hosted → String
  | openai => "hosted:openai"
  | anthropic => "hosted:anthropic"

def keyError : Hosted → String
  | openai => "OPENAI_API_KEY not set"
  | anthropic => "ANTHROPIC_API_KEY not set"

end Hosted

inductive Work (Number : Type)
  | llm (prompt : JsString) (maxTokens : Option Number)
  | task (taskType : TaskType) (input : JsString)
  deriving DecidableEq

def Work.jobType : Work Number → JobType
  | llm _ _ => .llmInfer
  | task _ _ => .task

structure Options (Number : Type) where
  work : Work Number
  policy : Option String
  privacy : Option String
  userId : JsString
  chainPreference : Option Chain

/-- An `LLMRequest` or a `TaskRequest`. -/
structure Request (Number : Type) where
  work : Work Number
  policy : String
  privacy : String
  userId : JsString
  deriving DecidableEq

namespace Options

def chain (options : Options Number) : Chain :=
  options.chainPreference.getD .monad

def request (options : Options Number) : Request Number where
  work := options.work
  policy := options.policy.getD Policy.auto.text
  privacy := options.privacy.getD PrivacyClass.PUBLIC
  userId := options.userId

end Options

structure Config where
  coordinatorUrls : Chain → String
  preferredHosted : Option Hosted
  x402Clients : Chain → Bool
  apiKey : Hosted → Option String

def Config.hostedAdapters (config : Config) : List Hosted :=
  if config.preferredHosted.getD .openai = .openai then [.openai, .anthropic]
  else [.anthropic, .openai]

/-! ## What goes out and what comes back -/

structure HttpRequest where
  method : String
  url : String
  headers : List (String × String)
  body : Option String
  deriving DecidableEq

inductive Action (Number : Type)
  | fetch (request : HttpRequest)
  | hosted (adapter : Hosted) (request : Request Number)
  deriving DecidableEq

inductive Reply
  | rejected (message : String)
  | response (status : Nat) (body : Except String String)

inductive AdapterError
  /-- Thrown by `fetch` or by reading a body. -/
  | network (message : String)
  | http (status : Nat) (text : String)
  | syntaxError
  | typeError
  | paymentRequired
  /-- Thrown by the `x402Client`. -/
  | payment (message : String)
  | privacy (error : String)
  | commitFailed (status : Nat) (text : String)
  | jobFailed (jobId result : String)
  | timedOut (jobId : String) (timeoutMs : Nat)
  deriving DecidableEq

def AdapterError.message? : AdapterError → Option String
  | network message | payment message => some message
  | http status text => some ("HTTP " ++ toString status ++ ": " ++ text)
  | syntaxError | typeError => none
  | paymentRequired => some
      ("x402 payment required but no x402Client configured. " ++
        "Set TESTNET_MODE=true on coordinator or provide an x402Client.")
  | privacy error => some ("Privacy enforcement: " ++ error)
  | commitFailed status text =>
    some ("Commit failed: " ++ toString status ++ " " ++ text)
  | jobFailed jobId result =>
    some ("Job " ++ jobId ++ " failed: " ++ result)
  | timedOut jobId timeoutMs => some
      ("Job " ++ jobId ++ " timed out after " ++ toString timeoutMs ++ "ms")

structure ComputeResult (Number : Type) where
  output : Option (Json Number)
  route : String
  price : Option (Json Number)
  latencyMs : Int
  receipt : Option (Json Number)

def ok (status : Nat) : Bool := 200 ≤ status && status < 300

variable {Number : Type} [JsNumber Number]

/-- `response.json()` -/
def readJson (body : Except String String) :
    Except AdapterError (Json Number) :=
  match body with
  | .error message => .error (.network message)
  | .ok text =>
    match Json.parse text with
    | some value => .ok value
    | none => .error .syntaxError

/-- `response.text()` -/
def readText (body : Except String String) : Except AdapterError String :=
  match body with
  | .error message => .error (.network message)
  | .ok text => .ok text

def fetchJson (reply : Reply) : Except AdapterError (Json Number) :=
  match reply with
  | .rejected message => .error (.network message)
  | .response status body =>
    if ok status then readJson body
    else do
      let text ← readText body
      .error (.http status text)

/-! ## The states of a call -/

inductive Stage (Number : Type)
  | quoting
  | committing (quote : Json Number)
  | paying (quote : Json Number)
  | recommitting (quote : Json Number)
  | loopHead (quote : Json Number) (jobId : Option (Json Number))
      (deadline : Nat)
  | polling (quote : Json Number) (jobId : Option (Json Number))
      (deadline : Nat)
  | sleeping (quote : Json Number) (jobId : Option (Json Number))
      (deadline : Nat)
  | hosted (adapter : Hosted) (rest : List Hosted) (start : Nat)
  | returned (result : ComputeResult Number)
  | threw (message : String)

structure Call (Number : Type) where
  stage : Stage Number
  passed : List (Action Number)
  thrown : Option AdapterError
  hostedFailures : List (Hosted × String)

inductive Outcome (Number : Type)
  | reply (reply : Reply)
  | payment (headers : Except String (List (String × String)))
  | clock
  | awake
  | completion (output : Except String (Json Number))

structure Event (Number : Type) where
  now : Nat
  outcome : Outcome Number

/-! ## Falling back -/

def Call.pass (call : Call Number) (action : Action Number) : Call Number :=
  { call with passed := call.passed ++ [action] }

def allFailed : String :=
  "All compute adapters failed. Ensure workers are running or " ++
    "BYOK API keys are set."

def hostedFallback (config : Config) (request : Request Number) (now : Nat) :
    List Hosted → Call Number → Call Number
  | [], call => { call with stage := .threw allFailed }
  | adapter :: rest, call =>
    let call := call.pass (.hosted adapter request)
    match (config.apiKey adapter).filter (· ≠ "") with
    | none =>
      hostedFallback config request now rest { call with
        hostedFailures :=
          call.hostedFailures ++ [(adapter, adapter.keyError)] }
    | some _ => { call with stage := .hosted adapter rest now }

def fail (config : Config) (options : Options Number) (now : Nat)
    (error : AdapterError) (call : Call Number) : Call Number :=
  hostedFallback config options.request now config.hostedAdapters
    { call with thrown := some error }

/-! ## The decentralized adapter -/

section Adapter

variable [NumberToString Number]

def payload (work : Work Number) : JsValue Number :=
  let jobType : JsValue Number := .string work.jobType.text
  match work with
  | .llm prompt maxTokens =>
    .object (.ofList [
      ("job_type", jobType),
      ("prompt", .string prompt),
      ("max_tokens", match maxTokens with
        | some count => .number count
        | none => .undefined)])
  | .task taskType input =>
    .object (.ofList [
      ("job_type", jobType),
      ("task_type", .string taskType.text),
      ("input", .string input)])

def commitBody (request : Request Number) : Option String :=
  let body : List (JsString × JsValue Number) := [
    ("job_type", .string request.work.jobType.text),
    ("payload", payload request.work),
    ("privacy_class", .string request.privacy),
    ("user_id", .string request.userId)]
  JsValue.stringify (.object (.ofList body))

def quoteRequest (url : String) (request : Request Number) : HttpRequest :=
  let policy := resolvePolicy request.policy request.work.jobType
  { method := "GET"
    url := url ++ "/v1/quote?job_type=" ++ request.work.jobType.text ++
      "&policy=" ++ policy
    headers := []
    body := none }

def commitRequest (url : String) (request : Request Number)
    (headers : List (String × String)) : HttpRequest :=
  let policy := resolvePolicy request.policy request.work.jobType
  let tier : Tier := if policy = Policy.fast.text then .fast else .cheap
  { method := "POST"
    url := url ++ endpoint tier
    headers := ("Content-Type", "application/json") :: headers
    body := commitBody request }

def pollRequest (url : String) (jobId : String) : HttpRequest :=
  { method := "GET", url := url ++ "/v1/jobs/" ++ jobId, headers := [],
    body := none }

def timeoutMs : JobType → Nat
  | .task => 30000
  | .llmInfer => 60000

variable (config : Config) (options : Options Number)

def url : String := config.coordinatorUrls options.chain

def commitResponse (status : Nat) (body : Except String String) :
    Except AdapterError (Option (Json Number)) :=
  if status = 422 then do
    let error : Json Number ← readJson body
    match error with
    | .null => .error .typeError
    | value =>
      match Json.displayProperty? (value.get? "error") with
      | some text => .error (.privacy text.toText)
      | none => .error .typeError
  else if !ok status then do
    let text ← readText body
    .error (.commitFailed status text)
  else do
    let value : Json Number ← readJson body
    match value with
    | .null => .error .typeError
    | value => .ok (value.get? "job_id")

def committed (quote : Json Number) (now status : Nat)
    (body : Except String String) :
    Except AdapterError (Stage Number × List (Action Number)) := do
  let jobId ← commitResponse status body
  let deadline := now + timeoutMs options.work.jobType
  return (.loopHead quote jobId deadline, [])

def loopHead (quote : Json Number) (jobId : Option (Json Number))
    (deadline now : Nat) :
    Except AdapterError (Stage Number × List (Action Number)) :=
  match Json.displayProperty? jobId with
  | none => .error .typeError
  | some text =>
    if now < deadline then
      let poll := pollRequest (url config options) text.toText
      .ok (.polling quote jobId deadline, [.fetch poll])
    else
      .error (.timedOut text.toText (timeoutMs options.work.jobType))

def resultText : Option (Json Number) → String
  | some value => value.stringify
  | none => "undefined"

/-- `job.status === status` -/
def hasStatus (job : Json Number) (status : String) : Bool :=
  Json.strictEqual (job.get? "status") (some (.string status))

def answered (quote : Json Number) (jobId : Option (Json Number))
    (deadline start now : Nat) (job : Json Number) :
    Except AdapterError (Stage Number × List (Action Number)) :=
  if hasStatus job "completed" then
    match quote with
    | .null => .error .typeError
    | quote =>
      let result : ComputeResult Number :=
        { output := job.get? "result"
          route := "decentralized:" ++ options.chain.text
          price := quote.get? "price"
          latencyMs := now - start
          receipt := job.get? "receipt" }
      .ok (.returned result, [])
  else if hasStatus job "failed" then
    match Json.displayProperty? jobId with
    | some text =>
      .error (.jobFailed text.toText (resultText (job.get? "result")))
    | none => .error .typeError
  else
    .ok (.sleeping quote jobId deadline, [])

def polled (quote : Json Number) (jobId : Option (Json Number))
    (deadline start now : Nat) (reply : Reply) :
    Except AdapterError (Stage Number × List (Action Number)) := do
  let job ← fetchJson reply
  match job with
  | .null => .error .typeError
  | job => answered options quote jobId deadline start now job

def submit (start : Nat) (stage : Stage Number) (event : Event Number) :
    Except AdapterError (Stage Number × List (Action Number)) :=
  match stage, event.outcome with
  | .quoting, .reply reply => do
    let quote ← fetchJson reply
    let commit := commitRequest (url config options) options.request []
    return (.committing quote, [.fetch commit])
  | .committing _, .reply (.rejected message) => .error (.network message)
  | .committing quote, .reply (.response status body) =>
    if status = 402 then
      if config.x402Clients options.chain then .ok (.paying quote, [])
      else .error .paymentRequired
    else
      committed options quote event.now status body
  | .paying _, .payment (.error message) => .error (.payment message)
  | .paying quote, .payment (.ok headers) =>
    let commit := commitRequest (url config options) options.request headers
    .ok (.recommitting quote, [.fetch commit])
  | .recommitting _, .reply (.rejected message) => .error (.network message)
  | .recommitting quote, .reply (.response status body) =>
    committed options quote event.now status body
  | .loopHead quote jobId deadline, .clock =>
    loopHead config options quote jobId deadline event.now
  | .polling quote jobId deadline, .reply reply =>
    polled options quote jobId deadline start event.now reply
  | .sleeping quote jobId deadline, .awake =>
    .ok (.loopHead quote jobId deadline, [])
  | stage, _ => .ok (stage, [])

/-! ## The machine -/

def completed (adapter : Hosted) (rest : List Hosted) (start now : Nat)
    (output : Except String (Json Number)) (call : Call Number) :
    Call Number :=
  match output with
  | .ok output =>
    let result : ComputeResult Number :=
      { output := some output, route := adapter.name, price := some .null,
        latencyMs := now - start, receipt := some .null }
    { call with stage := .returned result }
  | .error message =>
    hostedFallback config options.request now rest { call with
      hostedFailures := call.hostedFailures ++ [(adapter, message)] }

def step (start : Nat) (call : Call Number) (event : Event Number) :
    Call Number :=
  match call.stage, event.outcome with
  | .hosted adapter rest began, .completion output =>
    completed config options adapter rest began event.now output call
  | stage, _ =>
    match submit config options start stage event with
    | .error error => fail config options event.now error call
    | .ok (stage, actions) =>
      { call with stage := stage, passed := call.passed ++ actions }

def Stage.awaits : Stage Number → Outcome Number → Bool
  | .quoting, .reply _ | .committing _, .reply _ | .recommitting _, .reply _
  | .polling _ _ _, .reply _ | .paying _, .payment _ | .loopHead _ _ _, .clock
  | .sleeping _ _ _, .awake | .hosted _ _ _, .completion _ => true
  | _, _ => false

def machine (start : Nat) : Machine (Call Number) (Event Number) where
  initial :=
    { stage := .quoting
      passed := [.fetch (quoteRequest (url config options) options.request)]
      thrown := none
      hostedFailures := [] }
  Enabled call event := call.stage.awaits event.outcome = true
  step := step config options start

instance (start : Nat) (call : Call Number) (event : Event Number) :
    Decidable ((machine config options start).Enabled call event) :=
  inferInstanceAs (Decidable (_ = true))

end Adapter

end Dispatch.Router
