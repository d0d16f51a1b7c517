import Dispatch.Foundation.JsWords
import Dispatch.Foundation.Procedure
import Dispatch.Router.Fallback
import Dispatch.Worker.ReceiptSigner

/-! # `dispatch agent run`

The command submits a job through the compute router and prints an error if
that fails.
-/

namespace Dispatch.Cli

open Router (Chain Hosted TaskType AdapterError allFailed)

/-! ## Messages -/

namespace ERROR_MESSAGES

def NO_CONFIG : String :=
  "No .dispatchrc found. Run 'dispatch init' to set up."

def PAYMENT_REQUIRED : String :=
  "Payment required (x402). Set TESTNET_MODE=1 on the coordinator for free " ++
    "usage."

def NO_TRUSTED_WORKER : String :=
  "No trusted worker available for PRIVATE job. Run 'dispatch worker start " ++
    "--trust-code <code>' to pair a worker first."

def JOB_TIMEOUT_30 : String :=
  "Job timed out after 30s. The worker may be overloaded."

def JOB_TIMEOUT_60 : String :=
  "Job timed out after 60s. The worker may be overloaded."

def PROMPT_FOR_TASK : String :=
  "Error: --prompt is for LLM jobs. Use --input for task jobs."

def INPUT_FOR_LLM : String :=
  "Error: --input is for task jobs. Use --prompt for LLM jobs."

def TASK_TYPE_REQUIRED : String :=
  "Error: --task-type is required for task jobs. Options: summarize, " ++
    "classify, extract_json"

def PROMPT_REQUIRED : String := "Error: --prompt is required for LLM jobs."

def INPUT_REQUIRED : String := "Error: --input is required for task jobs."

end ERROR_MESSAGES

open ERROR_MESSAGES

def coordinatorUnreachableMessage (url : JsString) : JsString :=
  ("Cannot reach coordinator at " : String) ++ (url ++
    (". Is it running?" : String))

def printCommandError (message : JsString) : JsString :=
  if JsString.ofString "Error:" <+: message then message
  else ("Error: " : String) ++ message

def mapRunError (message type coordinatorUrl : JsString) : JsString :=
  if message.includes ("HTTP 402" : String) ∨
      message.includes ("x402 payment required" : String) then
    PAYMENT_REQUIRED
  else if message.includes ("no_trusted_worker" : String) then
    NO_TRUSTED_WORKER
  else if message.includes ("timed out" : String) then
    if type = ("llm" : String) then JOB_TIMEOUT_60 else JOB_TIMEOUT_30
  else if message.includes ("fetch failed" : String) ∨
      message.includes ("Cannot reach coordinator" : String) then
    coordinatorUnreachableMessage coordinatorUrl
  else message

/-! ## Configuration -/

structure AgentConfig where
  coordinator : Chain → String
  defaultChain : JsString
  defaultPolicy : JsString
  defaultPrivacy : JsString
  userId : JsString

/-- What `.dispatchrc` says. -/
structure GivenConfig where
  coordinator : Chain → Option String
  defaultChain : Option JsString
  defaultPolicy : Option JsString
  defaultPrivacy : Option JsString
  userId : Option JsString

def defaultConfig : AgentConfig where
  coordinator
    | .monad => "http://localhost:4010"
    | .solana => "http://localhost:4020"
  defaultChain := ("monad" : String)
  defaultPolicy := Policy.auto.text
  defaultPrivacy := PrivacyClass.PUBLIC
  userId := ("cli-00000000" : String)

def mergeDefaults (given : GivenConfig) : AgentConfig where
  coordinator chain :=
    (given.coordinator chain).getD (defaultConfig.coordinator chain)
  defaultChain := given.defaultChain.getD defaultConfig.defaultChain
  defaultPolicy := given.defaultPolicy.getD defaultConfig.defaultPolicy
  defaultPrivacy := given.defaultPrivacy.getD defaultConfig.defaultPrivacy
  userId := given.userId.getD defaultConfig.userId

inductive ConfigFile
  | missing
  | unreadable (message : JsString)
  | invalidJson (path : JsString)
  | parsed (given : GivenConfig)

def loadConfig : ConfigFile → Except JsString AgentConfig
  | .missing => .error NO_CONFIG
  | .unreadable message => .error message
  | .invalidJson path => .error (("Invalid JSON in " : String) ++ path)
  | .parsed given => .ok (mergeDefaults given)

/-! ## Arguments -/

structure AgentRunOptions (Number : Type) where
  type : JsString
  prompt : Option JsString
  input : Option JsString
  taskType : Option JsString
  policy : Option JsString
  privacy : Option JsString
  chain : Option JsString
  maxTokens : Option Number

structure RunEnvironment (Number : Type) where
  toLowerCase : JsString → JsString
  number : ℚ → Number
  apiKey : Hosted → Option String
  file : ConfigFile
  engineMessage : AdapterError → String

inductive CliJobType
  | llm
  | task
  deriving DecidableEq

def CliJobType.text : CliJobType → String
  | .llm => "llm"
  | .task => "task"

section Handler

variable {Number : Type} (env : RunEnvironment Number)

def normalize (value : JsString) : JsString :=
  env.toLowerCase value.trim

def mapArgument (name : String) (values : List (String × Value))
    (value : JsString) : Except JsString Value :=
  match values.find? fun entry => ↑entry.1 = normalize env value with
  | some entry => .ok entry.2
  | none => .error (("Unsupported " ++ name ++ ": " : String) ++ value)

def mapJobType : JsString → Except JsString JobType :=
  mapArgument env "job type"
    [("llm", .llmInfer), ("llm_infer", .llmInfer), ("task", .task)]

def mapPolicy : JsString → Except JsString Policy :=
  mapArgument env "policy" [("fast", .fast), ("cheap", .cheap), ("auto", .auto)]

def mapPrivacy : JsString → Except JsString String :=
  mapArgument env "privacy"
    [("public", PrivacyClass.PUBLIC), ("private", PrivacyClass.PRIVATE)]

def mapTaskType : JsString → Except JsString TaskType :=
  mapArgument env "task type"
    [("summarize", .summarize), ("classify", .classify),
      ("extract_json", .extractJson)]

def mapChain : JsString → Except JsString Chain :=
  mapArgument env "chain" [("monad", .monad), ("solana", .solana)]

def given (argument : Option JsString) : Bool :=
  argument.any fun text => !text.isEmpty

def validateAgentRunArgs (opts : AgentRunOptions Number) :
    Except JsString CliJobType :=
  let type := normalize env opts.type
  let isTask : Bool := type = CliJobType.task.text
  let isLlm : Bool := type = CliJobType.llm.text
  if isTask && given opts.prompt then .error PROMPT_FOR_TASK
  else if isLlm && given opts.input then .error INPUT_FOR_LLM
  else if isTask && !given opts.taskType then .error TASK_TYPE_REQUIRED
  else if isLlm && !given opts.prompt then .error PROMPT_REQUIRED
  else if isTask && !given opts.input then .error INPUT_REQUIRED
  else if isLlm then .ok .llm
  else if isTask then .ok .task
  else .error ("Error: --type must be llm or task." : String)

def work (opts : AgentRunOptions Number) (jobType : JobType) :
    Except JsString (Router.Work Number) :=
  match jobType with
  | .llmInfer => .ok (.llm (opts.prompt.getD [])
      (some (opts.maxTokens.getD (env.number 256))))
  | .task => do
    let taskType ← mapTaskType env (opts.taskType.getD [])
    return .task taskType (opts.input.getD [])

def prepare (opts : AgentRunOptions Number) :
    Except JsString (Router.Config × Router.Options Number) := do
  let config ← loadConfig env.file
  let type ← validateAgentRunArgs env opts
  let chain ← mapChain env (opts.chain.getD config.defaultChain)
  let policy ← mapPolicy env (opts.policy.getD config.defaultPolicy)
  let privacy ← mapPrivacy env (opts.privacy.getD config.defaultPrivacy)
  let jobType ← mapJobType env type.text
  let work ← work env opts jobType
  return ({ coordinatorUrls := config.coordinator
            preferredHosted := none
            x402Clients := fun _ => false
            apiKey := env.apiKey },
          { work := work
            policy := some policy.text
            privacy := some privacy
            userId := config.userId
            chainPreference := some chain })

def fallbackCoordinator (opts : AgentRunOptions Number) : String :=
  if opts.chain.map env.toLowerCase = some ("solana" : String) then
    "http://localhost:4020"
  else "http://localhost:4010"

def reportError (opts : AgentRunOptions Number) (message : JsString) :
    JsString :=
  printCommandError (mapRunError message (env.toLowerCase opts.type)
    (fallbackCoordinator env opts))

def printed (opts : AgentRunOptions Number) (call : Router.Call Number) :
    Option JsString :=
  match call.stage with
  | .threw message => some (reportError env opts message)
  | _ => none

/-! ## What should be printed -/

def ownMessage (error : AdapterError) : JsString :=
  error.message?.getD (env.engineMessage error)

def cliJobType : JobType → CliJobType
  | .llmInfer => .llm
  | .task => .task

def expected (config : Router.Config) (options : Router.Options Number)
    (error : AdapterError) : JsString :=
  printCommandError (mapRunError (ownMessage env error)
    (cliJobType options.work.jobType).text (Router.url config options))

end Handler

/-! ## The router's own message -/

def mappedWords : List String :=
  ["HTTP 402", "x402 payment required", "no_trusted_worker", "timed out",
    "fetch failed", "Cannot reach coordinator"]

theorem mapRunError_of_not_includes {message : JsString}
    (absent : ∀ words ∈ mappedWords, message.includes (words : String) = false)
    (type coordinatorUrl : JsString) :
    mapRunError message type coordinatorUrl = message := by
  simp only [mappedWords, List.forall_mem_cons] at absent
  rcases absent with ⟨payment, client, trusted, timeout, failed, unreachable, _⟩
  simp only [mapRunError, payment, client, trusted, timeout, failed,
    unreachable, Bool.false_eq_true, or_self, if_false]

theorem allFailed_not_includes :
    ∀ message ∈ [(allFailed : JsString),
        ("Error: " : String) ++ (allFailed : JsString)],
      ∀ words ∈ mappedWords, message.includes (words : String) = false := by
  decide +kernel

theorem mapRunError_allFailed (type coordinatorUrl : JsString) :
    mapRunError allFailed type coordinatorUrl = allFailed := by
  apply mapRunError_of_not_includes
  exact allFailed_not_includes _ (.head _)

theorem mapRunError_error_allFailed (type coordinatorUrl : JsString) :
    mapRunError (("Error: " : String) ++ (allFailed : JsString)) type
        coordinatorUrl = ("Error: " : String) ++ (allFailed : JsString) := by
  apply mapRunError_of_not_includes
  exact allFailed_not_includes _ (.tail _ (.head _))

def StartsOtherwise (message : JsString) : Prop :=
  message.head? ≠ some 0x45 ∧ message.head? ≠ some 0x41
  deriving Decidable

section Starts

variable {first : String} {char : Char} {chars : List Char}
    (spelled : first = String.ofList (char :: chars))
    (other : StartsOtherwise (JsString.encode char))

include spelled other

theorem startsOtherwise_append (rest : JsString) :
    StartsOtherwise (JsString.ofString first ++ rest) := by
  rw [StartsOtherwise, JsString.head?_ofString_append spelled]
  exact other

theorem startsOtherwise_concat (second : String) :
    StartsOtherwise (first ++ second : String) := by
  rw [StartsOtherwise, JsString.head?_ofString_concat spelled]
  exact other

theorem startsOtherwise_text : StartsOtherwise first := by
  have starts := startsOtherwise_append spelled other []
  rw [List.append_nil] at starts
  exact starts

end Starts

theorem startsOtherwise_payment : StartsOtherwise PAYMENT_REQUIRED :=
  startsOtherwise_concat rfl (by decide) _

theorem startsOtherwise_trusted : StartsOtherwise NO_TRUSTED_WORKER :=
  startsOtherwise_concat rfl (by decide) _

theorem startsOtherwise_timeout30 : StartsOtherwise JOB_TIMEOUT_30 :=
  startsOtherwise_text rfl (by decide)

theorem startsOtherwise_timeout60 : StartsOtherwise JOB_TIMEOUT_60 :=
  startsOtherwise_text rfl (by decide)

theorem startsOtherwise_unreachable (url : JsString) :
    StartsOtherwise (coordinatorUnreachableMessage url) :=
  startsOtherwise_append rfl (by decide) _

theorem mapRunError_cases (message type coordinatorUrl : JsString) :
    StartsOtherwise (mapRunError message type coordinatorUrl) ∨
      mapRunError message type coordinatorUrl = message := by
  unfold mapRunError
  split
  · exact .inl startsOtherwise_payment
  split
  · exact .inl startsOtherwise_trusted
  split
  · split
    · exact .inl startsOtherwise_timeout60
    · exact .inl startsOtherwise_timeout30
  split
  · exact .inl (startsOtherwise_unreachable coordinatorUrl)
  · exact .inr rfl

theorem printCommandError_of_head {message : JsString}
    (other : message.head? ≠ some 0x45) :
    printCommandError message = ("Error: " : String) ++ message := by
  rw [printCommandError, if_neg]
  rintro ⟨rest, rfl⟩
  exact other rfl

theorem head?_allFailed : (allFailed : JsString).head? = some 0x41 :=
  JsString.head?_ofString_concat rfl _

theorem printCommandError_allFailed :
    printCommandError allFailed =
      ("Error: " : String) ++ (allFailed : JsString) := by
  apply printCommandError_of_head
  rw [head?_allFailed]
  decide

theorem printCommandError_error_allFailed :
    printCommandError (("Error: " : String) ++ (allFailed : JsString)) =
      ("Error: " : String) ++ (allFailed : JsString) := by
  have word : "Error: " = "Error:" ++ " " := by decide
  rw [printCommandError, if_pos]
  rw [word, JsString.ofString_append, List.append_assoc]
  exact List.prefix_append ..

theorem StartsOtherwise.printed_ne {message : JsString}
    (starts : StartsOtherwise message) :
    printCommandError message ≠ printCommandError allFailed := by
  intro same
  rw [printCommandError_of_head starts.1, printCommandError_allFailed] at same
  rw [List.append_cancel_left same] at starts
  exact starts.2 head?_allFailed

theorem printed_allFailed_iff (message type coordinatorUrl : JsString) :
    printCommandError (mapRunError message type coordinatorUrl) =
        printCommandError allFailed ↔
      message = allFailed ∨
        message = ("Error: " : String) ++ (allFailed : JsString) := by
  constructor
  · intro same
    rcases mapRunError_cases message type coordinatorUrl with starts | kept
    · exact absurd same starts.printed_ne
    rw [kept, printCommandError_allFailed, printCommandError] at same
    split at same
    · exact .inr same
    · exact .inl (List.append_cancel_left same)
  · rintro (own | own)
    · rw [own, mapRunError_allFailed]
    · rw [own, mapRunError_error_allFailed, printCommandError_error_allFailed,
        printCommandError_allFailed]

/-! ## Runs of the router -/

section Runs

variable {Number : Type} {config : Router.Config}
    {options : Router.Options Number}

def Unavailable (apiKey : Hosted → Option String) : Prop :=
  ∀ adapter, (apiKey adapter).filter (· ≠ "") = none

theorem hostedFallback_unavailable (unavailable : Unavailable config.apiKey)
    (request : Router.Request Number) (now : Nat) (adapters : List Hosted)
    (call : Router.Call Number) :
    (Router.hostedFallback config request now adapters call).stage =
        .threw allFailed ∧
      (Router.hostedFallback config request now adapters call).thrown =
        call.thrown := by
  induction adapters generalizing call with
  | nil => exact ⟨rfl, rfl⟩
  | cons adapter rest induction =>
    rw [Router.hostedFallback]
    simp only [unavailable adapter]
    exact induction _

def Ends (call : Router.Call Number) : Prop :=
  (call.thrown = none ∧
      (call.stage.Submits ∨ ∃ result, call.stage = .returned result)) ∨
    (∃ error, call.thrown = some error) ∧ call.stage = .threw allFailed

variable [JsNumber Number] [NumberToString Number]

theorem ends_step (unavailable : Unavailable config.apiKey) (start : Nat)
    {call : Router.Call Number} {event : Router.Event Number}
    (enabled : (Router.machine config options start).Enabled call event)
    (ends : Ends call) :
    Ends ((Router.machine config options start).step call event) := by
  have move := Router.step_move config options start enabled
  generalize (Router.machine config options start).step call event = next
    at move ⊢
  cases move with
  | goesOn submits _ _ follows =>
    rcases ends with ⟨none, _⟩ | ⟨_, threw⟩
    · exact .inl ⟨none, follows.submits⟩
    · rw [threw] at submits
      exact submits.elim
  | fails submits _ =>
    have fallen := hostedFallback_unavailable unavailable options.request
      event.now config.hostedAdapters
    exact .inr ⟨⟨_, (fallen _).2⟩, (fallen _).1⟩
  | hosted stage =>
    rcases ends with ⟨_, submits | ⟨result, returned⟩⟩ | ⟨_, threw⟩
    · rw [stage] at submits
      exact submits.elim
    · rw [stage] at returned
      cases returned
    · rw [stage] at threw
      cases threw

theorem ends_run (unavailable : Unavailable config.apiKey) (start : Nat)
    {events : List (Router.Event Number)} {final : Router.Call Number}
    (run : (Router.machine config options start).Run
      (Router.machine config options start).initial events final) :
    Ends final := by
  refine run.invariant Ends .start (.inl ⟨rfl, .inl trivial⟩) ?_
  intro call event _ ends enabled
  exact ends_step unavailable start enabled ends

omit [JsNumber Number] [NumberToString Number] in
theorem apiKey_of_prepare {env : RunEnvironment Number}
    {opts : AgentRunOptions Number}
    (prepared : prepare env opts = .ok (config, options)) :
    config.apiKey = env.apiKey := by
  rcases bind_eq_ok_iff.mp prepared with ⟨_, _, validated⟩
  rcases bind_eq_ok_iff.mp validated with ⟨_, _, chained⟩
  rcases bind_eq_ok_iff.mp chained with ⟨_, _, priced⟩
  rcases bind_eq_ok_iff.mp priced with ⟨_, _, classed⟩
  rcases bind_eq_ok_iff.mp classed with ⟨_, _, typed⟩
  rcases bind_eq_ok_iff.mp typed with ⟨_, _, filled⟩
  rcases bind_eq_ok_iff.mp filled with ⟨_, _, made⟩
  cases made
  rfl

theorem printed_of_thrown {env : RunEnvironment Number}
    {opts : AgentRunOptions Number}
    (prepared : prepare env opts = .ok (config, options))
    (unavailable : Unavailable env.apiKey) (start : Nat)
    {events : List (Router.Event Number)} {final : Router.Call Number}
    (run : (Router.machine config options start).Run
      (Router.machine config options start).initial events final)
    {error : AdapterError} (thrown : final.thrown = some error) :
    printed env opts final = some (printCommandError allFailed) := by
  have keys : config.apiKey = env.apiKey := apiKey_of_prepare prepared
  have ended : final.stage = .threw allFailed := by
    rcases ends_run (keys ▸ unavailable) start run with ⟨none, _⟩ | ⟨_, threw⟩
    · rw [none] at thrown
      cases thrown
    · exact threw
  rw [printed, ended]
  dsimp only
  rw [reportError, mapRunError_allFailed]

/-- What is printed is not the message of the failure, unless the two happen to
be the same. -/
theorem printed_eq_expected_iff {env : RunEnvironment Number}
    {opts : AgentRunOptions Number}
    (prepared : prepare env opts = .ok (config, options))
    (unavailable : Unavailable env.apiKey) (start : Nat)
    {events : List (Router.Event Number)} {final : Router.Call Number}
    (run : (Router.machine config options start).Run
      (Router.machine config options start).initial events final)
    {error : AdapterError} (thrown : final.thrown = some error) :
    printed env opts final = some (printCommandError allFailed) ∧
      (printed env opts final = some (expected env config options error) ↔
        ownMessage env error = allFailed ∨
          ownMessage env error =
            ("Error: " : String) ++ (allFailed : JsString)) := by
  have text := printed_of_thrown prepared unavailable start run thrown
  refine ⟨text, ?_⟩
  rw [text, Option.some.injEq, eq_comm, expected, printed_allFailed_iff]

end Runs

/-! ## Failures of a sample call -/

namespace Sample

open Worker.Sample (Number)

def dispatchrc : GivenConfig where
  coordinator
    | .monad => some "http://localhost:4020"
    | .solana => none
  defaultChain := none
  defaultPolicy := some ("auto" : String)
  defaultPrivacy := some ("public" : String)
  userId := none

def runEnvironment : RunEnvironment Number where
  toLowerCase := id
  number _ := .one
  apiKey _ := none
  file := .parsed dispatchrc
  engineMessage _ := "Unexpected end of JSON input"

def runOptions : AgentRunOptions Number where
  type := ("task" : String)
  prompt := none
  input := some ("text" : String)
  taskType := some ("summarize" : String)
  policy := none
  privacy := none
  chain := none
  maxTokens := none

def routerConfig : Router.Config where
  coordinatorUrls := (mergeDefaults dispatchrc).coordinator
  preferredHosted := none
  x402Clients _ := false
  apiKey _ := none

def routerOptions : Router.Options Number where
  work := .task .summarize ("text" : String)
  policy := some Policy.auto.text
  privacy := some PrivacyClass.PUBLIC
  userId := ("cli-00000000" : String)
  chainPreference := some .monad

theorem prepared : prepare runEnvironment runOptions =
    .ok (routerConfig, routerOptions) := rfl

def unreachable : Router.Event Number where
  now := 0
  outcome := .reply (.rejected "fetch failed")

def answer (now status : Nat) (body : String) : Router.Event Number where
  now := now
  outcome := .reply (.response status (.ok body))

def quoted : Router.Event Number :=
  answer 0 200 "\x7b\"price\":\"$0.001\"\x7d"

def timeOver : List (Router.Event Number) :=
  [quoted, answer 1 201 "\x7b\"job_id\":\"job-1\"\x7d", ⟨30001, .clock⟩]

def call (events : List (Router.Event Number)) : Router.Call Number :=
  let machine := Router.machine routerConfig routerOptions 0
  machine.exec machine.initial events

def printedAndExpected (events : List (Router.Event Number)) :
    Option JsString × Option JsString :=
  (printed runEnvironment runOptions (call events),
    (call events).thrown.map
      (expected runEnvironment routerConfig routerOptions))

theorem printedAndExpected_eq (error : AdapterError)
    {events : List (Router.Event Number)}
    (legal : (Router.machine routerConfig routerOptions 0).Steps
      (Router.machine routerConfig routerOptions 0).Enabled
      (Router.machine routerConfig routerOptions 0).initial events)
    (thrown : (call events).thrown = some error)
    {text : String} (mapped : mapRunError (ownMessage runEnvironment error)
      CliJobType.task.text ("http://localhost:4020" : String) = text)
    (other : (text : JsString).head? ≠ some 0x45) :
    printedAndExpected events = (some (printCommandError allFailed),
      some (JsString.ofString ("Error: " ++ text))) := by
  have printedText : printed runEnvironment runOptions (call events) =
      some (printCommandError allFailed) :=
    printed_of_thrown prepared (fun _ => rfl) 0 (.of_steps legal) thrown
  have expectedText : expected runEnvironment routerConfig routerOptions error =
      JsString.ofString ("Error: " ++ text) := by
    rw [JsString.ofString_append, ← printCommandError_of_head other, ← mapped]
    rfl
  rw [printedAndExpected, printedText, thrown, Option.map_some, expectedText]

end Sample

theorem sample_printed :
    printed Sample.runEnvironment Sample.runOptions
        (Sample.call [Sample.unreachable]) =
      some (printCommandError allFailed) :=
  (printed_eq_expected_iff Sample.prepared (fun _ => rfl) 0
    (.of_steps (by decide)) rfl).1

theorem sample_failures_printed_alike :
    Sample.printedAndExpected [Sample.unreachable] =
        (some (printCommandError allFailed),
          some (JsString.ofString ("Error: Cannot reach coordinator at " ++
            "http://localhost:4020. Is it running?"))) ∧
      Sample.printedAndExpected [Sample.quoted, Sample.answer 1 402 ""] =
        (some (printCommandError allFailed),
          some (JsString.ofString ("Error: " ++ PAYMENT_REQUIRED))) ∧
      Sample.printedAndExpected [Sample.quoted, Sample.answer 1 422
          "\x7b\"error\":\"no_trusted_worker\"\x7d"] =
        (some (printCommandError allFailed),
          some (JsString.ofString ("Error: " ++ NO_TRUSTED_WORKER))) ∧
      Sample.printedAndExpected Sample.timeOver =
        (some (printCommandError allFailed),
          some (JsString.ofString ("Error: " ++ JOB_TIMEOUT_30))) := by
  refine ⟨?_, ?_, ?_, ?_⟩
  · decide +kernel
  · refine Sample.printedAndExpected_eq .paymentRequired (by decide +kernel)
      (by decide +kernel) ?_ startsOtherwise_payment.1
    exact if_pos (by decide +kernel)
  · refine Sample.printedAndExpected_eq (.privacy "no_trusted_worker")
      (by decide +kernel) (by decide +kernel) ?_ startsOtherwise_trusted.1
    exact (if_neg (by decide +kernel)).trans (if_pos (by decide +kernel))
  · refine Sample.printedAndExpected_eq (.timedOut "job-1" 30000)
      (by decide +kernel) (by decide +kernel) ?_ startsOtherwise_timeout30.1
    exact (if_neg (by decide +kernel)).trans ((if_neg (by decide +kernel)).trans
      ((if_pos (by decide +kernel)).trans (if_neg (by decide +kernel))))

end Dispatch.Cli
