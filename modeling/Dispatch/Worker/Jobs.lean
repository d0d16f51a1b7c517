import Dispatch.Worker.OutputHash
import Dispatch.Worker.Startup
import Dispatch.Worker.TaskExecutors

/-! # Jobs on a computer -/

namespace Dispatch.Worker

inductive Program
  | node (program : Startup.Program)
  | simulator
  deriving DecidableEq

def Program.kind : Program → Kind
  | .node .desktop => .desktop
  | .node .cli => .cli
  | .simulator => .simulator

/-! ## Executing -/

section Executing

variable {Number : Type} [JsNumber Number]

def payload? (msg : JobAssignMsg) (key : JsString) : Option (Json Number) :=
  (Json.parse msg.payload).bind fun payload =>
    (payload.get? key).filter Json.truthy

/-- `{ error: message }` -/
def errorOutput (message : JsString) : JsValue Number :=
  .object (.ofList [("error", .string message)])

abbrev Misfit := Except JsString JsString

inductive Begun (Number : Type)
  | output (output : JsValue Number)
  /-- It waits for `executeLLM`. -/
  | inferring (prompt : Json Number)
  | crashed

variable (language : Language Number) (misfit : Misfit) (msg : JobAssignMsg)

def executeValue (kind : Kind) (taskType input : Json Number) :
    Except JsString (JsValue Number) :=
  match taskType, input with
  | .string taskType, .string input =>
    .ok (.ofJson (executeTask language kind taskType input))
  | _, _ => misfit.map errorOutput

def caught : Except JsString (JsValue Number) → JsValue Number
  | .ok output => output
  | .error message => errorOutput message

def Startup.Program.beginJob (program : Startup.Program) : Begun Number :=
  match msg.jobType, payload? msg "task_type", payload? msg "input",
      payload? msg "prompt" with
  | .task, some taskType, some input, _ =>
    .output (caught (executeValue language misfit (Program.node program).kind
      taskType input))
  | .llmInfer, _, _, some prompt => .inferring prompt
  | _, _, _, _ => .output (errorOutput "Unsupported job payload")

def SeekerSimulator.beginJob : Begun Number :=
  match payload? msg "task_type", payload? msg "input" with
  | some taskType, some input =>
    match executeValue language misfit .simulator taskType input with
    | .ok output => .output output
    | .error _ => .crashed
  | _, _ => .output (errorOutput "Missing task_type or input")

def beginJob : Program → Begun Number
  | .node program => program.beginJob language misfit msg
  | .simulator => SeekerSimulator.beginJob language misfit msg

/-! ## Language models -/

inductive Inference (Number : Type)
  | ollama (response model : Option (Json Number))
  | stub

def lengthText? : Json Number → Option JsString
  | .string text => some (toString text.length : String)
  | .array items => some (toString items.toList.length : String)
  | value => Json.displayProperty? (value.get? "length")

def stubInfer? (prompt : Json Number) (jobId : String) :
    Option (JsValue Number) :=
  (lengthText? prompt).map fun length =>
    .object (.ofList [
      ("text", .string (("[STUB] Received prompt (" : String) ++ length ++
        JsString.ofString (" chars) for job " ++ jobId ++ ". In production, " ++
          "this would be processed by a local LLM via Ollama or a GPU " ++
          "worker."))),
      ("model", .string ("stub-v1" : String)),
      ("stub", .bool true)])

def infer (thrown : JsString) (prompt : Json Number) (jobId : String) :
    Inference Number → JsValue Number
  | .ollama response model =>
    .object (.ofList [("text", .ofProperty response),
      ("model", .ofProperty model)])
  | .stub => (stubInfer? prompt jobId).getD (errorOutput thrown)

inductive Executes (program : Program) (msg : JobAssignMsg) :
    JsValue Number → Prop
  | begun {misfit : Misfit} {output : JsValue Number}
      (begun : beginJob language misfit msg program = .output output) :
      Executes program msg output
  | inferred {misfit : Misfit} {prompt : Json Number}
      (begun : beginJob language misfit msg program = .inferring prompt)
      (thrown : JsString) (inference : Inference Number) :
      Executes program msg (infer thrown prompt msg.jobId inference)

variable {language misfit msg}

theorem beginJob_task {taskType input : JsString} (isTask : msg.jobType = .task)
    (typed : payload? msg "task_type" = some (.string taskType : Json Number))
    (given : payload? msg "input" = some (.string input : Json Number))
    (program : Program) :
    beginJob language misfit msg program =
      .output (.ofJson (executeTask language program.kind taskType input)) := by
  cases program with
  | node program =>
    rw [beginJob, Startup.Program.beginJob, isTask, typed, given]
    rfl
  | simulator =>
    rw [beginJob, SeekerSimulator.beginJob, typed, given]
    rfl

theorem Executes.task {program : Program} {output : JsValue Number}
    {taskType input : JsString} (isTask : msg.jobType = .task)
    (typed : payload? msg "task_type" = some (.string taskType : Json Number))
    (given : payload? msg "input" = some (.string input : Json Number))
    (executes : Executes language program msg output) :
    output = .ofJson (executeTask language program.kind taskType input) := by
  cases executes with
  | begun begun =>
    rw [beginJob_task isTask typed given] at begun
    cases begun
    rfl
  | inferred begun =>
    rw [beginJob_task isTask typed given] at begun
    cases begun

end Executing

/-! ## Answering -/

section Answering

variable {Number : Type} [JsNumber Number] [NumberToString Number]

theorem isSome_toJson?_ofJson (value : Json Number) :
    ((JsValue.ofJson value).toJson?).isSome = true := by
  cases value with
  | number value =>
    rw [JsValue.ofJson, JsValue.toJson?, JsValue.serialize]
    cases NumberToString.finite? value <;> rfl
  | _ => rfl

theorem written_of_begun {language : Language Number} {misfit : Misfit}
    {msg : JobAssignMsg} {program : Program} {output : JsValue Number}
    (begun : beginJob language misfit msg program = .output output) :
    output.toJson?.isSome = true := by
  have executed : ∀ kind taskType input value,
      executeValue language misfit kind taskType input = .ok value →
      value.toJson?.isSome = true := by
    intro kind taskType input value returned
    unfold executeValue at returned
    split at returned
    · cases returned
      exact isSome_toJson?_ofJson _
    · cases misfit with
      | error message => cases returned
      | ok message =>
        cases returned
        rfl
  cases program with
  | node program =>
    rw [beginJob, Startup.Program.beginJob] at begun
    split at begun
    · cases begun
      cases returned : executeValue language misfit
          (Program.node program).kind _ _ with
      | ok value => exact executed _ _ _ _ returned
      | error message => rfl
    · cases begun
    · cases begun
      rfl
  | simulator =>
    rw [beginJob, SeekerSimulator.beginJob] at begun
    split at begun
    · split at begun
      · next returned =>
          cases begun
          exact executed _ _ _ _ returned
      · cases begun
    · cases begun
      rfl

theorem infer_written (thrown : JsString) (prompt : Json Number)
    (jobId : String) (inference : Inference Number) :
    (infer thrown prompt jobId inference).toJson?.isSome = true := by
  cases inference with
  | ollama response model => rfl
  | stub =>
    rw [infer, stubInfer?]
    cases lengthText? prompt <;> rfl

theorem Executes.written {language : Language Number} {program : Program}
    {msg : JobAssignMsg} {output : JsValue Number}
    (executes : Executes language program msg output) :
    output.toJson?.isSome = true := by
  cases executes with
  | begun begun => exact written_of_begun begun
  | inferred begun thrown inference => exact infer_written _ _ _ _

variable {env : Coordinator.Environment} {crypto : Crypto}

def answer (builder : Builder env crypto) (completedAt jobId : String)
    (output : JsValue Number) : Option String :=
  (builder.build completedAt jobId output).bind JobCompleteMsg.stringify

def answerMsg (builder : Builder env crypto) (completedAt jobId text : String) :
    Dispatch.JobCompleteMsg where
  jobId := jobId
  output := some text
  receipt := some ((builder.receipt completedAt jobId text).typed jobId)
  receiptSignature := some (builder.sign (utf8
    ((builder.receipt completedAt jobId text).typed jobId).stringify))

theorem answer_reads (builder : Builder env crypto) (completedAt jobId : String)
    {output : JsValue Number} (written : output.toJson?.isSome = true) :
    ∃ wire text, answer builder completedAt jobId output = some wire ∧
      output.stringify = some text ∧
      Coordinator.Frame.ofText? Number wire =
        some (.jobComplete (answerMsg builder completedAt jobId text)) := by
  rcases Option.isSome_iff_exists.mp written with ⟨json, serialized⟩
  have outputText : output.stringify = some json.stringify := by
    rw [JsValue.stringify, serialized, Option.map_some]
  let msg := builder.message completedAt jobId output json.stringify
  have built : builder.build completedAt jobId output = some msg := by
    rw [builder.build_eq, outputText, Option.map_some]
  have sent := (msg.parse_stringify serialized).1
  refine ⟨(msg.toJson json).stringify, json.stringify, ?_, outputText, ?_⟩
  · rw [answer, built, Option.bind_some, sent]
  · rw [JobCompleteMsg.frame sent serialized rfl rfl]
    have signed : (msg.receipt.toJson : Json Number).stringify =
        ((builder.receipt completedAt jobId json.stringify).typed
          jobId).stringify := by
      rw [Receipt.toJson_eq rfl, Dispatch.Receipt.stringify_toJson]
      rfl
    have signature : msg.receiptSignature = builder.sign (utf8
        ((builder.receipt completedAt jobId json.stringify).typed
          jobId).stringify) :=
      congrArg (fun text => builder.sign (utf8 text)) signed
    rw [signature]
    rfl

end Answering

/-! ## Registering and staying alive -/

section Registering

variable {Number : Type}

/-- `capabilities`, as they are written. -/
def capabilityItems (capabilities : List JobType) : JsonItems Number :=
  .ofList (capabilities.map fun jobType => .string jobType.text)

def registerJson (msg : RegisterMsg) : Json Number :=
  .object (.ofList [
    ("type", .string ("register" : String)),
    ("provider_pubkey", .string msg.providerPubkey),
    ("provider_type", .string msg.providerType.text),
    ("capabilities", .array (capabilityItems msg.capabilities))])

def heartbeatJson (msg : HeartbeatMsg) : Json Number :=
  .object (.ofList [
    ("type", .string ("heartbeat" : String)),
    ("provider_pubkey", .string msg.providerPubkey)])

theorem capabilities?_capabilityItems (capabilities : List JobType) :
    Coordinator.Frame.capabilities?
      (capabilityItems capabilities : JsonItems Number) =
        some capabilities := by
  induction capabilities with
  | nil => rfl
  | cons jobType rest induction =>
    have known : JobType.ofText? jobType.text = some jobType := by
      cases jobType <;> decide
    rw [capabilityItems, List.map_cons, JsonItems.ofList,
      Coordinator.Frame.capabilities?, JsString.text?_ofString]
    rw [capabilityItems] at induction
    simp [known, induction]

private theorem register_keys : Properties.OrderedKeys
    ["type", "provider_pubkey", "provider_type", "capabilities"] := by
  decide +kernel

private theorem heartbeat_keys : Properties.OrderedKeys
    ["type", "provider_pubkey"] := by
  decide +kernel

variable [JsNumber Number]

theorem normal_capabilityItems (capabilities : List JobType) :
    Json.NormalItems (capabilityItems capabilities : JsonItems Number) := by
  induction capabilities with
  | nil => exact True.intro
  | cons jobType rest induction => exact ⟨True.intro, induction⟩

theorem register_reads (msg : RegisterMsg) :
    Coordinator.Frame.ofText? Number
        (registerJson msg : Json Number).stringify =
      some (.register msg) := by
  have normal : (registerJson msg : Json Number).Normal :=
    ⟨register_keys, True.intro, True.intro, True.intro,
      normal_capabilityItems msg.capabilities, True.intro⟩
  have type : Coordinator.Listener.messageType?
      (registerJson msg : Json Number) = some .register := rfl
  have pubkey : Coordinator.Frame.textProperty?
      (registerJson msg : Json Number) "provider_pubkey" =
        some msg.providerPubkey := JsString.text?_ofString _
  have providerType : Coordinator.Frame.textProperty?
      (registerJson msg : Json Number) "provider_type" =
        some msg.providerType.text := JsString.text?_ofString _
  have known : ProviderType.ofText? msg.providerType.text =
      some msg.providerType := by
    cases msg.providerType <;> decide
  have capabilities : (registerJson msg : Json Number).get? "capabilities" =
      some (.array (capabilityItems msg.capabilities)) := rfl
  rw [Coordinator.Frame.ofText?, Json.parse_stringify _ normal]
  show Coordinator.Frame.ofMessage? (registerJson msg) = _
  rw [Coordinator.Frame.ofMessage?, type]
  simp [pubkey, providerType, known, capabilities,
    capabilities?_capabilityItems]

theorem heartbeat_reads (msg : HeartbeatMsg) :
    Coordinator.Frame.ofText? Number
      (heartbeatJson msg : Json Number).stringify = some (.heartbeat msg) := by
  have normal : (heartbeatJson msg : Json Number).Normal :=
    ⟨heartbeat_keys, True.intro, True.intro, True.intro⟩
  have type : Coordinator.Listener.messageType?
      (heartbeatJson msg : Json Number) = some .heartbeat := rfl
  have pubkey : Coordinator.Frame.textProperty?
      (heartbeatJson msg : Json Number) "provider_pubkey" =
        some msg.providerPubkey := JsString.text?_ofString _
  rw [Coordinator.Frame.ofText?, Json.parse_stringify _ normal]
  show Coordinator.Frame.ofMessage? (heartbeatJson msg) = _
  rw [Coordinator.Frame.ofMessage?, type]
  simp [pubkey]

end Registering

end Dispatch.Worker
