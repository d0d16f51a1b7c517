import Dispatch.Coordinator.Settlement

/-! # Stored receipts

A row of the `receipts` table has the columns of the receipt that came in, and
a flag that says whether the receipt verified.
-/

namespace Dispatch.Coordinator.Server

open Sqlite Listener

section Presents

variable {Number : Type} [JsNumber Number] [SqlNumber Number]
  {env : RawEnvironment Number} {input : Input Number}
  {server next : Server Number}

inductive Presents (input : Input Number) (hub : Hub Number) :
    Json Number → Option (Json Number) → Option (Json Number) → Prop
  | submitted {ws : SocketId} {msg receipt : Json Number}
      (carries : Carries input ws .receiptSubmit msg)
      (submits : submitted? msg = some receipt) :
      Presents input hub receipt (msg.get? "signature")
        (submitterKey receipt hub)
  | bundled {ws : SocketId} {msg receipt signature : Json Number}
      {workerId jobId : String} {worker : RawWorker Number}
      (carries : Carries input ws .jobComplete msg)
      (found : hub.findByActiveJob (msg.get? "job_id") =
        some (workerId, worker))
      (active : worker.activeJobId = some jobId)
      (real : isDemoJob jobId = false)
      (bundle : bundled? msg = some (receipt, signature)) :
      Presents input hub receipt (some signature) worker.pubkey

omit [JsNumber Number] [SqlNumber Number] in
theorem drops_receipts (drops : Relation.ReflTransGen Drop server next) :
    next.hub.receipts = server.hub.receipts := by
  induction drops with
  | refl => rfl
  | tail _ drop induction =>
    rw [← induction]
    cases drop with
    | quiet quiet => exact quiet.receipts
    | jobless | failed => rfl

theorem Effect.receipts (effect : Effect env input server next) {id : String}
    {row : ReceiptRow} (stored : next.hub.receipts.get? id = some row) :
    server.hub.receipts.get? id = some row ∨ ∃ receipt signature pubkey,
      Presents input server.hub receipt signature pubkey ∧
        Columns env receipt signature pubkey row := by
  cases effect with
  | quiet quiet => exact .inl (quiet.receipts ▸ stored)
  | register _ quiet => exact .inl (quiet.receipts ▸ stored)
  | receipt carries submits inserted =>
    rcases columns_of_storeReceipt inserted with
      ⟨added, columns, _, _, rfl⟩
    rw [withReceipts, OrderedMap.get?_set] at stored
    split at stored
    · cases stored
      exact .inr ⟨_, _, _, .submitted carries submits, columns⟩
    · exact .inl stored
  | complete carries found holds real written =>
    rcases storeResult_tables written with ⟨receipts, rfl, bundle⟩
    change receipts.get? id = some row at stored
    split at bundle
    · exact .inl (bundle ▸ stored)
    · next receipt signature bundled =>
        rcases columns_of_storeReceipt bundle with
          ⟨added, columns, _, _, rfl⟩
        rw [OrderedMap.get?_set] at stored
        split at stored
        · cases stored
          exact .inr ⟨_, _, _,
            .bundled carries found holds.active real bundled, columns⟩
        · exact .inl stored
  | completeDemo | reject | rejectDemo | demo => exact .inl stored
  | dropped drops => exact .inl (drops_receipts drops ▸ stored)
  | commit _ _ _ _ _ routed => cases routed <;> exact .inl stored
  | tick _ _ ticked => cases ticked <;> exact .inl stored

theorem Columns.valid {receipt : Json Number}
    {signature pubkey : Option (Json Number)} {row : ReceiptRow}
    (columns : Columns env receipt signature pubkey row)
    (verified : row.verified = true) :
    isValid? env receipt signature pubkey = some true := by
  have verifies := columns.verified
  rw [verified, verifyReceiptSignature] at verifies
  split at verifies
  · assumption
  · split at verifies <;> cases verifies

/-! ## Rows that verify again -/

def Reverifies (env : RawEnvironment Number) (row : ReceiptRow) : Prop :=
  env.verifyDetached row.receiptJson (env.base64Bytes row.signature)
    (WorkerHub.hexBytes row.providerPubkey.toList) = some true

instance (env : RawEnvironment Number) (row : ReceiptRow) :
    Decidable (Reverifies env row) :=
  inferInstanceAs (Decidable (_ = _))

def ReceiptsReverify (env : RawEnvironment Number) (server : Server Number) :
    Prop :=
  ∀ id row, server.hub.receipts.get? id = some row → row.verified = true →
    Reverifies env row

def NamesSigner (env : RawEnvironment Number) (receipt : Json Number)
    (signature : Option (Json Number)) : Prop :=
  ∃ key text : JsString, receipt.get? "provider_pubkey" = some (.string key) ∧
    signature = some (.string text) ∧
    isValid? env receipt signature (some (.string key)) = some true

def PresentsSigned (env : RawEnvironment Number) (server : Server Number)
    (input : Input Number) : Prop :=
  ∀ receipt signature pubkey,
    Presents input server.hub receipt signature pubkey →
    isValid? env receipt signature pubkey = some true →
    NamesSigner env receipt signature

theorem reverifies_of_columns {receipt : Json Number}
    {signature pubkey : Option (Json Number)} {row : ReceiptRow}
    (columns : Columns env receipt signature pubkey row)
    (names : NamesSigner env receipt signature) : Reverifies env row := by
  rcases names with ⟨key, text, named, rfl, valid⟩
  have bound : bindParameters 4
      (receiptArguments receipt (some (.string text))) =
        (bindOne (receipt.get? "job_id")).map fun value =>
          [value, .text key.toText,
            .text (JsString.ofString receipt.stringify).toText,
            .text text.toText] := by
    rw [receiptArguments, named]
    exact bindParameters_strings [] [key, .ofString receipt.stringify, text] _
  have stored := bound.symm.trans columns.bound
  cases one : bindOne (receipt.get? "job_id") with
  | error error => rw [one] at stored; cases stored
  | ok value =>
    rw [one, Except.map, Except.ok.injEq] at stored
    simp only [List.cons.injEq, Value.text.injEq, and_true] at stored
    rcases stored with ⟨_, isKey, isText, isSignature⟩
    rw [JsString.toText_ofString] at isText
    rw [Reverifies, ← isKey, ← isText, ← isSignature]
    exact valid

structure PolledReceipt (Number : Type) where
  receipt : Json Number
  signature : String
  verified : Bool

structure PolledJob (Number : Type) where
  id : String
  status : JobStatus
  result : Json Number
  receipt : Option (PolledReceipt Number)
  createdAt : Nat
  completedAt : Option Nat

inductive PollError
  | notFound
  /-- The `SyntaxError` of `JSON.parse`. -/
  | notJson
  deriving DecidableEq, Repr

def parseColumn (text : String) : Except PollError (Json Number) :=
  match Json.parse text with
  | none => .error .notJson
  | some value => .ok value

def polledReceipt (stored : ReceiptRow) :
    Except PollError (PolledReceipt Number) := do
  let receipt ← parseColumn stored.receiptJson
  return { receipt := receipt, signature := stored.signature,
           verified := stored.verified }

def receiptsOf (server : Server Number) (jobId : String) : List ReceiptRow :=
  server.hub.receipts.values.filter fun row => row.jobId = jobId

def attachedReceipt (server : Server Number)
    (selectRow : List ReceiptRow → Option ReceiptRow) (jobId : String)
    (status : JobStatus) : Except PollError (Option (PolledReceipt Number)) :=
  if status = .completed then
    match selectRow (server.receiptsOf jobId) with
    | none => .ok none
    | some stored => (polledReceipt stored).map some
  else
    .ok none

def storedResult (row : JobRow) : Except PollError (Json Number) :=
  match row.result.filter (· ≠ "") with
  | some text => parseColumn text
  | none => .ok .null

/-- `GET /v1/jobs/:id` -/
def pollJob (selectRow : List ReceiptRow → Option ReceiptRow) (jobId : String)
    (server : Server Number) : Except PollError (PolledJob Number) :=
  match server.hub.jobs.get? jobId with
  | none => .error .notFound
  | some row => do
    let receipt ← server.attachedReceipt selectRow jobId row.status
    let result ← storedResult row
    return { id := jobId, status := row.status, result := result,
             receipt := receipt, createdAt := row.createdAt,
             completedAt := row.completedAt }

structure Attests (sha256Hex : String → String) (jobId : String)
    (payee : Option String) (result : Option JsonText)
    (receipt : Json Number) : Prop where
  job : receipt.get? "job_id" = some (.string jobId)
  worker : ∃ key, payee = some key ∧
    receipt.get? "provider_pubkey" = some (.string key)
  output : ∃ text, result = some text ∧
    receipt.get? "output_hash" = some (.string (sha256Hex text))

def PollsAttest (sha256Hex : String → String) (server : Server Number) :
    Prop :=
  ∀ selectRow : List ReceiptRow → Option ReceiptRow,
    (∀ rows row, selectRow rows = some row → row ∈ rows) →
    ∀ jobId job polled, server.pollJob selectRow jobId = .ok job →
      job.status = .completed → job.receipt = some polled →
      polled.verified = true →
      ∃ row, server.hub.jobs.get? jobId = some row ∧
        Attests sha256Hex jobId row.workerPubkey row.result polled.receipt

structure Completes (input : Input Number) (server : Server Number)
    (jobId : String) (payee : Option String) (result : Option JsonText) :
    Prop where
  carries : ∃ ws msg workerId worker, Carries input ws .jobComplete msg ∧
    server.hub.findByActiveJob (msg.get? "job_id") = some (workerId, worker) ∧
    worker.activeJobId = some jobId ∧
    result = (msg.get? "output").map Json.stringify
  real : isDemoJob jobId = false
  assigned : server.assignedTo jobId = some payee

inductive Joins (env : RawEnvironment Number) (input : Input Number)
    (server : Server Number) :
    ReceiptRow → Option String → Option JsonText → Prop
  | late {receipt : Json Number} {signature pubkey : Option (Json Number)}
      {row : ReceiptRow} {payee : Option String} {result : Option JsonText}
      (presents : Presents input server.hub receipt signature pubkey)
      (columns : Columns env receipt signature pubkey row)
      (finished : server.finished row.jobId = some (payee, result)) :
      Joins env input server row payee result
  | early {id : String} {row : ReceiptRow} {payee : Option String}
      {result : Option JsonText}
      (stored : server.hub.receipts.get? id = some row)
      (completes : Completes input server row.jobId payee result) :
      Joins env input server row payee result
  | bundled {receipt : Json Number} {signature pubkey : Option (Json Number)}
      {row : ReceiptRow} {payee : Option String} {result : Option JsonText}
      (presents : Presents input server.hub receipt signature pubkey)
      (columns : Columns env receipt signature pubkey row)
      (completes : Completes input server row.jobId payee result) :
      Joins env input server row payee result

def JoinsAttesting (env : RawEnvironment Number) (sha256Hex : String → String)
    (server : Server Number) (input : Input Number) : Prop :=
  ∀ row payee result (receipt : Json Number),
    Joins env input server row payee result → row.verified = true →
    Json.parse row.receiptJson = some receipt →
    Attests sha256Hex row.jobId payee result receipt

def StoredAttest (sha256Hex : String → String) (server : Server Number) :
    Prop :=
  ∀ id row payee result (receipt : Json Number),
    server.hub.receipts.get? id = some row → row.verified = true →
    server.finished row.jobId = some (payee, result) →
    Json.parse row.receiptJson = some receipt →
    Attests sha256Hex row.jobId payee result receipt

theorem Settles.completes {jobId : String} {payee : Option String}
    {result : Option JsonText} (settles : Settles env input server next)
    (custody : Custody server)
    (finished : next.finished jobId = some (payee, result)) :
    server.finished jobId = some (payee, result) ∨
      Completes input server jobId payee result := by
  cases settles with
  | none _ same => exact .inl ((same jobId).symm.trans finished)
  | @complete ws msg workerId active worker hub carries found holds real
      written ends =>
      subst ends
      have completed := (finished_completed custody holds real written
        jobId).symm.trans finished
      split at completed
      · next same =>
          subst same
          rcases Option.map_eq_some_iff.mp completed with
            ⟨key, assigned, pair⟩
          cases pair
          exact .inr ⟨⟨ws, msg, workerId, worker, carries, found, holds.active,
            rfl⟩, real, assigned⟩
      · exact .inl completed
  | completeDemo _ _ _ _ ends => subst ends; exact .inl finished

theorem step_storedAttest {sha256Hex : String → String}
    (attests : StoredAttest sha256Hex server) (custody : Custody server)
    (effect : Effect env input server next)
    (joins : JoinsAttesting env sha256Hex server input) :
    StoredAttest sha256Hex next := by
  intro id row payee result receipt stored verified finished parsed
  rcases effect.receipts stored with
    before | ⟨_, _, _, presents, columns⟩ <;>
    rcases (effect.settles custody).completes custody finished with
      earlier | completes
  · exact attests id row payee result receipt before verified earlier parsed
  · exact joins row _ _ _ (.early before completes) verified parsed
  · exact joins row _ _ _ (.late presents columns earlier) verified parsed
  · exact joins row _ _ _ (.bundled presents columns completes) verified parsed

omit [SqlNumber Number] in
theorem pollJob_ok {selectRow : List ReceiptRow → Option ReceiptRow}
    {jobId : String} {job : PolledJob Number}
    (polls : server.pollJob selectRow jobId = .ok job) :
    ∃ row, server.hub.jobs.get? jobId = some row ∧ job.status = row.status ∧
      server.attachedReceipt selectRow jobId row.status = .ok job.receipt := by
  unfold pollJob at polls
  cases found : server.hub.jobs.get? jobId with
  | none => rw [found] at polls; cases polls
  | some row =>
    rw [found] at polls
    dsimp only [bind, Except.bind] at polls
    cases attached : server.attachedReceipt selectRow jobId row.status with
    | error error => rw [attached] at polls; cases polls
    | ok receipt =>
      rw [attached] at polls
      cases parsed : (storedResult row : Except _ (Json Number)) with
      | error error => rw [parsed] at polls; cases polls
      | ok result =>
        rw [parsed] at polls
        cases polls
        exact ⟨row, rfl, rfl, attached⟩

omit [SqlNumber Number] in
theorem pollJob_completed {selectRow : List ReceiptRow → Option ReceiptRow}
    {jobId : String} {row : JobRow} {stored : ReceiptRow}
    {receipt result : Json Number}
    (found : server.hub.jobs.get? jobId = some row)
    (completed : row.status = .completed)
    (selected : selectRow (server.receiptsOf jobId) = some stored)
    (parsed : Json.parse stored.receiptJson = some receipt)
    (shown : storedResult row = .ok result) :
    server.pollJob selectRow jobId = .ok
      { id := jobId, status := .completed, result := result,
        receipt := some { receipt := receipt, signature := stored.signature,
                          verified := stored.verified },
        createdAt := row.createdAt, completedAt := row.completedAt } := by
  simp only [pollJob, found, attachedReceipt, completed, if_pos, selected,
    polledReceipt, parseColumn, parsed, shown]
  rfl

omit [SqlNumber Number] in
theorem attachedReceipt_some {selectRow : List ReceiptRow → Option ReceiptRow}
    {jobId : String} {status : JobStatus} {polled : PolledReceipt Number}
    (attached : server.attachedReceipt selectRow jobId status =
      .ok (some polled)) :
    ∃ stored, selectRow (server.receiptsOf jobId) = some stored ∧
      Json.parse stored.receiptJson = some polled.receipt ∧
      polled.verified = stored.verified := by
  unfold attachedReceipt at attached
  split at attached
  · split at attached
    · cases attached
    · next stored selected =>
        rw [polledReceipt, parseColumn] at attached
        cases parsed : (Json.parse stored.receiptJson :
            Option (Json Number)) with
        | none => rw [parsed] at attached; cases attached
        | some receipt =>
          rw [parsed] at attached
          cases attached
          exact ⟨stored, selected, parsed, rfl⟩
  · cases attached

omit [SqlNumber Number] in
theorem StoredAttest.polls {sha256Hex : String → String}
    (attests : StoredAttest sha256Hex server) :
    PollsAttest sha256Hex server := by
  intro selectRow selects jobId job polled polls completed attached verified
  rcases pollJob_ok polls with ⟨row, found, status, rows⟩
  rw [attached] at rows
  rcases attachedReceipt_some rows with ⟨stored, selected, parsed, flag⟩
  have member := List.mem_filter.mp (selects _ _ selected)
  rcases (OrderedMap.mem_values_iff ..).mp member.1 with ⟨id, isStored⟩
  have same : stored.jobId = jobId := of_decide_eq_true member.2
  have finished : server.finished jobId = some (row.workerPubkey, row.result) :=
    finished_iff.mpr ⟨row, found, status ▸ completed, rfl, rfl⟩
  subst same
  exact ⟨row, found, attests id stored _ _ _ isStored (flag ▸ verified) finished
    parsed⟩

/-- In every run in which verified receipts and completed jobs are brought
together only where they match, that is all a poll shows. -/
theorem polled_receipts_attest (sha256Hex : String → String)
    {events : List (Input Number)} {final : Server Number}
    (run : (machine env).Run initial events final)
    (joins : (machine env).Steps (JoinsAttesting env sha256Hex) initial
      events) :
    (machine env).Along (PollsAttest sha256Hex) initial events := by
  have along : (machine env).Along (StoredAttest sha256Hex) initial events := by
    refine run.along ?_ .start ?_ joins
    · intro server input reachable attests _ joins
      have issued : StoredAttest sha256Hex (server.issue input.uuid) := attests
      refine step_storedAttest issued ((custody reachable).issue input.uuid)
        (step_effect env server input) ?_
      intro row payee result receipt joined
      refine joins row payee result receipt ?_
      cases joined with
      | late presents columns finished =>
        exact .late presents columns finished
      | early stored completes =>
        exact .early stored ⟨completes.carries, completes.real,
          completes.assigned⟩
      | bundled presents columns completes =>
        exact .bundled presents columns ⟨completes.carries, completes.real,
          completes.assigned⟩
    · intro id row payee result receipt stored
      cases stored
  exact along.mono fun _ => StoredAttest.polls

/-! ## A worker's own receipt -/

omit [SqlNumber Number] in
theorem carries_stringify {ws other : SocketId} {type : MessageType}
    {msg sent : Json Number} (carries : Carries input ws type msg)
    (framed : input.event = .frame other sent.stringify)
    (normal : sent.Normal) : msg = sent := by
  rcases carries.event with ⟨text, event, parsed⟩
  cases framed.symm.trans event
  exact Option.some.inj (parsed.symm.trans (Json.parse_stringify sent normal))

omit [JsNumber Number] [SqlNumber Number] in
theorem issue_hub (server : Server Number) (uuid : Uuid) :
    (server.issue uuid).hub = server.hub :=
  rfl

theorem step_carried {ws : SocketId} {type : MessageType} {msg : Json Number}
    (carries : Carries input ws type msg) :
    (machine env).step server input =
      ((handleMessage env input.now input.uuid ws msg).run
        (server.issue input.uuid)).2 :=
  congrArg Prod.snd (run_carried carries)

def Unrelated (input : Input Number) : Prop :=
  ∀ ws msg, ¬ Carries input ws .receiptSubmit msg ∧
    ¬ Carries input ws .jobComplete msg

omit [SqlNumber Number] in
theorem Unrelated.not_presents {hub : Hub Number} {receipt : Json Number}
    {signature pubkey : Option (Json Number)} (unrelated : Unrelated input) :
    ¬ Presents input hub receipt signature pubkey := by
  intro presents
  cases presents with
  | submitted carries => exact (unrelated _ _).1 carries
  | bundled carries => exact (unrelated _ _).2 carries

theorem Unrelated.joinsAttesting {sha256Hex : String → String}
    (unrelated : Unrelated input) :
    JoinsAttesting env sha256Hex server input := by
  intro row payee result receipt joins
  cases joins with
  | late presents => exact absurd presents unrelated.not_presents
  | bundled presents => exact absurd presents unrelated.not_presents
  | early _ completes =>
    rcases completes.carries with ⟨ws, msg, _, _, carries, _⟩
    exact absurd carries (unrelated ws msg).2

omit [SqlNumber Number] in
theorem unrelated_of_type {ws : SocketId} {text : String} {type : MessageType}
    (framed : input.event = .frame ws text)
    (typed : (Json.parse text : Option (Json Number)).bind messageType? =
      some type) (other : type ≠ .receiptSubmit ∧ type ≠ .jobComplete) :
    Unrelated input := by
  have only : ∀ ws msg kind, Carries input ws kind msg → kind = type := by
    rintro _ msg kind ⟨⟨_, event, parsed⟩, isType⟩
    cases framed.symm.trans event
    rw [parsed, Option.bind_some] at typed
    exact Option.some.inj (isType.symm.trans typed)
  exact fun ws msg => ⟨fun carries => other.1 (only _ _ _ carries).symm,
    fun carries => other.2 (only _ _ _ carries).symm⟩

omit [SqlNumber Number] in
theorem unrelated_of_other (other : ∀ ws text, input.event ≠ .frame ws text) :
    Unrelated input := by
  have none : ∀ ws msg kind, ¬ Carries input ws kind msg := by
    rintro ws msg kind ⟨⟨text, event, _⟩, _⟩
    exact other ws text event
  exact fun ws msg => ⟨none ws msg _, none ws msg _⟩

end Presents

namespace Sample

def keyRegistration : String :=
  "\x7b\"type\":\"register\",\"provider_pubkey\":\"" ++
    Coordinator.Sample.pubkey ++
    "\",\"provider_type\":\"DESKTOP\",\"capabilities\":[\"TASK\"]\x7d"

def serving : List (Input Empty) :=
  [at0 Coordinator.Sample.extraUuid (.connect 0),
    at0 Coordinator.Sample.workerUuid (.frame 0 keyRegistration),
    at0 Coordinator.Sample.jobUuid (.commit .fast (some (body .nil)))]

def serves : Server Empty :=
  (machine Listener.Sample.environment).exec initial serving

def result (pubkey signature : String) : Json Empty :=
  .object (.cons "type" (.string "job_complete")
    (.cons "job_id" (.string Coordinator.Sample.jobUuid.text)
    (.cons "output" (.object .nil)
    (.cons "receipt" (Coordinator.Sample.receipt pubkey).toJson
    (.cons "receipt_signature" (.string signature) .nil)))))

def delivers (pubkey signature : String) : Input Empty :=
  at0 Coordinator.Sample.otherUuid
    (.frame 0 (result pubkey signature).stringify)

def delivered (pubkey signature : String) : Server Empty :=
  (machine Listener.Sample.environment).exec initial
    (serving ++ [delivers pubkey signature])

theorem serving_unrelated :
    (machine Listener.Sample.environment).Steps (fun _ input =>
      Unrelated input) initial serving := by
  have typed : (Json.parse keyRegistration : Option (Json Empty)).bind
      messageType? = some .register := by
    decide +kernel
  refine ⟨unrelated_of_other ?_, unrelated_of_type rfl typed (by decide),
    unrelated_of_other ?_, trivial⟩
  · intro ws text event
    cases event
  · intro ws text event
    cases event

theorem serves_facts :
    serves.hub.receipts.values = [] ∧
      (serves.hub.jobs.values.all fun row => row.status ≠ .completed) = true ∧
      serves.assignedTo Coordinator.Sample.jobUuid.text =
        some (some Coordinator.Sample.pubkey) := by
  decide +kernel

theorem serves_unstored (id : String) (row : ReceiptRow) :
    serves.hub.receipts.get? id ≠ some row := by
  intro stored
  have member := (OrderedMap.mem_values_iff ..).mpr ⟨_, stored⟩
  rw [serves_facts.1] at member
  cases member

theorem serves_unfinished (jobId : String) : serves.finished jobId = none := by
  cases found : serves.hub.jobs.get? jobId with
  | none => rw [finished, found]; rfl
  | some row =>
    have member := (OrderedMap.mem_values_iff ..).mpr ⟨_, found⟩
    have status := List.all_eq_true.mp serves_facts.2.1 row member
    exact finished_of_status found (of_decide_eq_true status)

theorem result_normal (pubkey signature : String) :
    (result pubkey signature).Normal := by
  have keys : Properties.OrderedKeys ["type", "job_id", "output", "receipt",
      "receipt_signature"] := by
    decide +kernel
  have none : Properties.OrderedKeys [] := by decide
  exact ⟨keys, trivial, trivial, ⟨none, trivial⟩,
    (Coordinator.Sample.receipt pubkey).toJson_normal, trivial, trivial⟩

theorem delivers_carries (pubkey signature : String) :
    Carries (delivers pubkey signature) 0 .jobComplete
      (result pubkey signature) :=
  ⟨⟨_, rfl, Json.parse_stringify _ (result_normal ..)⟩, rfl⟩

theorem delivered_step (pubkey signature : String) :
    delivered pubkey signature =
      (machine Listener.Sample.environment).step serves
        (delivers pubkey signature) := by
  rw [delivered, Machine.exec, List.foldl_append]
  rfl

theorem delivered_eq (pubkey signature : String) :
    delivered pubkey signature =
      ((handleMessage Listener.Sample.environment 0
        Coordinator.Sample.otherUuid 0 (result pubkey signature)).run
        (serves.issue Coordinator.Sample.otherUuid)).2 :=
  (delivered_step pubkey signature).trans
    (step_carried (delivers_carries pubkey signature))

theorem delivers_enabled (pubkey signature : String) :
    (machine Listener.Sample.environment).Steps
      (machine Listener.Sample.environment).Enabled initial
      (serving ++ [delivers pubkey signature]) := by
  have others : ∀ (server : Server Empty) uuid text other,
      (machine Listener.Sample.environment).Enabled server
        (at0 uuid (.frame 0 text)) →
      (machine Listener.Sample.environment).Enabled server
        (at0 uuid (.frame 0 other)) := fun _ _ _ _ enabled => enabled
  have enabled : (machine Listener.Sample.environment).Steps
      (machine Listener.Sample.environment).Enabled initial
      (serving ++ [at0 Coordinator.Sample.otherUuid (.frame 0 "")]) := by
    decide +kernel
  exact ⟨enabled.1, enabled.2.1, enabled.2.2.1,
    others _ _ _ _ enabled.2.2.2.1, trivial⟩

section Delivery

variable {pubkey signature : String}
  (bundle : bundled? (result pubkey signature) =
    some ((Coordinator.Sample.receipt pubkey).toJson, .string signature))

include bundle

theorem delivers_presents {hub : Hub Empty} {receipt : Json Empty}
    {signed key : Option (Json Empty)}
    (presents : Presents (delivers pubkey signature) hub receipt signed key) :
    receipt = (Coordinator.Sample.receipt pubkey).toJson ∧
      signed = some (.string signature) := by
  cases presents with
  | submitted carries =>
    cases carries_stringify carries rfl (result_normal ..)
    cases carries.typed
  | bundled carries _ _ _ bundled =>
    cases carries_stringify carries rfl (result_normal ..)
    cases bundle.symm.trans bundled
    exact ⟨rfl, rfl⟩

theorem delivers_columns {hub : Hub Empty} {receipt : Json Empty}
    {signed key : Option (Json Empty)} {row : ReceiptRow}
    (presents : Presents (delivers pubkey signature) hub receipt signed key)
    (columns : Columns Listener.Sample.environment receipt signed key row) :
    row.jobId = Coordinator.Sample.jobUuid.text ∧
      Json.parse row.receiptJson = some
        ((Coordinator.Sample.receipt pubkey).toJson : Json Empty) := by
  rcases delivers_presents bundle presents with ⟨rfl, rfl⟩
  have read : Frame.receipt? ((Coordinator.Sample.receipt pubkey).toJson :
      Json Empty) = some (Coordinator.Sample.receipt pubkey) := by
    rw [Frame.receipt?, Receipt.ofJson?_toJson, Option.filter_some,
      Receipt.stringify, decide_eq_true rfl, if_pos rfl]
  have bound := (bindParameters_receipt read signature).symm.trans
    columns.bound
  simp only [Except.ok.injEq, List.cons.injEq, Value.text.injEq,
    and_true] at bound
  rw [← bound.1, ← bound.2.2.1]
  exact ⟨rfl, Json.parse_stringify _ (Coordinator.Sample.receipt
    pubkey).toJson_normal⟩

theorem delivered_row {id : String} {row : ReceiptRow}
    (stored : (delivered pubkey signature).hub.receipts.get? id = some row) :
    row.jobId = Coordinator.Sample.jobUuid.text ∧
      Json.parse row.receiptJson = some
        ((Coordinator.Sample.receipt pubkey).toJson : Json Empty) := by
  rw [delivered_step] at stored
  rcases (step_effect Listener.Sample.environment serves
    (delivers pubkey signature)).receipts stored with
    before | ⟨_, _, _, presents, columns⟩
  · rw [issue_hub] at before
    exact absurd before (serves_unstored id row)
  · exact delivers_columns bundle presents columns

end Delivery

theorem own_bundle :
    bundled? (result Coordinator.Sample.pubkey Coordinator.Sample.signature) =
      some ((Coordinator.Sample.receipt Coordinator.Sample.pubkey).toJson,
        .string Coordinator.Sample.signature) :=
  rfl

theorem foreign_bundle :
    bundled? (result Coordinator.Sample.otherPubkey
        Coordinator.Sample.foreignSignature) =
      some ((Coordinator.Sample.receipt
        Coordinator.Sample.otherPubkey).toJson,
        .string Coordinator.Sample.foreignSignature) :=
  rfl

def forged : Server Empty :=
  delivered Coordinator.Sample.otherPubkey Coordinator.Sample.foreignSignature

theorem own_facts :
    ((delivered Coordinator.Sample.pubkey
      Coordinator.Sample.signature).hub.receipts.values.map fun row =>
        (row.jobId, row.providerPubkey, row.verified)) =
      [(Coordinator.Sample.jobUuid.text, Coordinator.Sample.pubkey, true)] := by
  rw [delivered_eq]
  decide +kernel

theorem forged_facts :
    (forged.hub.jobs.get? Coordinator.Sample.jobUuid.text).map (fun row =>
        (row.status, row.workerPubkey, row.result)) =
        some (.completed, some Coordinator.Sample.pubkey,
          some "\x7b\x7d") ∧
      (forged.hub.receipts.values.map fun row =>
        (row.providerPubkey, row.verified)) =
        [(Coordinator.Sample.otherPubkey, true)] ∧
      (forged.receiptsOf Coordinator.Sample.jobUuid.text).head?.any
        (fun row => row.verified &&
          decide (¬ Reverifies Listener.Sample.environment row)) = true := by
  rw [forged, delivered_eq]
  decide +kernel

theorem forged_row : ∃ id row,
    (forged.receiptsOf Coordinator.Sample.jobUuid.text).head? = some row ∧
      forged.hub.receipts.get? id = some row ∧ row.verified = true ∧
      ¬ Reverifies Listener.Sample.environment row ∧
      Json.parse row.receiptJson = some ((Coordinator.Sample.receipt
        Coordinator.Sample.otherPubkey).toJson : Json Empty) := by
  rcases (Option.any_eq_true ..).mp forged_facts.2.2 with ⟨row, isHead, facts⟩
  rw [Bool.and_eq_true, decide_eq_true_eq] at facts
  have member := List.mem_filter.mp (List.mem_of_head? isHead)
  rcases (OrderedMap.mem_values_iff ..).mp member.1 with ⟨id, stored⟩
  have isDelivered := stored
  unfold forged at isDelivered
  exact ⟨id, row, isHead, stored, facts.1, facts.2,
    (delivered_row foreign_bundle isDelivered).2⟩

theorem keys_differ :
    (Coordinator.Sample.receipt Coordinator.Sample.otherPubkey
      |>.toJson : Json Empty).get? "provider_pubkey" ≠
      some (.string Coordinator.Sample.pubkey) := by
  intro named
  have same := Json.string.inj (Option.some.inj named)
  revert same
  decide +kernel

end Sample

theorem polled_receipts_attest_own :
    ((Sample.delivered Coordinator.Sample.pubkey
      Coordinator.Sample.signature).hub.receipts.values.map fun row =>
        (row.jobId, row.providerPubkey, row.verified)) =
        [(Coordinator.Sample.jobUuid.text, Coordinator.Sample.pubkey, true)] ∧
      (machine Listener.Sample.environment).Along
        (PollsAttest Coordinator.Sample.sha256Hex) initial
        (Sample.serving ++ [Sample.delivers Coordinator.Sample.pubkey
          Coordinator.Sample.signature]) := by
  rcases Sample.serving_unrelated with ⟨connects, registers, commits, _⟩
  refine ⟨Sample.own_facts, polled_receipts_attest _
    (.of_steps (Sample.delivers_enabled ..)) (.append
      ⟨connects.joinsAttesting, registers.joinsAttesting,
        commits.joinsAttesting, trivial⟩ ⟨?_, trivial⟩)⟩
  change JoinsAttesting _ _ Sample.serves _
  intro row payee result receipt joins _ parsed
  cases joins with
  | late _ _ finished =>
    cases (Sample.serves_unfinished row.jobId).symm.trans finished
  | early stored => exact absurd stored (Sample.serves_unstored _ row)
  | bundled presents columns completes =>
    rcases Sample.delivers_columns Sample.own_bundle presents columns with
      ⟨isJob, isReceipt⟩
    cases isReceipt.symm.trans parsed
    rcases completes.carries with ⟨ws, msg, _, _, carries, _, _, output⟩
    cases carries_stringify carries rfl (Sample.result_normal ..)
    have named := completes.assigned
    rw [isJob] at named ⊢
    cases Sample.serves_facts.2.2.symm.trans named
    exact ⟨rfl, ⟨_, rfl, rfl⟩, ⟨"\x7b\x7d", output, rfl⟩⟩

theorem polled_receipt_of_another :
    (machine Listener.Sample.environment).Reachable Sample.forged ∧
      (∃ row job polled, Sample.forged.hub.jobs.get?
          Coordinator.Sample.jobUuid.text = some row ∧
        row.workerPubkey = some Coordinator.Sample.pubkey ∧
        Sample.forged.pollJob List.head? Coordinator.Sample.jobUuid.text =
          .ok job ∧ job.status = .completed ∧ job.receipt = some polled ∧
        polled.verified = true ∧ polled.receipt.get? "provider_pubkey" =
          some (.string Coordinator.Sample.otherPubkey)) ∧
      ¬ PollsAttest Coordinator.Sample.sha256Hex Sample.forged := by
  rcases Option.map_eq_some_iff.mp Sample.forged_facts.1 with
    ⟨row, found, facts⟩
  rw [Prod.mk.injEq, Prod.mk.injEq] at facts
  rcases Sample.forged_row with ⟨_, stored, selected, _, verified, _, parsed⟩
  have shown : (storedResult row : Except PollError (Json Empty)) =
      .ok (.object .nil) := by
    rw [storedResult, facts.2.2]
    rfl
  have polls := pollJob_completed found facts.1 selected parsed shown
  refine ⟨⟨_, .of_steps (Sample.delivers_enabled ..)⟩, ⟨row, _, _, found,
    facts.2.1, polls, rfl, rfl, verified, rfl⟩, ?_⟩
  intro attest
  rcases attest _ (fun _ _ => List.mem_of_head?) _ _ _ polls rfl rfl
    verified with ⟨other, isRow, attests⟩
  rcases attests.worker with ⟨key, payee, named⟩
  cases found.symm.trans isRow
  cases facts.2.1.symm.trans payee
  exact Sample.keys_differ named

end Dispatch.Coordinator.Server
