import Dispatch.Deployment.Network

/-! # Results in a deployment

What the coordinator lets through on trust holds as long as the processes on
its sockets are those of the repository.
-/

namespace Dispatch.Deployment

open Coordinator WorkerHub Worker

section Results

variable {env : Environment} {crypto : Crypto} {Number : Type}
  [JsNumber Number] [NumberToString Number] {language : Worker.Language Number}
  {network : Network env crypto Number}

/-! ## Completing a job -/

structure AnsweredBy (language : Worker.Language Number)
    (network : Network env crypto Number) (worker : TrackedWorker)
    (msg : Dispatch.JobCompleteMsg) (process : Process env crypto Number)
    (assigned : JobAssignMsg) (output : JsValue Number) : Prop where
  running : network.processes.get? worker.ws = some process
  key : process.config.pubkeyHex = worker.pubkey
  told : network.coordinator.Told worker.ws assigned
  executes : Executes language process.config.program assigned output
  answer : ∃ completedAt text, output.stringify = some text ∧
    msg = answerMsg process.config.builder completedAt assigned.jobId text
  sent : ∃ wire ∈ process.sent, Answers process.config assigned output wire

theorem Given.completes (sound : Sound language network) {now : Nat}
    {uuid : Uuid} {event : Coordinator.Event}
    (given : Given language network event) {msg : Dispatch.JobCompleteMsg}
    {worker : TrackedWorker}
    (completes : Completes network.coordinator ⟨now, uuid, event⟩ msg worker) :
    ∃ process assigned output,
      AnsweredBy language network worker msg process assigned output := by
  rcases completes.event with ⟨ws, is⟩
  rcases completes.holds with ⟨workerId, holds⟩
  cases given with
  | served served =>
    cases is
    cases served
  | connect => cases is
  | @frame ws process frame running _ wire sent reads =>
    cases is
    cases (sound.processes running).honest.sent wire sent with
    | register =>
      rw [register_reads] at reads
      cases reads
    | heartbeat =>
      rw [heartbeat_reads] at reads
      cases reads
    | @answer assigned output _ told executes answers =>
      rcases answers.reads with ⟨completedAt, text, written, asSent⟩
      rw [asSent, Option.some.injEq] at reads
      cases reads
      have sameWs : worker.ws = ws :=
        (sound.tells.telling told).holder holds
      rcases sound.owners holds.tracked with ⟨owner, owned, key⟩
      rw [sameWs, running, Option.some.injEq] at owned
      rw [← owned] at key
      exact ⟨process, assigned, output, sameWs ▸ running, key,
        sameWs ▸ told, executes, ⟨completedAt, text, written, rfl⟩, wire,
        sent, answers⟩

theorem bundle_answerMsg (builder : Builder env crypto)
    (completedAt jobId text : String) :
    bundle (answerMsg builder completedAt jobId text) =
      some ((builder.receipt completedAt jobId text).typed jobId,
        builder.sign (utf8 ((builder.receipt completedAt jobId text).typed
          jobId).stringify)) := by
  rcases builder.signs
    ((builder.receipt completedAt jobId text).typed jobId).stringify with
    ⟨signature, written, length, _⟩
  have signed : builder.sign (utf8
      ((builder.receipt completedAt jobId text).typed jobId).stringify) ≠ "" :=
    ne_of_eq_of_ne written (base64_ne_empty length)
  simp [bundle, answerMsg, signed]

theorem verifyReceiptSignature_answer
    (decodes : ∀ text bytes, Base64.decode? text.toList = some bytes →
      env.base64Bytes text = bytes)
    (builder : Builder env crypto) (receipt : Dispatch.Receipt) :
    verifyReceiptSignature env receipt (builder.sign (utf8 receipt.stringify))
      (hex builder.publicKey) = true := by
  rcases builder.signs receipt.stringify with ⟨signature, written, _, valid⟩
  have bytes : env.base64Bytes (base64 signature) = signature := by
    apply decodes
    rw [base64, String.toList_ofList, Base64.decode?_encode]
  have key : hexBytes (hex builder.publicKey).toList = builder.publicKey := by
    rw [hex, String.toList_ofList, hexBytes_encode]
  rw [verifyReceiptSignature, written, bytes, key, valid]

theorem Config.builder_pubkeyHex (config : Config env crypto) :
    hex config.builder.publicKey = config.pubkeyHex := by
  unfold builder
  split <;> rfl

/-! ## What holds of completed jobs -/

structure Computed (language : Worker.Language Number)
    (network : Network env crypto Number) (jobId : String) (row : JobRow)
    (process : Process env crypto Number) (output : JsValue Number) :
    Prop where
  running : ∃ ws, network.processes.get? ws = some process
  executes : Executes language process.config.program
    (row.request.assignMsg jobId) output
  sent : ∃ wire ∈ process.sent,
    Answers process.config (row.request.assignMsg jobId) output wire
  key : row.workerPubkey = some process.config.pubkeyHex
  result : row.result = output.stringify

structure Attested (sha256Hex : String → String) (state : State)
    (stored : ReceiptRow) (row : JobRow) (receipt : Dispatch.Receipt) :
    Prop where
  rowStored : state.jobs.get? stored.jobId = some row
  completed : row.status = .completed
  verified : stored.verified = true
  reads : Receipt.parse? stored.receiptJson = some receipt
  own : receipt.jobId = stored.jobId
  attests : Attests sha256Hex row.workerPubkey row.result receipt

structure Settled (language : Worker.Language Number)
    (network : Network env crypto Number) : Prop where
  rows : ∀ {jobId row}, network.coordinator.jobs.get? jobId = some row →
    row.status = .completed →
    ∃ process output, Computed language network jobId row process output
  receipted : ∀ {jobId row}, network.coordinator.jobs.get? jobId = some row →
    row.status = .completed →
    ∃ id stored, network.coordinator.receipts.get? id = some stored ∧
      stored.jobId = jobId
  receipts : ∀ {id stored},
    network.coordinator.receipts.get? id = some stored →
    ∃ row receipt, Attested crypto.sha256Hex network.coordinator stored row
      receipt
  unique : ∀ {left right leftRow rightRow},
    network.coordinator.receipts.get? left = some leftRow →
    network.coordinator.receipts.get? right = some rightRow →
    leftRow.jobId = rightRow.jobId → left = right

theorem AnsweredBy.outcome (sound : Sound language network)
    (decodes : ∀ text bytes, Base64.decode? text.toList = some bytes →
      env.base64Bytes text = bytes)
    {input : Input} (enabled : (machine env).Enabled network.coordinator input)
    {msg : Dispatch.JobCompleteMsg} {worker : TrackedWorker}
    (completes : Completes network.coordinator input msg worker)
    {process : Process env crypto Number} {assigned : JobAssignMsg}
    {output : JsValue Number}
    (answered : AnsweredBy language network worker msg process assigned
      output) :
    let next := (machine env).step network.coordinator input
    ∃ row stored receipt,
      next.receipts =
        network.coordinator.receipts.set input.uuid.text stored ∧
      stored.jobId = msg.jobId ∧
      Attested crypto.sha256Hex next stored row receipt ∧
      row.request.assignMsg msg.jobId = assigned ∧
      row.workerPubkey = some worker.pubkey ∧
      row.result = output.stringify := by
  rcases answered.answer with ⟨completedAt, text, written, rfl⟩
  let builder := process.config.builder
  let receipt := (builder.receipt completedAt assigned.jobId text).typed
    assigned.jobId
  let stored := receiptRow env receipt (builder.sign (utf8 receipt.stringify))
    worker.pubkey
  have pubkey : hex builder.publicKey = worker.pubkey :=
    process.config.builder_pubkeyHex.trans answered.key
  rcases completes.row sound.reachable with ⟨row, found, _, key⟩
  rcases (sound.tells.telling answered.told).row completes.real with
    ⟨same, sameStored, _, asked⟩
  have sameRow : row = same := Option.some.inj (found.symm.trans sameStored)
  rw [← sameRow] at asked
  rcases completes_outcome sound.reachable enabled completes with
    ⟨jobs, added⟩
  have receipts : ((machine env).step network.coordinator input).receipts =
      network.coordinator.receipts.set input.uuid.text stored := by
    have bundled := bundle_answerMsg builder completedAt assigned.jobId text
    generalize ((machine env).step network.coordinator input).receipts = all
      at added
    cases added with
    | nothing none =>
      rw [bundled] at none
      cases none
    | receipt other =>
      rw [bundled] at other
      cases other
      rfl
  refine ⟨completedRow input.now (some text) row, stored, receipt, receipts,
    rfl, ?_, asked, key, written.symm⟩
  exact
    { rowStored := by
        have own : stored.jobId = (answerMsg builder completedAt
          assigned.jobId text).jobId := rfl
        rw [jobs, own, OrderedMap.get?_modify, if_pos rfl, found]
        rfl
      completed := rfl
      verified := by
        have verifies := verifyReceiptSignature_answer decodes builder receipt
        rw [pubkey] at verifies
        exact verifies
      reads := Receipt.parse?_stringify receipt
      own := rfl
      attests := by
        refine ⟨key.trans ?_, rfl⟩
        rw [← pubkey]
        rfl }

theorem Computed.step {input : NetworkInput env crypto Number}
    (enabled : network.enabled input = true) {jobId : String} {row : JobRow}
    {process : Process env crypto Number} {output : JsValue Number}
    (computed : Computed language network jobId row process output) :
    ∃ next, Computed language (network.step language input) jobId row next
      output := by
  rcases computed.running with ⟨ws, running⟩
  rcases process_continues language enabled running with
    ⟨next, later, config, kept⟩
  refine ⟨next, ⟨ws, later⟩, ?_, ?_, ?_, computed.result⟩
  · rw [config]
    exact computed.executes
  · rcases computed.sent with ⟨wire, sent, answers⟩
    rw [config]
    exact ⟨wire, kept sent, answers⟩
  · rw [config]
    exact computed.key

theorem Attested.step {state : State} {input : Input}
    (reachable : (machine env).Reachable state)
    (enabled : (machine env).Enabled state input)
    {sha256Hex : String → String} {stored : ReceiptRow} {row : JobRow}
    {receipt : Dispatch.Receipt}
    (attested : Attested sha256Hex state stored row receipt) :
    Attested sha256Hex ((machine env).step state input) stored row receipt :=
  { attested with
    rowStored := final_row_fixed reachable (.cons enabled (.nil _))
      attested.rowStored (.inl attested.completed) }

theorem Given.receipts {now : Nat} {uuid : Uuid} {event : Coordinator.Event}
    (given : Given language network event) :
    ((machine env).step network.coordinator ⟨now, uuid, event⟩).receipts =
        network.coordinator.receipts ∨
      ∃ msg worker, Completes network.coordinator ⟨now, uuid, event⟩ msg
        worker := by
  have step := step_receipts env network.coordinator ⟨now, uuid, event⟩
  generalize ((machine env).step network.coordinator
    ⟨now, uuid, event⟩).receipts = receipts at step ⊢
  cases step with
  | same => exact .inl rfl
  | bundled completes => exact .inr ⟨_, _, completes⟩
  | submitted is =>
    cases given with
    | served served =>
      cases is
      cases served
    | connect => cases is
    | frame running arrives =>
      cases is
      cases arrives

theorem Settled.initial :
    Settled language (.initial : Network env crypto Number) where
  rows stored := by cases stored
  receipted stored := by cases stored
  receipts stored := by cases stored
  unique stored := by cases stored

theorem Settled.same (settled : Settled language network)
    {input : NetworkInput env crypto Number}
    (enabled : network.enabled input = true)
    (rows : ∀ {jobId row},
      (network.step language input).coordinator.jobs.get? jobId = some row →
      row.status = .completed →
      network.coordinator.jobs.get? jobId = some row)
    (receipts : (network.step language input).coordinator.receipts =
      network.coordinator.receipts)
    (attested : ∀ {stored row receipt},
      Attested crypto.sha256Hex network.coordinator stored row receipt →
      Attested crypto.sha256Hex (network.step language input).coordinator
        stored row receipt) :
    Settled language (network.step language input) where
  rows stored completed := by
    rcases settled.rows (rows stored completed) completed with
      ⟨process, output, computed⟩
    rcases computed.step enabled with ⟨next, later⟩
    exact ⟨next, output, later⟩
  receipted stored completed := by
    rw [receipts]
    exact settled.receipted (rows stored completed) completed
  receipts found := by
    rw [receipts] at found
    rcases settled.receipts found with ⟨row, receipt, before⟩
    exact ⟨row, receipt, attested before⟩
  unique leftFound rightFound := by
    rw [receipts] at leftFound rightFound
    exact settled.unique leftFound rightFound

theorem Settled.completes (settled : Settled language network)
    (sound : Sound language network)
    (decodes : ∀ text bytes, Base64.decode? text.toList = some bytes →
      env.base64Bytes text = bytes)
    {input : NetworkInput env crypto Number}
    (enabled : network.enabled input = true) {event : Coordinator.Event}
    (becomes : (network.step language input).coordinator =
      (machine env).step network.coordinator ⟨input.now, input.uuid, event⟩)
    (allowed : (machine env).Enabled network.coordinator
      ⟨input.now, input.uuid, event⟩)
    (given : Given language network event)
    {msg : Dispatch.JobCompleteMsg} {worker : TrackedWorker}
    (completes : Completes network.coordinator
      ⟨input.now, input.uuid, event⟩ msg worker) :
    Settled language (network.step language input) := by
  rcases given.completes sound completes with
    ⟨process, assigned, output, answered⟩
  rcases answered.outcome sound decodes allowed completes with
    ⟨row, stored, receipt, receipts, own, attested, asked, key, result⟩
  have fresh := fresh_receipt sound.reachable allowed
  rw [← becomes] at receipts attested
  have kept : ∀ {id other}, network.coordinator.receipts.get? id = some other →
      (network.step language input).coordinator.receipts.get? id =
        some other := by
    intro id other found
    have different : id ≠ input.uuid.text := by
      intro same
      rw [same, fresh] at found
      cases found
    rw [receipts, OrderedMap.get?_set, if_neg different]
    exact found
  have added : (network.step language input).coordinator.receipts.get?
      input.uuid.text = some stored := by
    rw [receipts, OrderedMap.get?_set, if_pos rfl]
  -- Receipts that were there before are for other jobs.
  have older : ∀ {id other}, network.coordinator.receipts.get? id = some other →
      other.jobId ≠ stored.jobId := by
    intro id other found same
    rcases settled.receipts found with ⟨otherRow, otherReceipt, before⟩
    rcases completes.row sound.reachable with ⟨held, heldStored, holding, _⟩
    have rowStored := before.rowStored
    rw [same, own, heldStored, Option.some.injEq] at rowStored
    have completed := before.completed
    rw [← rowStored, holding] at completed
    cases completed
  have source : ∀ {id other},
      (network.step language input).coordinator.receipts.get? id =
        some other →
      (id = input.uuid.text ∧ other = stored) ∨
        network.coordinator.receipts.get? id = some other := by
    intro id other found
    rw [receipts, OrderedMap.get?_set] at found
    split at found
    · next same => exact .inl ⟨same, (Option.some.inj found).symm⟩
    · exact .inr found
  constructor
  · intro jobId after found completed
    rw [becomes] at found
    rcases step_completed sound.reachable found completed with
      before | ⟨other, holder, otherCompletes, sameJob, _⟩
    · rcases settled.rows before completed with ⟨earlier, value, computed⟩
      rcases computed.step enabled with ⟨next, later⟩
      exact ⟨next, value, later⟩
    · rcases completes.unique sound.reachable otherCompletes with ⟨rfl, rfl⟩
      have rowStored := attested.rowStored
      rw [becomes, own, sameJob, found, Option.some.injEq] at rowStored
      rw [sameJob, ← rowStored] at asked
      have computed : Computed language network jobId after process output :=
        { running := ⟨worker.ws, answered.running⟩
          executes := asked ▸ answered.executes
          sent := asked ▸ answered.sent
          key := by rw [rowStored, key, answered.key]
          result := by rw [rowStored, result] }
      rcases computed.step enabled with ⟨next, later⟩
      exact ⟨next, output, later⟩
  · intro jobId after found completed
    rw [becomes] at found
    rcases step_completed sound.reachable found completed with
      before | ⟨other, holder, otherCompletes, sameJob, _⟩
    · rcases settled.receipted before completed with ⟨id, old, there, sameJob⟩
      exact ⟨id, old, kept there, sameJob⟩
    · rcases completes.unique sound.reachable otherCompletes with ⟨rfl, rfl⟩
      exact ⟨input.uuid.text, stored, added, own.trans sameJob⟩
  · intro id other found
    rcases source found with ⟨_, rfl⟩ | before
    · exact ⟨row, receipt, attested⟩
    · rcases settled.receipts before with ⟨otherRow, otherReceipt, earlier⟩
      rw [becomes]
      exact ⟨otherRow, otherReceipt, earlier.step sound.reachable allowed⟩
  · intro left right leftRow rightRow leftFound rightFound sameJob
    rcases source leftFound with ⟨leftNew, rfl⟩ | leftOld
    · rcases source rightFound with ⟨rightNew, _⟩ | rightOld
      · rw [leftNew, rightNew]
      · exact absurd sameJob.symm (older rightOld)
    · rcases source rightFound with ⟨_, rfl⟩ | rightOld
      · exact absurd sameJob (older leftOld)
      · exact settled.unique leftOld rightOld sameJob

theorem Settled.step (settled : Settled language network)
    (sound : Sound language network)
    (decodes : ∀ text bytes, Base64.decode? text.toList = some bytes →
      env.base64Bytes text = bytes)
    {input : NetworkInput env crypto Number}
    (enabled : network.enabled input = true) :
    Settled language (network.step language input) := by
  cases coordinator_step sound enabled with
  | stays same =>
    apply settled.same enabled
    · intro jobId row stored _
      rw [same] at stored
      exact stored
    · rw [same]
    · rw [same]
      exact fun attested => attested
  | @handles event is allowed given becomes =>
    by_cases completing : ∃ msg worker, Completes network.coordinator
        ⟨input.now, input.uuid, event⟩ msg worker
    · rcases completing with ⟨msg, worker, completes⟩
      exact settled.completes sound decodes enabled becomes allowed given
        completes
    · apply settled.same enabled
      · intro jobId row stored completed
        rw [becomes] at stored
        rcases step_completed sound.reachable stored completed with
          before | ⟨msg, worker, completes, _⟩
        · exact before
        · exact absurd ⟨msg, worker, completes⟩ completing
      · rw [becomes]
        exact given.receipts.resolve_right completing
      · intro stored row receipt attested
        rw [becomes]
        exact attested.step sound.reachable allowed

theorem settled_of_reachable
    (decodes : ∀ text bytes, Base64.decode? text.toList = some bytes →
      env.base64Bytes text = bytes)
    (reachable : (networkMachine language).Reachable network) :
    Settled language network := by
  apply reachable.invariant (Settled language)
  · exact .initial
  · intro before input reached settled enabled
    exact settled.step (sound_of_reachable reached) decodes enabled

def Selects (env : Environment) : Prop :=
  ∀ rows, rows ≠ [] → env.selectRow rows ≠ none

theorem Settled.polls (settled : Settled language network)
    (selects : Selects env)
    (reachable : (machine env).Reachable network.coordinator)
    {jobId : String} {row : JobRow}
    (stored : network.coordinator.jobs.get? jobId = some row)
    (completed : row.status = .completed) :
    ∃ polled, pollJob env jobId network.coordinator =
        .found jobId .completed row.result (some polled) row.createdAt
          row.completedAt ∧
      polled.verified = true ∧ polled.receipt.jobId = jobId ∧
      Attests crypto.sha256Hex row.workerPubkey row.result polled.receipt := by
  rcases settled.rows stored completed with ⟨process, output, computed⟩
  rcases settled.receipted stored completed with ⟨id, first, found, own⟩
  have listed : first ∈ receiptsOf network.coordinator jobId := by
    apply List.mem_filter.mpr
    refine ⟨?_, by simp [own]⟩
    exact List.mem_map_of_mem ((OrderedMap.get?_eq_some_iff ..).mp found)
  cases chosen : env.selectRow (receiptsOf network.coordinator jobId) with
  | none => exact absurd chosen (selects _ (List.ne_nil_of_mem listed))
  | some selected =>
    rcases receiptsOf_reads reachable (env.selectRow_mem _ _ chosen) with
      ⟨sameJob, ⟨id, selectedFound⟩, _⟩
    rcases settled.receipts selectedFound with
      ⟨attestedRow, receipt, attested⟩
    have rowStored := attested.rowStored
    rw [sameJob, stored, Option.some.injEq] at rowStored
    have shown : row.result.filter (· ≠ "") = row.result := by
      cases written : row.result with
      | none => rfl
      | some text =>
        have spelled := computed.result.symm.trans written
        rcases JsValue.parse_of_stringify spelled with
          ⟨json, _, normal, rfl, _⟩
        exact Option.filter_some_pos
          (decide_eq_true (Json.stringify_ne_empty normal))
    have reply := pollJob_completed stored completed chosen attested.reads
    rw [shown] at reply
    refine ⟨_, reply, attested.verified, attested.own.trans sameJob, ?_⟩
    rw [rowStored]
    exact attested.attests

/-- In a deployment whose workers run the programs of the repository, a
completed job has the result that the worker named in its row has computed for
what was asked, and a poll shows it with a verified receipt of that worker. -/
theorem completed_jobs_computed
    (decodes : ∀ text bytes, Base64.decode? text.toList = some bytes →
      env.base64Bytes text = bytes)
    (selects : Selects env)
    (reachable : (networkMachine language).Reachable network)
    {jobId : String} {row : JobRow}
    (stored : network.coordinator.jobs.get? jobId = some row)
    (completed : row.status = .completed) :
    ∃ process output polled,
      Computed language network jobId row process output ∧
      pollJob env jobId network.coordinator =
        .found jobId .completed row.result (some polled) row.createdAt
          row.completedAt ∧
      polled.verified = true ∧ polled.receipt.jobId = jobId ∧
      Attests crypto.sha256Hex row.workerPubkey row.result polled.receipt := by
  have settled := settled_of_reachable decodes reachable
  rcases settled.rows stored completed with ⟨process, output, computed⟩
  rcases settled.polls selects (sound_of_reachable reachable).reachable stored
    completed with ⟨polled, reply⟩
  exact ⟨process, output, polled, computed, reply⟩

end Results

namespace Sample

theorem decodes (text : String) (bytes : List UInt8)
    (decoded : Base64.decode? text.toList = some bytes) :
    environment.base64Bytes text = bytes := by
  show (Base64.decode? text.toList).getD [] = bytes
  rw [decoded]
  rfl

theorem selects : Selects environment := by
  intro rows some
  cases rows with
  | nil => exact absurd rfl some
  | cons row rest => exact Option.some_ne_none row

end Sample

theorem completed_jobs_computed_sample : ∃ row,
    Sample.completed.coordinator.jobs.get? Coordinator.Sample.jobUuid.text =
        some row ∧
      ∃ process output polled,
        Computed Sample.language Sample.completed
          Coordinator.Sample.jobUuid.text row process output ∧
        pollJob Sample.environment Coordinator.Sample.jobUuid.text
            Sample.completed.coordinator =
          .found Coordinator.Sample.jobUuid.text .completed row.result
            (some polled) row.createdAt row.completedAt ∧
        polled.verified = true ∧
        polled.receipt.jobId = Coordinator.Sample.jobUuid.text ∧
        Attests Worker.Sample.crypto.sha256Hex row.workerPubkey row.result
          polled.receipt := by
  rcases Sample.completed_row with ⟨row, stored, completed, _⟩
  exact ⟨row, stored, completed_jobs_computed Sample.decodes Sample.selects
    Sample.completed_reachable stored completed⟩

end Dispatch.Deployment
