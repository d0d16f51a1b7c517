import Dispatch.Coordinator.CommitRouter
import Dispatch.Foundation.Selection
import Mathlib.Logic.Relation

/-! # The steps of the server

What one event can do to a server, whatever frame or body it brings and
wherever its handler stops.
-/

namespace Dispatch.Coordinator.Server

open Sqlite Listener

/-! ## Looking for a worker -/

section Claiming

variable {Number : Type} [JsNumber Number] [SqlNumber Number]

def Trusts (server : Server Number) (userId : Json Number)
    (pubkey : Option (Json Number)) : Prop :=
  ∃ user, bindOne (some userId) = .ok (.text user) ∧
    ∃ row ∈ server.hub.trustPairings.values, row.userId = user ∧
      row.claimed = true ∧ isTrusted [row.providerPubkey] pubkey = true

structure Eligible (server : Server Number) (request : RawRequest Number)
    (worker : RawWorker Number) : Prop where
  idle : worker.status = .idle
  capable : includes? worker.capabilities request.jobType = some true
  trusted : isPrivate request = true →
    Trusts server request.userId worker.pubkey

def NoneEligible (server : Server Number) (request : RawRequest Number) :
    Prop :=
  ∀ workerId worker, server.hub.workers.get? workerId = some worker →
    ¬ Eligible server request worker

def pairedKeys (server : Server Number) (userId : Value) :
    List (Option String) :=
  (server.hub.trustPairings.values.filter fun row =>
    userId = .text row.userId && row.claimed).map TrustRow.providerPubkey

structure Searchable (server : Server Number) (request : RawRequest Number) :
    Prop where
  pairings : isPrivate request = true → server.databaseOpen = true ∧
    ∃ userId, bindOne (some request.userId) = .ok userId
  capabilities : (isPrivate request = true → ∃ userId,
      bindOne (some request.userId) = .ok userId ∧
        server.pairedKeys userId ≠ []) →
    ∀ workerId worker, server.hub.workers.get? workerId = some worker →
      worker.status = .idle →
      includes? worker.capabilities request.jobType ≠ none

structure Chosen (now : Nat) (request : RawRequest Number)
    (server : Server Number) (workerId : String) (worker : RawWorker Number) :
    Prop where
  tracked : server.hub.workers.get? workerId = some worker
  eligible : Eligible server request worker
  highest : ∀ other rival, server.hub.workers.get? other = some rival →
    Eligible server request rival →
    workerScore now rival request.policy request.jobType ≤
      workerScore now worker request.policy request.jobType
  earliest : ∀ other rival, server.hub.workers.get? other = some rival →
    Eligible server request rival →
    workerScore now rival request.policy request.jobType =
      workerScore now worker request.policy request.jobType →
    other ≠ workerId → [workerId, other].Sublist server.hub.workers.keys

def marked (server : Server Number) (workerId : String) : Server Number :=
  { server with
    hub := server.hub.updateWorker workerId fun worker =>
      { worker with status := .busy } }

/-- How `claimWorker` ends. -/
inductive Claims (now : Nat) (request : RawRequest Number)
    (server : Server Number) :
    Except Failure (Option (String × RawWorker Number)) × Server Number → Prop
  | throws {failure : Failure} {misused : Bool}
      (unsearchable : ¬ Searchable server request)
      (unused : server.databaseOpen = true → misused = server.misused) :
      Claims now request server
        (.error failure, { server with misused := misused })
  | nobody (searchable : Searchable server request)
      (none : NoneEligible server request) :
      Claims now request server (.ok Option.none, server)
  | best {workerId : String} {worker : RawWorker Number}
      (searchable : Searchable server request)
      (chosen : Chosen now request server workerId worker) :
      Claims now request server
        (.ok (some (workerId, worker)), server.marked workerId)

/-! ### The loop over the workers -/

def fits (jobType : JobType) (trusted : Option (List (Option String)))
    (worker : RawWorker Number) : Bool :=
  worker.status = .idle && includes? worker.capabilities jobType = some true &&
    trusted.all fun keys => isTrusted keys worker.pubkey

omit [SqlNumber Number] in
theorem eligible_cases (jobType : JobType)
    (trusted : Option (List (Option String)))
    (entries : List (String × RawWorker Number)) :
    ((∃ entry ∈ entries, entry.2.status = .idle ∧
        includes? entry.2.capabilities jobType = none) ∧
      eligible jobType trusted entries = .error .typeError) ∨
    ((∀ entry ∈ entries, entry.2.status = .idle →
        includes? entry.2.capabilities jobType ≠ none) ∧
      eligible jobType trusted entries =
        .ok (entries.filter fun entry => fits jobType trusted entry.2)) := by
  induction entries with
  | nil => exact .inr ⟨List.forall_mem_nil _, rfl⟩
  | cons entry rest induction =>
    rcases entry with ⟨workerId, worker⟩
    rw [eligible, List.filter_cons]
    by_cases idle : worker.status = .idle
    · rw [if_neg (not_not.mpr idle)]
      cases search : includes? worker.capabilities jobType with
      | none => exact .inl ⟨⟨_, List.mem_cons_self, idle, search⟩, rfl⟩
      | some able =>
        have tested : fits jobType trusted worker = (able &&
            trusted.all fun keys => isTrusted keys worker.pubkey) := by
          simp [fits, idle, search]
        rw [tested]
        rcases induction with ⟨⟨other, member, odd⟩, throws⟩ | ⟨plain, ends⟩
        · refine .inl ⟨⟨other, List.mem_cons_of_mem _ member, odd⟩, ?_⟩
          dsimp only
          rw [throws]
          split <;> rfl
        · refine .inr ⟨List.forall_mem_cons.mpr ⟨?_, plain⟩, ?_⟩
          · intro _
            rw [search]
            exact Option.some_ne_none able
          · dsimp only
            rw [ends]
            split <;> rfl
    · have skipped : fits jobType trusted worker = false := by
        simp [fits, idle]
      rw [if_pos idle, skipped]
      rcases induction with ⟨⟨other, member, odd⟩, throws⟩ | ⟨plain, ends⟩
      · exact .inl ⟨⟨other, List.mem_cons_of_mem _ member, odd⟩, throws⟩
      · refine .inr ⟨List.forall_mem_cons.mpr ⟨?_, plain⟩, ends⟩
        intro isIdle
        exact absurd isIdle idle

def bestOf (now : Nat) (request : RawRequest Number)
    (trusted : Option (List (Option String))) (server : Server Number) :
    Option (String × RawWorker Number) :=
  (server.hub.workers.entries.filter fun entry =>
    fits request.jobType trusted entry.2).argmax fun entry =>
      workerScore now entry.2 request.policy request.jobType

omit [JsNumber Number] [SqlNumber Number] in
theorem run_head (server : Server Number)
    (sorted : List (String × RawWorker Number)) :
    Procedure.run (match sorted with
      | [] => return none
      | (workerId, worker) :: _ => do
        updateHub fun hub => hub.updateWorker workerId fun worker =>
          { worker with status := .busy }
        return some (workerId, worker) :
        Action Number (Option (String × RawWorker Number))) server =
      match sorted.head? with
      | none => (.ok none, server)
      | some (workerId, worker) =>
        (.ok (some (workerId, worker)), server.marked workerId) := by
  cases sorted <;> rfl

omit [SqlNumber Number] in
theorem run_claimBest (now : Nat) (request : RawRequest Number)
    (trusted : Option (List (Option String))) (server : Server Number) :
    ((∃ workerId worker, server.hub.workers.get? workerId = some worker ∧
        worker.status = .idle ∧
        includes? worker.capabilities request.jobType = none) ∧
      (claimBest now request trusted).run server =
        (.error (.thrown .typeError), server)) ∨
    ((∀ workerId worker, server.hub.workers.get? workerId = some worker →
        worker.status = .idle →
        includes? worker.capabilities request.jobType ≠ none) ∧
      (claimBest now request trusted).run server =
        match bestOf now request trusted server with
        | none => (.ok none, server)
        | some (workerId, worker) =>
          (.ok (some (workerId, worker)), server.marked workerId)) := by
  rw [claimBest, Procedure.run_read_bind]
  rcases eligible_cases request.jobType trusted server.hub.workers.entries with
    ⟨⟨⟨workerId, worker⟩, member, idle, odd⟩, throws⟩ | ⟨plain, ends⟩
  · refine .inl ⟨⟨workerId, worker,
      (OrderedMap.get?_eq_some_iff ..).mpr member, idle, odd⟩, ?_⟩
    rw [throws]
    rfl
  · refine .inr ⟨?_, ?_⟩
    · intro workerId worker tracked
      exact plain _ ((OrderedMap.get?_eq_some_iff ..).mp tracked)
    · have attempted : (attempt (.ok (server.hub.workers.entries.filter
          fun entry => fits request.jobType trusted entry.2)) :
          Action Number _).run server = (.ok _, server) := rfl
      have byScore (left right : String × RawWorker Number) :
          workerScore now right.2 request.policy request.jobType ≤
              workerScore now left.2 request.policy request.jobType ↔
            workerScore now right.2 request.policy request.jobType ≤
              workerScore now left.2 request.policy request.jobType := Iff.rfl
      rw [ends, Procedure.run_bind_of_ok attempted, bestOf,
        ← Selection.head?_insertionSort byScore]
      exact run_head server _

/-! ### Trusted workers -/

omit [JsNumber Number] in
theorem run_trustedPubkeys {server : Server Number}
    (isOpen : server.databaseOpen = true) (userId : Json Number) :
    (trustedPubkeys userId).run server =
      match bindOne (some userId) with
      | .error error => (.error (.thrown (.bind error)), server)
      | .ok userId => (.ok (server.pairedKeys userId), server) := by
  rw [trustedPubkeys, Procedure.run_bind_of_ok (run_statement isOpen)]
  cases bindOne (some userId) <;> rfl

theorem isTrusted_pairedKeys_iff {server : Server Number}
    {userId : Json Number} {user : Value}
    (bound : bindOne (some userId) = .ok user)
    (pubkey : Option (Json Number)) :
    isTrusted (server.pairedKeys user) pubkey = true ↔
      Trusts server userId pubkey := by
  have listed : isTrusted (server.pairedKeys user) pubkey = true ↔
      ∃ key ∈ server.pairedKeys user, isTrusted [key] pubkey = true := by
    simp [isTrusted]
  rw [listed]
  simp only [pairedKeys, Trusts, List.mem_map, List.mem_filter,
    Bool.and_eq_true, decide_eq_true_eq, bound, Except.ok.injEq]
  constructor
  · rintro ⟨key, ⟨row, ⟨stored, own, claimed⟩, rfl⟩, equal⟩
    exact ⟨row.userId, own, row, stored, rfl, claimed, equal⟩
  · rintro ⟨_, own, row, stored, rfl, claimed, equal⟩
    exact ⟨_, ⟨row, ⟨stored, own, claimed⟩, rfl⟩, equal⟩

inductive SearchedWith (server : Server Number) (request : RawRequest Number) :
    Option (List (Option String)) → Prop
  | anybody (isPublic : isPrivate request = false) :
      SearchedWith server request none
  | paired {userId : Value} (isPrivate : isPrivate request = true)
      (isOpen : server.databaseOpen = true)
      (bound : bindOne (some request.userId) = .ok userId)
      (nonempty : server.pairedKeys userId ≠ []) :
      SearchedWith server request (some (server.pairedKeys userId))

variable {server : Server Number} {request : RawRequest Number}

theorem SearchedWith.fits_iff {trusted : Option (List (Option String))}
    (searched : SearchedWith server request trusted)
    (worker : RawWorker Number) :
    fits request.jobType trusted worker = true ↔
      Eligible server request worker := by
  have parts : fits request.jobType trusted worker = true ↔
      (worker.status = .idle ∧
        includes? worker.capabilities request.jobType = some true) ∧
      (trusted.all fun keys => isTrusted keys worker.pubkey) = true := by
    simp only [fits, Bool.and_eq_true, decide_eq_true_eq]
  rw [parts]
  cases searched with
  | anybody isPublic =>
    constructor
    · rintro ⟨⟨idle, capable⟩, _⟩
      refine ⟨idle, capable, fun isPrivate => ?_⟩
      rw [isPublic] at isPrivate
      cases isPrivate
    · intro eligible
      exact ⟨⟨eligible.idle, eligible.capable⟩, rfl⟩
  | paired isPrivate _ bound =>
    rw [Option.all_some, isTrusted_pairedKeys_iff bound]
    constructor
    · rintro ⟨⟨idle, capable⟩, trusted⟩
      exact ⟨idle, capable, fun _ => trusted⟩
    · intro eligible
      exact ⟨⟨eligible.idle, eligible.capable⟩, eligible.trusted isPrivate⟩

theorem SearchedWith.pairings {trusted : Option (List (Option String))}
    (searched : SearchedWith server request trusted) :
    isPrivate request = true → server.databaseOpen = true ∧ ∃ userId,
      bindOne (some request.userId) = .ok userId ∧
        server.pairedKeys userId ≠ [] := by
  intro asked
  cases searched with
  | anybody isPublic =>
    rw [isPublic] at asked
    cases asked
  | paired _ isOpen bound nonempty => exact ⟨isOpen, _, bound, nonempty⟩

theorem SearchedWith.chosen {now : Nat}
    {trusted : Option (List (Option String))}
    (searched : SearchedWith server request trusted) {workerId : String}
    {worker : RawWorker Number}
    (best : bestOf now request trusted server = some (workerId, worker)) :
    Chosen now request server workerId worker := by
  have member : ∀ {workerId worker},
      (workerId, worker) ∈ (server.hub.workers.entries.filter fun entry =>
        fits request.jobType trusted entry.2) ↔
      server.hub.workers.get? workerId = some worker ∧
        Eligible server request worker := by
    intro workerId worker
    rw [List.mem_filter, ← OrderedMap.get?_eq_some_iff, searched.fits_iff]
  rcases member.mp (List.argmax_mem best) with ⟨tracked, eligible⟩
  refine ⟨tracked, eligible, ?_, ?_⟩
  · intro other rival rivalTracked rivalEligible
    exact (Selection.argmax_first best
      (member.mpr ⟨rivalTracked, rivalEligible⟩)).1
  · intro other rival rivalTracked rivalEligible level differs
    have follows := (Selection.argmax_first best
      (member.mpr ⟨rivalTracked, rivalEligible⟩)).2 level
      (fun same => differs (congrArg Prod.fst same))
    exact (follows.trans List.filter_sublist).map Prod.fst

theorem SearchedWith.claims (now : Nat)
    {trusted : Option (List (Option String))}
    (searched : SearchedWith server request trusted) :
    Claims now request server ((claimBest now request trusted).run server) := by
  rcases run_claimBest now request trusted server with
    ⟨⟨workerId, worker, tracked, idle, odd⟩, ends⟩ | ⟨plain, ends⟩
  · rw [ends]
    refine .throws ?_ fun _ => rfl
    intro searchable
    exact searchable.capabilities (fun asked => (searched.pairings asked).2)
      workerId worker tracked idle odd
  · have searchable : Searchable server request := by
      refine ⟨?_, fun _ => plain⟩
      intro asked
      rcases searched.pairings asked with ⟨isOpen, userId, bound, _⟩
      exact ⟨isOpen, userId, bound⟩
    rw [ends]
    cases best : bestOf now request trusted server with
    | none =>
      refine .nobody searchable ?_
      intro workerId worker tracked eligible
      have absent := List.argmax_eq_none.mp best
      have member : (workerId, worker) ∈
          (server.hub.workers.entries.filter fun entry =>
            fits request.jobType trusted entry.2) := by
        rw [List.mem_filter, ← OrderedMap.get?_eq_some_iff,
          searched.fits_iff]
        exact ⟨tracked, eligible⟩
      rw [absent] at member
      cases member
    | some entry => exact .best searchable (searched.chosen best)

theorem claims (now : Nat) (request : RawRequest Number)
    (server : Server Number) :
    Claims now request server ((claimWorker now request).run server) := by
  unfold claimWorker
  cases asked : isPrivate request with
  | false =>
    rw [if_neg Bool.false_ne_true]
    exact (SearchedWith.anybody asked).claims now
  | true =>
    rw [if_pos rfl]
    by_cases isOpen : server.databaseOpen = true
    · rw [Procedure.run_bind, run_trustedPubkeys isOpen]
      cases bound : bindOne (some request.userId) with
      | error error =>
        refine .throws ?_ fun _ => rfl
        intro searchable
        rcases (searchable.pairings asked).2 with ⟨userId, same⟩
        rw [bound] at same
        cases same
      | ok userId =>
        dsimp only
        by_cases unpaired : server.pairedKeys userId = []
        · rw [unpaired]
          refine .nobody ⟨fun _ => ⟨isOpen, userId, bound⟩, ?_⟩ ?_
          · intro paired
            rcases paired asked with ⟨other, same, some⟩
            rw [bound, Except.ok.injEq] at same
            exact absurd (same ▸ unpaired) some
          · intro workerId worker _ eligible
            have trusted := (isTrusted_pairedKeys_iff bound _).mpr
              (eligible.trusted asked)
            rw [unpaired] at trusted
            cases trusted
        · rw [if_neg (by simpa using unpaired)]
          exact (SearchedWith.paired asked isOpen bound unpaired).claims now
    · have closed : server.databaseOpen = false :=
        Bool.eq_false_of_not_eq_true isOpen
      have throws : (trustedPubkeys request.userId).run server =
          (.error .notOpen, { server with misused := true }) :=
        Procedure.run_bind_of_error (run_statement_closed closed)
      rw [Procedure.run_bind_of_error throws]
      refine .throws ?_ fun opened => absurd opened isOpen
      intro searchable
      exact isOpen (searchable.pairings asked).1

end Claiming

/-! ## What an event can do -/

section Effects

variable {Number : Type}

structure Holds (server : Server Number) (workerId : String)
    (worker : RawWorker Number) (jobId : String) : Prop where
  tracked : server.hub.workers.get? workerId = some worker
  active : worker.activeJobId = some jobId

def core (worker : RawWorker Number) : RawWorker Number :=
  { worker with
    lastHeartbeat := 0
    reputationScore := none
    stakeLevel := none }

structure Calm (server next : Server Number) : Prop where
  workers : ∀ workerId, (next.hub.workers.get? workerId).map core =
    (server.hub.workers.get? workerId).map core
  keys : next.hub.workers.keys = server.hub.workers.keys
  jobs : next.hub.jobs = server.hub.jobs
  receipts : next.hub.receipts = server.hub.receipts
  calls : next.hub.calls = server.hub.calls
  intervals : next.intervals = server.intervals
  assigned : next.assigned = server.assigned
  issued : next.issued = server.issued

def changeRow (jobId : String) (change : JobRow → JobRow)
    (server : Server Number) : Server Number :=
  { server with
    hub := { server.hub with jobs := server.hub.jobs.modify jobId change } }

def freed (workerId : String) (server : Server Number) : Server Number :=
  { server with hub := server.hub.resetWorker workerId }

def without (workerId : String) (server : Server Number) : Server Number :=
  { server with
    hub := { server.hub with
      workers := server.hub.workers.delete workerId } }

def withReceipts (receipts : OrderedMap String ReceiptRow)
    (server : Server Number) : Server Number :=
  { server with hub := { server.hub with receipts := receipts } }

def rewarded (env : RawEnvironment Number) (worker : RawWorker Number)
    (jobId : String) (server : Server Number) : Server Number :=
  { server with hub := Listener.reward env worker jobId server.hub }

def given (workerId : String) (worker : RawWorker Number) (jobId : String)
    (request : RawRequest Number) (server : Server Number) : Server Number :=
  { server with
    hub := server.hub.updateWorker workerId fun worker =>
      { worker with activeJobId := some jobId }
    assigned :=
      if (server.hub.connections.get? worker.ws).map Connection.readyState =
          some .open then
        server.assigned ++
          [{ ws := worker.ws, jobId := jobId, request := request }]
      else server.assigned }

def boundRow (key : Value) (row : JobRow) : JobRow :=
  { row with status := .assigned, workerPubkey := key.text? }

def failedRow (result : JsonText) (row : JobRow) : JobRow :=
  { row with status := .failed, result := some result }

def matchedWith (jobId : String) (request : RawRequest Number)
    (workerId : String) (worker : RawWorker Number) (key : Value)
    (server : Server Number) : Server Number :=
  ((server.marked workerId).changeRow jobId (boundRow key)).given workerId
    worker jobId request

def withInterval (jobId : String) (interval : Interval Number)
    (server : Server Number) : Server Number :=
  { server with intervals := server.intervals.set jobId interval }

def cleared (jobId : String) (server : Server Number) : Server Number :=
  { server with intervals := server.intervals.delete jobId }

def counted (jobId : String) (interval : Interval Number)
    (server : Server Number) : Server Number :=
  { server with
    intervals := server.intervals.modify jobId fun stored =>
      { stored with attempts := interval.attempts + 1 } }

inductive Drop (server : Server Number) : Server Number → Prop
  | quiet {next : Server Number} (quiet : Calm server next) : Drop server next
  | jobless {workerId : String} {worker : RawWorker Number}
      (tracked : server.hub.workers.get? workerId = some worker)
      (jobless : ∀ jobId, worker.activeJobId = some jobId →
        jobId = "" ∨ isDemoJob jobId = true) :
      Drop server (server.without workerId)
  | failed {workerId jobId : String} {worker : RawWorker Number}
      (holds : Holds server workerId worker jobId)
      (real : isDemoJob jobId = false) :
      Drop server ((server.changeRow jobId disconnectedRow).without workerId)

variable [JsNumber Number]

structure Carries (input : Input Number) (ws : SocketId) (type : MessageType)
    (msg : Json Number) : Prop where
  event : ∃ text, input.event = .frame ws text ∧ Json.parse text = some msg
  typed : messageType? msg = some type

def registration (now : Nat) (ws : SocketId) (msg : Json Number) :
    RawWorker Number where
  ws := ws
  pubkey := msg.get? "provider_pubkey"
  type := msg.get? "provider_type"
  capabilities := msg.get? "capabilities"
  status := .idle
  lastHeartbeat := now
  activeJobId := none
  reputationScore := none
  stakeLevel := none

def registered (input : Input Number) (ws : SocketId) (msg : Json Number)
    (server : Server Number) : Server Number :=
  { server with
    hub := { server.hub with
      workers := server.hub.workers.set input.uuid.text
        (registration input.now ws msg) } }

variable [SqlNumber Number]

inductive Routed (now : Nat) (jobId : String) (request : RawRequest Number)
    (server : Server Number) : Server Number → Prop
  | stopped (unsearchable : ¬ Searchable server request) :
      Routed now jobId request server server
  | stuck {workerId : String} {worker : RawWorker Number} {error : BindError}
      (chosen : Chosen now request server workerId worker)
      (unbound : bindOne worker.pubkey = .error error) :
      Routed now jobId request server (server.marked workerId)
  | assigned {workerId : String} {worker : RawWorker Number} {key : Value}
      (chosen : Chosen now request server workerId worker)
      (bound : bindOne worker.pubkey = .ok key) :
      Routed now jobId request server
        (server.matchedWith jobId request workerId worker key)
  | refused (isPrivate : isPrivate request = true)
      (none : NoneEligible server request) :
      Routed now jobId request server
        (server.changeRow jobId (failedRow noTrustedWorkerResult))
  | waiting (isPublic : isPrivate request = false)
      (none : NoneEligible server request) :
      Routed now jobId request server
        (server.withInterval jobId { request := request, attempts := 0 })

inductive Ticked (now : Nat) (jobId : String) (interval : Interval Number)
    (server : Server Number) : Server Number → Prop
  | closed (closed : server.databaseOpen = false) :
      Ticked now jobId interval server { server with misused := true }
  | settled (settled : (server.hub.jobs.get? jobId).map JobRow.status ≠
        some .pending) :
      Ticked now jobId interval server (server.cleared jobId)
  | stopped (unsearchable : ¬ Searchable server interval.request) :
      Ticked now jobId interval server server
  | stuck {workerId : String} {worker : RawWorker Number} {error : BindError}
      (chosen : Chosen now interval.request server workerId worker)
      (unbound : bindOne worker.pubkey = .error error) :
      Ticked now jobId interval server (server.marked workerId)
  | assigned {row : JobRow} {workerId : String} {worker : RawWorker Number}
      {key : Value} (stored : server.hub.jobs.get? jobId = some row)
      (pending : row.status = .pending)
      (chosen : Chosen now interval.request server workerId worker)
      (bound : bindOne worker.pubkey = .ok key) :
      Ticked now jobId interval server
        ((server.matchedWith jobId interval.request workerId worker
          key).cleared jobId)
  | failed {row : JobRow} (stored : server.hub.jobs.get? jobId = some row)
      (pending : row.status = .pending)
      (none : NoneEligible server interval.request)
      (last : maxAttempts ≤ interval.attempts + 1) :
      Ticked now jobId interval server
        ((server.changeRow jobId (failedRow noEligibleWorkerResult)).cleared
          jobId)
  | counted (none : NoneEligible server interval.request)
      (more : interval.attempts + 1 < maxAttempts) :
      Ticked now jobId interval server server

inductive Effect (env : RawEnvironment Number) (input : Input Number)
    (server : Server Number) : Server Number → Prop
  | quiet {next : Server Number} (quiet : Calm server next) :
      Effect env input server next
  | register {ws : SocketId} {msg : Json Number} {next : Server Number}
      (carries : Carries input ws .register msg)
      (quiet : Calm (server.registered input ws msg) next) :
      Effect env input server next
  | receipt {ws : SocketId} {msg receipt : Json Number}
      {receipts : OrderedMap String ReceiptRow}
      (carries : Carries input ws .receiptSubmit msg)
      (submits : submitted? msg = some receipt)
      (stored : storeReceipt env input.uuid receipt (msg.get? "signature")
        (submitterKey receipt server.hub) server.hub.jobs
        server.hub.receipts = .ok receipts) :
      Effect env input server (server.withReceipts receipts)
  | complete {ws : SocketId} {msg : Json Number} {workerId jobId : String}
      {worker : RawWorker Number} {hub : Hub Number}
      (carries : Carries input ws .jobComplete msg)
      (found : server.hub.findByActiveJob (msg.get? "job_id") =
        some (workerId, worker))
      (holds : Holds server workerId worker jobId)
      (real : isDemoJob jobId = false)
      (written : Listener.storeResult env input.now input.uuid jobId msg worker
        server.hub = .ok hub) :
      Effect env input server
        (({ server with hub := hub }.rewarded env worker jobId).freed workerId)
  | completeDemo {ws : SocketId} {msg : Json Number} {workerId jobId : String}
      {worker : RawWorker Number} (carries : Carries input ws .jobComplete msg)
      (found : server.hub.findByActiveJob (msg.get? "job_id") =
        some (workerId, worker))
      (holds : Holds server workerId worker jobId)
      (demo : isDemoJob jobId = true) :
      Effect env input server
        ((server.freed workerId).rewarded env worker jobId)
  | reject {ws : SocketId} {msg : Json Number} {workerId jobId : String}
      {worker : RawWorker Number} (carries : Carries input ws .jobReject msg)
      (found : server.hub.findByActiveJob (msg.get? "job_id") =
        some (workerId, worker))
      (holds : Holds server workerId worker jobId)
      (real : isDemoJob jobId = false) :
      Effect env input server
        ((server.changeRow jobId rejectedRow).freed workerId)
  | rejectDemo {workerId jobId : String} {worker : RawWorker Number}
      (holds : Holds server workerId worker jobId)
      (demo : isDemoJob jobId = true) :
      Effect env input server (server.freed workerId)
  | dropped {next : Server Number}
      (drops : Relation.ReflTransGen Drop server next) :
      Effect env input server next
  | commit {tier : Tier} {body : Option (Json Number)}
      {request : RawRequest Number} {row : JobRow} {next : Server Number}
      (event : input.event = .commit tier body)
      (valid : validateCommit tier body = .ok request)
      (built : jobRow input.now request = .ok row)
      (fresh : server.hub.jobs.get? input.uuid.text = none)
      (isOpen : server.databaseOpen = true)
      (routed : Routed input.now input.uuid.text request
        (server.withJob input.uuid.text row) next) :
      Effect env input server next
  | tick {jobId : String} {interval : Interval Number} {next : Server Number}
      (event : input.event = .retryTick jobId)
      (live : server.intervals.get? jobId = some interval)
      (ticked : Ticked input.now jobId interval
        (server.counted jobId interval) next) :
      Effect env input server next
  | demo {choice : DemoChoice} {task : DemoTask} {prompt workerId : String}
      {worker : RawWorker Number} (event : input.event = .demoTick choice)
      (tracked : server.hub.workers.get? workerId = some worker)
      (idle : worker.status = .idle) :
      Effect env input server ((server.marked workerId).given workerId worker
        (demoJobId input.uuid) (demoRequest task prompt))

end Effects

/-! ## Every event has an effect -/

namespace Calm

variable {Number : Type} {server next : Server Number}

theorem of_same (workers : next.hub.workers = server.hub.workers)
    (jobs : next.hub.jobs = server.hub.jobs)
    (receipts : next.hub.receipts = server.hub.receipts)
    (calls : next.hub.calls = server.hub.calls)
    (intervals : next.intervals = server.intervals)
    (assigned : next.assigned = server.assigned)
    (issued : next.issued = server.issued) : Calm server next where
  workers _ := by rw [workers]
  keys := by rw [workers]
  jobs := jobs
  receipts := receipts
  calls := calls
  intervals := intervals
  assigned := assigned
  issued := issued

theorem refl (server : Server Number) : Calm server server :=
  .of_same rfl rfl rfl rfl rfl rfl rfl

theorem misused (server : Server Number) (misused : Bool) :
    Calm server { server with misused := misused } :=
  .of_same rfl rfl rfl rfl rfl rfl rfl

theorem updateWorker (server : Server Number) (workerId : String)
    {change : RawWorker Number → RawWorker Number}
    (same : ∀ worker, core (change worker) = core worker) :
    Calm server
      { server with hub := server.hub.updateWorker workerId change } where
  workers other := by
    rw [Hub.updateWorker, OrderedMap.get?_modify]
    split
    · rw [Option.map_map]
      exact congrArg (Option.map · _) (funext same)
    · rfl
  keys := server.hub.workers.keys_modify workerId change
  jobs := rfl
  receipts := rfl
  calls := rfl
  intervals := rfl
  assigned := rfl
  issued := rfl

theorem send (server : Server Number) (ws : SocketId) (message : Outgoing) :
    Calm server { server with hub := server.hub.send ws message } := by
  unfold Hub.send
  split
  · exact .of_same rfl rfl rfl rfl rfl rfl rfl
  · exact .refl server

theorem trans {last : Server Number} (left : Calm server next)
    (right : Calm next last) : Calm server last where
  workers workerId := (right.workers workerId).trans (left.workers workerId)
  keys := right.keys.trans left.keys
  jobs := right.jobs.trans left.jobs
  receipts := right.receipts.trans left.receipts
  calls := right.calls.trans left.calls
  intervals := right.intervals.trans left.intervals
  assigned := right.assigned.trans left.assigned
  issued := right.issued.trans left.issued

end Calm

section Handlers

variable {Number : Type} {env : RawEnvironment Number} {input : Input Number}
  {server : Server Number}

theorem finish_snd (outcome : Listener.Outcome Number) :
    (server.finish outcome).2 = { server with hub := outcome.hub } := by
  unfold finish
  split <;> rfl

/-! ### Losing workers -/

theorem handleDisconnect_drop (workerId : String) (server : Server Number) :
    Drop server ((handleDisconnect workerId).run server).2 := by
  rw [handleDisconnect, Procedure.run_read_bind]
  cases tracked : server.hub.workers.get? workerId with
  | none => exact .quiet (.refl server)
  | some worker =>
    dsimp only
    cases active : worker.activeJobId.filter (· ≠ "") with
    | none =>
      refine .jobless tracked ?_
      intro jobId given
      rw [given] at active
      refine .inl ?_
      by_contra nonempty
      simp [Option.filter, nonempty] at active
    | some jobId =>
      rcases Option.filter_eq_some_iff.mp active with ⟨given, _⟩
      dsimp only
      split
      · next demo =>
          refine .jobless tracked ?_
          intro other same
          rw [given, Option.some.injEq] at same
          exact .inr (same ▸ demo)
      · next real =>
          by_cases isOpen : server.databaseOpen = true
          · rw [Procedure.run_bind_of_ok (run_updateJob isOpen jobId _)]
            exact .failed ⟨tracked, given⟩
              (Bool.eq_false_of_not_eq_true real)
          · have throws : (updateJob jobId fun row => { row with
                status := .failed
                result := some
                  "\x7b\"error\":\"worker_disconnected\"\x7d" } :
                Action Number Unit).run server =
                (.error .notOpen, { server with misused := true }) :=
              Procedure.run_bind_of_error (run_statement_closed
                (Bool.eq_false_of_not_eq_true isOpen))
            rw [Procedure.run_bind_of_error throws]
            exact .quiet (.misused server true)

theorem keeps_drops {start : Server Number} {handler : Action Number Unit}
    (drops : ∀ server, Drop server (handler.run server).2) :
    Procedure.Keeps (Relation.ReflTransGen Drop start) handler := by
  intro server reached
  have drop := drops server
  generalize handler.run server = outcome at drop ⊢
  rcases outcome with ⟨result, next⟩
  cases result with
  | ok value => exact reached.tail drop
  | error error => exact reached.tail drop

theorem onClose_drops (ws : SocketId) (server : Server Number) :
    Relation.ReflTransGen Drop server ((onClose ws).run server).2 := by
  have keeps : Procedure.Keeps (Relation.ReflTransGen Drop server)
      (onClose ws : Action Number Unit) := by
    refine .read_bind fun _ _ => .bind (keeps_drops fun _ => ?_) fun _ => ?_
    · exact .quiet (.of_same rfl rfl rfl rfl rfl rfl rfl)
    · split
      · exact keeps_drops (handleDisconnect_drop _)
      · exact .ret _
  exact keeps.run .refl

theorem pruneStale_drops (now : Nat) (server : Server Number) :
    Relation.ReflTransGen Drop server ((pruneStale now).run server).2 := by
  have keeps : ∀ entries, Procedure.Keeps (Relation.ReflTransGen Drop server)
      (pruneEntries now entries) := by
    intro entries
    induction entries with
    | nil => exact .ret _
    | cons entry rest induction =>
      unfold pruneEntries
      refine .split (.bind ?_ fun _ => .bind ?_ fun _ => induction) induction
      · exact keeps_drops fun _ =>
          .quiet (.of_same rfl rfl rfl rfl rfl rfl rfl)
      · exact keeps_drops (handleDisconnect_drop _)
  exact (keeps _).run .refl

/-! ### Messages -/

variable [JsNumber Number]

theorem register_effect (now : Nat) (id : Uuid) (ws : SocketId)
    (msg : Json Number) (server : Server Number) :
    Calm { server with
        hub := { server.hub with
          workers := server.hub.workers.set id.text
            (registration now ws msg) } }
      { server with hub := (handleRegister now id ws msg server.hub).hub } := by
  unfold handleRegister
  dsimp only
  split <;> unfold Hub.send <;> split <;>
    exact .of_same rfl rfl rfl rfl rfl rfl rfl

theorem heartbeat_quiet (now : Nat) (msg : Json Number)
    (server : Server Number) :
    Calm server
      { server with hub := (handleHeartbeat now msg server.hub).hub } := by
  unfold handleHeartbeat
  split
  · exact .refl server
  · next workerId worker found =>
      have beats : Calm server { server with
          hub := server.hub.updateWorker workerId fun worker =>
            { worker with lastHeartbeat := now } } :=
        .updateWorker server workerId fun _ => rfl
      exact beats.trans (.send _ _ _)

omit [JsNumber Number] in
theorem active_of_found {jobId : Option (Json Number)} {workerId : String}
    {worker : RawWorker Number} {active : String}
    (found : server.hub.findByActiveJob jobId = some (workerId, worker))
    (given : worker.activeJobId = some active) :
    Holds server workerId worker active :=
  ⟨(OrderedMap.get?_of_find? found).1, given⟩

theorem jobReject_effect [SqlNumber Number] {ws : SocketId} {msg : Json Number}
    (carries : Carries input ws .jobReject msg) :
    Effect env input server ((handleJobReject msg).run server).2 := by
  rw [handleJobReject, Procedure.run_read_bind]
  cases found : server.hub.findByActiveJob (msg.get? "job_id") with
  | none => exact .quiet (.refl server)
  | some entry =>
    rcases entry with ⟨workerId, worker⟩
    dsimp only
    cases active : worker.activeJobId with
    | none => exact .quiet (.refl server)
    | some jobId =>
      have holds := active_of_found found active
      have logged : ∀ middle : Server Number,
          ((log (msg.get? "reason")).run middle).2 = middle := by
        intro middle
        rw [run_log]
        split <;> rfl
      dsimp only
      split
      · next demo =>
          rw [resetWorker, run_updateHub_bind, logged]
          exact .rejectDemo holds demo
      · next real =>
          by_cases isOpen : server.databaseOpen = true
          · rw [Procedure.run_bind_of_ok (run_updateJob isOpen jobId _),
              resetWorker, run_updateHub_bind, logged]
            exact .reject carries found holds
              (Bool.eq_false_of_not_eq_true real)
          · have throws : (updateJob jobId fun row => { row with
                status := .pending, workerPubkey := none } :
                Action Number Unit).run server =
                (.error .notOpen, { server with misused := true }) :=
              Procedure.run_bind_of_error (run_statement_closed
                (Bool.eq_false_of_not_eq_true isOpen))
            rw [Procedure.run_bind_of_error throws]
            exact .quiet (.misused server true)

variable [SqlNumber Number]

theorem jobComplete_effect {ws : SocketId} {msg : Json Number}
    (carries : Carries input ws .jobComplete msg) :
    Effect env input server
      ((handleJobComplete env input.now input.uuid msg).run server).2 := by
  rw [handleJobComplete, Procedure.run_read_bind]
  cases found : server.hub.findByActiveJob (msg.get? "job_id") with
  | none => exact .quiet (.refl server)
  | some entry =>
    rcases entry with ⟨workerId, worker⟩
    dsimp only
    cases active : worker.activeJobId with
    | none => exact .quiet (.refl server)
    | some jobId =>
      have holds := active_of_found found active
      dsimp only
      split
      · next demo =>
          rw [resetWorker, run_updateHub_bind, run_reward]
          exact .completeDemo carries found holds demo
      · next real =>
          have isReal := Bool.eq_false_of_not_eq_true real
          by_cases isOpen : server.databaseOpen = true
          · rw [Procedure.run_bind, run_transaction isOpen]
            cases written : Listener.storeResult env input.now input.uuid
                jobId msg worker server.hub with
            | error error => exact .quiet (.refl server)
            | ok hub =>
              dsimp only
              rw [Procedure.run_bind_of_ok (run_reward env worker jobId)]
              exact .complete carries found holds isReal written
          · have throws : (transaction (storeResult env input.now
                input.uuid jobId msg worker)).run server =
                (.error .notOpen, { server with misused := true }) :=
              Procedure.run_bind_of_error (run_statement_closed
                (Bool.eq_false_of_not_eq_true isOpen))
            rw [Procedure.run_bind_of_error throws]
            exact .quiet (.misused server true)

theorem receiptSubmit_effect {ws : SocketId} {msg : Json Number}
    (carries : Carries input ws .receiptSubmit msg) :
    Effect env input server
      ((handleReceiptSubmit env input.uuid msg).run server).2 := by
  by_cases isOpen : server.databaseOpen = true
  · rw [run_handleReceiptSubmit isOpen, finish_snd,
      Listener.handleReceiptSubmit]
    cases submits : submitted? msg with
    | none => exact .quiet (.refl server)
    | some receipt =>
      dsimp only
      cases stored : storeReceipt env input.uuid receipt
          (msg.get? "signature") (submitterKey receipt server.hub)
          server.hub.jobs server.hub.receipts with
      | error error => exact .quiet (.refl server)
      | ok receipts => exact .receipt carries submits stored
  · unfold handleReceiptSubmit
    cases submitted? msg with
    | none => exact .quiet (.refl server)
    | some receipt =>
      dsimp only
      rw [Procedure.run_read_bind]
      cases verifyReceiptSignature env receipt (msg.get? "signature")
          (submitterKey receipt server.hub) with
      | error error => exact .quiet (.refl server)
      | ok verified =>
        have returned : (attempt (.ok verified) :
            Action Number Bool).run server = (.ok verified, server) := rfl
        have throws : (insertReceipt input.uuid receipt
            (msg.get? "signature") verified).run server =
            (.error .notOpen, { server with misused := true }) :=
          Procedure.run_bind_of_error (run_statement_closed
            (Bool.eq_false_of_not_eq_true isOpen))
        rw [Procedure.run_bind_of_ok returned, throws]
        exact .quiet (.misused server true)

theorem frame_effect {ws : SocketId} {text : String}
    (framed : input.event = .frame ws text) :
    Effect env input server
      ((onMessage env input.now input.uuid ws text).run server).2 := by
  unfold onMessage
  cases parsed : (Json.parse text : Option (Json Number)) with
  | none => exact .quiet (.send server _ _)
  | some msg =>
    have handled : Effect env input server
        ((handleMessage env input.now input.uuid ws msg).run server).2 := by
      unfold handleMessage
      cases typed : messageType? msg with
      | none =>
        dsimp only
        cases Json.displayProperty? (msg.get? "type") with
        | none => exact .quiet (.refl server)
        | some type => exact .quiet (.send server _ _)
      | some type =>
        have carries : Carries input ws type msg := ⟨⟨text, framed, parsed⟩, typed⟩
        cases type with
        | register =>
          change Effect _ _ _ (server.finish _).2
          rw [finish_snd]
          exact .register carries (register_effect ..)
        | heartbeat =>
          change Effect _ _ _ (server.finish _).2
          rw [finish_snd]
          exact .quiet (heartbeat_quiet ..)
        | jobComplete => exact jobComplete_effect carries
        | jobReject => exact jobReject_effect carries
        | receiptSubmit => exact receiptSubmit_effect carries
    cases msg with
    | null => exact .quiet (.refl server)
    | _ => exact handled

/-! ### Jobs -/

omit [JsNumber Number] [SqlNumber Number] in
theorem run_assignJob (workerId : String) (worker : RawWorker Number)
    (jobId : String) (request : RawRequest Number) :
    (assignJob workerId worker jobId request).run server =
      (.ok (), server.given workerId worker jobId request) := by
  rw [assignJob, run_updateHub_bind, Procedure.run_update, given]
  by_cases isOpen : (server.hub.connections.get? worker.ws).map
      Connection.readyState = some .open
  · rw [if_pos (by exact isOpen), if_pos isOpen]
  · rw [if_neg (by exact isOpen), if_neg isOpen]

omit [JsNumber Number] in
theorem run_matchJob (isOpen : server.databaseOpen = true) (jobId : String)
    (request : RawRequest Number) (workerId : String)
    (worker : RawWorker Number) :
    (matchJob jobId request workerId worker).run (server.marked workerId) =
      match bindOne worker.pubkey with
      | .error error => (.error (.thrown (.bind error)), server.marked workerId)
      | .ok key =>
        (.ok (), server.matchedWith jobId request workerId worker key) := by
  have stillOpen : (server.marked workerId).databaseOpen = true := isOpen
  rw [matchJob, Procedure.run_bind_of_ok (run_statement stillOpen)]
  cases bindOne worker.pubkey with
  | error error => rfl
  | ok key =>
    have returned : (attempt ((Except.ok key).mapError Thrown.bind) :
        Action Number Value).run (server.marked workerId) =
        (.ok key, server.marked workerId) := rfl
    rw [Procedure.run_bind_of_ok returned, run_updateHub_bind, run_assignJob]
    rfl

omit [JsNumber Number] [SqlNumber Number] in
theorem run_failJob (isOpen : server.databaseOpen = true) (jobId : String)
    (result : JsonText) :
    (failJob jobId result).run server =
      (.ok (), server.changeRow jobId (failedRow result)) :=
  run_updateJob isOpen jobId _

theorem route_routed (isOpen : server.databaseOpen = true) (now : Nat)
    (jobId : String) (request : RawRequest Number) :
    Routed now jobId request server ((route now jobId request).run server).2 := by
  have claimed := claims now request server
  rw [route, Procedure.run_bind]
  generalize (claimWorker now request).run server = ends at claimed
  cases claimed with
  | throws unsearchable unused =>
    rw [unused isOpen]
    exact .stopped unsearchable
  | nobody searchable none =>
    dsimp only
    cases asked : isPrivate request with
    | true =>
      rw [if_pos rfl, Procedure.run_bind_of_ok (run_failJob isOpen _ _)]
      exact .refused asked none
    | false =>
      rw [if_neg Bool.false_ne_true]
      exact .waiting asked none
  | @best workerId worker searchable chosen =>
    dsimp only
    rw [Procedure.run_bind, run_matchJob isOpen]
    cases bound : bindOne worker.pubkey with
    | error error => exact .stuck chosen bound
    | ok key => exact .assigned chosen bound

theorem retryTick_ticked {jobId : String} {interval : Interval Number}
    (now : Nat) (live : server.intervals.get? jobId = some interval) :
    Ticked now jobId interval (server.counted jobId interval)
      ((retryTick now jobId).run server).2 := by
  rw [retryTick, Procedure.run_read_bind, live]
  dsimp only
  rw [Procedure.run_update_bind]
  change Ticked _ _ _ _ (Procedure.run _ (server.counted jobId interval)).2
  by_cases isOpen : server.databaseOpen = true
  · have stillOpen : (server.counted jobId interval).databaseOpen = true :=
      isOpen
    rw [Procedure.run_bind_of_ok (run_statement stillOpen)]
    by_cases pending : (server.hub.jobs.get? jobId).map JobRow.status =
        some .pending
    · rw [if_neg (not_not.mpr pending), Procedure.run_bind]
      rcases Option.map_eq_some_iff.mp pending with ⟨row, stored, status⟩
      have claimed := claims now interval.request
        (server.counted jobId interval)
      generalize (claimWorker now interval.request).run
        (server.counted jobId interval) = ends at claimed
      cases claimed with
      | throws unsearchable unused =>
        rw [unused stillOpen]
        exact .stopped unsearchable
      | nobody searchable none =>
        dsimp only
        by_cases last : interval.attempts + 1 ≥ maxAttempts
        · rw [if_pos last,
            Procedure.run_bind_of_ok (run_failJob stillOpen _ _)]
          exact .failed stored status none last
        · rw [if_neg last]
          exact .counted none (Nat.lt_of_not_ge last)
      | @best workerId worker searchable chosen =>
        dsimp only
        rw [Procedure.run_bind, run_matchJob stillOpen]
        cases bound : bindOne worker.pubkey with
        | error error => exact .stuck chosen bound
        | ok key => exact .assigned stored status chosen bound
    · rw [if_pos pending]
      exact .settled pending
  · have closed : (server.counted jobId interval).databaseOpen = false :=
      Bool.eq_false_of_not_eq_true isOpen
    rw [Procedure.run_bind_of_error (run_statement_closed closed)]
    exact .closed closed

theorem retryTick_effect {jobId : String}
    (event : input.event = .retryTick jobId) :
    Effect env input server ((retryTick input.now jobId).run server).2 := by
  cases live : server.intervals.get? jobId with
  | none =>
    rw [retryTick, Procedure.run_read_bind, live]
    exact .quiet (.refl server)
  | some interval => exact .tick event live (retryTick_ticked _ live)

theorem demoTick_effect {choice : DemoChoice}
    (event : input.event = .demoTick choice) :
    Effect env input server ((demoTick input.uuid choice).run server).2 := by
  rw [demoTick, Procedure.run_read_bind]
  dsimp only
  split
  · next workerId worker task picked _ =>
      have member := List.mem_of_getElem? picked
      rw [List.mem_filter] at member
      have tracked := (OrderedMap.get?_eq_some_iff ..).mpr member.1
      split
      · rw [run_updateHub_bind, run_assignJob]
        exact .demo event tracked (of_decide_eq_true member.2)
      · exact .quiet (.refl server)
  · exact .quiet (.refl server)

theorem commit_effect {tier : Tier} {body : Option (Json Number)}
    (event : input.event = .commit tier body) :
    Effect env input server
      ((handleCommit input.now input.uuid tier body).run server).2 := by
  rcases run_handleCommit server input.now input.uuid tier body with
    ⟨reply, _, ends⟩ | ⟨request, failure, misused, _, ends, _⟩ |
    ⟨request, row, valid, built, fresh, isOpen, ends⟩
  · rw [ends]
    exact .quiet (.refl server)
  · rw [ends]
    exact .quiet (.misused server misused)
  · rw [ends]
    exact .commit event valid built fresh isOpen
      (route_routed (by exact isOpen) _ _ _)

theorem trust_quiet (request : TrustRouter.Request Number) :
    Calm server ((trust input.now input.uuid request).run server).2 := by
  by_cases isOpen : server.databaseOpen = true
  · rw [trust, Procedure.run_bind_of_ok (run_statement isOpen),
      Procedure.run_read_bind]
    cases TrustRouter.handle server.hub.trustPairings
        { now := input.now, uuid := input.uuid, request := request } with
    | error error => exact .refl server
    | ok pairings => exact .of_same rfl rfl rfl rfl rfl rfl rfl
  · rw [trust, Procedure.run_bind_of_error (run_statement_closed
      (Bool.eq_false_of_not_eq_true isOpen))]
    exact .misused server true

theorem step_effect (env : RawEnvironment Number) (server : Server Number)
    (input : Input Number) :
    Effect env input (server.issue input.uuid)
      ((machine env).step server input) := by
  change Effect _ _ _ ((handle env input).run (server.issue input.uuid)).2
  unfold handle
  cases event : input.event with
  | connect ws => exact .quiet (.of_same rfl rfl rfl rfl rfl rfl rfl)
  | frame ws text => exact frame_effect event
  | closing ws => exact .quiet (.of_same rfl rfl rfl rfl rfl rfl rfl)
  | close ws => exact .dropped (onClose_drops ws _)
  | pruneStale => exact .dropped (pruneStale_drops input.now _)
  | commit tier body =>
    have effect : Effect env input (server.issue input.uuid)
        ((handleCommit input.now input.uuid tier body).run
          (server.issue input.uuid)).2 := commit_effect event
    dsimp only
    rw [Procedure.run_bind]
    generalize (handleCommit input.now input.uuid tier body).run _ = ends
      at effect
    rcases ends with ⟨result, next⟩
    cases result with
    | ok reply => exact effect
    | error error => exact effect
  | retryTick jobId => exact retryTick_effect event
  | trust request => exact .quiet (trust_quiet request)
  | demoStart => exact .quiet (.of_same rfl rfl rfl rfl rfl rfl rfl)
  | demoStop => exact .quiet (.of_same rfl rfl rfl rfl rfl rfl rfl)
  | demoTick choice => exact demoTick_effect event
  | reputationFetched workerId score =>
    exact .quiet (.updateWorker _ workerId fun _ => rfl)
  | stakeFetched workerId tier =>
    exact .quiet (.updateWorker _ workerId fun _ => rfl)
  | shutdown => exact .quiet (.of_same rfl rfl rfl rfl rfl rfl rfl)

end Handlers

end Dispatch.Coordinator.Server
