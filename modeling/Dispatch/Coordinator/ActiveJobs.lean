import Dispatch.Coordinator.Claiming

/-! # Active jobs

The worker map and the jobs table are written by handlers that look at one of
them only.
-/

namespace Dispatch.Coordinator.Server

open Sqlite Listener

/-! ## What is in the hands of workers -/

section Hands

variable {Number : Type}

def hand (server : Server Number) (workerId : String) :
    Option (String × Option (Json Number)) :=
  (server.hub.workers.get? workerId).bind fun worker =>
    worker.activeJobId.map fun jobId => (jobId, worker.pubkey)

def assignedTo (server : Server Number) (jobId : String) :
    Option (Option String) :=
  (server.hub.jobs.get? jobId).bind fun row =>
    if row.status = .assigned then some row.workerPubkey else none

theorem Holds.hand {server : Server Number} {workerId jobId : String}
    {worker : RawWorker Number} (holds : Holds server workerId worker jobId) :
    server.hand workerId = some (jobId, worker.pubkey) := by
  rw [Server.hand, holds.tracked, Option.bind_some, holds.active]
  rfl

theorem holds_of_hand {server : Server Number} {workerId jobId : String}
    {pubkey : Option (Json Number)}
    (held : server.hand workerId = some (jobId, pubkey)) :
    ∃ worker, Holds server workerId worker jobId ∧ worker.pubkey = pubkey := by
  rcases Option.bind_eq_some_iff.mp held with ⟨worker, tracked, active⟩
  rcases Option.map_eq_some_iff.mp active with ⟨job, isJob, same⟩
  cases same
  exact ⟨worker, ⟨tracked, isJob⟩, rfl⟩

theorem core_status {worker other : RawWorker Number}
    (same : core worker = core other) : worker.status = other.status := by
  have equal := congrArg RawWorker.status same
  exact equal

theorem core_activeJobId {worker other : RawWorker Number}
    (same : core worker = core other) :
    worker.activeJobId = other.activeJobId := by
  have equal := congrArg RawWorker.activeJobId same
  exact equal

theorem core_pubkey {worker other : RawWorker Number}
    (same : core worker = core other) : worker.pubkey = other.pubkey := by
  have equal := congrArg RawWorker.pubkey same
  exact equal

theorem hand_of_core {server next : Server Number} {workerId : String}
    (same : (next.hub.workers.get? workerId).map core =
      (server.hub.workers.get? workerId).map core) :
    next.hand workerId = server.hand workerId := by
  have read : ∀ server : Server Number, server.hand workerId =
      ((server.hub.workers.get? workerId).map core).bind fun worker =>
        worker.activeJobId.map fun jobId => (jobId, worker.pubkey) := by
    intro server
    rw [Option.bind_map]
    rfl
  rw [read, read, same]

theorem hand_marked (server : Server Number) (workerId other : String) :
    (server.marked workerId).hand other = server.hand other := by
  rw [hand, marked, Hub.updateWorker, OrderedMap.get?_modify]
  split
  · rw [Option.bind_map]
    rfl
  · rfl

theorem hand_freed (server : Server Number) (workerId other : String) :
    (server.freed workerId).hand other =
      if other = workerId then none else server.hand other := by
  rw [hand, freed, Hub.resetWorker, Hub.updateWorker, OrderedMap.get?_modify]
  split
  · rw [Option.bind_map]
    exact Option.bind_fun_none _
  · rfl

theorem hand_without (server : Server Number) (workerId other : String) :
    (server.without workerId).hand other =
      if other = workerId then none else server.hand other := by
  rw [hand, without, OrderedMap.get?_delete]
  split
  · rfl
  · rfl

theorem hand_given {server : Server Number} {workerId : String}
    {stored : RawWorker Number}
    (tracked : server.hub.workers.get? workerId = some stored)
    (worker : RawWorker Number) (jobId : String)
    (request : RawRequest Number) (other : String) :
    (server.given workerId worker jobId request).hand other =
      if other = workerId then some (jobId, stored.pubkey)
      else server.hand other := by
  rw [hand, given, Hub.updateWorker, OrderedMap.get?_modify]
  split
  · next same =>
      rw [same, tracked]
      rfl
  · rfl

theorem marked_tracked {server : Server Number} {workerId : String}
    {worker : RawWorker Number}
    (tracked : server.hub.workers.get? workerId = some worker) :
    (server.marked workerId).hub.workers.get? workerId =
      some { worker with status := .busy } := by
  rw [marked, Hub.updateWorker, OrderedMap.get?_modify, if_pos rfl, tracked]
  rfl

theorem hand_matchedWith {server : Server Number} {workerId : String}
    {worker : RawWorker Number}
    (tracked : server.hub.workers.get? workerId = some worker)
    (jobId : String) (request : RawRequest Number) (key : Value)
    (other : String) :
    (server.matchedWith jobId request workerId worker key).hand other =
      if other = workerId then some (jobId, worker.pubkey)
      else server.hand other := by
  have stored : ((server.marked workerId).changeRow jobId
      (boundRow key)).hub.workers.get? workerId =
      some { worker with status := .busy } := marked_tracked tracked
  rw [matchedWith, hand_given stored]
  split
  · rfl
  · exact hand_marked server workerId other

theorem assignedTo_changeRow (server : Server Number) (jobId : String)
    (change : JobRow → JobRow) (other : String) :
    (server.changeRow jobId change).assignedTo other =
      if other = jobId then
        (server.hub.jobs.get? jobId).bind fun row =>
          if (change row).status = .assigned then
            some (change row).workerPubkey
          else none
      else server.assignedTo other := by
  rw [assignedTo, changeRow, OrderedMap.get?_modify]
  split
  · next same => rw [same, Option.bind_map]; rfl
  · rfl

theorem assignedTo_changeRow_of_settled {server : Server Number}
    {jobId : String} {change : JobRow → JobRow}
    (settles : ∀ row, (change row).status ≠ .assigned) (other : String) :
    (server.changeRow jobId change).assignedTo other =
      if other = jobId then none else server.assignedTo other := by
  rw [assignedTo_changeRow]
  simp only [if_neg (settles _), Option.bind_fun_none]

theorem assignedTo_matchedWith {server : Server Number} {jobId : String}
    {row : JobRow} (stored : server.hub.jobs.get? jobId = some row)
    (request : RawRequest Number) (workerId : String)
    (worker : RawWorker Number) (key : Value) (other : String) :
    (server.matchedWith jobId request workerId worker key).assignedTo other =
      if other = jobId then some key.text? else server.assignedTo other := by
  have changed := assignedTo_changeRow server jobId (boundRow key) other
  rw [stored] at changed
  exact changed

theorem matchedWith_row {server : Server Number} {jobId : String} {row : JobRow}
    (stored : server.hub.jobs.get? jobId = some row)
    (request : RawRequest Number) (workerId : String)
    (worker : RawWorker Number) (key : Value) :
    ∃ row, (server.matchedWith jobId request workerId worker
      key).hub.jobs.get? jobId = some row := by
  refine ⟨boundRow key row, ?_⟩
  have changed := server.hub.jobs.get?_modify jobId jobId (boundRow key)
  rwa [if_pos rfl, stored] at changed

end Hands

/-! ## Jobs change hands -/

section Custody

variable {Number : Type} [SqlNumber Number]

structure Custody (server : Server Number) : Prop where
  single : ∀ left right jobId leftKey rightKey,
    server.hand left = some (jobId, leftKey) →
    server.hand right = some (jobId, rightKey) → left = right
  held : ∀ workerId jobId pubkey,
    server.hand workerId = some (jobId, pubkey) → isDemoJob jobId = false →
    ∃ key, bindOne pubkey = .ok key ∧
      server.assignedTo jobId = some key.text?
  assigned : ∀ jobId key, server.assignedTo jobId = some key →
    ∃ workerId pubkey, server.hand workerId = some (jobId, pubkey)
  real : ∀ jobId key, server.assignedTo jobId = some key →
    isDemoJob jobId = false ∧ jobId ≠ ""
  issued : ∀ workerId jobId pubkey,
    server.hand workerId = some (jobId, pubkey) → isDemoJob jobId = true →
    ∃ uuid ∈ server.issued, jobId = demoJobId uuid

variable {server next : Server Number}

theorem Custody.of_same (custody : Custody server)
    (hands : ∀ workerId, next.hand workerId = server.hand workerId)
    (rows : ∀ jobId, next.assignedTo jobId = server.assignedTo jobId)
    (issued : server.issued ⊆ next.issued) : Custody next where
  single left right jobId leftKey rightKey leftHeld rightHeld :=
    custody.single left right jobId leftKey rightKey (hands left ▸ leftHeld)
      (hands right ▸ rightHeld)
  held workerId jobId pubkey held real := by
    rw [rows]
    exact custody.held workerId jobId pubkey (hands workerId ▸ held) real
  assigned jobId key assigned := by
    rcases custody.assigned jobId key (rows jobId ▸ assigned) with
      ⟨workerId, pubkey, held⟩
    exact ⟨workerId, pubkey, (hands workerId).trans held⟩
  real jobId key assigned := custody.real jobId key (rows jobId ▸ assigned)
  issued workerId jobId pubkey held demo := by
    rcases custody.issued workerId jobId pubkey (hands workerId ▸ held) demo
      with ⟨uuid, member, same⟩
    exact ⟨uuid, issued member, same⟩

theorem Custody.issue (custody : Custody server) (uuid : Uuid) :
    Custody (server.issue uuid) :=
  custody.of_same (fun _ => rfl) (fun _ => rfl) (List.subset_cons_self _ _)

theorem Custody.released (custody : Custody server) {workerId : String}
    (hands : ∀ other, next.hand other =
      if other = workerId then none else server.hand other)
    (rows : ∀ jobId, next.assignedTo jobId =
      if (server.hand workerId).map Prod.fst = some jobId then none
      else server.assignedTo jobId)
    (issued : next.issued = server.issued) : Custody next := by
  have kept : ∀ {other entry}, next.hand other = some entry →
      other ≠ workerId ∧ server.hand other = some entry := by
    intro other entry held
    rw [hands] at held
    split at held
    · cases held
    · next different => exact ⟨different, held⟩
  constructor
  · intro left right jobId leftKey rightKey leftHeld rightHeld
    exact custody.single left right jobId leftKey rightKey (kept leftHeld).2
      (kept rightHeld).2
  · intro other jobId pubkey held real
    rcases kept held with ⟨different, before⟩
    rw [rows, if_neg]
    · exact custody.held other jobId pubkey before real
    · intro same
      rcases Option.map_eq_some_iff.mp same with ⟨⟨_, key⟩, own, rfl⟩
      exact different (custody.single other workerId _ pubkey key before own)
  · intro jobId key assigned
    rw [rows] at assigned
    split at assigned
    · cases assigned
    · next notOwn =>
        rcases custody.assigned jobId key assigned with ⟨other, pubkey, held⟩
        refine ⟨other, pubkey, ?_⟩
        rw [hands, if_neg]
        · exact held
        · rintro rfl
          exact notOwn (by rw [held]; rfl)
  · intro jobId key assigned
    rw [rows] at assigned
    split at assigned
    · cases assigned
    · exact custody.real jobId key assigned
  · intro other jobId pubkey held demo
    rw [issued]
    exact custody.issued other jobId pubkey (kept held).2 demo

theorem Custody.taken (custody : Custody server) {workerId jobId : String}
    {pubkey : Option (Json Number)} (empty : server.hand workerId = none)
    (unheld : ∀ other key, server.hand other ≠ some (jobId, key))
    (hands : ∀ other, next.hand other =
      if other = workerId then some (jobId, pubkey) else server.hand other)
    (others : ∀ other, other ≠ jobId →
      next.assignedTo other = server.assignedTo other)
    (row : isDemoJob jobId = false → jobId ≠ "" ∧ ∃ key,
      bindOne pubkey = .ok key ∧ next.assignedTo jobId = some key.text?)
    (demo : isDemoJob jobId = true → next.assignedTo jobId = none ∧
      ∃ uuid ∈ server.issued, jobId = demoJobId uuid)
    (issued : next.issued = server.issued) :
    Custody next := by
  have kept : ∀ {other entry}, next.hand other = some entry →
      other = workerId ∧ entry = (jobId, pubkey) ∨
        other ≠ workerId ∧ server.hand other = some entry := by
    intro other entry held
    rw [hands] at held
    split at held
    · next same => exact .inl ⟨same, (Option.some.inj held).symm⟩
    · next different => exact .inr ⟨different, held⟩
  constructor
  · intro left right job leftKey rightKey leftHeld rightHeld
    rcases kept leftHeld with ⟨rfl, same⟩ | ⟨_, leftBefore⟩
    · rcases kept rightHeld with ⟨rfl, _⟩ | ⟨_, rightBefore⟩
      · rfl
      · cases same
        exact absurd rightBefore (unheld right _)
    · rcases kept rightHeld with ⟨rfl, same⟩ | ⟨_, rightBefore⟩
      · cases same
        exact absurd leftBefore (unheld left _)
      · exact custody.single left right job leftKey rightKey leftBefore
          rightBefore
  · intro other job key held real
    rcases kept held with ⟨_, same⟩ | ⟨_, before⟩
    · cases same
      exact (row real).2
    · rw [others job]
      · exact custody.held other job key before real
      · rintro rfl
        exact unheld other key before
  · intro job key assigned
    by_cases same : job = jobId
    · exact ⟨workerId, pubkey, by rw [hands, if_pos rfl, same]⟩
    · rw [others job same] at assigned
      rcases custody.assigned job key assigned with ⟨other, otherKey, held⟩
      refine ⟨other, otherKey, ?_⟩
      rw [hands, if_neg]
      · exact held
      · rintro rfl
        rw [empty] at held
        cases held
  · intro job key assigned
    by_cases same : job = jobId
    · cases isDemo : isDemoJob jobId with
      | false => exact same ▸ ⟨isDemo, (row isDemo).1⟩
      | true =>
        rw [same, (demo isDemo).1] at assigned
        cases assigned
    · exact custody.real job key (others job same ▸ assigned)
  · intro other job key held isDemo
    rw [issued]
    rcases kept held with ⟨_, same⟩ | ⟨_, before⟩
    · cases same
      exact (demo isDemo).2
    · exact custody.issued other job key before isDemo

theorem Custody.released_of_holds (custody : Custody server)
    {workerId jobId : String} {worker : RawWorker Number}
    (holds : Holds server workerId worker jobId)
    (hands : ∀ other, next.hand other =
      if other = workerId then none else server.hand other)
    (rows : ∀ other, next.assignedTo other =
      if other = jobId then none else server.assignedTo other)
    (issued : next.issued = server.issued) : Custody next := by
  refine custody.released hands ?_ issued
  intro other
  rw [rows, holds.hand, Option.map_some]
  simp only [Option.some.injEq, eq_comm]

theorem Custody.unassigned (custody : Custody server) {jobId : String}
    (unreal : jobId = "" ∨ isDemoJob jobId = true) :
    server.assignedTo jobId = none := by
  cases assigned : server.assignedTo jobId with
  | none => rfl
  | some key =>
    rcases custody.real jobId key assigned with ⟨real, nonempty⟩
    rcases unreal with empty | demo
    · exact absurd empty nonempty
    · rw [real] at demo
      cases demo

theorem Custody.released_rowless (custody : Custody server)
    {workerId : String}
    (rowless : ∀ jobId, (server.hand workerId).map Prod.fst = some jobId →
      jobId = "" ∨ isDemoJob jobId = true)
    (hands : ∀ other, next.hand other =
      if other = workerId then none else server.hand other)
    (rows : ∀ jobId, next.assignedTo jobId = server.assignedTo jobId)
    (issued : next.issued = server.issued) : Custody next := by
  refine custody.released hands ?_ issued
  intro jobId
  rw [rows]
  split
  · next own => exact custody.unassigned (rowless jobId own)
  · rfl

theorem Custody.unheld (custody : Custody server) {jobId : String}
    (real : isDemoJob jobId = false)
    (unassigned : server.assignedTo jobId = none) (other : String)
    (key : Option (Json Number)) : server.hand other ≠ some (jobId, key) := by
  intro held
  rcases custody.held other jobId key held real with ⟨_, _, assigned⟩
  rw [unassigned] at assigned
  cases assigned

end Custody

/-! ## Where a tracked worker comes from -/

section Workers

variable {Number : Type} [JsNumber Number] [SqlNumber Number]

inductive WorkerStep (input : Input Number)
    (workers : OrderedMap String (RawWorker Number))
    (jobs : OrderedMap String JobRow) (workerId : String)
    (worker : RawWorker Number) : Prop
  | kept {old : RawWorker Number}
      (tracked : workers.get? workerId = some old)
      (same : core worker = core old)
  | registered {ws : SocketId} {msg : Json Number}
      (carries : Carries input ws .register msg)
      (same : core worker = core (registration input.now ws msg))
  | reset {old : RawWorker Number}
      (tracked : workers.get? workerId = some old)
      (same : core worker =
        core { old with status := .idle, activeJobId := none })
  | stuck {old : RawWorker Number} {error : BindError}
      (tracked : workers.get? workerId = some old)
      (idle : old.status = .idle) (unbound : bindOne old.pubkey = .error error)
      (same : core worker = core { old with status := .busy })
  | given {old : RawWorker Number} {jobId : String}
      (tracked : workers.get? workerId = some old)
      (idle : old.status = .idle)
      (source : jobId = demoJobId input.uuid ∨
        ∃ row, jobs.get? jobId = some row)
      (same : core worker =
        core { old with status := .busy, activeJobId := some jobId })

omit [JsNumber Number] [SqlNumber Number] in
theorem tracked_updateWorker {hub : Hub Number} {workerId other : String}
    {change : RawWorker Number → RawWorker Number} {worker : RawWorker Number}
    (tracked : (hub.updateWorker workerId change).workers.get? other =
      some worker) :
    hub.workers.get? other = some worker ∨
      ∃ old, other = workerId ∧ hub.workers.get? other = some old ∧
        worker = change old := by
  rw [Hub.updateWorker, OrderedMap.get?_modify] at tracked
  split at tracked
  · next same =>
      rcases Option.map_eq_some_iff.mp tracked with ⟨old, found, changed⟩
      exact .inr ⟨old, same, found, changed.symm⟩
  · exact .inl tracked

omit [JsNumber Number] [SqlNumber Number] in
theorem Calm.tracked {server next : Server Number}
    (quiet : Calm server next) {workerId : String}
    {worker : RawWorker Number}
    (tracked : next.hub.workers.get? workerId = some worker) :
    ∃ old, server.hub.workers.get? workerId = some old ∧
      core worker = core old := by
  have same := quiet.workers workerId
  rw [tracked, Option.map_some, eq_comm, Option.map_eq_some_iff] at same
  rcases same with ⟨old, found, equal⟩
  exact ⟨old, found, equal.symm⟩

omit [JsNumber Number] [SqlNumber Number] in
theorem drops_tracked {server next : Server Number}
    (drops : Relation.ReflTransGen Drop server next) {workerId : String}
    {worker : RawWorker Number}
    (tracked : next.hub.workers.get? workerId = some worker) :
    ∃ old, server.hub.workers.get? workerId = some old ∧
      core worker = core old := by
  induction drops generalizing worker with
  | refl => exact ⟨worker, tracked, rfl⟩
  | @tail middle last _ drop induction =>
    have before : ∃ old, middle.hub.workers.get? workerId = some old ∧
        core worker = core old := by
      cases drop with
      | quiet quiet => exact quiet.tracked tracked
      | jobless | failed =>
        rw [without, OrderedMap.get?_delete] at tracked
        split at tracked
        · cases tracked
        · exact ⟨worker, tracked, rfl⟩
    rcases before with ⟨old, found, same⟩
    rcases induction found with ⟨older, stored, earlier⟩
    exact ⟨older, stored, same.trans earlier⟩

variable {env : RawEnvironment Number} {input : Input Number}
  {server next : Server Number} {workerId : String}
  {worker : RawWorker Number}

theorem workerStep_of_freed {other : String}
    (tracked : (server.freed other).hub.workers.get? workerId = some worker) :
    WorkerStep input server.hub.workers next.hub.jobs workerId worker := by
  rcases tracked_updateWorker tracked with before | ⟨old, _, found, rfl⟩
  · exact .kept before rfl
  · exact .reset found rfl

theorem workerStep_of_stuck {other : String} {claimed : RawWorker Number}
    {error : BindError} (idle : claimed.status = .idle)
    (found : server.hub.workers.get? other = some claimed)
    (unbound : bindOne claimed.pubkey = .error error)
    (tracked : (server.marked other).hub.workers.get? workerId = some worker) :
    WorkerStep input server.hub.workers next.hub.jobs workerId worker := by
  rcases tracked_updateWorker tracked with before | ⟨old, rfl, stored, rfl⟩
  · exact .kept before rfl
  · cases found.symm.trans stored
    exact .stuck found idle unbound rfl

theorem workerStep_of_given {other jobId : String}
    {claimed : RawWorker Number} (idle : claimed.status = .idle)
    (found : server.hub.workers.get? other = some claimed)
    (source : jobId = demoJobId input.uuid ∨
      ∃ row, next.hub.jobs.get? jobId = some row)
    (tracked : ((server.marked other).hub.updateWorker other fun worker =>
      { worker with activeJobId := some jobId }).workers.get? workerId =
        some worker) :
    WorkerStep input server.hub.workers next.hub.jobs workerId worker := by
  by_cases same : workerId = other
  · rw [same, Hub.updateWorker, OrderedMap.get?_modify, if_pos rfl,
      marked_tracked found, Option.map_some, Option.some.injEq] at tracked
    exact same ▸ .given found idle source (congrArg core tracked).symm
  · rw [Hub.updateWorker, OrderedMap.get?_modify, if_neg same, marked,
      Hub.updateWorker, OrderedMap.get?_modify, if_neg same] at tracked
    exact .kept tracked rfl

theorem Routed.workerStep {now : Nat} {jobId : String}
    {request : RawRequest Number}
    (routed : Routed now jobId request server next) {row : JobRow}
    (stored : server.hub.jobs.get? jobId = some row)
    (tracked : next.hub.workers.get? workerId = some worker) :
    WorkerStep input server.hub.workers next.hub.jobs workerId worker := by
  cases routed with
  | stopped | refused | waiting => exact .kept tracked rfl
  | stuck chosen unbound =>
    exact workerStep_of_stuck chosen.eligible.idle chosen.tracked unbound
      tracked
  | @assigned other claimed key chosen =>
    exact workerStep_of_given chosen.eligible.idle chosen.tracked
      (.inr (matchedWith_row stored request other claimed key)) tracked

theorem Ticked.workerStep {now : Nat} {jobId : String}
    {interval : Interval Number}
    (ticked : Ticked now jobId interval server next)
    (tracked : next.hub.workers.get? workerId = some worker) :
    WorkerStep input server.hub.workers next.hub.jobs workerId worker := by
  cases ticked with
  | closed | settled | stopped | failed | counted => exact .kept tracked rfl
  | stuck chosen unbound =>
    exact workerStep_of_stuck chosen.eligible.idle chosen.tracked unbound
      tracked
  | @assigned _ other claimed key stored _ chosen =>
    exact workerStep_of_given chosen.eligible.idle chosen.tracked
      (.inr (matchedWith_row stored interval.request other claimed key))
      tracked

theorem Effect.workerStep (effect : Effect env input server next)
    (tracked : next.hub.workers.get? workerId = some worker) :
    WorkerStep input server.hub.workers next.hub.jobs workerId worker := by
  cases effect with
  | quiet quiet =>
    rcases quiet.tracked tracked with ⟨old, found, same⟩
    exact .kept found same
  | register carries quiet =>
    rcases quiet.tracked tracked with ⟨old, found, same⟩
    rw [registered, OrderedMap.get?_set] at found
    split at found
    · cases found
      exact .registered carries same
    · exact .kept found same
  | receipt => exact .kept tracked rfl
  | complete _ _ _ _ written =>
    rcases storeResult_tables written with ⟨receipts, rfl, _⟩
    exact workerStep_of_freed tracked
  | completeDemo => exact workerStep_of_freed tracked
  | reject => exact workerStep_of_freed tracked
  | rejectDemo => exact workerStep_of_freed tracked
  | dropped drops =>
    rcases drops_tracked drops tracked with ⟨old, found, same⟩
    exact .kept found same
  | commit _ _ _ _ _ routed =>
    exact routed.workerStep (by rw [withJob_get?, if_pos rfl]) tracked
  | tick _ _ ticked => exact ticked.workerStep tracked
  | demo _ found idle => exact workerStep_of_given idle found (.inl rfl) tracked

theorem Effect.hand (effect : Effect env input server next) {jobId : String}
    {pubkey : Option (Json Number)}
    (held : next.hand workerId = some (jobId, pubkey)) :
    server.hand workerId = some (jobId, pubkey) ∨
      jobId = demoJobId input.uuid ∨
        ∃ row, next.hub.jobs.get? jobId = some row := by
  rcases holds_of_hand held with ⟨worker, holds, rfl⟩
  have active := holds.active
  have before : ∀ {old : RawWorker Number},
      server.hub.workers.get? workerId = some old →
      old.activeJobId = some jobId → old.pubkey = worker.pubkey →
      server.hand workerId = some (jobId, worker.pubkey) := by
    intro old tracked had named
    rw [← named]
    exact Holds.hand ⟨tracked, had⟩
  cases effect.workerStep holds.tracked with
  | kept found same =>
    rw [core_activeJobId same] at active
    exact .inl (before found active (core_pubkey same).symm)
  | registered _ same | reset _ same =>
    rw [core_activeJobId same] at active
    cases active
  | stuck found _ _ same =>
    rw [core_activeJobId same] at active
    exact .inl (before found active (core_pubkey same).symm)
  | given _ _ source same =>
    rw [core_activeJobId same] at active
    cases active
    exact .inr source

end Workers

/-! ## Custody in every run -/

section Runs

variable {Number : Type} [JsNumber Number] [SqlNumber Number]

def IdleJobless (server : Server Number) : Prop :=
  ∀ workerId worker, server.hub.workers.get? workerId = some worker →
    worker.status = .idle → worker.activeJobId = none

variable {env : RawEnvironment Number} {input : Input Number}
  {server next : Server Number}

theorem Effect.idleJobless (effect : Effect env input server next)
    (jobless : IdleJobless server) : IdleJobless next := by
  intro workerId worker tracked idle
  cases effect.workerStep tracked with
  | kept found same =>
    rw [core_activeJobId same]
    exact jobless workerId _ found ((core_status same).symm.trans idle)
  | registered _ same | reset _ same => exact core_activeJobId same
  | stuck _ _ _ same | given _ _ _ same =>
    cases idle.symm.trans (core_status same)

theorem idleJobless (reachable : (machine env).Reachable server) :
    IdleJobless server := by
  apply reachable.invariant IdleJobless
  · intro workerId worker tracked
    cases tracked
  · intro server input _ jobless _
    exact (step_effect env server input).idleJobless
      (by exact jobless)

omit [JsNumber Number] [SqlNumber Number] in
theorem IdleJobless.hand (jobless : IdleJobless server) {workerId : String}
    {worker : RawWorker Number}
    (tracked : server.hub.workers.get? workerId = some worker)
    (idle : worker.status = .idle) : server.hand workerId = none := by
  rw [Server.hand, tracked, Option.bind_some,
    jobless workerId worker tracked idle]
  rfl

theorem jobRow_pending {now : Nat} {request : RawRequest Number} {row : JobRow}
    (built : jobRow now request = .ok row) : row.status = .pending := by
  unfold jobRow at built
  split at built
  · cases built
  · cases built
    rfl
  · cases built

omit [JsNumber Number] in
theorem drop_custody (custody : Custody server) (drop : Drop server next) :
    Custody next := by
  cases drop with
  | quiet quiet =>
    refine custody.of_same (fun other => hand_of_core (quiet.workers other))
      (fun jobId => ?_) (quiet.issued ▸ List.Subset.refl _)
    rw [assignedTo, quiet.jobs]
    rfl
  | @jobless workerId worker tracked jobless =>
    refine custody.released_rowless ?_ (hand_without server workerId)
      (fun _ => rfl) rfl
    intro jobId own
    rcases Option.map_eq_some_iff.mp own with ⟨⟨_, pubkey⟩, held, rfl⟩
    rcases holds_of_hand held with ⟨found, holds, _⟩
    cases tracked.symm.trans holds.tracked
    exact jobless _ holds.active
  | @failed workerId jobId worker holds real =>
    refine custody.released_of_holds holds (hand_without _ workerId) ?_ rfl
    exact assignedTo_changeRow_of_settled fun _ status => by cases status

theorem Routed.custody {now : Nat} {jobId : String}
    {request : RawRequest Number} {row : JobRow}
    (routed : Routed now jobId request server next) (custody : Custody server)
    (jobless : IdleJobless server)
    (stored : server.hub.jobs.get? jobId = some row)
    (pending : row.status = .pending) (real : isDemoJob jobId = false)
    (nonempty : jobId ≠ "") : Custody next := by
  have unassigned : server.assignedTo jobId = none := by
    rw [assignedTo, stored, Option.bind_some, pending]
    rfl
  cases routed with
  | stopped => exact custody
  | waiting => exact custody.of_same (fun _ => rfl) (fun _ => rfl) (.refl _)
  | stuck =>
    exact custody.of_same (hand_marked server _) (fun _ => rfl) (.refl _)
  | refused =>
    refine custody.of_same (fun _ => rfl) (fun other => ?_) (.refl _)
    rw [assignedTo_changeRow_of_settled fun _ status => by cases status]
    split
    · next same => rw [same, unassigned]
    · rfl
  | @assigned workerId worker key chosen bound =>
    have rows := assignedTo_matchedWith stored request workerId worker key
    refine custody.taken (jobless.hand chosen.tracked chosen.eligible.idle)
      (custody.unheld real unassigned)
      (hand_matchedWith chosen.tracked jobId request key)
      (fun other differs => (rows other).trans (if_neg differs)) ?_ ?_ rfl
    · intro _
      exact ⟨nonempty, key, bound, (rows jobId).trans (if_pos rfl)⟩
    · intro demo
      rw [real] at demo
      cases demo

theorem Ticked.custody {now : Nat} {jobId : String}
    {interval : Interval Number}
    (ticked : Ticked now jobId interval server next) (custody : Custody server)
    (jobless : IdleJobless server)
    (real : ∀ row, server.hub.jobs.get? jobId = some row →
      isDemoJob jobId = false ∧ jobId ≠ "") : Custody next := by
  cases ticked with
  | closed | settled =>
    exact custody.of_same (fun _ => rfl) (fun _ => rfl) (.refl _)
  | stopped | counted => exact custody
  | stuck =>
    exact custody.of_same (hand_marked server _) (fun _ => rfl) (.refl _)
  | assigned stored pending chosen bound =>
    have routed : Routed now jobId interval.request server _ :=
      .assigned chosen bound
    have taken := routed.custody custody jobless stored pending
      (real _ stored).1 (real _ stored).2
    exact taken.of_same (fun _ => rfl) (fun _ => rfl) (.refl _)
  | @failed row stored pending =>
    refine custody.of_same (fun _ => rfl) (fun other => ?_) (.refl _)
    have rows : (server.changeRow jobId
        (failedRow noEligibleWorkerResult)).assignedTo other = _ :=
      assignedTo_changeRow_of_settled (fun _ status => by cases status) other
    refine rows.trans ?_
    split
    · next same =>
        rw [same, assignedTo, stored, Option.bind_some, pending]
        rfl
    · rfl

theorem Effect.custody (effect : Effect env input server next)
    (custody : Custody server) (jobless : IdleJobless server)
    (rows : JobsIssued server) (named : input.uuid ∈ server.issued)
    (freshWorker : server.hub.workers.get? input.uuid.text = none)
    (freshDemo : ∀ other key,
      server.hand other ≠ some (demoJobId input.uuid, key)) :
    Custody next := by
  cases effect with
  | quiet quiet => exact drop_custody custody (.quiet quiet)
  | @register ws msg _ _ quiet =>
    have enters : Custody (server.registered input ws msg) := by
      refine custody.of_same (fun other => ?_) (fun _ => rfl) (.refl _)
      rw [Server.hand, registered, OrderedMap.get?_set]
      split
      · next same => rw [Server.hand, same, freshWorker]; rfl
      · rfl
    exact drop_custody enters (.quiet quiet)
  | receipt => exact custody.of_same (fun _ => rfl) (fun _ => rfl) (.refl _)
  | @complete _ msg _ jobId _ _ _ _ holds _ written =>
    rcases storeResult_tables written with ⟨receipts, rfl, _⟩
    refine custody.released_of_holds holds (hand_freed _ _) ?_ rfl
    exact assignedTo_changeRow_of_settled fun _ status => by cases status
  | completeDemo _ _ holds demo | rejectDemo holds demo =>
    refine custody.released_rowless ?_ (hand_freed _ _) (fun _ => rfl) rfl
    intro jobId own
    rw [holds.hand, Option.map_some, Option.some.injEq] at own
    exact .inr (own ▸ demo)
  | reject _ _ holds =>
    refine custody.released_of_holds holds (hand_freed _ _) ?_ rfl
    exact assignedTo_changeRow_of_settled fun _ status => by cases status
  | dropped drops =>
    induction drops with
    | refl => exact custody
    | tail _ drop induction => exact drop_custody induction drop
  | @commit _ _ _ row _ _ _ built fresh _ routed =>
    have pending := jobRow_pending built
    have unassigned : server.assignedTo input.uuid.text = none := by
      rw [assignedTo, fresh]
      rfl
    have inserted : Custody (server.withJob input.uuid.text row) := by
      refine custody.of_same (fun _ => rfl) (fun other => ?_) (.refl _)
      rw [assignedTo, withJob_get?]
      split
      · next same =>
          rw [same, unassigned, Option.bind_some, pending]
          rfl
      · rfl
    refine routed.custody inserted (by exact jobless) ?_ pending
      (isDemoJob_uuid _) (uuid_ne_empty _)
    rw [withJob_get?, if_pos rfl]
  | @tick jobId interval _ _ _ ticked =>
    have counts : Custody (server.counted jobId interval) :=
      custody.of_same (fun _ => rfl) (fun _ => rfl) (.refl _)
    refine ticked.custody counts (by exact jobless) ?_
    intro row stored
    rcases rows _ row stored with ⟨uuid, _, rfl⟩
    exact ⟨isDemoJob_uuid uuid, uuid_ne_empty uuid⟩
  | @demo _ task prompt workerId worker _ tracked idle =>
    have hands : ∀ other, ((server.marked workerId).given workerId worker
        (demoJobId input.uuid) (demoRequest task prompt)).hand other =
        if other = workerId then some (demoJobId input.uuid, worker.pubkey)
        else server.hand other := by
      intro other
      rw [hand_given (marked_tracked tracked), hand_marked]
    refine custody.taken (jobless.hand tracked idle) freshDemo hands
      (fun _ _ => rfl) ?_ ?_ rfl
    · intro real
      rw [isDemoJob_demoJobId] at real
      cases real
    · intro demo
      exact ⟨custody.unassigned (.inr demo), input.uuid, named, rfl⟩

theorem custody (reachable : (machine env).Reachable server) :
    Custody server := by
  apply reachable.invariant Custody
  · constructor
    · intro left right jobId leftKey rightKey held
      cases held
    · intro workerId jobId pubkey held
      cases held
    · intro jobId key assigned
      cases assigned
    · intro jobId key assigned
      cases assigned
    · intro workerId jobId pubkey held
      cases held
  · intro server input reachable custody enabled
    refine (step_effect env server input).custody (custody.issue input.uuid)
      ?_ ?_ (.head _) ?_ ?_
    · have jobless := idleJobless reachable
      exact jobless
    · intro jobId row stored
      rcases jobsIssued reachable jobId row stored with ⟨uuid, member, text⟩
      exact ⟨uuid, .tail _ member, text⟩
    · cases tracked : server.hub.workers.get? input.uuid.text with
      | none => exact tracked
      | some worker =>
        have key := (OrderedMap.mem_keys_iff ..).mpr ⟨worker, tracked⟩
        have issuedKey := (keys_issued reachable).subset key
        rcases List.mem_map.mp issuedKey with ⟨uuid, member, text⟩
        cases Uuid.ext text
        exact absurd (List.mem_reverse.mp member) enabled.1
    · intro other key held
      rcases custody.issued other _ key held (isDemoJob_demoJobId _) with
        ⟨uuid, member, same⟩
      exact enabled.1 (demoJobId_injective same ▸ member)

end Runs

/-! ## The worker map and the jobs table agree -/

section Agreement

variable {Number : Type}

structure WorkersAgree (server : Server Number) : Prop where
  busy_iff : ∀ workerId worker,
    server.hub.workers.get? workerId = some worker →
    (worker.status = .busy ↔ worker.activeJobId ≠ none)
  unique : ∀ {left right leftWorker rightWorker jobId},
    Holds server left leftWorker jobId → Holds server right rightWorker jobId →
    left = right
  assigned_iff : ∀ jobId row, server.hub.jobs.get? jobId = some row →
    (row.status = .assigned ↔
      ∃! workerId, ∃ worker, Holds server workerId worker jobId)
  pubkey : ∀ jobId row workerId worker,
    server.hub.jobs.get? jobId = some row →
    Holds server workerId worker jobId → ∃ key : String,
      worker.pubkey = some (.string key) ∧ row.workerPubkey = some key

structure Keyed (server : Server Number) : Prop where
  text : ∀ workerId worker, server.hub.workers.get? workerId = some worker →
    ∃ key : String, worker.pubkey = some (.string key)
  occupied : ∀ workerId worker,
    server.hub.workers.get? workerId = some worker → worker.status = .busy →
    worker.activeJobId ≠ none

variable [JsNumber Number] [SqlNumber Number] {env : RawEnvironment Number}
  {input : Input Number} {server next : Server Number}

def RegistersText (_ : Server Number) (input : Input Number) : Prop :=
  ∀ ws msg, Carries input ws .register msg →
    ∃ key : String, msg.get? "provider_pubkey" = some (.string key)

omit [JsNumber Number] in
theorem bindOne_string (key : String) :
    bindOne (some (.string key : Json Number)) = .ok (.text key) := by
  have bound : bindOne (some (.string key : Json Number)) =
      .ok (.text (JsString.ofString key).toText) := rfl
  rw [bound, JsString.toText_ofString]

omit [JsNumber Number] [SqlNumber Number] in
theorem keyed_initial : Keyed (initial : Server Number) := by
  constructor
  · intro workerId worker tracked
    cases tracked
  · intro workerId worker tracked
    cases tracked

omit [JsNumber Number] [SqlNumber Number] in
theorem Keyed.issue (keyed : Keyed server) (uuid : Uuid) :
    Keyed (server.issue uuid) :=
  ⟨keyed.text, keyed.occupied⟩

theorem Effect.keyed (effect : Effect env input server next)
    (keyed : Keyed server) (registers : RegistersText server input) :
    Keyed next := by
  constructor
  · intro workerId worker tracked
    cases effect.workerStep tracked with
    | registered carries same =>
      rw [core_pubkey same]
      exact registers _ _ carries
    | kept found same | reset found same | stuck found _ _ same
    | given found _ _ same =>
      have kept := keyed.text workerId _ found
      rwa [core_pubkey same]
  · intro workerId worker tracked busy
    cases effect.workerStep tracked with
    | kept found same =>
      rw [core_activeJobId same]
      exact keyed.occupied workerId _ found
        ((core_status same).symm.trans busy)
    | registered _ same | reset _ same =>
      cases busy.symm.trans (core_status same)
    | stuck found _ unbound same =>
      rcases keyed.text workerId _ found with ⟨key, isText⟩
      rw [isText, bindOne_string] at unbound
      cases unbound
    | given _ _ _ same =>
      rw [core_activeJobId same]
      exact Option.some_ne_none _

omit [JsNumber Number] in
theorem workersAgree (custody : Custody server) (jobless : IdleJobless server)
    (keyed : Keyed server) (rows : JobsIssued server) :
    WorkersAgree server := by
  have real : ∀ {jobId row}, server.hub.jobs.get? jobId = some row →
      isDemoJob jobId = false := by
    intro jobId row stored
    rcases rows jobId row stored with ⟨uuid, _, rfl⟩
    exact isDemoJob_uuid uuid
  have assigned : ∀ {jobId row workerId worker},
      server.hub.jobs.get? jobId = some row →
      Holds server workerId worker jobId → ∃ key : String,
        worker.pubkey = some (.string key) ∧ row.status = .assigned ∧
        row.workerPubkey = some key := by
    intro jobId row workerId worker stored holds
    rcases custody.held workerId jobId _ holds.hand (real stored) with
      ⟨value, bound, named⟩
    rcases keyed.text workerId worker holds.tracked with ⟨key, isText⟩
    rw [isText, bindOne_string] at bound
    cases bound
    rw [assignedTo, stored, Option.bind_some] at named
    split at named
    · next status => exact ⟨key, isText, status, Option.some.inj named⟩
    · cases named
  have unique : ∀ {left right leftWorker rightWorker jobId},
      Holds server left leftWorker jobId →
      Holds server right rightWorker jobId → left = right :=
    fun leftHolds rightHolds =>
      custody.single _ _ _ _ _ leftHolds.hand rightHolds.hand
  refine ⟨?_, unique, ?_, ?_⟩
  · intro workerId worker tracked
    refine ⟨keyed.occupied workerId worker tracked, ?_⟩
    intro active
    cases status : worker.status with
    | busy => rfl
    | idle => exact absurd (jobless workerId worker tracked status) active
  · intro jobId row stored
    constructor
    · intro status
      have named : server.assignedTo jobId = some row.workerPubkey := by
        rw [assignedTo, stored, Option.bind_some, if_pos status]
      rcases custody.assigned jobId _ named with ⟨workerId, pubkey, held⟩
      rcases holds_of_hand held with ⟨worker, holds, _⟩
      refine ⟨workerId, ⟨worker, holds⟩, ?_⟩
      rintro other ⟨_, otherHolds⟩
      exact unique otherHolds holds
    · rintro ⟨workerId, ⟨worker, holds⟩, _⟩
      rcases assigned stored holds with ⟨_, _, status, _⟩
      exact status
  · intro jobId row workerId worker stored holds
    rcases assigned stored holds with ⟨key, isText, _, named⟩
    exact ⟨key, isText, named⟩

/-- In every run in which the registered keys are texts, a worker is busy
exactly when it has a job, no job has two workers, and a row is assigned exactly
when one worker has it, under the key that the row names. -/
theorem workers_agree_with_jobs {events : List (Input Number)}
    {final : Server Number} (run : (machine env).Run initial events final)
    (registers : (machine env).Steps RegistersText initial events) :
    (machine env).Along WorkersAgree initial events := by
  have agrees : ∀ server, (machine env).Reachable server → Keyed server →
      WorkersAgree server := by
    intro server reachable keyed
    exact workersAgree (custody reachable) (idleJobless reachable) keyed
      (jobsIssued reachable)
  have both : (machine env).Along
      (fun server => Keyed server ∧ WorkersAgree server) initial events := by
    refine run.along ?_ .start
      ⟨keyed_initial, agrees _ .start keyed_initial⟩ registers
    rintro server input reachable ⟨keyed, _⟩ enabled registers
    have later := (step_effect env server input).keyed
      (keyed.issue input.uuid) (by exact registers)
    exact ⟨later, agrees _ (reachable.step enabled) later⟩
  exact both.mono fun _ => And.right

omit [SqlNumber Number] in
theorem eq_of_strictEqual {value : Option (Json Number)} {text : JsString}
    (equal : Json.strictEqual value (some (.string text)) = true) :
    value = some (.string text) := by
  cases value with
  | none => cases equal
  | some value => exact congrArg some (strictEqual_string.mp equal)

omit [SqlNumber Number] in
theorem registersText_of_parsed {ws : SocketId} {text : String}
    (framed : input.event = .frame ws text) (key : String)
    (named : Json.strictEqual ((Json.parse text : Option (Json Number)).bind
      (·.get? "provider_pubkey")) (some (.string key)) = true) :
    RegistersText server input := by
  rintro _ msg ⟨⟨_, event, parsed⟩, _⟩
  cases framed.symm.trans event
  rw [parsed, Option.bind_some] at named
  exact ⟨key, eq_of_strictEqual named⟩

omit [SqlNumber Number] in
theorem registersText_of_type {ws : SocketId} {text : String}
    (framed : input.event = .frame ws text)
    (typed : (Json.parse text : Option (Json Number)).bind messageType? ≠
      some .register) : RegistersText server input := by
  rintro _ msg ⟨⟨_, event, parsed⟩, isRegister⟩
  cases framed.symm.trans event
  rw [parsed, Option.bind_some] at typed
  exact absurd isRegister typed

omit [SqlNumber Number] in
theorem registersText_of_other
    (other : ∀ ws text, input.event ≠ .frame ws text) :
    RegistersText server input := by
  rintro ws msg ⟨⟨text, event, _⟩, _⟩
  exact absurd event (other ws text)

end Agreement

namespace Sample

def halfRegistration : String :=
  "\x7b\"type\":\"register\",\"provider_pubkey\":\"\\ud800\"," ++
    "\"provider_type\":\"DESKTOP\",\"capabilities\":[\"TASK\"]\x7d"

def halfMatching : List (Input Empty) :=
  [at0 Coordinator.Sample.extraUuid (.connect 0),
    at0 Coordinator.Sample.workerUuid (.frame 0 halfRegistration),
    at0 Coordinator.Sample.jobUuid (.commit .fast (some (body .nil)))]

def halfMatched : Server Empty :=
  (machine Listener.Sample.environment).exec initial halfMatching

theorem half_ne_replacement :
    (some (.string "\uFFFD") : Option (Json Empty)) ≠
      some (.string [0xd800]) := by
  intro same
  rw [Option.some.injEq, Json.string.injEq] at same
  revert same
  decide +kernel

theorem matching_registers :
    (machine Listener.Sample.environment).Steps RegistersText initial
      matching := by
  refine ⟨registersText_of_other ?_, ?_, registersText_of_other ?_, trivial⟩
  · intro ws text event
    cases event
  · exact registersText_of_parsed rfl "d75a98" (by decide +kernel)
  · intro ws text event
    cases event

end Sample

theorem workers_agree_with_jobs_assigned :
    (Sample.matched.hub.jobs.get? Coordinator.Sample.jobUuid.text).map
        JobRow.status = some .assigned ∧
      (machine Listener.Sample.environment).Along WorkersAgree initial
        Sample.matching :=
  ⟨by decide +kernel, workers_agree_with_jobs
    (.of_steps Sample.matched_holds.1) Sample.matching_registers⟩

theorem half_key_disagrees :
    (machine Listener.Sample.environment).Reachable Sample.halfMatched ∧
      (Sample.halfMatched.hub.jobs.get? Coordinator.Sample.jobUuid.text).map
        (fun row => (row.status, row.workerPubkey)) =
        some (.assigned, some "\uFFFD") ∧
      (∃ worker, Holds Sample.halfMatched Coordinator.Sample.workerUuid.text
        worker Coordinator.Sample.jobUuid.text ∧
        worker.pubkey = some (.string [0xd800])) ∧
      ¬ WorkersAgree Sample.halfMatched := by
  have stored : (Sample.halfMatched.hub.jobs.get?
      Coordinator.Sample.jobUuid.text).map
      (fun row => (row.status, row.workerPubkey)) =
      some (.assigned, some "\uFFFD") := by
    decide +kernel
  have tracked : (Sample.halfMatched.hub.workers.get?
      Coordinator.Sample.workerUuid.text).any (fun worker =>
        worker.activeJobId = some Coordinator.Sample.jobUuid.text &&
          Json.strictEqual worker.pubkey (some (.string [0xd800]))) = true := by
    decide +kernel
  rcases (Option.any_eq_true ..).mp tracked with ⟨worker, found, facts⟩
  rw [Bool.and_eq_true, decide_eq_true_eq] at facts
  have key := eq_of_strictEqual facts.2
  refine ⟨⟨_, .of_steps (by decide +kernel)⟩, stored,
    ⟨worker, ⟨found, facts.1⟩, key⟩, ?_⟩
  intro agrees
  rcases Option.map_eq_some_iff.mp stored with ⟨row, isRow, columns⟩
  rcases agrees.pubkey _ row _ worker isRow ⟨found, facts.1⟩ with
    ⟨text, isText, named⟩
  cases named.symm.trans (congrArg Prod.snd columns)
  exact Sample.half_ne_replacement (isText.symm.trans key)

end Dispatch.Coordinator.Server
