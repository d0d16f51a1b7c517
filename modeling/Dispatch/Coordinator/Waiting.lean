import Dispatch.Coordinator.Claiming

/-! # Waiting jobs

A row is pending once it is inserted, and again when its worker gives the job
back.
-/

namespace Dispatch.Coordinator.Server

open Sqlite Listener

section Definitions

variable {Number : Type}

def PendingRetried (server : Server Number) : Prop :=
  ∀ jobId row, server.hub.jobs.get? jobId = some row → row.status = .pending →
    ∃ interval, server.intervals.get? jobId = some interval ∧
      interval.attempts < maxAttempts

def isTick (jobId : String) (input : Input Number) : Bool :=
  match input.event with
  | .retryTick other => other = jobId
  | _ => false

def ticks (jobId : String) (events : List (Input Number)) : Nat :=
  events.countP (isTick jobId)

variable [JsNumber Number] [SqlNumber Number]

def RejectsJob (server : Server Number) (input : Input Number) : Prop :=
  ∃ ws msg workerId worker jobId, Carries input ws .jobReject msg ∧
    server.hub.findByActiveJob (msg.get? "job_id") = some (workerId, worker) ∧
    worker.activeJobId = some jobId ∧ isDemoJob jobId = false

structure Matchable (server : Server Number) (request : RawRequest Number) :
    Prop where
  searchable : Searchable server request
  storable : ∀ workerId worker,
    server.hub.workers.get? workerId = some worker →
    Eligible server request worker → ∃ key, bindOne worker.pubkey = .ok key

structure LooksAfter (server : Server Number) (input : Input Number) :
    Prop where
  kept : ¬ RejectsJob server input
  commit : ∀ tier body request, input.event = .commit tier body →
    validateCommit tier body = .ok request → Matchable server request
  tick : ∀ jobId interval, input.event = .retryTick jobId →
    server.intervals.get? jobId = some interval →
    server.databaseOpen = true ∧ Matchable server interval.request

end Definitions

/-! ## One job -/

section Jobs

variable {Number : Type}

structure Waits (jobs : OrderedMap String JobRow)
    (intervals : OrderedMap String (Interval Number)) (fired : Nat)
    (jobId : String) : Prop where
  absent : jobs.get? jobId = none → intervals.get? jobId = none ∧ fired = 0
  pending : ∀ row, jobs.get? jobId = some row → row.status = .pending →
    ∃ interval, intervals.get? jobId = some interval ∧
      interval.attempts = fired ∧ fired < maxAttempts

variable {jobs : OrderedMap String JobRow}
  {intervals : OrderedMap String (Interval Number)} {fired : Nat}
  {jobId : String}

theorem Waits.of_same (waits : Waits jobs intervals fired jobId)
    {nextJobs : OrderedMap String JobRow}
    {nextIntervals : OrderedMap String (Interval Number)}
    (row : nextJobs.get? jobId = jobs.get? jobId)
    (interval : nextIntervals.get? jobId = intervals.get? jobId) :
    Waits nextJobs nextIntervals fired jobId := by
  constructor
  · rw [row, interval]
    exact waits.absent
  · rw [row, interval]
    exact waits.pending

theorem Waits.settled {row : JobRow} (stored : jobs.get? jobId = some row)
    (status : row.status ≠ .pending)
    (intervals : OrderedMap String (Interval Number)) (fired : Nat) :
    Waits jobs intervals fired jobId := by
  constructor
  · intro missing
    rw [stored] at missing
    cases missing
  · intro found isStored pending
    cases stored.symm.trans isStored
    exact absurd pending status

theorem Waits.modify (waits : Waits jobs intervals fired jobId)
    {change : JobRow → JobRow} (settles : ∀ row, (change row).status ≠ .pending)
    (other : String) :
    Waits (jobs.modify other change) intervals fired jobId := by
  have rows := jobs.get?_modify other jobId change
  by_cases same : jobId = other
  · rw [if_pos same] at rows
    cases stored : jobs.get? jobId with
    | none =>
      rw [stored] at rows
      exact waits.of_same (rows.trans stored.symm) rfl
    | some row =>
      rw [stored] at rows
      exact .settled rows (settles row) _ _
  · rw [if_neg same] at rows
    exact waits.of_same rows rfl

variable [JsNumber Number] [SqlNumber Number] {env : RawEnvironment Number}
  {input : Input Number} {server next : Server Number}
  {request : RawRequest Number}

theorem Matchable.elsewhere (matchable : Matchable server request)
    (jobs : OrderedMap String JobRow)
    (intervals : OrderedMap String (Interval Number)) (issued : List Uuid) :
    Matchable { server with
      hub := { server.hub with jobs := jobs }
      intervals := intervals
      issued := issued } request := by
  constructor
  · exact ⟨matchable.searchable.pairings, matchable.searchable.capabilities⟩
  · intro workerId worker tracked eligible
    exact matchable.storable workerId worker tracked
      ⟨eligible.idle, eligible.capable, eligible.trusted⟩

theorem Matchable.storable_chosen (matchable : Matchable server request)
    {now : Nat} {workerId : String} {worker : RawWorker Number}
    (chosen : Chosen now request server workerId worker) {error : BindError} :
    bindOne worker.pubkey ≠ .error error := by
  intro unbound
  rcases matchable.storable workerId worker chosen.tracked chosen.eligible with
    ⟨key, bound⟩
  rw [unbound] at bound
  cases bound

omit [JsNumber Number] [SqlNumber Number] in
theorem drops_waits (drops : Relation.ReflTransGen Drop server next)
    (waits : Waits server.hub.jobs server.intervals fired jobId) :
    Waits next.hub.jobs next.intervals fired jobId := by
  induction drops with
  | refl => exact waits
  | tail _ drop induction =>
    cases drop with
    | quiet quiet =>
      rw [quiet.jobs, quiet.intervals]
      exact induction
    | jobless => exact induction
    | failed => exact induction.modify (fun _ status => by cases status) _

theorem Routed.waits {now : Nat} {row : JobRow}
    (routed : Routed now jobId request server next)
    (matchable : Matchable server request)
    (stored : server.hub.jobs.get? jobId = some row)
    (other : String)
    (waits : other ≠ jobId →
      Waits server.hub.jobs server.intervals fired other)
    (unfired : other = jobId → fired = 0) :
    Waits next.hub.jobs next.intervals fired other := by
  have settles : ∀ {change : JobRow → JobRow},
      (∀ row, (change row).status ≠ .pending) →
      Waits (server.hub.jobs.modify jobId change) server.intervals fired
        other := by
    intro change settles
    by_cases same : other = jobId
    · refine .settled ?_ (settles row) _ _
      rw [OrderedMap.get?_modify, if_pos same, same, stored]
      rfl
    · exact (waits same).modify settles jobId
  cases routed with
  | stopped unsearchable => exact absurd matchable.searchable unsearchable
  | stuck chosen unbound =>
    exact absurd unbound (matchable.storable_chosen chosen)
  | assigned => exact settles fun _ status => by cases status
  | refused => exact settles fun _ status => by cases status
  | waiting =>
    have found := server.intervals.get?_set jobId other
      { request := request, attempts := 0 }
    by_cases same : other = jobId
    · rw [if_pos same] at found
      constructor
      · intro missing
        rw [same] at missing
        cases stored.symm.trans missing
      · intro _ _ _
        refine ⟨_, found, (unfired same).symm, ?_⟩
        rw [unfired same]
        decide
    · exact (waits same).of_same rfl (found.trans (if_neg same))

omit [JsNumber Number] [SqlNumber Number] in
theorem counted_get? (server : Server Number) (jobId other : String)
    (interval : Interval Number) :
    (server.counted jobId interval).intervals.get? other =
      if other = jobId then
        (server.intervals.get? jobId).map fun stored =>
          { stored with attempts := interval.attempts + 1 }
      else server.intervals.get? other := by
  rw [counted, OrderedMap.get?_modify]
  split
  · next same => rw [same]
  · rfl

theorem Ticked.others {now : Nat} {interval : Interval Number}
    (ticked : Ticked now jobId interval server next) {other : String}
    (differs : other ≠ jobId) :
    next.hub.jobs.get? other = server.hub.jobs.get? other ∧
      next.intervals.get? other = server.intervals.get? other := by
  have kept := (server.intervals.get?_delete jobId other).trans
    (if_neg differs)
  cases ticked with
  | closed | stopped | stuck | counted => exact ⟨rfl, rfl⟩
  | settled => exact ⟨rfl, kept⟩
  | assigned | failed =>
    exact ⟨(server.hub.jobs.get?_modify jobId other _).trans
      (if_neg differs), kept⟩

theorem Ticked.waits {now : Nat} {interval : Interval Number}
    (live : server.intervals.get? jobId = some interval)
    (ticked : Ticked now jobId interval (server.counted jobId interval) next)
    (isOpen : server.databaseOpen = true)
    (matchable : Matchable (server.counted jobId interval) interval.request)
    (waits : Waits server.hub.jobs server.intervals fired jobId) :
    Waits next.hub.jobs next.intervals (fired + 1) jobId := by
  have absent : server.hub.jobs.get? jobId ≠ none := by
    intro missing
    cases live.symm.trans (waits.absent missing).1
  have settles : ∀ {change : JobRow → JobRow}
      (intervals : OrderedMap String (Interval Number)),
      (∀ row, (change row).status ≠ .pending) →
      Waits (server.hub.jobs.modify jobId change) intervals (fired + 1)
        jobId := by
    intro change intervals settles
    rcases Option.ne_none_iff_exists'.mp absent with ⟨row, stored⟩
    refine .settled ?_ (settles row) _ _
    rw [OrderedMap.get?_modify, if_pos rfl, stored]
    rfl
  cases ticked with
  | closed closed => cases isOpen.symm.trans closed
  | settled settled =>
    refine ⟨fun missing => absurd missing absent, ?_⟩
    intro row stored pending
    refine absurd ?_ settled
    rw [← pending]
    exact congrArg (Option.map JobRow.status) stored
  | stopped unsearchable => exact absurd matchable.searchable unsearchable
  | stuck chosen unbound =>
    exact absurd unbound (matchable.storable_chosen chosen)
  | assigned => exact settles _ fun _ status => by cases status
  | failed => exact settles _ fun _ status => by cases status
  | counted _ more =>
    refine ⟨fun missing => absurd missing absent, ?_⟩
    intro row stored pending
    rcases waits.pending row stored pending with ⟨found, isFound, same, _⟩
    cases live.symm.trans isFound
    refine ⟨{ interval with attempts := interval.attempts + 1 }, ?_,
      congrArg (· + 1) same, ?_⟩
    · rw [counted_get?, if_pos rfl, live]
      rfl
    · rw [← same]
      exact more

theorem Effect.waits (effect : Effect env input server next)
    (looksAfter : LooksAfter server input)
    (other : ∀ job, input.event = .retryTick job → job ≠ jobId)
    (waits : Waits server.hub.jobs server.intervals fired jobId) :
    Waits next.hub.jobs next.intervals fired jobId := by
  cases effect with
  | quiet quiet =>
    rw [quiet.jobs, quiet.intervals]
    exact waits
  | register _ quiet =>
    rw [quiet.jobs, quiet.intervals]
    exact waits
  | receipt | completeDemo | rejectDemo | demo => exact waits
  | complete _ _ _ _ written =>
    rcases storeResult_tables written with ⟨receipts, rfl, _⟩
    exact waits.modify (fun _ status => by cases status) _
  | reject carries found holds real =>
    exact absurd ⟨_, _, _, _, _, carries, found, holds.active, real⟩
      looksAfter.kept
  | dropped drops => exact drops_waits drops waits
  | @commit tier body request row _ event valid built fresh _ routed =>
    have matchable := looksAfter.commit tier body request event valid
    have inserted := server.hub.jobs.get?_set input.uuid.text
    refine routed.waits (matchable.elsewhere _ _ _)
      ((inserted _ row).trans (if_pos rfl)) jobId ?_ ?_
    · intro differs
      exact waits.of_same ((inserted _ row).trans (if_neg differs)) rfl
    · rintro rfl
      exact (waits.absent fresh).2
  | @tick job interval _ event live ticked =>
    rcases ticked.others (other job event).symm with ⟨row, loop⟩
    refine waits.of_same row (loop.trans ?_)
    rw [counted_get?, if_neg (other job event).symm]

theorem step_waits (enabled : (machine env).Enabled server input)
    (looksAfter : LooksAfter server input)
    (waits : Waits server.hub.jobs server.intervals fired jobId) :
    Waits ((machine env).step server input).hub.jobs
      ((machine env).step server input).intervals
      (fired + ticks jobId [input]) jobId := by
  have issued : LooksAfter (server.issue input.uuid) input := by
    refine ⟨looksAfter.kept, ?_, ?_⟩
    · intro tier body request event valid
      exact (looksAfter.commit tier body request event valid).elsewhere _ _ _
    · intro job interval event live
      rcases looksAfter.tick job interval event live with ⟨isOpen, matchable⟩
      exact ⟨isOpen, matchable.elsewhere _ _ _⟩
  by_cases isTicked : input.event = .retryTick jobId
  · have once : ticks jobId [input] = 1 := by
      simp [ticks, isTick, isTicked]
    have offered := enabled.2
    rw [isTicked] at offered
    rcases (OrderedMap.mem_keys_iff ..).mp offered with ⟨interval, live⟩
    have stillLive : (server.issue input.uuid).intervals.get? jobId =
        some interval := live
    rcases issued.tick jobId interval isTicked live with ⟨isOpen, matchable⟩
    have stepped : (machine env).step server input =
        ((retryTick input.now jobId).run (server.issue input.uuid)).2 := by
      change ((handle env input).run (server.issue input.uuid)).2 = _
      rw [handle, isTicked]
    rw [once, stepped]
    exact (retryTick_ticked input.now stillLive).waits stillLive isOpen
      (matchable.elsewhere _ _ _) waits
  · have never : ticks jobId [input] = 0 := by
      unfold ticks isTick
      rw [List.countP_singleton, if_neg]
      split
      · next other event =>
          intro same
          exact isTicked (of_decide_eq_true same ▸ event)
      · exact Bool.false_ne_true
    rw [never]
    refine (step_effect env server input).waits issued ?_ waits
    rintro job event rfl
    exact isTicked event

end Jobs

/-! ## Whole runs -/

section Runs

variable {Number : Type} [JsNumber Number] [SqlNumber Number]
  {env : RawEnvironment Number}

omit [JsNumber Number] [SqlNumber Number] in
theorem waits_initial (jobId : String) :
    Waits (initial : Server Number).hub.jobs (initial : Server Number).intervals
      0 jobId := by
  refine ⟨fun _ => ⟨rfl, rfl⟩, ?_⟩
  intro row stored
  cases stored

/-- In every run in which no job with a row is given back and what is committed
or retried can be matched, every pending row has a live retry loop throughout,
and none is pending any more once its interval has fired as often as it may. -/
theorem pending_retried_unless_given_up {events : List (Input Number)}
    {final : Server Number} (run : (machine env).Run initial events final)
    (looksAfter : (machine env).Steps LooksAfter initial events) :
    (machine env).Along PendingRetried initial events ∧
      ∀ jobId row, final.hub.jobs.get? jobId = some row →
        maxAttempts ≤ ticks jobId events → row.status ≠ .pending := by
  constructor
  · have waiting : (machine env).Along (fun server => ∀ jobId, ∃ fired,
        Waits server.hub.jobs server.intervals fired jobId) initial events := by
      refine run.along ?_ .start (fun jobId => ⟨0, waits_initial jobId⟩)
        looksAfter
      intro server input _ waiting enabled looksAfter jobId
      rcases waiting jobId with ⟨fired, waits⟩
      exact ⟨_, step_waits enabled looksAfter waits⟩
    refine waiting.mono ?_
    intro server waiting jobId row stored pending
    rcases waiting jobId with ⟨fired, waits⟩
    rcases waits.pending row stored pending with ⟨interval, live, rfl, more⟩
    exact ⟨interval, live, more⟩
  · intro jobId row stored enough pending
    have preserved : ∀ past server input, (machine env).Reachable server →
        Waits server.hub.jobs server.intervals (ticks jobId past) jobId →
        (machine env).Enabled server input → LooksAfter server input →
        Waits ((machine env).step server input).hub.jobs
          ((machine env).step server input).intervals
          (ticks jobId (past ++ [input])) jobId := by
      intro past server input _ waits enabled looksAfter
      rw [ticks, List.countP_append]
      exact step_waits enabled looksAfter waits
    have start : Waits (initial : Server Number).hub.jobs
        (initial : Server Number).intervals
        (ticks jobId ([] : List (Input Number))) jobId := waits_initial jobId
    have waits := run.observes preserved .start looksAfter start
    rw [List.nil_append, Machine.observe_events] at waits
    rcases waits.pending row stored pending with ⟨_, _, _, more⟩
    exact absurd enough (Nat.not_le_of_lt more)

theorem matchable_of_nobody {server : Server Number}
    {request : RawRequest Number} (isPublic : isPrivate request = false)
    (nobody : server.hub.workers.keys = []) : Matchable server request := by
  have untracked : ∀ workerId worker,
      server.hub.workers.get? workerId ≠ some worker := by
    intro workerId worker tracked
    have key := (OrderedMap.mem_keys_iff ..).mpr ⟨worker, tracked⟩
    rw [nobody] at key
    cases key
  refine ⟨⟨?_, ?_⟩, ?_⟩
  · intro asked
    cases isPublic.symm.trans asked
  · intro _ workerId worker tracked
    exact absurd tracked (untracked workerId worker)
  · intro workerId worker tracked
    exact absurd tracked (untracked workerId worker)

end Runs

namespace Sample

def tick (uuid : Uuid) : Input Empty :=
  at0 uuid (.retryTick Coordinator.Sample.jobUuid.text)

def rejection : String :=
  "\x7b\"type\":\"job_reject\",\"job_id\":\"" ++
    Coordinator.Sample.jobUuid.text ++
    "\",\"reason\":\"Ollama not available\"\x7d"

def stranding : List (Input Empty) :=
  [at0 Coordinator.Sample.extraUuid (.connect 0),
    at0 Coordinator.Sample.workerUuid (.frame 0 incapable),
    at0 Coordinator.Sample.jobUuid (.commit .fast (some (body .nil)))]

def rejecting : List (Input Empty) :=
  matching ++ [at0 Coordinator.Sample.otherUuid (.frame 0 rejection)]

end Sample

theorem pending_retried_waiting :
    let events := [Sample.asking (.string "PUBLIC"),
      Sample.tick Coordinator.Sample.otherUuid]
    let final := (machine Listener.Sample.environment).exec initial events
    (final.hub.jobs.get? Coordinator.Sample.jobUuid.text).map JobRow.status =
        some .pending ∧
      (machine Listener.Sample.environment).Along PendingRetried initial
        events := by
  have isPublic : (((machine Listener.Sample.environment).step initial
      (Sample.asking (.string "PUBLIC"))).intervals.get?
        Coordinator.Sample.jobUuid.text).all
      (fun interval => isPrivate interval.request = false) = true := by
    decide +kernel
  refine ⟨by decide +kernel, (pending_retried_unless_given_up
    (.of_steps (by decide +kernel)) ?_).1⟩
  refine ⟨⟨?_, ?_, ?_⟩, ⟨?_, ?_, ?_⟩, trivial⟩
  · rintro ⟨_, _, _, _, _, ⟨⟨_, event, _⟩, _⟩, _⟩
    cases event
  · intro tier body request event valid
    cases event
    cases valid
    exact matchable_of_nobody (by decide +kernel) rfl
  · intro jobId interval event
    cases event
  · rintro ⟨_, _, _, _, _, ⟨⟨_, event, _⟩, _⟩, _⟩
    cases event
  · intro tier body request event
    cases event
  · intro jobId interval event live
    cases event
    rw [live, Option.all_some, decide_eq_true_eq] at isPublic
    exact ⟨by decide +kernel, matchable_of_nobody isPublic (by decide +kernel)⟩

def Strands (events : List (Input Empty)) : Prop :=
  let final := (machine Listener.Sample.environment).exec initial events
  (machine Listener.Sample.environment).Reachable final ∧
    (final.hub.jobs.get? Coordinator.Sample.jobUuid.text).map
      JobRow.status = some .pending ∧
    Coordinator.Sample.jobUuid.text ∉ final.intervals.keys ∧
    ¬ PendingRetried final

theorem pending_job_stranded :
    Strands Sample.rejecting ∧ Strands Sample.stranding := by
  have facts : ∀ events ∈ [Sample.rejecting, Sample.stranding],
      (machine Listener.Sample.environment).Steps
        (machine Listener.Sample.environment).Enabled initial events ∧
      (((machine Listener.Sample.environment).exec initial
        events).hub.jobs.get? Coordinator.Sample.jobUuid.text).map
          JobRow.status = some .pending ∧
      Coordinator.Sample.jobUuid.text ∉
        ((machine Listener.Sample.environment).exec initial
          events).intervals.keys := by
    decide +kernel
  suffices strands : ∀ events ∈ [Sample.rejecting, Sample.stranding],
      Strands events from ⟨strands _ (.head _), strands _ (.tail _ (.head _))⟩
  intro events member
  rcases facts events member with ⟨legal, status, unlooped⟩
  refine ⟨⟨_, .of_steps legal⟩, status, unlooped, ?_⟩
  intro retried
  rcases Option.map_eq_some_iff.mp status with ⟨row, stored, pending⟩
  rcases retried _ row stored pending with ⟨interval, live, _⟩
  exact unlooped ((OrderedMap.mem_keys_iff ..).mpr ⟨interval, live⟩)

end Dispatch.Coordinator.Server
