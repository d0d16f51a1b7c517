import Dispatch.Coordinator.ActiveJobs
import Dispatch.Coordinator.Waiting

/-! # Private jobs

The class in the row of a job is what was bound, the class by which the job is
routed is what was sent.
-/

namespace Dispatch.Coordinator.Server

open Sqlite Listener

/-! ## Jobs without an interval -/

section Forgotten

variable {Number : Type}

structure Rowed (server : Server Number) : Prop where
  intervals : ∀ jobId interval, server.intervals.get? jobId = some interval →
    ∃ row, server.hub.jobs.get? jobId = some row
  assigned : ∀ frame ∈ server.assigned, isDemoJob frame.jobId = true ∨
    ∃ row, server.hub.jobs.get? frame.jobId = some row

structure Forgotten (server : Server Number) (jobId : String) : Prop where
  stored : ∃ row, server.hub.jobs.get? jobId = some row
  unlooped : server.intervals.get? jobId = none
  unassigned : ∀ frame ∈ server.assigned, frame.jobId ≠ jobId

theorem Rowed.continues {Known : String → RawRequest Number → Prop}
    {before after : Server Number} (rowed : Rowed before)
    (known : ∀ jobId request, Known jobId request →
      ∃ row, before.hub.jobs.get? jobId = some row)
    (continues : Continues Known before after) : Rowed after where
  intervals jobId interval live := by
    rw [continues.hub.exists_row]
    rcases continues.intervals live with new | ⟨earlier, found, _⟩
    · exact known _ _ new
    · exact rowed.intervals jobId earlier found
  assigned frame member := by
    rw [continues.hub.exists_row]
    rcases continues.assigned frame member with demo | new | earlier
    · exact .inl demo
    · exact .inr (known _ _ new)
    · exact rowed.assigned frame earlier

theorem Rowed.withJob {server : Server Number} (rowed : Rowed server)
    (jobId : String) (row : JobRow) : Rowed (server.withJob jobId row) := by
  have kept : ∀ {other}, (∃ row, server.hub.jobs.get? other = some row) →
      ∃ stored, (server.withJob jobId row).hub.jobs.get? other =
        some stored := by
    rintro other ⟨stored, found⟩
    rw [withJob_get?]
    split
    · exact ⟨row, rfl⟩
    · exact ⟨stored, found⟩
  exact ⟨fun other interval live => kept (rowed.intervals other interval live),
    fun frame member => (rowed.assigned frame member).imp_right kept⟩

theorem Forgotten.continues {Known : String → RawRequest Number → Prop}
    {before after : Server Number} {jobId : String}
    (forgotten : Forgotten before jobId) (real : isDemoJob jobId = false)
    (unknown : ∀ request, ¬ Known jobId request)
    (continues : Continues Known before after) : Forgotten after jobId where
  stored := (continues.hub.exists_row jobId).mpr forgotten.stored
  unlooped := by
    cases live : after.intervals.get? jobId with
    | none => rfl
    | some interval =>
      rcases continues.intervals live with new | ⟨earlier, found, _⟩
      · exact absurd new (unknown _)
      · cases forgotten.unlooped.symm.trans found
  unassigned frame member same := by
    rcases continues.assigned frame member with demo | new | earlier
    · rw [same, real] at demo
      cases demo
    · exact unknown _ (same ▸ new)
    · exact forgotten.unassigned frame earlier same

variable [JsNumber Number] [SqlNumber Number] {env : RawEnvironment Number}
  {server : Server Number}

theorem rowed (reachable : (machine env).Reachable server) : Rowed server := by
  refine reachable.invariant Rowed ⟨?_, ?_⟩ ?_
  · intro jobId interval live
    cases live
  · intro frame member
    cases member
  · intro server input _ rowed _
    have issued : Rowed (server.issue input.uuid) :=
      ⟨rowed.intervals, rowed.assigned⟩
    rcases step_continues env server input with
      continues | ⟨_, _, request, row, _, _, _, _, continues⟩
    · refine issued.continues ?_ continues
      rintro jobId request ⟨interval, live, _⟩
      exact rowed.intervals jobId interval live
    · refine (issued.withJob input.uuid.text row).continues ?_ continues
      rintro jobId asked ⟨rfl, _⟩
      exact ⟨row, by rw [withJob_get?, if_pos rfl]⟩

theorem Forgotten.step {jobId : String} (forgotten : Forgotten server jobId)
    (real : isDemoJob jobId = false) (input : Input Number) :
    Forgotten ((machine env).step server input) jobId := by
  have issued : Forgotten (server.issue input.uuid) jobId :=
    ⟨forgotten.stored, forgotten.unlooped, forgotten.unassigned⟩
  rcases step_continues env server input with
    continues | ⟨_, _, _, row, _, _, _, fresh, continues⟩
  · refine issued.continues real ?_ continues
    rintro request ⟨interval, live, _⟩
    cases forgotten.unlooped.symm.trans live
  · have differs : jobId ≠ input.uuid.text := by
      rintro rfl
      rcases forgotten.stored with ⟨row, stored⟩
      cases fresh.symm.trans stored
    have inserted : Forgotten
        ((server.issue input.uuid).withJob input.uuid.text row) jobId := by
      refine ⟨?_, issued.unlooped, issued.unassigned⟩
      rw [withJob_get?, if_neg differs]
      exact issued.stored
    exact inserted.continues real (fun _ known => differs known.1) continues

theorem never_assigned {events : List (Input Number)}
    {later : Server Number} {jobId : String}
    (reachable : (machine env).Reachable server)
    (run : (machine env).Run server events later)
    (forgotten : Forgotten server jobId) (real : isDemoJob jobId = false) :
    ∀ frame ∈ later.assigned, frame.jobId ≠ jobId := by
  have still : Forgotten later jobId :=
    run.invariant (fun server => Forgotten server jobId) reachable forgotten
      fun _ input _ forgotten _ => forgotten.step real input
  exact still.unassigned

end Forgotten

/-! ## Where assignments come from -/

section Sources

variable {Number : Type} [JsNumber Number] [SqlNumber Number]

/-- What a new `job_assign` is for. -/
inductive AssignSource (input : Input Number) (server next : Server Number)
    (frame : AssignFrame Number) : Prop
  | demo (job : frame.jobId = demoJobId input.uuid)
  | tick {interval : Interval Number}
      (live : server.intervals.get? frame.jobId = some interval)
  | commit {tier : Tier} {body : Option (Json Number)}
      {request : RawRequest Number} {row : JobRow} {workerId : String}
      {worker later : RawWorker Number} {key : Value}
      (event : input.event = .commit tier body)
      (valid : validateCommit tier body = .ok request)
      (built : jobRow input.now request = .ok row)
      (job : frame.jobId = input.uuid.text)
      (holds : Holds next workerId later input.uuid.text)
      (ws : frame.ws = later.ws)
      (eligible : Eligible server request worker)
      (same : later.pubkey = worker.pubkey)
      (stored : next.hub.jobs.get? input.uuid.text = some (boundRow key row))
      (trust : next.hub.trustPairings = server.hub.trustPairings)

def AddsFrames (server next : Server Number)
    (Source : AssignFrame Number → Prop) : Prop :=
  ∃ more, next.assigned = server.assigned ++ more ∧
    ∀ frame ∈ more, Source frame

omit [JsNumber Number] [SqlNumber Number] in
theorem addsFrames_of_same {server next : Server Number}
    {Source : AssignFrame Number → Prop}
    (same : next.assigned = server.assigned) :
    AddsFrames server next Source := by
  refine ⟨[], same.trans (List.append_nil _).symm, ?_⟩
  intro frame member
  cases member

omit [JsNumber Number] [SqlNumber Number] in
theorem given_frames (server : Server Number) (workerId : String)
    (worker : RawWorker Number) (jobId : String)
    (request : RawRequest Number) :
    AddsFrames server (server.given workerId worker jobId request)
      (· = { ws := worker.ws, jobId := jobId, request := request }) := by
  unfold given
  split
  · exact ⟨_, rfl, fun _ => List.mem_singleton.mp⟩
  · exact addsFrames_of_same rfl

omit [JsNumber Number] [SqlNumber Number] in
theorem drops_assigned {server next : Server Number}
    (drops : Relation.ReflTransGen Drop server next) :
    next.assigned = server.assigned := by
  induction drops with
  | refl => rfl
  | tail _ drop induction =>
    rw [← induction]
    cases drop with
    | quiet quiet => exact quiet.assigned
    | jobless | failed => rfl

variable {env : RawEnvironment Number} {input : Input Number}
  {server next : Server Number}

omit [JsNumber Number] [SqlNumber Number] in
theorem matched_holds {workerId : String} {worker : RawWorker Number}
    (tracked : server.hub.workers.get? workerId = some worker)
    (jobId : String) (request : RawRequest Number) (key : Value) :
    Holds (server.matchedWith jobId request workerId worker key) workerId
      { worker with status := .busy, activeJobId := some jobId } jobId := by
  refine ⟨?_, rfl⟩
  have given := (server.marked workerId).hub.workers.get?_modify workerId
    workerId fun worker => { worker with activeJobId := some jobId }
  rw [if_pos rfl, marked_tracked tracked] at given
  exact given

theorem Effect.frames (effect : Effect env input server next) :
    AddsFrames server next (AssignSource input server next) := by
  cases effect with
  | quiet quiet => exact addsFrames_of_same quiet.assigned
  | register _ quiet => exact addsFrames_of_same quiet.assigned
  | receipt | completeDemo | reject | rejectDemo =>
    exact addsFrames_of_same rfl
  | complete => exact addsFrames_of_same rfl
  | dropped drops => exact addsFrames_of_same (drops_assigned drops)
  | @commit tier body request row _ event valid built fresh _ routed =>
    cases routed with
    | stopped | stuck | refused | waiting => exact addsFrames_of_same rfl
    | @assigned workerId worker key chosen bound =>
      have stored : (server.withJob input.uuid.text row).hub.jobs.get?
          input.uuid.text = some row := by
        rw [withJob_get?, if_pos rfl]
      have changed := (server.withJob input.uuid.text
        row).hub.jobs.get?_modify input.uuid.text input.uuid.text
          (boundRow key)
      rw [if_pos rfl, stored] at changed
      rcases given_frames (((server.withJob input.uuid.text row).marked
        workerId).changeRow input.uuid.text (boundRow key)) workerId worker
        input.uuid.text request with ⟨more, added, only⟩
      refine ⟨more, added, ?_⟩
      intro frame member
      rw [only frame member]
      exact .commit event valid built rfl
        (matched_holds chosen.tracked _ request key) rfl
        ⟨chosen.eligible.idle, chosen.eligible.capable,
          chosen.eligible.trusted⟩ rfl changed rfl
  | @tick jobId interval _ event live ticked =>
    cases ticked with
    | closed | settled | stopped | stuck | failed | counted =>
      exact addsFrames_of_same rfl
    | @assigned _ workerId worker key =>
      rcases given_frames (((server.counted jobId interval).marked
        workerId).changeRow jobId (boundRow key)) workerId worker jobId
        interval.request with ⟨more, added, only⟩
      refine ⟨more, added, ?_⟩
      intro frame member
      rw [only frame member]
      exact .tick live
  | @demo _ task prompt workerId worker =>
    rcases given_frames (server.marked workerId) workerId worker
      (demoJobId input.uuid) (demoRequest task prompt) with
      ⟨more, added, only⟩
    refine ⟨more, added, ?_⟩
    intro frame member
    rw [only frame member]
    exact .demo rfl

end Sources

/-! ## Trusted workers only -/

section Privacy

variable {Number : Type} [JsNumber Number] [SqlNumber Number]

def Paired (server : Server Number) (userId : String)
    (pubkey : Option (Json Number)) : Prop :=
  ∃ pairing ∈ server.hub.trustPairings.values, pairing.userId = userId ∧
    pairing.claimed = true ∧ isTrusted [pairing.providerPubkey] pubkey = true

structure CommitsPrivate (input : Input Number) (tier : Tier)
    (body : Option (Json Number)) (request : RawRequest Number)
    (row : JobRow) : Prop where
  event : input.event = .commit tier body
  valid : validateCommit tier body = .ok request
  built : jobRow input.now request = .ok row
  isPrivate : row.privacyClass = PrivacyClass.PRIVATE

def AsksPrivately (server : Server Number) (input : Input Number) : Prop :=
  ∀ tier body request row, CommitsPrivate input tier body request row →
    request.privacyClass = .string PrivacyClass.PRIVATE ∧
      (server.pairedKeys (.text row.userId) ≠ [] → ∀ workerId worker,
        server.hub.workers.get? workerId = some worker →
        worker.status = .idle →
        includes? worker.capabilities request.jobType ≠ none)

structure KeepsPrivate (env : RawEnvironment Number) (server : Server Number)
    (input : Input Number) : Prop where
  assigned : AddsFrames server ((machine env).step server input) fun frame =>
    ∀ row, ((machine env).step server input).hub.jobs.get? frame.jobId =
        some row → row.privacyClass = PrivacyClass.PRIVATE →
      ∃ workerId worker,
        Holds ((machine env).step server input) workerId worker frame.jobId ∧
        frame.ws = worker.ws ∧
        Paired ((machine env).step server input) row.userId worker.pubkey
  refused : ∀ tier body request row,
    CommitsPrivate input tier body request row →
    (∀ workerId worker, server.hub.workers.get? workerId = some worker →
      worker.status = .idle →
      includes? worker.capabilities request.jobType = some true →
      ¬ Paired server row.userId worker.pubkey) →
    (∃ failed, ((machine env).step server input).hub.jobs.get?
        input.uuid.text = some failed ∧ failed.status = .failed ∧
        failed.result = some noTrustedWorkerResult) ∧
      ((machine env).step server input).intervals.get? input.uuid.text =
        none ∧
      ∀ events later,
        (machine env).Run ((machine env).step server input) events later →
        ∀ frame ∈ later.assigned, frame.jobId ≠ input.uuid.text

variable {env : RawEnvironment Number} {input : Input Number}
  {server next : Server Number} {request : RawRequest Number} {row : JobRow}

theorem jobRow_user {now : Nat} (built : jobRow now request = .ok row)
    (asked : request.privacyClass = .string PrivacyClass.PRIVATE) :
    bindOne (some request.userId) = .ok (.text row.userId) := by
  rw [jobRow_eq now asked] at built
  split at built
  · cases built
  · cases built
  · next userId bound =>
      cases built
      exact bound

theorem trusts_iff_paired {userId : Json Number} {user : String}
    (bound : bindOne (some userId) = .ok (.text user))
    (pubkey : Option (Json Number)) :
    Trusts server userId pubkey ↔ Paired server user pubkey := by
  constructor
  · rintro ⟨found, same, trusted⟩
    cases bound.symm.trans same
    exact trusted
  · intro paired
    exact ⟨user, bound, paired⟩

def RetriesPublic (server : Server Number) : Prop :=
  ∀ jobId interval row, server.intervals.get? jobId = some interval →
    server.hub.jobs.get? jobId = some row →
    row.privacyClass ≠ PrivacyClass.PRIVATE

def IntervalSource (input : Input Number) (server : Server Number)
    (jobId : String) (interval : Interval Number) : Prop :=
  (∃ old, server.intervals.get? jobId = some old) ∨
    ∃ tier body, input.event = .commit tier body ∧
      validateCommit tier body = .ok interval.request ∧
      jobId = input.uuid.text ∧ isPrivate interval.request = false

omit [JsNumber Number] [SqlNumber Number] in
theorem drops_intervals (drops : Relation.ReflTransGen Drop server next) :
    next.intervals = server.intervals := by
  induction drops with
  | refl => rfl
  | tail _ drop induction =>
    rw [← induction]
    cases drop with
    | quiet quiet => exact quiet.intervals
    | jobless | failed => rfl

theorem Effect.interval (effect : Effect env input server next)
    {jobId : String} {interval : Interval Number}
    (live : next.intervals.get? jobId = some interval) :
    IntervalSource input server jobId interval := by
  cases effect with
  | quiet quiet => exact .inl ⟨interval, quiet.intervals ▸ live⟩
  | register _ quiet => exact .inl ⟨interval, quiet.intervals ▸ live⟩
  | receipt | complete | completeDemo | reject | rejectDemo | demo =>
    exact .inl ⟨interval, live⟩
  | dropped drops => exact .inl ⟨interval, drops_intervals drops ▸ live⟩
  | commit event valid _ _ _ routed =>
    cases routed with
    | stopped | stuck | assigned | refused => exact .inl ⟨interval, live⟩
    | waiting isPublic =>
      rw [withInterval, OrderedMap.get?_set] at live
      split at live
      · next same =>
          cases live
          exact .inr ⟨_, _, event, valid, same, isPublic⟩
      · exact .inl ⟨interval, live⟩
  | @tick job stored _ _ before ticked =>
    by_cases same : jobId = job
    · exact .inl ⟨stored, same ▸ before⟩
    · have loop := (ticked.others same).2
      rw [live, counted_get?, if_neg same] at loop
      exact .inl ⟨interval, loop.symm⟩

theorem step_request (env : RawEnvironment Number) (server : Server Number)
    (input : Input Number) {jobId : String} {later : JobRow}
    (stored : ((machine env).step server input).hub.jobs.get? jobId =
      some later) :
    (∃ old, server.hub.jobs.get? jobId = some old ∧
        later.privacyClass = old.privacyClass) ∨
      ∃ tier body request row, input.event = .commit tier body ∧
        validateCommit tier body = .ok request ∧
        jobRow input.now request = .ok row ∧ jobId = input.uuid.text ∧
        later.privacyClass = row.privacyClass := by
  rcases step_continues env server input with
    continues | ⟨tier, body, request, row, event, valid, built, _, continues⟩
  · have rows := continues.hub.rows jobId
    rw [stored, Option.map_some, eq_comm, Option.map_eq_some_iff] at rows
    rcases rows with ⟨old, found, same⟩
    exact .inl ⟨old, found, (congrArg JobRequest.privacyClass same).symm⟩
  · have rows := continues.hub.rows jobId
    rw [stored, withJob_get?, Option.map_some, eq_comm,
      Option.map_eq_some_iff] at rows
    rcases rows with ⟨old, found, same⟩
    have kept : later.privacyClass = old.privacyClass :=
      (congrArg JobRequest.privacyClass same).symm
    split at found
    · next isNew =>
        cases found
        exact .inr ⟨tier, body, request, row, event, valid, built, isNew, kept⟩
    · exact .inl ⟨old, found, kept⟩

theorem RetriesPublic.step (retries : RetriesPublic server)
    (reachable : (machine env).Reachable server)
    (enabled : (machine env).Enabled server input)
    (asks : AsksPrivately server input) :
    RetriesPublic ((machine env).step server input) := by
  intro jobId interval later live stored isPrivate
  have fresh := fresh_of_enabled reachable enabled
  rcases (step_effect env server input).interval live with
    ⟨old, before⟩ | ⟨tier, body, event, valid, isNew, isPublic⟩
  · rcases (rowed reachable).intervals jobId old before with ⟨row, found⟩
    rcases step_request env server input stored with
      ⟨row, found, same⟩ | ⟨_, _, _, _, _, _, _, isNew, _⟩
    · exact retries jobId old row before found (same.symm.trans isPrivate)
    · rw [isNew] at found
      cases fresh.symm.trans found
  · rcases step_request env server input stored with
      ⟨row, found, _⟩ |
      ⟨_, _, request, row, sameEvent, sameValid, built, _, same⟩
    · rw [isNew] at found
      cases fresh.symm.trans found
    · cases event.symm.trans sameEvent
      cases valid.symm.trans sameValid
      have asked := (asks _ _ _ row
        ⟨event, valid, built, same.symm.trans isPrivate⟩).1
      rw [(isPrivate_iff _).mpr asked] at isPublic
      cases isPublic

theorem assigned_trusted (reachable : (machine env).Reachable server)
    (enabled : (machine env).Enabled server input)
    (retries : RetriesPublic server) (asks : AsksPrivately server input) :
    AddsFrames server ((machine env).step server input) fun frame =>
      ∀ row, ((machine env).step server input).hub.jobs.get? frame.jobId =
          some row → row.privacyClass = PrivacyClass.PRIVATE →
        ∃ workerId worker,
          Holds ((machine env).step server input) workerId worker
            frame.jobId ∧
          frame.ws = worker.ws ∧
          Paired ((machine env).step server input) row.userId
            worker.pubkey := by
  rcases (step_effect env server input).frames with ⟨more, added, sources⟩
  refine ⟨more, added, ?_⟩
  intro frame member row stored isPrivate
  cases sources frame member with
  | demo job =>
    rcases jobsIssued (reachable.step enabled) _ row stored with
      ⟨uuid, _, same⟩
    have demo := isDemoJob_demoJobId input.uuid
    rw [← job, ← same, isDemoJob_uuid] at demo
    cases demo
  | @tick interval live =>
    rcases (rowed reachable).intervals _ interval live with ⟨old, found⟩
    rcases step_request env server input stored with
      ⟨old, found, same⟩ | ⟨_, _, _, _, _, _, _, isNew, _⟩
    · exact absurd (same.symm.trans isPrivate)
        (retries _ interval old live found)
    · rw [isNew] at found
      cases (fresh_of_enabled reachable enabled).symm.trans found
  | @commit tier body request inserted workerId worker later key event valid
      built job holds ws eligible same kept trust =>
      rw [job] at stored
      cases kept.symm.trans stored
      have asked := (asks tier body request inserted
        ⟨event, valid, built, isPrivate⟩).1
      have trusted := (trusts_iff_paired (jobRow_user built asked) _).mp
        (eligible.trusted ((isPrivate_iff request).mpr asked))
      refine ⟨workerId, later, job ▸ holds, ws, ?_⟩
      rw [same, Paired, trust]
      exact trusted

theorem commit_routed (reachable : (machine env).Reachable server)
    (enabled : (machine env).Enabled server input) {tier : Tier}
    {body : Option (Json Number)} (event : input.event = .commit tier body)
    (valid : validateCommit tier body = .ok request)
    (built : jobRow input.now request = .ok row) :
    Routed input.now input.uuid.text request
      ((server.issue input.uuid).withJob input.uuid.text row)
      ((machine env).step server input) := by
  have offered := enabled.2
  rw [event] at offered
  have wasOpen := open_of_listening reachable offered
  have isOpen : (server.issue input.uuid).databaseOpen = true := wasOpen
  have fresh := fresh_of_enabled reachable enabled
  have inserted := run_insertJob_ok isOpen (by exact fresh) built
  have stillOpen : ((server.issue input.uuid).withJob input.uuid.text
      row).databaseOpen = true := isOpen
  have routed := route_routed stillOpen input.now input.uuid.text request
  change Routed _ _ _ _ ((handle env input).run (server.issue input.uuid)).2
  rw [handle, event]
  dsimp only
  rw [Procedure.run_bind, handleCommit, valid]
  dsimp only
  rw [Procedure.run_bind_of_ok inserted]
  generalize (route input.now input.uuid.text request).run _ = ends at routed
  rcases ends with ⟨result, final⟩
  cases result with
  | ok reply => exact routed
  | error error => exact routed

theorem refused_forgotten (reachable : (machine env).Reachable server)
    (enabled : (machine env).Enabled server input)
    (asks : AsksPrivately server input) {tier : Tier}
    {body : Option (Json Number)}
    (commits : CommitsPrivate input tier body request row)
    (nobody : ∀ workerId worker,
      server.hub.workers.get? workerId = some worker →
      worker.status = .idle →
      includes? worker.capabilities request.jobType = some true →
      ¬ Paired server row.userId worker.pubkey) :
    (machine env).step server input =
      ((server.issue input.uuid).withJob input.uuid.text row).changeRow
        input.uuid.text (failedRow noTrustedWorkerResult) := by
  rcases asks tier body request row commits with ⟨asked, searchable⟩
  have bound := jobRow_user commits.built asked
  have isPrivate := (isPrivate_iff request).mpr asked
  have offered := enabled.2
  rw [commits.event] at offered
  have nobodyEligible : ∀ {workerId worker},
      server.hub.workers.get? workerId = some worker →
      ¬ Eligible ((server.issue input.uuid).withJob input.uuid.text row)
        request worker := by
    intro workerId worker tracked eligible
    refine nobody workerId worker tracked eligible.idle eligible.capable ?_
    exact (trusts_iff_paired bound _).mp (eligible.trusted isPrivate)
  have isOpen := open_of_listening reachable offered
  have routed := commit_routed reachable enabled commits.event commits.valid
    commits.built
  generalize (machine env).step server input = next at routed ⊢
  cases routed with
  | stopped unsearchable =>
    refine absurd ⟨?_, ?_⟩ unsearchable
    · intro _
      exact ⟨isOpen, _, bound⟩
    · intro paired
      rcases paired isPrivate with ⟨userId, same, some⟩
      cases bound.symm.trans same
      exact searchable some
  | stuck chosen => exact absurd chosen.eligible (nobodyEligible chosen.tracked)
  | assigned chosen =>
    exact absurd chosen.eligible (nobodyEligible chosen.tracked)
  | refused => rfl
  | waiting isPublic =>
    rw [isPrivate] at isPublic
    cases isPublic

theorem keepsPrivate (reachable : (machine env).Reachable server)
    (enabled : (machine env).Enabled server input)
    (retries : RetriesPublic server) (asks : AsksPrivately server input) :
    KeepsPrivate env server input where
  assigned := assigned_trusted reachable enabled retries asks
  refused tier body request row commits nobody := by
    have fresh := fresh_of_enabled reachable enabled
    have ends : (machine env).step server input = _ :=
      refused_forgotten reachable enabled asks commits nobody
    have stored : ((machine env).step server input).hub.jobs.get?
        input.uuid.text = some (failedRow noTrustedWorkerResult row) := by
      rw [ends, changeRow, OrderedMap.get?_modify, if_pos rfl, withJob_get?,
        if_pos rfl]
      rfl
    have unlooped : ((machine env).step server input).intervals.get?
        input.uuid.text = none := by
      rw [ends]
      cases live : server.intervals.get? input.uuid.text with
      | none => exact live
      | some interval =>
        rcases (rowed reachable).intervals _ interval live with ⟨row, found⟩
        cases fresh.symm.trans found
    refine ⟨⟨_, stored, rfl, rfl⟩, unlooped, ?_⟩
    intro events later run
    refine never_assigned (reachable.step enabled) run
      ⟨⟨_, stored⟩, unlooped, ?_⟩ (isDemoJob_uuid _)
    intro frame member same
    rw [ends] at member
    rcases (rowed reachable).assigned frame member with demo | ⟨row, found⟩
    · rw [same, isDemoJob_uuid] at demo
      cases demo
    · rw [same] at found
      cases fresh.symm.trans found

end Privacy

namespace Sample

def registeringOne : List (Input Empty) :=
  [at0 Coordinator.Sample.extraUuid (.connect 0),
    at0 Coordinator.Sample.workerUuid (.frame 0 Listener.Sample.registration)]

def pairing : List (Input Empty) :=
  registeringOne ++
    [at0 Coordinator.Sample.otherUuid (.trust (.create (0, 0, 0)
      (some (.object (.cons "user_id" (.string "user") .nil))))),
    at0 Coordinator.Sample.lastUuid (.trust (.claim (some (.object
      (.cons "pairing_code" (.string "000000")
        (.cons "provider_pubkey" (.string "d75a98") .nil))))))]

def registeredOne : Server Empty :=
  (machine Listener.Sample.environment).exec initial registeringOne

def askingWrapped : Input Empty :=
  asking (.array (.cons (.string PrivacyClass.PRIVATE) .nil))

end Sample

end Dispatch.Coordinator.Server
