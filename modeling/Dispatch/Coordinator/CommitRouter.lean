import Dispatch.Coordinator.Completion

/-! # Commits of any shape

`handleCommit` checks the job type of a body and that three fields are there.
-/

namespace Dispatch.Coordinator.Server

open Sqlite Listener

section Definitions

variable {Number : Type} [JsNumber Number] [SqlNumber Number]

def isListed (body : Option (Json Number)) : Bool :=
  match TrustRouter.field body "privacy_class" with
  | none | some .null => true
  | some value =>
    Json.strictEqual (some value) (some (.string PrivacyClass.PUBLIC)) ||
      Json.strictEqual (some value) (some (.string PrivacyClass.PRIVATE))

def RoutedAsPublic (tier : Tier) (body : Option (Json Number)) : Prop :=
  ∃ request, validateCommit tier body = .ok request ∧
    isPrivate request = false

def Acceptable (tier : Tier) (body : Option (Json Number)) : Prop :=
  ∀ request, validateCommit tier body = .ok request →
    isListed body = true ∧
      ∃ userId, bindOne (some request.userId) = .ok (.text userId)

def Refused (server : Server Number)
    (ends : Except Failure CommitReply × Server Number) : Prop :=
  ∃ reply, reply.status = 400 ∧ ends = (.ok reply, server)

structure Inserted (tier : Tier) (body : Option (Json Number)) (jobId : String)
    (before after : Server Number) (row : JobRow) : Prop where
  fresh : before.hub.jobs.get? jobId = none
  stored : after.hub.jobs.get? jobId = some row
  others : ∀ other, other ≠ jobId →
    (after.hub.jobs.get? other).map JobRow.request =
      (before.hub.jobs.get? other).map JobRow.request
  type : row.type ∈ [JobType.llmInfer, JobType.task]
  policy : row.policy = tier
  privacyClass :
    row.privacyClass ∈ [PrivacyClass.PUBLIC, PrivacyClass.PRIVATE]
  unlisted : isListed body = false →
    row.privacyClass ≠ PrivacyClass.PUBLIC ∧ ¬ RoutedAsPublic tier body

def Proper (server : Server Number) (input : Input Number) : Prop :=
  ∀ tier body, input.event = .commit tier body →
    let ends := (handleCommit input.now input.uuid tier body).run
      (server.issue input.uuid)
    Refused (server.issue input.uuid) ends ∨
      ∃ row, Inserted tier body input.uuid.text (server.issue input.uuid)
        ends.2 row

end Definitions

section Commits

variable {Number : Type} [JsNumber Number]

/-! ## Requests -/

theorem strictEqual_string {value : Json Number} {text : JsString} :
    Json.strictEqual (some value) (some (.string text)) = true ↔
      value = .string text := by
  cases value with
  | string found => simp [Json.strictEqual]
  | _ => simp [Json.strictEqual]

theorem isPrivate_iff (request : RawRequest Number) :
    isPrivate request = true ↔
      request.privacyClass = .string PrivacyClass.PRIVATE :=
  strictEqual_string

theorem validated_policy {tier : Tier} {body : Option (Json Number)}
    {request : RawRequest Number}
    (validated : validateCommit tier body = .ok request) :
    request.policy = tier ∧ request.privacyClass = privacyClass body := by
  unfold validateCommit at validated
  split at validated
  · split at validated
    · cases validated
    · cases validated
      exact ⟨rfl, rfl⟩
  · cases validated

theorem refusal_status {tier : Tier} {body : Option (Json Number)}
    {reply : CommitReply} (refused : validateCommit tier body = .error reply) :
    reply.status = 400 := by
  unfold validateCommit at refused
  split at refused
  · split at refused
    · cases refused
      rfl
    · cases refused
  · cases refused
    rfl

theorem isListed_iff (body : Option (Json Number)) :
    isListed body = true ↔
      privacyClass body = .string PrivacyClass.PUBLIC ∨
        privacyClass body = .string PrivacyClass.PRIVATE := by
  unfold isListed privacyClass
  generalize TrustRouter.field body "privacy_class" = asked
  cases asked with
  | none => exact ⟨fun _ => .inl rfl, fun _ => rfl⟩
  | some value =>
    cases value with
    | null => exact ⟨fun _ => .inl rfl, fun _ => rfl⟩
    | _ => rw [Bool.or_eq_true_iff, strictEqual_string, strictEqual_string]

variable [SqlNumber Number]

omit [JsNumber Number] in
theorem bindParameters_between (left right : JsString)
    (argument : Option (Json Number)) :
    bindParameters 3 [some (.string left), argument, some (.string right)] =
      (bindOne argument).map fun value =>
        [.text left.toText, value, .text right.toText] :=
  bindParameters_strings [left] [right] argument

theorem jobRow_eq (now : Nat) {request : RawRequest Number} {text : String}
    (asked : request.privacyClass = .string text) :
    jobRow now request = match bindOne (some request.userId) with
      | .error error => .error (.bind error)
      | .ok .null => .error .notNull
      | .ok (.text userId) =>
        .ok { type := request.jobType, policy := request.policy,
              privacyClass := text, userId := userId, status := .pending,
              payload := request.payload.stringify, result := none,
              workerPubkey := none, createdAt := now,
              completedAt := none } := by
  unfold jobRow jobArguments
  rw [asked, bindParameters_between]
  cases bindOne (some request.userId) with
  | error error => rfl
  | ok value =>
    cases value with
    | null => rfl
    | text userId =>
      rw [Except.map, JsString.toText_ofString, JsString.toText_ofString]

theorem jobRow_ok (now : Nat) {request : RawRequest Number}
    {text userId : String} (asked : request.privacyClass = .string text)
    (bound : bindOne (some request.userId) = .ok (.text userId)) :
    ∃ row, jobRow now request = .ok row ∧ row.policy = request.policy ∧
      row.privacyClass = text := by
  have built := jobRow_eq now asked
  rw [bound] at built
  exact ⟨_, built, rfl, rfl⟩

theorem run_insertJob_ok {server : Server Number} {now : Nat} {id : Uuid}
    {request : RawRequest Number} {row : JobRow}
    (isOpen : server.databaseOpen = true)
    (fresh : server.hub.jobs.get? id.text = none)
    (built : jobRow now request = .ok row) :
    (insertJob now id request).run server =
      (.ok (), server.withJob id.text row) := by
  have attempted : (attempt (.ok row) : Action Number JobRow).run server =
      (.ok row, server) := rfl
  rw [insertJob, Procedure.run_bind_of_ok (run_statement isOpen), built,
    Procedure.run_bind_of_ok attempted, Procedure.run_read_bind,
    OrderedMap.insert?_of_fresh _ row fresh]
  rfl

/-! ## One commit -/

theorem route_rows (server : Server Number) (now : Nat) (jobId : String)
    (row : JobRow) (request : RawRequest Number) (other : String) :
    (((route now jobId request).run (server.withJob jobId row)).2.hub.jobs.get?
      other).map JobRow.request =
      if other = jobId then some row.request
      else (server.hub.jobs.get? other).map JobRow.request := by
  have continues : Continues (fun id asked => id = jobId ∧ asked = request)
      (server.withJob jobId row)
      ((route now jobId request).run (server.withJob jobId row)).2 := by
    refine (keeps_route now ⟨rfl, rfl⟩ ⟨row, ?_⟩).run (.refl _)
    rw [withJob_get?, if_pos rfl]
  rw [continues.hub.rows, withJob_get?]
  split <;> rfl

omit [SqlNumber Number] in
theorem listed_class {tier : Tier} {body : Option (Json Number)}
    {request : RawRequest Number}
    (validated : validateCommit tier body = .ok request)
    (listed : isListed body = true) :
    ∃ text ∈ [PrivacyClass.PUBLIC, PrivacyClass.PRIVATE],
      request.privacyClass = .string (JsString.ofString text) := by
  rw [(validated_policy validated).2]
  rcases (isListed_iff body).mp listed with isPublic | isPrivate
  · exact ⟨_, .head _, isPublic⟩
  · exact ⟨_, .tail _ (.head _), isPrivate⟩

omit [SqlNumber Number] in
theorem Inserted.listed {tier : Tier} {body : Option (Json Number)}
    {jobId : String} {before after : Server Number} {row : JobRow}
    {request : RawRequest Number}
    (inserted : Inserted tier body jobId before after row)
    (validated : validateCommit tier body = .ok request) :
    isListed body = true := by
  by_contra unlisted
  have refuted := inserted.unlisted (Bool.eq_false_of_not_eq_true unlisted)
  refine refuted.2 ⟨request, validated, ?_⟩
  -- A class that is compared as private is listed.
  refine Bool.eq_false_of_not_eq_true fun isPrivate => unlisted ?_
  rw [isListed_iff, ← (validated_policy validated).2]
  exact .inr ((isPrivate_iff request).mp isPrivate)

theorem acceptable_of_proper {server : Server Number} {now : Nat} {id : Uuid}
    (fresh : server.hub.jobs.get? id.text = none) {tier : Tier}
    {body : Option (Json Number)}
    (proper : Refused server ((handleCommit now id tier body).run server) ∨
      ∃ row, Inserted tier body id.text server
        ((handleCommit now id tier body).run server).2 row) :
    Acceptable tier body := by
  intro request validated
  rcases run_handleCommit server now id tier body with
    ⟨reply, refused, _⟩ | ⟨_, failure, misused, _, ends, _⟩ |
    ⟨asked, row, same, built, _, _, ends⟩
  · rw [validated] at refused
    cases refused
  · rw [ends] at proper
    rcases proper with ⟨reply, _, returned⟩ | ⟨row, inserted⟩
    · cases returned
    · exact nomatch fresh.symm.trans inserted.stored
  · cases validated.symm.trans same
    rw [ends] at proper
    rcases proper with ⟨reply, _, returned⟩ | ⟨stored, inserted⟩
    · -- The row is there, and so the server is not as before.
      have rows := route_rows server now id.text row request id.text
      rw [returned, if_pos rfl, fresh] at rows
      cases rows
    · have listed := inserted.listed validated
      refine ⟨listed, ?_⟩
      rcases listed_class validated listed with ⟨text, _, exact⟩
      rw [jobRow_eq now exact] at built
      split at built
      · cases built
      · cases built
      · next userId bound => exact ⟨userId, bound⟩

theorem proper_of_acceptable {server : Server Number} {now : Nat} {id : Uuid}
    (isOpen : server.databaseOpen = true)
    (fresh : server.hub.jobs.get? id.text = none) {tier : Tier}
    {body : Option (Json Number)} (acceptable : Acceptable tier body) :
    Refused server ((handleCommit now id tier body).run server) ∨
      ∃ row, Inserted tier body id.text server
        ((handleCommit now id tier body).run server).2 row := by
  cases validated : validateCommit tier body with
  | error reply =>
    refine .inl ⟨reply, refusal_status validated, ?_⟩
    rw [handleCommit, validated]
    rfl
  | ok request =>
    right
    rcases acceptable request validated with ⟨listed, userId, bound⟩
    rcases listed_class validated listed with ⟨text, known, asked⟩
    rcases jobRow_ok now asked bound with ⟨inserted, built, policy, stores⟩
    rw [handleCommit, validated]
    dsimp only
    rw [Procedure.run_bind_of_ok (run_insertJob_ok isOpen fresh built)]
    have rows := route_rows server now id.text inserted request
    have stored := (rows id.text).trans (if_pos rfl)
    rcases Option.map_eq_some_iff.mp stored with ⟨row, found, same⟩
    refine ⟨row, fresh, found, fun other different =>
      (rows other).trans (if_neg different), ?_, ?_, ?_, ?_⟩
    · cases row.type with
      | llmInfer => exact .head _
      | task => exact .tail _ (.head _)
    · have kept : row.policy = inserted.policy :=
        congrArg JobRequest.policy same
      rw [kept, policy, (validated_policy validated).1]
    · have kept : row.privacyClass = inserted.privacyClass :=
        congrArg JobRequest.privacyClass same
      rw [kept, stores]
      exact known
    · intro unlisted
      rw [listed] at unlisted
      cases unlisted

end Commits

/-! ## Whole runs -/

section Runs

variable {Number : Type}

def JobsIssued (server : Server Number) : Prop :=
  ∀ jobId row, server.hub.jobs.get? jobId = some row →
    ∃ uuid ∈ server.issued, uuid.text = jobId

def Agrees (server : Server Number) (jobId : String)
    (request : RawRequest Number) : Prop :=
  ∃ row, server.hub.jobs.get? jobId = some row ∧
    request.privacyClass = .string row.privacyClass

structure Kept (server : Server Number) : Prop where
  rows : ∀ jobId row, server.hub.jobs.get? jobId = some row →
    row.privacyClass ∈ [PrivacyClass.PUBLIC, PrivacyClass.PRIVATE]
  intervals : ∀ jobId interval,
    server.intervals.get? jobId = some interval →
    Agrees server jobId interval.request
  assigned : ∀ frame ∈ server.assigned, isDemoJob frame.jobId = true ∨
    Agrees server frame.jobId frame.request

theorem JobsIssued.continues {Known : String → RawRequest Number → Prop}
    {before after : Server Number} (issued : JobsIssued before)
    (continues : Continues Known before after) : JobsIssued after := by
  intro jobId row stored
  rcases (continues.hub.exists_row jobId).mp ⟨row, stored⟩ with ⟨old, found⟩
  rw [continues.issued]
  exact issued jobId old found

theorem Agrees.continues {Known : String → RawRequest Number → Prop}
    {before after : Server Number} {jobId : String}
    {request : RawRequest Number} (agrees : Agrees before jobId request)
    (continues : Continues Known before after) :
    Agrees after jobId request := by
  rcases agrees with ⟨row, stored, same⟩
  have rows := continues.hub.rows jobId
  rw [stored, Option.map_some, Option.map_eq_some_iff] at rows
  rcases rows with ⟨later, found, kept⟩
  have sameClass : later.privacyClass = row.privacyClass :=
    congrArg JobRequest.privacyClass kept
  exact ⟨later, found, sameClass ▸ same⟩

theorem Kept.continues {Known : String → RawRequest Number → Prop}
    {before after : Server Number} (kept : Kept before)
    (known : ∀ jobId request, Known jobId request →
      Agrees before jobId request)
    (continues : Continues Known before after) : Kept after where
  rows jobId row stored := by
    have rows := continues.hub.rows jobId
    rw [stored, Option.map_some, eq_comm, Option.map_eq_some_iff] at rows
    rcases rows with ⟨earlier, found, same⟩
    have sameClass : earlier.privacyClass = row.privacyClass :=
      congrArg JobRequest.privacyClass same
    exact sameClass ▸ kept.rows jobId earlier found
  intervals jobId interval found := by
    rcases continues.intervals found with new | ⟨earlier, stored, same⟩
    · exact (known _ _ new).continues continues
    · exact same ▸ (kept.intervals jobId earlier stored).continues continues
  assigned frame member := by
    rcases continues.assigned frame member with demo | new | earlier
    · exact .inl demo
    · exact .inr ((known _ _ new).continues continues)
    · exact (kept.assigned frame earlier).imp_right (·.continues continues)

theorem Agrees.withJob {server : Server Number} {jobId other : String}
    {request : RawRequest Number} (agrees : Agrees server other request)
    (fresh : server.hub.jobs.get? jobId = none) (row : JobRow) :
    Agrees (server.withJob jobId row) other request := by
  rcases agrees with ⟨stored, found, same⟩
  refine ⟨stored, ?_, same⟩
  rw [withJob_get?, if_neg]
  · exact found
  · rintro rfl
    exact nomatch fresh.symm.trans found

theorem Kept.withJob {server : Server Number} (kept : Kept server)
    {jobId : String} {row : JobRow}
    (fresh : server.hub.jobs.get? jobId = none)
    (listed : row.privacyClass ∈
      [PrivacyClass.PUBLIC, PrivacyClass.PRIVATE]) :
    Kept (server.withJob jobId row) where
  rows other stored found := by
    rw [withJob_get?] at found
    split at found
    · cases found
      exact listed
    · exact kept.rows other stored found
  intervals other interval found :=
    (kept.intervals other interval found).withJob fresh row
  assigned frame member :=
    (kept.assigned frame member).imp_right (·.withJob fresh row)

variable [JsNumber Number] [SqlNumber Number] {env : RawEnvironment Number}

theorem jobsIssued {server : Server Number}
    (reachable : (machine env).Reachable server) : JobsIssued server := by
  refine reachable.invariant JobsIssued ?_ ?_
  · intro jobId row stored
    cases stored
  · intro server input _ issued _
    have earlier : JobsIssued (server.issue input.uuid) :=
      fun jobId row stored => by
        rcases issued jobId row stored with ⟨uuid, member, text⟩
        exact ⟨uuid, .tail _ member, text⟩
    rcases step_continues env server input with
      continues | ⟨tier, body, request, row, _, _, _, _, continues⟩
    · exact earlier.continues continues
    · refine JobsIssued.continues ?_ continues
      intro jobId stored found
      rw [withJob_get?] at found
      split at found
      · next same => exact ⟨input.uuid, .head _, same.symm⟩
      · exact earlier jobId stored found

theorem open_of_listening {server : Server Number}
    (reachable : (machine env).Reachable server) :
    server.listening = true → server.databaseOpen = true := by
  refine reachable.invariant
    (fun server => server.listening = true → server.databaseOpen = true)
    (fun _ => rfl) ?_
  intro server input _ served _ listens
  have runs := step_runs env server input
  exact runs.serves listens (served (runs.listening listens))

theorem fresh_of_enabled {server : Server Number} {input : Input Number}
    (reachable : (machine env).Reachable server)
    (enabled : (machine env).Enabled server input) :
    server.hub.jobs.get? input.uuid.text = none := by
  rw [OrderedMap.get?_eq_none_iff, OrderedMap.mem_keys_iff]
  rintro ⟨row, stored⟩
  rcases jobsIssued reachable _ row stored with ⟨uuid, member, text⟩
  exact enabled.1 (Uuid.ext text ▸ member)

def AcceptableCommit (_ : Server Number) (input : Input Number) : Prop :=
  ∀ tier body, input.event = .commit tier body → Acceptable tier body

theorem proper_step_iff {server : Server Number} {input : Input Number}
    (reachable : (machine env).Reachable server)
    (enabled : (machine env).Enabled server input) :
    Proper server input ↔ AcceptableCommit server input := by
  have fresh := fresh_of_enabled reachable enabled
  constructor
  · intro proper tier body event
    exact acceptable_of_proper (by exact fresh) (proper tier body event)
  · intro acceptable tier body event
    have offered := enabled.2
    rw [event] at offered
    have isOpen := open_of_listening reachable offered
    exact proper_of_acceptable (by exact isOpen) (by exact fresh)
      (acceptable tier body event)

theorem Kept.step {server : Server Number} {input : Input Number}
    (kept : Kept server) (acceptable : AcceptableCommit server input) :
    Kept ((machine env).step server input) := by
  have issued : Kept (server.issue input.uuid) :=
    ⟨kept.rows, kept.intervals, kept.assigned⟩
  rcases step_continues env server input with continues |
    ⟨tier, body, request, row, event, validated, built, fresh, continues⟩
  · refine issued.continues ?_ continues
    rintro jobId request ⟨interval, found, rfl⟩
    exact issued.intervals jobId interval found
  · rcases acceptable tier body event request validated with
      ⟨listed, userId, bound⟩
    rcases listed_class validated listed with ⟨text, known, asked⟩
    rcases jobRow_ok input.now asked bound with ⟨stored, same, _, stores⟩
    cases built.symm.trans same
    refine (issued.withJob fresh (stores ▸ known)).continues ?_ continues
    rintro jobId request' ⟨rfl, rfl⟩
    refine ⟨row, ?_, stores ▸ asked⟩
    rw [withJob_get?, if_pos rfl]

/-- In every run, all commits do what they should, and all jobs are kept and
routed under a class that was asked for, exactly if all bodies are
acceptable. -/
theorem commits_proper_iff {events : List (Input Number)}
    {final : Server Number} (run : (machine env).Run initial events final) :
    ((machine env).Steps Proper initial events ∧
        (machine env).Along Kept initial events) ↔
      (machine env).Steps AcceptableCommit initial events := by
  constructor
  · rintro ⟨proper, _⟩
    exact run.steps (fun _ _ reachable enabled =>
      (proper_step_iff reachable enabled).mp) .start proper
  · intro acceptable
    refine ⟨run.steps (fun _ _ reachable enabled =>
      (proper_step_iff reachable enabled).mpr) .start acceptable, ?_⟩
    refine run.along (fun _ _ _ kept _ => kept.step) .start ?_ acceptable
    refine ⟨?_, ?_, ?_⟩
    · intro jobId row found
      cases found
    · intro jobId interval found
      cases found
    · intro entry assigned
      cases assigned

end Runs

namespace Sample

def asking (asked : Json Empty) : Input Empty :=
  at0 Coordinator.Sample.jobUuid
    (.commit .fast (some (body (.cons "privacy_class" asked .nil))))

end Sample

theorem commits_proper_private :
    (machine Listener.Sample.environment).Steps Proper initial
        [Sample.asking (.string "PRIVATE")] ∧
      (machine Listener.Sample.environment).Along Kept initial
        [Sample.asking (.string "PRIVATE")] := by
  refine (commits_proper_iff (.of_steps (by decide +kernel))).mpr ⟨?_, trivial⟩
  intro tier body event request validated
  cases event
  cases validated
  exact ⟨by decide +kernel, "user", rfl⟩

theorem lowercase_private_is_public :
    (machine Listener.Sample.environment).Steps
        (machine Listener.Sample.environment).Enabled initial
        [Sample.asking (.string "private")] ∧
      (((machine Listener.Sample.environment).exec initial
        [Sample.asking (.string "private")]).hub.jobs.get?
          Coordinator.Sample.jobUuid.text).map JobRow.privacyClass =
        some "private" ∧
      Coordinator.Sample.jobUuid.text ∈
        ((machine Listener.Sample.environment).exec initial
          [Sample.asking (.string "private")]).intervals.keys := by
  decide +kernel

end Dispatch.Coordinator.Server
