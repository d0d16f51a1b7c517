import Dispatch.Router.ComputeRouter

/-! # When a call falls back

Every exception of the decentralized adapter leads to the hosted adapters.
-/

namespace Dispatch.Router

section Exits

variable {Number : Type} [JsNumber Number]

/-! ## Exits of the adapter -/

namespace Reply

def status? : Reply → Option Nat
  | rejected _ => none
  | response status _ => some status

def json? : Reply → Option (Json Number)
  | response status (.ok text) => if ok status then Json.parse text else none
  | _ => none

def jobId? (reply : Reply) : Option (Option (Json Number)) :=
  match (reply.json? : Option (Json Number)) with
  | some .null | none => none
  | some value => some (value.get? "job_id")

end Reply

def PollFails (quote : Json Number) (reply : Reply) : Prop :=
  match (reply.json? : Option (Json Number)) with
  | none => True
  | some job =>
    job = .null ∨ hasStatus job "failed" = true ∨
      hasStatus job "completed" = true ∧ quote = .null

def Exits (config : Config) (options : Options Number) (stage : Stage Number)
    (event : Event Number) : Prop :=
  match stage, event.outcome with
  | .quoting, .reply reply => (reply.json? : Option (Json Number)) = none
  | .committing _, .reply reply =>
    (reply.jobId? : Option (Option (Json Number))) = none ∧
      ¬ (reply.status? = some 402 ∧ config.x402Clients options.chain = true)
  | .paying _, .payment headers => ∃ message, headers = .error message
  | .recommitting _, .reply reply =>
    (reply.jobId? : Option (Option (Json Number))) = none
  | .loopHead _ jobId deadline, .clock =>
    deadline ≤ event.now ∨ Json.displayProperty? jobId = none
  | .polling quote _ _, .reply reply => PollFails quote reply
  | _, _ => False

/-! Each part of the adapter either succeeds or throws, as its answer says. -/

theorem fetchJson_cases (Number : Type) [JsNumber Number] (reply : Reply) :
    (∃ value : Json Number, fetchJson reply = .ok value ∧
        reply.json? = some value) ∨
      ∃ error, (fetchJson reply : Except _ (Json Number)) = .error error ∧
        (reply.json? : Option (Json Number)) = none := by
  cases reply with
  | rejected message => exact .inr ⟨.network message, rfl, rfl⟩
  | response status body =>
    by_cases success : ok status = true
    · cases body with
      | error message =>
        refine .inr ⟨.network message, ?_, rfl⟩
        rw [fetchJson, if_pos success]
        rfl
      | ok text =>
        simp only [fetchJson, Reply.json?, if_pos success, readJson]
        cases (Json.parse text : Option (Json Number)) with
        | none => exact .inr ⟨_, rfl, rfl⟩
        | some value => exact .inl ⟨value, rfl, rfl⟩
    · cases body with
      | error message =>
        refine .inr ⟨.network message, ?_, rfl⟩
        rw [fetchJson, if_neg success]
        rfl
      | ok text =>
        refine .inr ⟨.http status text, ?_, ?_⟩
        · rw [fetchJson, if_neg success]
          rfl
        · rw [Reply.json?, if_neg success]

theorem Reply.jobId?_of_not_ok (Number : Type) [JsNumber Number]
    {status : Nat} (refused : ¬ ok status = true)
    (body : Except String String) :
    ((Reply.response status body).jobId? :
      Option (Option (Json Number))) = none := by
  cases body with
  | error message => rfl
  | ok text => simp [Reply.jobId?, Reply.json?, refused]

theorem commitResponse_cases (Number : Type) [JsNumber Number] (status : Nat)
    (body : Except String String) :
    (∃ jobId : Option (Json Number), commitResponse status body = .ok jobId ∧
        (Reply.response status body).jobId? = some jobId) ∨
      ∃ error, (commitResponse status body :
          Except _ (Option (Json Number))) = .error error ∧
        ((Reply.response status body).jobId? :
          Option (Option (Json Number))) = none := by
  by_cases success : ok status = true
  · have notRefused : status ≠ 422 := by
      intro refused
      subst refused
      revert success
      decide
    rw [commitResponse, if_neg notRefused, success, Reply.jobId?]
    cases body with
    | error message => exact .inr ⟨.network message, rfl, rfl⟩
    | ok text =>
      simp only [Reply.json?, if_pos success, readJson]
      cases (Json.parse text : Option (Json Number)) with
      | none => exact .inr ⟨_, rfl, rfl⟩
      | some value =>
        cases value with
        | null => exact .inr ⟨_, rfl, rfl⟩
        | bool | number | string | array | object =>
          exact .inl ⟨_, rfl, rfl⟩
  · refine .inr ?_
    rw [Reply.jobId?_of_not_ok Number success, commitResponse]
    split
    · cases (readJson body : Except _ (Json Number)) with
      | error error => exact ⟨error, rfl, rfl⟩
      | ok value =>
        cases value with
        | null => exact ⟨_, rfl, rfl⟩
        | bool | number | string | array | object =>
          dsimp only [bind, Except.bind]
          split
          · exact ⟨_, rfl, rfl⟩
          · exact ⟨_, rfl, rfl⟩
    · rw [if_pos (by simpa using success)]
      cases readText body with
      | error error => exact ⟨error, rfl, rfl⟩
      | ok text => exact ⟨_, rfl, rfl⟩

theorem hasStatus_exclusive {job : Json Number}
    (failed : hasStatus job "failed" = true) :
    hasStatus job "completed" = false := by
  unfold hasStatus at failed ⊢
  cases status : job.get? "status" with
  | none =>
    rw [status] at failed
    cases failed
  | some value =>
    rw [status] at failed
    cases value with
    | string text =>
      have same : text = JsString.ofString "failed" := eq_of_beq failed
      subst same
      change (JsString.ofString "failed" ==
        JsString.ofString "completed") = false
      decide
    | null | bool | number | array | object => cases failed

variable (config : Config) (options : Options Number)

theorem answered_cases (quote : Json Number) (jobId : Option (Json Number))
    (deadline start now : Nat) (job : Json Number) :
    (∃ next, answered options quote jobId deadline start now job =
        .ok (next, []) ∧
        ¬ (hasStatus job "failed" = true ∨
          hasStatus job "completed" = true ∧ quote = .null) ∧
        (next = .sleeping quote jobId deadline ∨
          ∃ result, next = .returned result)) ∨
      ∃ error, answered options quote jobId deadline start now job =
        .error error ∧
        (hasStatus job "failed" = true ∨
          hasStatus job "completed" = true ∧ quote = .null) := by
  unfold answered
  by_cases completed : hasStatus job "completed" = true
  · have unfailed : hasStatus job "failed" ≠ true := by
      intro failed
      rw [hasStatus_exclusive failed] at completed
      cases completed
    rw [if_pos completed]
    cases quote with
    | null => exact .inr ⟨_, rfl, .inr ⟨completed, rfl⟩⟩
    | bool | number | string | array | object =>
      refine .inl ⟨_, rfl, ?_, .inr ⟨_, rfl⟩⟩
      rintro (failed | ⟨_, null⟩)
      · exact unfailed failed
      · cases null
  · rw [if_neg completed]
    by_cases failed : hasStatus job "failed" = true
    · rw [if_pos failed]
      cases Json.displayProperty? jobId with
      | none => exact .inr ⟨_, rfl, .inl failed⟩
      | some text => exact .inr ⟨_, rfl, .inl failed⟩
    · rw [if_neg failed]
      refine .inl ⟨_, rfl, ?_, .inl rfl⟩
      rintro (failed' | ⟨completed', _⟩)
      · exact failed failed'
      · exact completed completed'

theorem polled_eq {reply : Reply} {job : Json Number}
    (fetched : fetchJson reply = .ok job) (notNull : job ≠ .null)
    (quote : Json Number) (jobId : Option (Json Number))
    (deadline start now : Nat) :
    polled options quote jobId deadline start now reply =
      answered options quote jobId deadline start now job := by
  unfold polled
  rw [fetched]
  cases job with
  | null => exact absurd rfl notNull
  | bool | number | string | array | object => rfl

theorem polled_cases (quote : Json Number) (jobId : Option (Json Number))
    (deadline start now : Nat) (reply : Reply) :
    (∃ next, polled options quote jobId deadline start now reply =
        .ok (next, []) ∧ ¬ PollFails quote reply ∧
        (next = .sleeping quote jobId deadline ∨
          ∃ result, next = .returned result)) ∨
      ∃ error, polled options quote jobId deadline start now reply =
        .error error ∧ PollFails quote reply := by
  unfold PollFails
  rcases fetchJson_cases Number reply with
    ⟨job, fetched, answer⟩ | ⟨error, fetched, answer⟩
  · rw [answer]
    by_cases null : job = .null
    · subst null
      refine .inr ⟨.typeError, ?_, .inl rfl⟩
      unfold polled
      rw [fetched]
      rfl
    · rw [polled_eq options fetched null]
      rcases answered_cases options quote jobId deadline start now job with
        ⟨next, result, unfailed, kind⟩ | ⟨error, result, failed⟩
      · refine .inl ⟨next, result, ?_, kind⟩
        rintro (isNull | failed)
        · exact null isNull
        · exact unfailed failed
      · exact .inr ⟨error, result, .inr failed⟩
  · rw [answer]
    refine .inr ⟨error, ?_, trivial⟩
    unfold polled
    rw [fetched]
    rfl

theorem loopHead_cases (quote : Json Number) (jobId : Option (Json Number))
    (deadline now : Nat) :
    (∃ poll path, loopHead config options quote jobId deadline now =
        .ok (.polling quote jobId deadline, [.fetch poll]) ∧
        poll.url = url config options ++ path ∧
        ¬ (deadline ≤ now ∨ Json.displayProperty? jobId = none)) ∨
      ∃ error, loopHead config options quote jobId deadline now =
        .error error ∧
        (deadline ≤ now ∨ Json.displayProperty? jobId = none) := by
  unfold loopHead
  cases shown : Json.displayProperty? jobId with
  | none => exact .inr ⟨_, rfl, .inr rfl⟩
  | some text =>
    by_cases early : now < deadline
    · refine .inl ⟨_, "/v1/jobs/" ++ text.toText, if_pos early, ?_, ?_⟩
      · exact String.append_assoc
      · rintro (late | hidden)
        · omega
        · cases hidden
    · exact .inr ⟨_, if_neg early, .inl (Nat.le_of_not_lt early)⟩

theorem committed_cases (quote : Json Number) (now status : Nat)
    (body : Except String String) :
    (∃ jobId, committed options quote now status body =
        .ok (.loopHead quote jobId (now + timeoutMs options.work.jobType),
          []) ∧
        (Reply.response status body).jobId? = some jobId) ∨
      ∃ error, committed options quote now status body = .error error ∧
        ((Reply.response status body).jobId? :
          Option (Option (Json Number))) = none := by
  unfold committed
  rcases commitResponse_cases Number status body with
    ⟨jobId, read, same⟩ | ⟨error, read, same⟩
  · rw [read]
    exact .inl ⟨jobId, rfl, same⟩
  · rw [read]
    exact .inr ⟨error, rfl, same⟩

/-! ## Steps of a call -/

namespace Stage

def Submits : Stage Number → Prop
  | .hosted _ _ _ | .returned _ | .threw _ => False
  | _ => True

def Waits (jobId : Option (Json Number)) (deadline : Nat) :
    Stage Number → Prop
  | .loopHead _ id limit | .polling _ id limit | .sleeping _ id limit =>
    id = jobId ∧ limit = deadline
  | _ => False

structure Follows (stage next : Stage Number) : Prop where
  submits : next.Submits ∨ ∃ result, next = .returned result
  waits : ∀ jobId deadline, stage.Waits jobId deadline →
    next.Waits jobId deadline ∨ ∃ result, next = .returned result

omit [JsNumber Number] in
theorem Follows.of_not_waits {stage next : Stage Number}
    (submits : next.Submits)
    (unpolled : ∀ jobId deadline, ¬ stage.Waits jobId deadline) :
    stage.Follows next where
  submits := .inl submits
  waits jobId deadline waits := absurd waits (unpolled jobId deadline)

end Stage

variable [NumberToString Number]

inductive Proceeds (start : Nat) (stage : Stage Number)
    (event : Event Number) : Prop
  | goesOn (next : Stage Number) (requests : List HttpRequest)
      (result : submit config options start stage event =
        .ok (next, requests.map .fetch))
      (paths : ∀ request ∈ requests, ∃ path,
        request.url = url config options ++ path)
      (follows : stage.Follows next)
      (stays : ¬ Exits config options stage event)
  | throws (error : AdapterError)
      (result : submit config options start stage event = .error error)
      (exits : Exits config options stage event)

namespace Proceeds

theorem quoting (start now : Nat) (reply : Reply) :
    Proceeds config options start .quoting ⟨now, .reply reply⟩ := by
  rcases fetchJson_cases Number reply with
    ⟨quote, fetched, answer⟩ | ⟨error, fetched, answer⟩
  · refine .goesOn (.committing quote)
      [commitRequest (url config options) options.request []] ?_ ?_
      (.of_not_waits trivial fun _ _ waits => waits) ?_
    · simp only [submit]
      rw [fetched]
      rfl
    · exact List.forall_mem_singleton.mpr ⟨_, rfl⟩
    · simp only [Exits, answer]
      exact nofun
  · refine .throws error ?_ answer
    simp only [submit]
    rw [fetched]
    rfl

theorem committing (start now : Nat) (quote : Json Number) (reply : Reply) :
    Proceeds config options start (.committing quote) ⟨now, .reply reply⟩ := by
  cases reply with
  | rejected message => exact .throws _ rfl ⟨rfl, nofun⟩
  | response status body =>
    by_cases paid : status = 402
    · subst paid
      by_cases client : config.x402Clients options.chain = true
      · refine .goesOn (.paying quote) [] ?_ nofun
          (.of_not_waits trivial fun _ _ waits => waits)
          fun exit => exit.2 ⟨rfl, client⟩
        simp only [submit]
        rw [if_pos trivial, if_pos client]
        rfl
      · refine .throws .paymentRequired ?_
          ⟨Reply.jobId?_of_not_ok Number (by decide) body,
            fun both => client both.2⟩
        simp only [submit]
        rw [if_pos trivial, if_neg client]
    · rcases committed_cases options quote now status body with
        ⟨jobId, read, same⟩ | ⟨error, read, same⟩
      · refine .goesOn _ [] ((if_neg paid).trans read) nofun
          (.of_not_waits trivial fun _ _ waits => waits) ?_
        rintro ⟨unread, _⟩
        rw [same] at unread
        cases unread
      · refine .throws error ((if_neg paid).trans read) ⟨same, ?_⟩
        rintro ⟨isPaid, _⟩
        exact paid (Option.some.inj isPaid)

theorem paying (start now : Nat) (quote : Json Number)
    (headers : Except String (List (String × String))) :
    Proceeds config options start (.paying quote)
      ⟨now, .payment headers⟩ := by
  cases headers with
  | error message => exact .throws _ rfl ⟨message, rfl⟩
  | ok headers =>
    refine .goesOn (.recommitting quote)
      [commitRequest (url config options) options.request headers] rfl
      (List.forall_mem_singleton.mpr ⟨_, rfl⟩)
      (.of_not_waits trivial fun _ _ waits => waits) ?_
    rintro ⟨message, same⟩
    cases same

theorem recommitting (start now : Nat) (quote : Json Number)
    (reply : Reply) :
    Proceeds config options start (.recommitting quote)
      ⟨now, .reply reply⟩ := by
  cases reply with
  | rejected message => exact .throws _ rfl rfl
  | response status body =>
    rcases committed_cases options quote now status body with
      ⟨jobId, read, same⟩ | ⟨error, read, same⟩
    · refine .goesOn _ [] read nofun
        (.of_not_waits trivial fun _ _ waits => waits) ?_
      simp only [Exits, same]
      exact nofun
    · exact .throws error read same

theorem loopHead (start now : Nat) (quote : Json Number)
    (jobId : Option (Json Number)) (deadline : Nat) :
    Proceeds config options start (.loopHead quote jobId deadline)
      ⟨now, .clock⟩ := by
  rcases loopHead_cases config options quote jobId deadline now with
    ⟨poll, path, goesOn, sameUrl, early⟩ | ⟨error, thrown, late⟩
  · exact .goesOn _ [poll] goesOn
      (List.forall_mem_singleton.mpr ⟨path, sameUrl⟩)
      ⟨.inl trivial, fun _ _ waits => .inl waits⟩ early
  · exact .throws error thrown late

theorem polling (start now : Nat) (quote : Json Number)
    (jobId : Option (Json Number)) (deadline : Nat) (reply : Reply) :
    Proceeds config options start (.polling quote jobId deadline)
      ⟨now, .reply reply⟩ := by
  rcases polled_cases options quote jobId deadline start now reply with
    ⟨next, goesOn, unfailed, rfl | ⟨result, rfl⟩⟩ | ⟨error, thrown, failed⟩
  · exact .goesOn _ [] goesOn nofun
      ⟨.inl trivial, fun _ _ waits => .inl waits⟩ unfailed
  · exact .goesOn _ [] goesOn nofun
      ⟨.inr ⟨result, rfl⟩, fun _ _ _ => .inr ⟨result, rfl⟩⟩ unfailed
  · exact .throws error thrown failed

end Proceeds

theorem submit_proceeds (start : Nat) {stage : Stage Number}
    {event : Event Number} (submits : stage.Submits)
    (awaited : stage.awaits event.outcome = true) :
    Proceeds config options start stage event := by
  rcases event with ⟨now, outcome⟩
  cases stage with
  | quoting =>
    cases outcome with
    | reply reply => exact .quoting config options start now reply
    | payment | clock | awake | completion => cases awaited
  | committing quote =>
    cases outcome with
    | reply reply => exact .committing config options start now quote reply
    | payment | clock | awake | completion => cases awaited
  | paying quote =>
    cases outcome with
    | payment headers =>
      exact .paying config options start now quote headers
    | reply | clock | awake | completion => cases awaited
  | recommitting quote =>
    cases outcome with
    | reply reply => exact .recommitting config options start now quote reply
    | payment | clock | awake | completion => cases awaited
  | loopHead quote jobId deadline =>
    cases outcome with
    | clock => exact .loopHead config options start now quote jobId deadline
    | reply | payment | awake | completion => cases awaited
  | polling quote jobId deadline =>
    cases outcome with
    | reply reply =>
      exact .polling config options start now quote jobId deadline reply
    | payment | clock | awake | completion => cases awaited
  | sleeping quote jobId deadline =>
    cases outcome with
    | awake =>
      exact .goesOn (.loopHead quote jobId deadline) [] rfl nofun
        ⟨.inl trivial, fun _ _ waits => .inl waits⟩ fun exit => exit
    | reply | payment | clock | completion => cases awaited
  | hosted | returned | threw => exact submits.elim

inductive Move (call : Call Number) (event : Event Number) :
    Call Number → Prop
  | goesOn {next : Stage Number} {requests : List HttpRequest}
      (submits : call.stage.Submits)
      (stays : ¬ Exits config options call.stage event)
      (paths : ∀ request ∈ requests, ∃ path,
        request.url = url config options ++ path)
      (follows : call.stage.Follows next) :
      Move call event { call with
        stage := next, passed := call.passed ++ requests.map .fetch }
  | fails {error : AdapterError} (submits : call.stage.Submits)
      (exits : Exits config options call.stage event) :
      Move call event (fail config options event.now error call)
  | hosted {adapter : Hosted} {rest : List Hosted} {began : Nat}
      {output : Except String (Json Number)}
      (stage : call.stage = .hosted adapter rest began) :
      Move call event
        (completed config options adapter rest began event.now output call)

theorem step_eq_submit (start : Nat) {call : Call Number}
    (submits : call.stage.Submits) (event : Event Number) :
    (machine config options start).step call event =
      match submit config options start call.stage event with
      | .error error => fail config options event.now error call
      | .ok (stage, actions) =>
        { call with stage := stage, passed := call.passed ++ actions } := by
  change step config options start call event = _
  unfold step
  cases stage : call.stage with
  | hosted | returned | threw =>
    simp only [stage, Stage.Submits] at submits
  | quoting | committing | paying | recommitting | loopHead | polling
  | sleeping => rfl

theorem step_move (start : Nat) {call : Call Number} {event : Event Number}
    (enabled : (machine config options start).Enabled call event) :
    Move config options call event
      ((machine config options start).step call event) := by
  have awaited : call.stage.awaits event.outcome = true := enabled
  by_cases submits : call.stage.Submits
  · rw [step_eq_submit config options start submits]
    cases submit_proceeds config options start submits awaited with
    | goesOn next requests goesOn paths follows stays =>
      rw [goesOn]
      exact .goesOn submits stays paths follows
    | throws error thrown exits =>
      rw [thrown]
      exact .fails submits exits
  · cases stage : call.stage with
    | hosted adapter rest began =>
      cases outcome : event.outcome with
      | completion output =>
        have answered : (machine config options start).step call event =
            completed config options adapter rest began event.now output
              call := by
          change step config options start call event = _
          unfold step
          rw [stage, outcome]
        rw [answered]
        exact .hosted stage
      | reply | payment | clock | awake =>
        rw [stage, outcome] at awaited
        cases awaited
    | returned | threw =>
      rw [stage] at awaited
      cases awaited
    | quoting | committing | paying | recommitting | loopHead | polling
    | sleeping =>
      rw [stage] at submits
      exact absurd trivial submits

/-! ## What a call has passed on -/

omit [JsNumber Number] [NumberToString Number] in
theorem hostedFallback_spec (request : Request Number) (now : Nat)
    (adapters : List Hosted) (call : Call Number) :
    ∃ tried, tried <+: adapters ∧ (adapters ≠ [] → tried ≠ []) ∧
      (hostedFallback config request now adapters call).passed =
        call.passed ++ tried.map (.hosted · request) ∧
      (hostedFallback config request now adapters call).thrown =
        call.thrown ∧
      ((hostedFallback config request now adapters call).stage =
          .threw allFailed ∨
        ∃ adapter rest, tried ++ rest = adapters ∧
          (hostedFallback config request now adapters call).stage =
            .hosted adapter rest now) := by
  induction adapters generalizing call with
  | nil =>
    exact ⟨[], List.prefix_rfl, fun more => absurd rfl more,
      (List.append_nil _).symm, rfl, .inl rfl⟩
  | cons adapter rest induction =>
    unfold hostedFallback
    cases (config.apiKey adapter).filter (· ≠ "") with
    | none =>
      dsimp only
      rcases induction _ with
        ⟨tried, tries, _, passed, thrown, stage⟩
      refine ⟨adapter :: tried, List.cons_prefix_cons.mpr ⟨rfl, tries⟩,
        fun _ => List.cons_ne_nil _ _, ?_, thrown, ?_⟩
      · rw [passed]
        simp [Call.pass]
      · rcases stage with threw | ⟨other, left, split, waits⟩
        · exact .inl threw
        · exact .inr ⟨other, left, congrArg (adapter :: ·) split, waits⟩
    | some key =>
      exact ⟨[adapter], List.cons_prefix_cons.mpr ⟨rfl, List.nil_prefix⟩,
        fun _ => List.cons_ne_nil _ _, rfl, rfl, .inr ⟨adapter, rest, rfl,
          rfl⟩⟩

structure Trail (call : Call Number) (requests : List HttpRequest)
    (tried : List Hosted) : Prop where
  passed : call.passed =
    requests.map .fetch ++ tried.map (.hosted · options.request)
  coordinator : ∀ request ∈ requests, ∃ path,
    request.url = url config options ++ path
  preferred : tried <+: config.hostedAdapters
  thrown : call.thrown = none ↔ tried = []
  submits : call.stage.Submits → call.thrown = none
  rest : ∀ adapter rest began, call.stage = .hosted adapter rest began →
    call.thrown ≠ none ∧ tried ++ rest = config.hostedAdapters

theorem hostedAdapters_ne_nil : config.hostedAdapters ≠ [] := by
  unfold Config.hostedAdapters
  split <;> exact List.cons_ne_nil _ _

omit [JsNumber Number] [NumberToString Number] in
theorem Trail.hostedFallback {call : Call Number}
    {requests : List HttpRequest} (tried rest : List Hosted) (now : Nat)
    (passed : call.passed =
      requests.map .fetch ++ tried.map (.hosted · options.request))
    (coordinator : ∀ request ∈ requests, ∃ path,
      request.url = url config options ++ path)
    (split : tried ++ rest = config.hostedAdapters)
    (thrown : call.thrown ≠ none) (more : tried ≠ [] ∨ rest ≠ []) :
    ∃ tried, Trail config options
      (Router.hostedFallback config options.request now rest call) requests
      tried := by
  rcases hostedFallback_spec config options.request now rest call with
    ⟨others, tries, some, appended, kept, stage⟩
  refine ⟨tried ++ others, ?_, coordinator, ?_, ?_, ?_, ?_⟩
  · rw [appended, passed, List.map_append, List.append_assoc]
  · rw [← split]
    exact (List.prefix_append_right_inj tried).mpr tries
  · rw [kept]
    refine ⟨fun none => absurd none thrown, fun empty => ?_⟩
    rcases List.append_eq_nil_iff.mp empty with ⟨noneTried, noneLeft⟩
    rcases more with already | left
    · exact absurd noneTried already
    · exact absurd noneLeft (some left)
  · intro submits
    rcases stage with threw | ⟨adapter, left, _, waits⟩
    · rw [threw] at submits
      exact submits.elim
    · rw [waits] at submits
      exact submits.elim
  · intro adapter left began waits
    rw [kept]
    refine ⟨thrown, ?_⟩
    rcases stage with threw | ⟨other, remaining, splitRest, same⟩
    · rw [threw] at waits
      cases waits
    · rw [same] at waits
      cases waits
      rw [List.append_assoc, splitRest, split]

omit [NumberToString Number] in
theorem trail_step {call next : Call Number} {event : Event Number}
    {requests : List HttpRequest} {tried : List Hosted}
    (trail : Trail config options call requests tried)
    (move : Move config options call event next) :
    ∃ requests tried, Trail config options next requests tried := by
  cases move with
  | @goesOn stage more submits _ paths follows =>
    have unthrown := trail.submits submits
    have untried := trail.thrown.mp unthrown
    refine ⟨requests ++ more, [], ?_, ?_, List.nil_prefix, ?_, ?_, ?_⟩
    · simp [trail.passed, untried]
    · intro request member
      rcases List.mem_append.mp member with earlier | added
      · exact trail.coordinator request earlier
      · exact paths request added
    · exact iff_of_true unthrown rfl
    · exact fun _ => unthrown
    · intro adapter rest began waits
      rcases follows.submits with submitting | ⟨result, same⟩
      · rw [show stage = .hosted adapter rest began from waits] at submitting
        exact submitting.elim
      · rw [show stage = .hosted adapter rest began from waits] at same
        cases same
  | @fails error submits _ =>
    have untried := trail.thrown.mp (trail.submits submits)
    refine ⟨requests, Trail.hostedFallback config options []
      config.hostedAdapters event.now ?_ trail.coordinator rfl
      (Option.some_ne_none error) (.inr (hostedAdapters_ne_nil config))⟩
    simpa [untried] using trail.passed
  | @hosted adapter rest began output waits =>
    rcases trail.rest adapter rest began waits with ⟨thrown, split⟩
    have some : tried ≠ [] := fun empty => thrown (trail.thrown.mpr empty)
    cases output with
    | ok output =>
      refine ⟨requests, tried, trail.passed, trail.coordinator,
        trail.preferred, trail.thrown, fun submits => submits.elim, ?_⟩
      intro other left start waitsAgain
      cases waitsAgain
    | error message =>
      exact ⟨requests, Trail.hostedFallback config options tried rest
        event.now trail.passed trail.coordinator split thrown (.inl some)⟩

theorem reachable_trail (start : Nat) {call : Call Number}
    (reachable : (machine config options start).Reachable call) :
    ∃ requests tried, Trail config options call requests tried := by
  apply reachable.invariant fun call =>
    ∃ requests tried, Trail config options call requests tried
  · have path : ∃ path,
        (quoteRequest (url config options) options.request).url =
          url config options ++ path := by
      simp only [quoteRequest, String.append_assoc]
      exact ⟨_, rfl⟩
    exact ⟨[quoteRequest (url config options) options.request], [], rfl,
      List.forall_mem_singleton.mpr path, List.nil_prefix,
      iff_of_true rfl rfl, fun _ => rfl, nofun⟩
  · rintro state event _ ⟨requests, tried, trail⟩ enabled
    exact trail_step config options trail
      (step_move config options start enabled)

omit [JsNumber Number] [NumberToString Number] in
theorem fail_thrown (now : Nat) (error : AdapterError) (call : Call Number) :
    (fail config options now error call).thrown = some error := by
  rcases hostedFallback_spec config options.request now config.hostedAdapters
    { call with thrown := some error } with ⟨_, _, _, _, thrown, _⟩
  exact thrown

theorem step_thrown (start : Nat) {call : Call Number} {event : Event Number}
    (enabled : (machine config options start).Enabled call event) :
    ((machine config options start).step call event).thrown = none ↔
      call.thrown = none ∧ ¬ Exits config options call.stage event := by
  have move := step_move config options start enabled
  generalize (machine config options start).step call event = next at move ⊢
  cases move with
  | goesOn _ stays _ _ => exact (and_iff_left stays).symm
  | fails _ exits =>
    rw [fail_thrown]
    exact iff_of_false nofun fun both => both.2 exits
  | @hosted adapter rest began output waits =>
    have stays : ¬ Exits config options call.stage event := by
      rw [waits]
      exact fun exits => exits
    have kept : (completed config options adapter rest began event.now
        output call).thrown = call.thrown := by
      cases output with
      | ok output => rfl
      | error message =>
        rcases hostedFallback_spec config options.request event.now rest
          { call with hostedFailures :=
              call.hostedFailures ++ [(adapter, message)] } with
          ⟨_, _, _, _, thrown, _⟩
        exact thrown
    rw [kept]
    exact (and_iff_left stays).symm

theorem run_thrown (start : Nat) {call final : Call Number}
    {events : List (Event Number)}
    (run : (machine config options start).Run call events final) :
    final.thrown = none ↔ call.thrown = none ∧
      (machine config options start).Steps
        (fun call event => ¬ Exits config options call.stage event)
        call events := by
  induction run with
  | nil => exact (and_iff_left trivial).symm
  | cons enabled _ induction =>
    rw [induction, step_thrown config options start enabled, and_assoc]
    rfl

/-- A call passes its prompt or input to the coordinator of its chain, and to
hosted adapters, in order of preference, exactly if the decentralized adapter
has taken one of its exits. The privacy class makes no difference. -/
theorem prompts_reach_hosted_iff_exited (config : Config)
    (options : Options Number) (start : Nat) {call : Call Number}
    {events : List (Event Number)}
    (run : (machine config options start).Run
      (machine config options start).initial events call) :
    ∃ (requests : List HttpRequest) (tried : List Hosted), call.passed =
        requests.map .fetch ++ tried.map (.hosted · options.request) ∧
      (∀ request ∈ requests, ∃ path,
        request.url = url config options ++ path) ∧
      tried <+: config.hostedAdapters ∧
      (tried = [] ↔ (machine config options start).Steps
        (fun call event => ¬ Exits config options call.stage event)
        (machine config options start).initial events) := by
  rcases reachable_trail config options start ⟨events, run⟩ with
    ⟨requests, tried, trail⟩
  refine ⟨requests, tried, trail.passed, trail.coordinator, trail.preferred,
    ?_⟩
  rw [← trail.thrown, run_thrown config options start run]
  exact and_iff_right rfl

end Exits

/-! ### Sample calls -/

namespace Sample

def config : Config where
  coordinatorUrls
    | .monad => "http://localhost:4010"
    | .solana => "http://localhost:4020"
  preferredHosted := none
  x402Clients _ := false
  apiKey
    | .openai => some "sk-test"
    | .anthropic => none

def options (privacy : Option String) : Options Empty where
  work := .llm "Summarize our revenue targets" none
  policy := none
  privacy := privacy
  userId := "user-1"
  chainPreference := none

def answer (now status : Nat) (body : String) : Event Empty where
  now := now
  outcome := .reply (.response status (.ok body))

def quoted : Event Empty := answer 0 200 "\x7b\"price\":\"$0.010\"\x7d"

def refused : Event Empty :=
  answer 1 422 "\x7b\"error\":\"no_trusted_worker\",\"job_id\":\"job-1\"\x7d"

def accepted : Event Empty := answer 1 201 "\x7b\"job_id\":\"job-1\"\x7d"

def clock (now : Nat) : Event Empty where
  now := now
  outcome := .clock

def awake (now : Nat) : Event Empty where
  now := now
  outcome := .awake

def pending (now : Nat) : Event Empty :=
  answer now 200 "\x7b\"status\":\"pending\"\x7d"

def completed (now : Nat) : Event Empty :=
  answer now 200 "\x7b\"status\":\"completed\",\"result\":\"ok\"\x7d"

def unreachable (now : Nat) : Event Empty where
  now := now
  outcome := .reply (.rejected "fetch failed")

def machine (privacy : Option String) : Machine (Call Empty) (Event Empty) :=
  Router.machine config (options privacy) 0

instance (privacy : Option String) (call : Call Empty) (event : Event Empty) :
    Decidable ((machine privacy).Enabled call event) :=
  inferInstanceAs (Decidable (_ = true))

def privateRun : List (Event Empty) :=
  [quoted, accepted, clock 1, pending 2, awake 502, clock 502, completed 503]

def refusedRun : List (Event Empty) := [quoted, refused]

end Sample

theorem sample_private_call_completes :
    ∃ (requests : List HttpRequest) (tried : List Hosted),
      ((Sample.machine (some PrivacyClass.PRIVATE)).exec
          (Sample.machine (some PrivacyClass.PRIVATE)).initial
          Sample.privateRun).passed =
        requests.map .fetch ++ tried.map
          (.hosted · (Sample.options (some PrivacyClass.PRIVATE)).request) ∧
      (∀ request ∈ requests, ∃ path, request.url =
        url Sample.config (Sample.options (some PrivacyClass.PRIVATE)) ++
          path) ∧
      tried <+: Sample.config.hostedAdapters ∧
      (tried = [] ↔ (Sample.machine (some PrivacyClass.PRIVATE)).Steps
        (fun call event => ¬ Exits Sample.config
          (Sample.options (some PrivacyClass.PRIVATE)) call.stage event)
        (Sample.machine (some PrivacyClass.PRIVATE)).initial
        Sample.privateRun) :=
  prompts_reach_hosted_iff_exited Sample.config
    (Sample.options (some PrivacyClass.PRIVATE)) 0
    (.of_steps (by decide +kernel))

theorem sample_private_prompt_reaches_hosted :
    ∃ call, (Sample.machine (some PrivacyClass.PRIVATE)).Reachable call ∧
      (Sample.options (some PrivacyClass.PRIVATE)).request.privacy =
        PrivacyClass.PRIVATE ∧
      .hosted .openai (Sample.options (some PrivacyClass.PRIVATE)).request ∈
        call.passed :=
  ⟨(Sample.machine (some PrivacyClass.PRIVATE)).exec
      (Sample.machine (some PrivacyClass.PRIVATE)).initial Sample.refusedRun,
    .of_steps (by decide +kernel), rfl, by decide +kernel⟩

section Accepted

variable {Number : Type} [JsNumber Number]
variable (config : Config) (options : Options Number)
variable [NumberToString Number]

/-! ## After a job has been accepted -/

def PollEnds (jobId : Option (Json Number)) (deadline : Nat)
    (stage : Stage Number) (event : Event Number) : Prop :=
  match stage, event.outcome with
  | .loopHead _ _ _, .clock =>
    deadline ≤ event.now ∨ Json.displayProperty? jobId = none
  | .polling quote _ _, .reply reply => PollFails quote reply
  | _, _ => False

def Pursues (jobId : Option (Json Number)) (deadline : Nat)
    (call : Call Number) : Prop :=
  call.stage.Waits jobId deadline ∨ ¬ call.stage.Submits

omit [JsNumber Number] [NumberToString Number] in
theorem hostedFallback_pursues (jobId : Option (Json Number))
    (deadline now : Nat) (adapters : List Hosted) (call : Call Number) :
    Pursues jobId deadline
      (hostedFallback config options.request now adapters call) := by
  right
  rcases hostedFallback_spec config options.request now adapters call with
    ⟨_, _, _, _, _, threw | ⟨adapter, rest, _, waits⟩⟩
  · rw [threw]
    exact id
  · rw [waits]
    exact id

omit [NumberToString Number] in
theorem pursues_step {jobId : Option (Json Number)} {deadline : Nat}
    {call next : Call Number} {event : Event Number}
    (pursues : Pursues jobId deadline call)
    (move : Move config options call event next) :
    Pursues jobId deadline next := by
  cases move with
  | goesOn submits _ _ follows =>
    rcases pursues with waits | ended
    · rcases follows.waits jobId deadline waits with stays | ⟨result, rfl⟩
      · exact .inl stays
      · exact .inr id
    · exact absurd submits ended
  | fails => exact hostedFallback_pursues config options _ _ _ _ _
  | @hosted adapter rest began output _ =>
    cases output with
    | ok output => exact .inr id
    | error message => exact hostedFallback_pursues config options _ _ _ _ _

omit [NumberToString Number] in
theorem Pursues.exits_iff {jobId : Option (Json Number)} {deadline : Nat}
    {call : Call Number} (pursues : Pursues jobId deadline call)
    (event : Event Number) :
    Exits config options call.stage event ↔
      PollEnds jobId deadline call.stage event := by
  unfold Pursues at pursues
  rcases event with ⟨now, outcome⟩
  cases stage : call.stage with
  | quoting | committing | paying | recommitting =>
    rw [stage] at pursues
    rcases pursues with waits | ended
    · exact waits.elim
    · exact absurd trivial ended
  | hosted | returned | threw => rfl
  | loopHead quote id limit =>
    rw [stage] at pursues
    rcases pursues with ⟨rfl, rfl⟩ | ended
    · cases outcome <;> rfl
    · exact absurd trivial ended
  | polling => cases outcome <;> rfl
  | sleeping => cases outcome <;> rfl

theorem Pursues.steps_iff (start : Nat) {jobId : Option (Json Number)}
    {deadline : Nat} {call final : Call Number}
    {events : List (Event Number)} (pursues : Pursues jobId deadline call)
    (run : (machine config options start).Run call events final) :
    (machine config options start).Steps
        (fun call event => ¬ Exits config options call.stage event)
        call events ↔
      (machine config options start).Steps
        (fun call event => ¬ PollEnds jobId deadline call.stage event)
        call events := by
  induction run with
  | nil => exact Iff.rfl
  | cons enabled _ induction =>
    exact and_congr (not_congr (pursues.exits_iff config options _))
      (induction (pursues_step config options pursues
        (step_move config options start enabled)))

def Stage.commits : Stage Number → Bool
  | .committing _ | .recommitting _ => true
  | _ => false

omit [JsNumber Number] [NumberToString Number] in
theorem Stage.submits_of_commits {stage : Stage Number}
    (commits : stage.commits = true) : stage.Submits := by
  cases stage with
  | committing | recommitting => trivial
  | quoting | paying | loopHead | polling | sleeping | hosted | returned
  | threw => cases commits

omit [JsNumber Number] [NumberToString Number] in
theorem Stage.awaits_of_commits {stage : Stage Number}
    (commits : stage.commits = true) (reply : Reply) :
    stage.awaits (.reply reply) = true := by
  cases stage with
  | committing | recommitting => rfl
  | quoting | paying | loopHead | polling | sleeping | hosted | returned
  | threw => cases commits

theorem accepted_step (start : Nat) {call : Call Number}
    {accept : Event Number} {reply : Reply} {jobId : Option (Json Number)}
    (commits : call.stage.commits = true)
    (answer : accept.outcome = .reply reply)
    (accepted : reply.jobId? = some jobId) :
    ∃ quote, submit config options start call.stage accept =
      .ok (.loopHead quote jobId
        (accept.now + timeoutMs options.work.jobType), []) := by
  cases reply with
  | rejected message => cases accepted
  | response status body =>
    have success : ok status = true := by
      by_contra refused
      rw [Reply.jobId?_of_not_ok Number refused] at accepted
      cases accepted
    have unpaid : status ≠ 402 := by
      intro paid
      subst paid
      revert success
      decide
    have goesOn : ∀ quote, committed options quote accept.now status body =
        .ok (.loopHead quote jobId
          (accept.now + timeoutMs options.work.jobType), []) := by
      intro quote
      rcases committed_cases options quote accept.now status body with
        ⟨other, read, same⟩ | ⟨error, read, same⟩
      · rw [accepted] at same
        cases same
        exact read
      · rw [accepted] at same
        cases same
    cases stage : call.stage with
    | committing quote =>
      refine ⟨quote, ?_⟩
      simp only [submit, answer, if_neg unpaid]
      exact goesOn quote
    | recommitting quote =>
      refine ⟨quote, ?_⟩
      simp only [submit, answer]
      exact goesOn quote
    | quoting | paying | loopHead | polling | sleeping | hosted | returned
    | threw =>
      rw [stage] at commits
      cases commits

omit [JsNumber Number] [NumberToString Number] in
theorem Trail.hosted_iff {call : Call Number} {requests : List HttpRequest}
    {tried : List Hosted} (trail : Trail config options call requests tried) :
    (∃ adapter request, .hosted adapter request ∈ call.passed) ↔
      call.thrown ≠ none := by
  rw [Ne, trail.thrown, trail.passed]
  constructor
  · rintro ⟨adapter, request, member⟩ untried
    rw [untried] at member
    simp at member
  · intro some
    rcases List.exists_mem_of_ne_nil tried some with ⟨adapter, member⟩
    refine ⟨adapter, options.request, List.mem_append_right _ ?_⟩
    exact List.mem_map_of_mem member

/-- Once a commit has returned the id of a job, the hosted adapters are called
exactly if the polling of that job ends with an exception: by its deadline, by
an answer that is not usable, or by the report that it has failed. -/
theorem accepted_jobs_fall_back_iff (config : Config)
    (options : Options Number) (start : Nat) {call final : Call Number}
    {accept : Event Number} {reply : Reply} {jobId : Option (Json Number)}
    {events : List (Event Number)}
    (reachable : (machine config options start).Reachable call)
    (commits : call.stage.commits = true)
    (answer : accept.outcome = .reply reply)
    (accepted : reply.jobId? = some jobId)
    (run : (machine config options start).Run
      ((machine config options start).step call accept) events final) :
    (∃ adapter request, .hosted adapter request ∈ final.passed) ↔
      ¬ (machine config options start).Steps
        (fun call event => ¬ PollEnds jobId
          (accept.now + timeoutMs options.work.jobType) call.stage event)
        ((machine config options start).step call accept) events := by
  rcases accepted_step config options start commits answer accepted with
    ⟨quote, submitted⟩
  have enabled : (machine config options start).Enabled call accept := by
    change call.stage.awaits accept.outcome = true
    rw [answer]
    exact Stage.awaits_of_commits commits reply
  have submits := Stage.submits_of_commits commits
  have stepped := step_eq_submit config options start submits accept
  rw [submitted] at stepped
  rcases reachable_trail config options start reachable with
    ⟨_, _, trailBefore⟩
  rcases reachable_trail config options start
    ((reachable.step enabled).run run) with ⟨_, _, trail⟩
  have unthrown :
      ((machine config options start).step call accept).thrown = none := by
    rw [stepped]
    exact trailBefore.submits submits
  have pursues : Pursues jobId (accept.now + timeoutMs options.work.jobType)
      ((machine config options start).step call accept) := by
    rw [stepped]
    exact .inl ⟨rfl, rfl⟩
  rw [trail.hosted_iff, Ne, run_thrown config options start run,
    pursues.steps_iff config options start run]
  exact not_congr (and_iff_right unthrown)

def Event.reportsFailure (event : Event Number) : Bool :=
  match event.outcome with
  | .reply reply =>
    match (reply.json? : Option (Json Number)) with
    | some job => hasStatus job "failed"
    | none => false
  | _ => false

end Accepted

-- The samples below compare JSON values.
deriving instance DecidableEq for Json

namespace Sample

def committing : Call Empty :=
  (machine none).exec (machine none).initial [quoted]

def pollLost : List (Event Empty) := [clock 1, unreachable 2]

def timeOver : List (Event Empty) :=
  [clock 1, pending 2, awake 502, clock 60001]

def reply (event : Event Empty) : Reply :=
  match event.outcome with
  | .reply reply => reply
  | _ => .rejected ""

theorem committing_reachable : (machine none).Reachable committing :=
  .of_steps (by decide +kernel)

theorem committing_commits : committing.stage.commits = true := by
  decide +kernel

theorem accepted_job :
    (reply accepted).jobId? =
      some (some (Json.string (JsString.ofString "job-1") : Json Empty)) := by
  decide +kernel

end Sample

theorem sample_lost_poll_falls_back :
    (∃ adapter request, .hosted adapter request ∈
        ((Sample.machine none).exec
          ((Sample.machine none).step Sample.committing Sample.accepted)
          Sample.pollLost).passed) ↔
      ¬ (Sample.machine none).Steps
        (fun call event => ¬ PollEnds
          (some (Json.string (JsString.ofString "job-1") : Json Empty))
          (Sample.accepted.now +
            timeoutMs (Sample.options none).work.jobType) call.stage event)
        ((Sample.machine none).step Sample.committing Sample.accepted)
        Sample.pollLost :=
  have answered : Sample.accepted.outcome =
      .reply (Sample.reply Sample.accepted) := rfl
  accepted_jobs_fall_back_iff Sample.config (Sample.options none) 0
    Sample.committing_reachable Sample.committing_commits answered
    Sample.accepted_job (.of_steps (by decide +kernel))

namespace Sample

def RunsTwice (events : List (Event Empty)) : Prop :=
  (machine none).Steps (machine none).Enabled
      ((machine none).step committing accepted) events ∧
    events.all (fun event => !event.reportsFailure) = true ∧
    .hosted .openai (options none).request ∈
      ((machine none).exec ((machine none).step committing accepted)
        events).passed

instance (events : List (Event Empty)) : Decidable (RunsTwice events) :=
  inferInstanceAs (Decidable (_ ∧ _ ∧ _))

end Sample

theorem sample_accepted_job_runs_twice :
    (Sample.machine none).Reachable Sample.committing ∧
      Sample.committing.stage.commits = true ∧
      (Sample.reply Sample.accepted).jobId? =
        some (some (Json.string (JsString.ofString "job-1") : Json Empty)) ∧
      Sample.RunsTwice Sample.pollLost ∧ Sample.RunsTwice Sample.timeOver :=
  ⟨Sample.committing_reachable, Sample.committing_commits,
    Sample.accepted_job, by decide +kernel, by decide +kernel⟩

end Dispatch.Router
