import Dispatch.Coordinator.Effects

/-! # Prices

A price is computed in three places.
-/

namespace Dispatch

def Tier.text : Tier → String
  | .fast => "FAST"
  | .cheap => "CHEAP"

def Policy.text : Policy → String
  | .fast => "FAST"
  | .cheap => "CHEAP"
  | .auto => "AUTO"

namespace Coordinator.Pricing

open WorkerHub

/-! ## The price list -/

def PRICING_MAP : List (String × String) := [
  ("FAST_LLM_INFER", "$0.010"),
  ("FAST_TASK", "$0.003"),
  ("CHEAP_LLM_INFER", "$0.005"),
  ("CHEAP_TASK", "$0.001")]

def resolvePolicy (policy : String) (jobType : JobType) : String :=
  if policy ≠ Policy.auto.text then policy
  else if jobType = .llmInfer then Policy.fast.text
  else Policy.cheap.text

def getPrice (policy : String) (jobType : JobType) : String :=
  (PRICING_MAP.lookup (policy ++ "_" ++ jobType.text)).getD "$0.001"

/-! ## Quotes -/

structure QuoteQuery where
  jobType : Option String
  policy : Option String

structure Quote where
  price : String
  endpoint : String
  policyResolved : String
  network : String
  expiresAt : Option String
  deriving DecidableEq

inductive QuoteReply
  | invalidJobType
  | quoted (quote : Quote)
  deriving DecidableEq

namespace QuoteReply

def status : QuoteReply → Nat
  | invalidJobType => 400
  | quoted _ => 200

def error? : QuoteReply → Option String
  | invalidJobType => some "Invalid job_type. Use LLM_INFER or TASK"
  | quoted _ => none

end QuoteReply

def endpoint : Tier → String
  | .fast => "/v1/jobs/commit/fast"
  | .cheap => "/v1/jobs/commit/cheap"

def quoteFor (network : String) (jobType : JobType)
    (policyRaw : Option String) : Quote :=
  let policy := policyRaw.getD Policy.auto.text
  let resolved := resolvePolicy policy jobType
  let price := getPrice resolved jobType
  let tier : Tier := if resolved = Policy.fast.text then .fast else .cheap
  { price := price
    endpoint := endpoint tier
    policyResolved := resolved
    network := network
    expiresAt := none }

def getQuote (network : String) (query : QuoteQuery) : QuoteReply :=
  match query.jobType.filter (· ≠ "") with
  | none => .invalidJobType
  | some jobTypeRaw =>
    match JobType.ofText? jobTypeRaw with
    | none => .invalidJobType
    | some jobType => .quoted (quoteFor network jobType query.policy)

/-! ## The payment gate -/

structure CoordinatorConfig where
  network : String
  payTo : String
  asset : Option String

structure Accept where
  scheme : String
  price : String
  network : String
  payTo : String
  asset : Option String

structure Resource where
  accepts : List Accept
  description : String
  mimeType : String

def makeAccept (config : CoordinatorConfig) (price : String) : Accept where
  scheme := "exact"
  price := price
  network := config.network
  payTo := config.payTo
  asset := config.asset.filter (· ≠ "")

def buildPaymentConfig (config : CoordinatorConfig) :
    List (String × Resource) := [
  ("POST /v1/jobs/commit/fast",
    { accepts := [makeAccept config (getPrice Policy.fast.text .llmInfer)]
      description := "Fast compute job"
      mimeType := "application/json" }),
  ("POST /v1/jobs/commit/cheap",
    { accepts := [makeAccept config (getPrice Policy.cheap.text .task)]
      description := "Cheap compute job"
      mimeType := "application/json" })]

def charged? (config : CoordinatorConfig) (endpoint : String) :
    Option String := do
  let resource ← (buildPaymentConfig config).lookup ("POST " ++ endpoint)
  let accept ← resource.accepts.head?
  return accept.price

def commitRoutes : List (String × Tier) := [
  ("/v1/jobs/commit/fast", .fast),
  ("/v1/jobs/commit/cheap", .cheap)]

/-! ## Agreement -/

def Accepts (endpoint : String) (body : CommitBody) (row : JobRow) : Prop :=
  ∃ tier now id state next reply,
    commitRoutes.lookup endpoint = some tier ∧
    handleCommit now id tier body state = .ok (next, reply) ∧
    reply.status ≠ 400 ∧
    next.jobs.get? id.text = some row

structure Honored (config : CoordinatorConfig) (quote : Quote) : Prop where
  charged : charged? config quote.endpoint = some quote.price
  stored : ∀ body row, Accepts quote.endpoint body row →
    row.policy.text = quote.policyResolved

def FairlyCharged (config : CoordinatorConfig) (endpoint : String)
    (body : CommitBody) (row : JobRow) : Prop :=
  body.jobType = some row.type.text ∧
    charged? config endpoint = some (getPrice row.policy.text row.type)

def QuoteQuery.Usual (query : QuoteQuery) : Prop :=
  query.policy = none ∨ query.policy = some Policy.auto.text ∨
    (query.jobType = some JobType.llmInfer.text ∧
      query.policy = some Policy.fast.text) ∨
    (query.jobType = some JobType.task.text ∧
      query.policy = some Policy.cheap.text)

def pricedType : Tier → JobType
  | .fast => .llmInfer
  | .cheap => .task

/-! ### What a commit stores -/

theorem ofText?_eq_some {text : String} {jobType : JobType}
    (found : JobType.ofText? text = some jobType) : text = jobType.text := by
  have same := List.find?_some found
  exact (of_decide_eq_true same).symm

theorem status_of_validateCommit_error {tier : Tier} {body : CommitBody}
    {reply : CommitReply} (invalid : validateCommit tier body = .error reply) :
    reply.status = 400 := by
  rw [validateCommit] at invalid
  split at invalid
  · split at invalid
    · cases invalid
      rfl
    · cases invalid
  · cases invalid
    rfl

theorem validateCommit_request {tier : Tier} {body : CommitBody}
    {request : JobRequest} (valid : validateCommit tier body = .ok request) :
    request.policy = tier ∧ body.jobType = some request.jobType.text := by
  rw [validateCommit] at valid
  split at valid
  · next jobTypeRaw _ _ given _ _ =>
      cases known : JobType.ofText? jobTypeRaw with
      | none =>
        rw [known] at valid
        cases valid
      | some jobType =>
        rw [known] at valid
        cases valid
        refine ⟨rfl, ?_⟩
        rw [(Option.filter_eq_some_iff.mp given).1, ofText?_eq_some known]
  · cases valid

theorem commitJob_row {now : Nat} {id : Uuid} {request : JobRequest}
    {state next : State} {reply : CommitReply}
    (done : commitJob now id request state = .ok (next, reply)) :
    ∃ row, next.jobs.get? id.text = some row ∧
      row.policy = request.policy ∧ row.type = request.jobType := by
  rw [commitJob] at done
  cases inserted : state.jobs.insert? id.text (request.row now) with
  | none =>
    rw [inserted] at done
    cases done
  | some jobs =>
    rw [inserted] at done
    dsimp only at done
    have stored : jobs.get? id.text = some (request.row now) := by
      rw [(OrderedMap.insert?_eq_some inserted).2, OrderedMap.get?_set,
        if_pos rfl]
    rcases claimWorker_cases now request { state with jobs := jobs } with
      ⟨unclaimed, _⟩ | ⟨workerId, worker, _, claimed⟩
    · rw [unclaimed] at done
      dsimp only at done
      split at done
      · cases done
        refine ⟨{ request.row now with
          status := .failed, result := some noTrustedWorkerResult }, ?_,
          rfl, rfl⟩
        simp [failJob, State.updateJob, stored]
      · cases done
        exact ⟨request.row now, stored, rfl, rfl⟩
    · rw [claimed] at done
      cases done
      refine ⟨{ request.row now with
        status := .assigned, workerPubkey := some worker.pubkey }, ?_,
        rfl, rfl⟩
      simp [matchJob, assignJob, State.updateJob, stored]

theorem Accepts.row {endpoint : String} {body : CommitBody} {row : JobRow}
    (accepts : Accepts endpoint body row) :
    commitRoutes.lookup endpoint = some row.policy ∧
      body.jobType = some row.type.text := by
  rcases accepts with
    ⟨tier, now, id, state, next, reply, route, done, accepted, stored⟩
  rw [handleCommit] at done
  cases valid : validateCommit tier body with
  | error refused =>
    rw [valid] at done
    cases done
    exact absurd (status_of_validateCommit_error valid) accepted
  | ok request =>
    rw [valid] at done
    rcases commitJob_row done with ⟨created, present, policy, type⟩
    rcases validateCommit_request valid with ⟨tierKept, typeKept⟩
    rw [stored] at present
    cases present
    rw [policy, type, tierKept]
    exact ⟨route, typeKept⟩

/-! ### What the gate charges -/

theorem lookup_endpoint (tier : Tier) :
    commitRoutes.lookup (endpoint tier) = some tier := by
  cases tier with
  | fast => rfl
  | cheap => rfl

theorem endpoint_of_lookup {path : String} {tier : Tier}
    (route : commitRoutes.lookup path = some tier) : path = endpoint tier := by
  rcases List.lookup_eq_some_iff.mp route with ⟨before, after, split, _⟩
  have member : (path, tier) ∈ commitRoutes := by simp [split]
  rcases List.mem_pair.mp member with same | same
  · cases same
    rfl
  · cases same
    rfl

theorem charged?_endpoint (config : CoordinatorConfig) (tier : Tier) :
    charged? config (endpoint tier) =
      some (getPrice tier.text (pricedType tier)) := by
  cases tier with
  | fast => rfl
  | cheap => rfl

theorem getPrice_eq_iff (tier : Tier) (jobType : JobType) :
    getPrice tier.text (pricedType tier) = getPrice tier.text jobType ↔
      jobType = pricedType tier := by
  cases tier <;> cases jobType <;> decide

namespace Sample

def body : CommitBody where
  jobType := some JobType.llmInfer.text
  payload := some "\x7b\"prompt\":\"hi\"\x7d"
  privacyClass := none
  userId := some "user-1"

def row (tier : Tier) : JobRow where
  type := .llmInfer
  policy := tier
  privacyClass := PrivacyClass.PUBLIC
  userId := "user-1"
  status := .pending
  payload := "\x7b\"prompt\":\"hi\"\x7d"
  result := none
  workerPubkey := none
  createdAt := 0
  completedAt := none

theorem accepts (tier : Tier) : Accepts (endpoint tier) body (row tier) := by
  have done : handleCommit 0 Coordinator.Sample.jobUuid tier body .initial =
      .ok (startRetryLoop Coordinator.Sample.jobUuid.text
        { jobType := .llmInfer, policy := tier,
          privacyClass := PrivacyClass.PUBLIC, userId := "user-1",
          payload := (row tier).payload }
        { State.initial with
          jobs := OrderedMap.empty.set Coordinator.Sample.jobUuid.text
            (row tier) },
        .created Coordinator.Sample.jobUuid.text) := rfl
  exact ⟨tier, 0, Coordinator.Sample.jobUuid, .initial, _, _,
    lookup_endpoint tier, done, by decide, rfl⟩

end Sample

/-! ### Quotes and payments -/

def usualTier : JobType → Tier
  | .llmInfer => .fast
  | .task => .cheap

theorem eq_pricedType_iff (tier : Tier) (jobType : JobType) :
    jobType = pricedType tier ↔ tier = usualTier jobType := by
  cases tier <;> cases jobType <;> decide

theorem getQuote_eq {network : String} {query : QuoteQuery} {quote : Quote}
    (answered : getQuote network query = .quoted quote) :
    ∃ jobType, query.jobType = some jobType.text ∧
      quote = quoteFor network jobType query.policy := by
  rw [getQuote] at answered
  cases given : query.jobType.filter (· ≠ "") with
  | none =>
    rw [given] at answered
    cases answered
  | some jobTypeRaw =>
    rw [given] at answered
    dsimp only at answered
    cases known : JobType.ofText? jobTypeRaw with
    | none =>
      rw [known] at answered
      cases answered
    | some jobType =>
      rw [known] at answered
      cases answered
      refine ⟨jobType, ?_, rfl⟩
      rw [(Option.filter_eq_some_iff.mp given).1, ofText?_eq_some known]

theorem usual_iff {query : QuoteQuery} {jobType : JobType}
    (typed : query.jobType = some jobType.text) :
    query.Usual ↔ resolvePolicy (query.policy.getD Policy.auto.text) jobType =
      (usualTier jobType).text := by
  rw [QuoteQuery.Usual, typed]
  cases query.policy with
  | none => cases jobType <;> decide
  | some policy =>
    by_cases auto : policy = Policy.auto.text
    · subst auto
      cases jobType <;> decide
    · rw [Option.getD_some, resolvePolicy, if_pos auto]
      have other : policy ≠ "AUTO" := auto
      cases jobType with
      | llmInfer =>
        simp [other, usualTier, Tier.text, Policy.text, JobType.text]
      | task => simp [other, usualTier, Tier.text, Policy.text, JobType.text]

theorem honored_iff (config : CoordinatorConfig) (network : String)
    (jobType : JobType) (policy : Option String) :
    Honored config (quoteFor network jobType policy) ↔
      resolvePolicy (policy.getD Policy.auto.text) jobType =
        (usualTier jobType).text := by
  generalize resolved :
    resolvePolicy (policy.getD Policy.auto.text) jobType = name
  generalize routed :
    (if name = Policy.fast.text then Tier.fast else Tier.cheap) = tier
  have quoted : quoteFor network jobType policy =
      { price := getPrice name jobType, endpoint := endpoint tier,
        policyResolved := name, network := network, expiresAt := none } := by
    simp only [quoteFor, resolved, routed]
  rw [quoted]
  constructor
  · intro honored
    have named : tier.text = name :=
      honored.stored _ _ (Sample.accepts tier)
    have price := honored.charged
    rw [charged?_endpoint, Option.some.injEq, ← named, getPrice_eq_iff,
      eq_pricedType_iff] at price
    rw [← named, price]
  · intro named
    -- A quote for the usual tier leads to the endpoint of that tier.
    have sameTier : tier = usualTier jobType := by
      rw [← routed, named]
      cases jobType <;> decide
    refine ⟨?_, ?_⟩
    · rw [charged?_endpoint, Option.some.injEq, named, ← sameTier,
        getPrice_eq_iff, eq_pricedType_iff]
      exact sameTier
    · intro body row accepts
      have policyKept : row.policy = tier :=
        Option.some.inj (accepts.row.1.symm.trans (lookup_endpoint tier))
      rw [policyKept, sameTier]
      exact named.symm

theorem fairlyCharged_iff (config : CoordinatorConfig) {path : String}
    {body : CommitBody} {row : JobRow} (accepts : Accepts path body row) :
    FairlyCharged config path body row ↔
      ∃ tier, path = endpoint tier ∧
        body.jobType = some (pricedType tier).text := by
  rcases accepts.row with ⟨route, typed⟩
  have sameEndpoint := endpoint_of_lookup route
  rw [FairlyCharged, sameEndpoint, charged?_endpoint, Option.some.injEq,
    getPrice_eq_iff]
  constructor
  · rintro ⟨_, priced⟩
    exact ⟨row.policy, rfl, by rw [typed, priced]⟩
  · rintro ⟨tier, same, priced⟩
    have sameTier : row.policy = tier := by
      have looked := lookup_endpoint row.policy
      rw [same, lookup_endpoint] at looked
      exact (Option.some.inj looked).symm
    refine ⟨typed, ?_⟩
    rw [typed, Option.some.injEq] at priced
    rw [sameTier]
    generalize pricedType tier = expected at priced ⊢
    cases expected <;> cases kind : row.type <;>
      simp_all [JobType.text]

/-- A quote is honored exactly if its policy comes to the usual tier of the job
type, and an accepted job is charged the price of its tier and type exactly if
it has the type that the endpoint's price is for. -/
theorem prices_agree_iff (config : CoordinatorConfig) :
    (∀ network query quote, getQuote network query = .quoted quote →
      (Honored config quote ↔ query.Usual)) ∧
    ∀ path body row, Accepts path body row →
      (FairlyCharged config path body row ↔
        ∃ tier, path = endpoint tier ∧
          body.jobType = some (pricedType tier).text) := by
  refine ⟨?_, fun path body row accepts => fairlyCharged_iff config accepts⟩
  intro network query quote answered
  rcases getQuote_eq answered with ⟨jobType, typed, rfl⟩
  rw [honored_iff, usual_iff typed]

namespace Sample

def config : CoordinatorConfig where
  network := "eip155:10143"
  payTo := "0x0000000000000000000000000000000000000001"
  asset := none

def query (jobType : JobType) (policy : Option String) : QuoteQuery where
  jobType := some jobType.text
  policy := policy

end Sample

theorem prices_agree_for_fast_model_calls :
    Honored Sample.config
        (quoteFor Sample.config.network .llmInfer none) ∧
      FairlyCharged Sample.config (endpoint .fast) Sample.body
        (Sample.row .fast) :=
  ⟨((prices_agree_iff Sample.config).1 Sample.config.network
      (Sample.query .llmInfer none) _ rfl).mpr (.inl rfl),
    ((prices_agree_iff Sample.config).2 _ _ _ (Sample.accepts .fast)).mpr
      ⟨.fast, rfl, rfl⟩⟩

theorem sample_prices_disagree :
    (∃ quote, getQuote Sample.config.network
          (Sample.query .task (some "FAST")) = .quoted quote ∧
        quote.price = "$0.003" ∧
        charged? Sample.config quote.endpoint = some "$0.010" ∧
        ¬ Honored Sample.config quote) ∧
      (∃ quote, getQuote Sample.config.network
          (Sample.query .task (some "TURBO")) = .quoted quote ∧
        quote.policyResolved = "TURBO" ∧
        Accepts quote.endpoint Sample.body (Sample.row .cheap) ∧
        ¬ Honored Sample.config quote) ∧
      Accepts (endpoint .cheap) Sample.body (Sample.row .cheap) ∧
      charged? Sample.config (endpoint .cheap) = some "$0.001" ∧
      getPrice "CHEAP" .llmInfer = "$0.005" ∧
      ¬ FairlyCharged Sample.config (endpoint .cheap) Sample.body
        (Sample.row .cheap) := by
  refine ⟨⟨quoteFor Sample.config.network .task (some "FAST"), rfl, rfl, rfl,
      ?_⟩, ⟨quoteFor Sample.config.network .task (some "TURBO"), rfl, rfl,
      Sample.accepts .cheap, ?_⟩, Sample.accepts .cheap, rfl, rfl, ?_⟩
  · rw [honored_iff]
    decide
  · rw [honored_iff]
    decide
  · rintro ⟨_, price⟩
    rw [charged?_endpoint] at price
    revert price
    decide

end Coordinator.Pricing

end Dispatch
