import Dispatch.Foundation.Url
import Dispatch.Router.ComputeRouter

/-! # Addresses of the coordinator

The command line resolves a route of the API against the URL of the
coordinator, and the SDK puts the route after it.
-/

namespace Dispatch.Cli

open Coordinator.Pricing (endpoint)

/-! ## Routes -/

def isUnreserved (char : Char) : Bool :=
  char.isAlphanum || char.toNat ∈
    [0x21, 0x27, 0x28, 0x29, 0x2a, 0x2d, 0x2e, 0x5f, 0x7e]

def encodeURIComponent (text : String) : String :=
  String.ofList (text.toList.flatMap
    (Url.percentEncode fun char => !isUnreserved char))

inductive ApiRoute
  | health
  | quote (jobType : JobType) (policy : Policy)
  | job (jobId : String)
  | trustClaim
  | commit (tier : Tier)

namespace ApiRoute

def text : ApiRoute → String
  | health => "/v1/health"
  | quote jobType policy =>
    "/v1/quote?job_type=" ++ jobType.text ++ "&policy=" ++ policy.text
  | job jobId => "/v1/jobs/" ++ encodeURIComponent jobId
  | trustClaim => "/v1/trust/claim"
  | commit tier => endpoint tier

end ApiRoute

/-! ## The two clients -/

section Clients

variable {Authority : Type}
    (readAuthority : List Char → List Char → Option Authority)

def buildUrl (baseUrl route : String) : Option (Url Authority) := do
  let base := if baseUrl.toList.getLast? = some '/' then baseUrl
    else baseUrl ++ "/"
  let base ← Url.parse readAuthority base.toList
  Url.resolve readAuthority base route.toList

def adapterUrl (baseUrl route : String) : Option (Url Authority) :=
  Url.parse readAuthority (baseUrl ++ route).toList

end Clients

/-! ## Routes stay where they are -/

structure IsRoute (body : List Char) : Prop where
  rooted : ∀ char ∈ body.head?, Url.isSlash true char = false
  visible : ∀ char ∈ body, Url.isControlOrSpace char = false
  stays : ∀ special, Url.staysWithin special 0 [] body = true

def isSafe (char : Char) : Bool :=
  isUnreserved char || char = '%'

theorem isSafe_hexDigit : ∀ value : Fin 16,
    isSafe (Url.hexDigit value.val) = true := by
  decide

theorem isSafe_encode {char unit : Char}
    (member : unit ∈ Url.percentEncode (fun char => !isUnreserved char) char) :
    isSafe unit = true := by
  rw [Url.percentEncode] at member
  split at member
  · rcases List.mem_flatMap.mp member with ⟨byte, _, written⟩
    have bound := byte.toNat_lt
    simp only [Url.percentEncodeByte, List.mem_cons, List.not_mem_nil,
      or_false] at written
    rcases written with rfl | rfl | rfl
    · decide
    · exact isSafe_hexDigit ⟨byte.toNat / 16, by omega⟩
    · exact isSafe_hexDigit ⟨byte.toNat % 16, by omega⟩
  · next unreserved =>
      cases List.mem_singleton.mp member
      rw [Bool.not_eq_true', Bool.not_eq_false] at unreserved
      rw [isSafe, unreserved]
      rfl

theorem isSafe_encodeURIComponent (text : String) :
    ∀ char ∈ (encodeURIComponent text).toList, isSafe char = true := by
  intro char member
  rw [encodeURIComponent, String.toList_ofList] at member
  rcases List.mem_flatMap.mp member with ⟨_, _, encoded⟩
  exact isSafe_encode encoded

theorem isControlOrSpace_of_isSafe {char : Char} (safe : isSafe char = true) :
    Url.isControlOrSpace char = false :=
  Url.isControlOrSpace_eq_false (by decide) safe

theorem isSlash_of_isSafe {char : Char} (safe : isSafe char = true)
    (special : Bool) : Url.isSlash special char = false := by
  by_contra slash
  rw [Bool.not_eq_false, Url.isSlash, Bool.or_eq_true, Bool.and_eq_true,
    decide_eq_true_eq, decide_eq_true_eq] at slash
  rcases slash with rfl | ⟨_, rfl⟩ <;> exact absurd safe (by decide)

theorem staysWithin_segment {special : Bool} {depth : Nat}
    (positive : 0 < depth) {text : List Char}
    (unslashed : ∀ char ∈ text, Url.isSlash special char = false)
    (segment : List Char) :
    Url.staysWithin special depth segment text = true := by
  induction text generalizing segment with
  | nil =>
    rw [Url.staysWithin, decide_eq_true positive, Bool.or_true]
  | cons char text induction =>
    rcases List.forall_mem_cons.mp unslashed with ⟨first, others⟩
    rw [Url.staysWithin, first, if_neg Bool.false_ne_true]
    split
    · rw [decide_eq_true positive, Bool.or_true]
    · exact induction others _

theorem isRoute_job {encoded : List Char}
    (safe : ∀ char ∈ encoded, isSafe char = true) :
    IsRoute (['v', '1', '/', 'j', 'o', 'b', 's', '/'] ++ encoded) where
  rooted := by
    rintro _ ⟨⟩
    decide
  visible := by
    intro char member
    have fixed : ∀ char ∈ ['v', '1', '/', 'j', 'o', 'b', 's', '/'],
        Url.isControlOrSpace char = false := by
      decide
    rcases List.mem_append.mp member with first | part
    · exact fixed char first
    · exact isControlOrSpace_of_isSafe (safe char part)
  stays := by
    intro special
    have unslashed : ∀ char ∈ encoded, Url.isSlash special char = false :=
      fun char member => isSlash_of_isSafe (safe char member) special
    have inner := staysWithin_segment Nat.two_pos unslashed []
    cases special <;> exact inner

instance (body : List Char) : Decidable (IsRoute body) :=
  decidable_of_iff
    ((∀ char ∈ body.head?, Url.isSlash true char = false) ∧
      (∀ char ∈ body, Url.isControlOrSpace char = false) ∧
      ∀ special, Url.staysWithin special 0 [] body = true)
    ⟨fun checked => ⟨checked.1, checked.2.1, checked.2.2⟩,
      fun route => ⟨route.rooted, route.visible, route.stays⟩⟩

theorem toList_text_job (jobId : String) :
    (ApiRoute.job jobId).text.toList =
      '/' :: (['v', '1', '/', 'j', 'o', 'b', 's', '/'] ++
        (encodeURIComponent jobId).toList) := by
  have fixed : "/v1/jobs/".toList =
      '/' :: ['v', '1', '/', 'j', 'o', 'b', 's', '/'] := by
    decide +kernel
  have written : (ApiRoute.job jobId).text =
      "/v1/jobs/" ++ encodeURIComponent jobId := rfl
  rw [written, String.toList_append, fixed, List.cons_append]

theorem ApiRoute.exists_body (route : ApiRoute) :
    ∃ body, route.text.toList = '/' :: body ∧ IsRoute body := by
  cases route with
  | health => exact ⟨"v1/health".toList, by decide +kernel⟩
  | quote jobType policy =>
    refine ⟨(quote jobType policy).text.toList.tail, ?_⟩
    cases jobType <;> cases policy <;> decide +kernel
  | job jobId =>
    exact ⟨_, toList_text_job jobId,
      isRoute_job (isSafe_encodeURIComponent jobId)⟩
  | trustClaim => exact ⟨"v1/trust/claim".toList, by decide +kernel⟩
  | commit tier =>
    refine ⟨(commit tier).text.toList.tail, ?_⟩
    cases tier <;> decide +kernel

/-! ## What the adapter fetches -/

section Fetched

variable {Number : Type}

end Fetched

/-! ## Where the two lead -/

section Resources

variable {Authority : Type}
    {readAuthority : List Char → List Char → Option Authority}

def resource (base : Url.Base readAuthority) (path : List (List Char))
    (route : ApiRoute) : Url Authority :=
  let read := Url.pathState base.special [] [] route.text.toList.tail
  { scheme := base.scheme.map Char.toLower
    authority := base.host
    path := path ++ read.1
    query := Url.queryState base.special read.2 }

variable {base : Url.Base readAuthority} {body : List Char}

theorem IsRoute.filter_kept (isRoute : IsRoute body) :
    body.filter Url.kept = body :=
  List.filter_eq_self.mpr fun char member =>
    Url.kept_of_visible (isRoute.visible char member)

theorem IsRoute.visible_last (isRoute : IsRoute body) (before : List Char) :
    ∀ char ∈ (before ++ '/' :: body).getLast?,
      Url.isControlOrSpace char = false := by
  intro char last
  rw [List.getLast?_append_cons] at last
  rcases List.mem_cons.mp (List.mem_of_getLast? last) with rfl | member
  · decide
  · exact isRoute.visible char member

theorem rooted_append (base : Url.Base readAuthority) (body : List Char) :
    ∃ rest, base.path ++ '/' :: body = '/' :: rest := by
  rcases base.rooted with empty | ⟨rest, written⟩
  · exact ⟨body, by rw [empty, List.nil_append]⟩
  · exact ⟨_, by rw [written, List.cons_append]⟩

theorem adapterUrl_eq (base : Url.Base readAuthority) (route : ApiRoute) :
    adapterUrl readAuthority (String.ofList base.text) route.text =
      some (resource base base.segments route) := by
  rcases route.exists_body with ⟨body, written, isRoute⟩
  have read := @Url.pathState_above base.special base.segments [] [] body
    (isRoute.stays base.special)
  rw [List.append_nil] at read
  rw [adapterUrl, String.toList_append, String.toList_ofList, written,
    Url.Base.parse_append (.inr (rooted_append base body))
      (isRoute.visible_last base.text), Url.Base.pathStart_append,
    isRoute.filter_kept, read, resource, written]
  rfl

theorem parse_base (base : Url.Base readAuthority) {baseUrl : String}
    (slashed : baseUrl = if base.text.getLast? = some '/' then
      String.ofList base.text else String.ofList base.text ++ "/") :
    ∃ url, Url.parse readAuthority baseUrl.toList = some url ∧
      url.scheme = base.scheme.map Char.toLower ∧
      url.authority = base.host := by
  split at slashed
  · next ends =>
      have parsed := @Url.Base.parse_append _ _ base []
      rw [List.append_nil, List.append_nil, ends] at parsed
      have visible : ∀ char ∈ some '/',
          Url.isControlOrSpace char = false := by
        decide
      rw [slashed, String.toList_ofList, parsed base.rooted visible]
      exact ⟨_, rfl, rfl, rfl⟩
  · have visible : ∀ char ∈ (base.text ++ ['/']).getLast?,
        Url.isControlOrSpace char = false := by
      rw [List.getLast?_append_cons]
      decide
    have slash : "/".toList = ['/'] := rfl
    rw [slashed, String.toList_append, String.toList_ofList, slash,
      Url.Base.parse_append (.inr (rooted_append base [])) visible]
    exact ⟨_, rfl, rfl, rfl⟩

theorem resolve_route (url : Url Authority) (isRoute : IsRoute body) :
    Url.resolve readAuthority url ('/' :: body) =
      let read := Url.pathState (Url.isSpecial url.scheme) [] [] body
      some { url with
        path := read.1
        query := Url.queryState (Url.isSpecial url.scheme) read.2 } := by
  have visible : Url.Visible ('/' :: body) := by
    refine ⟨?_, isRoute.visible_last []⟩
    rintro _ ⟨⟩
    decide
  have slash : Url.kept '/' = true := rfl
  have cleaned : Url.clean ('/' :: body) = '/' :: body := by
    have filtered : Url.clean ('/' :: body) = ('/' :: body).filter Url.kept :=
      Url.clean_of_visible visible
    rw [filtered, List.filter_cons_of_pos slash, isRoute.filter_kept]
  have single : ¬ body.head?.any (Url.isSlash (Url.isSpecial url.scheme)) =
      true := by
    rw [Option.any_eq_true]
    rintro ⟨char, first, second⟩
    have notSlash := isRoute.rooted char first
    rw [Url.isSlash_true_of_isSlash second] at notSlash
    cases notSlash
  rw [Url.resolve, cleaned]
  dsimp only
  split
  · next rest same =>
      cases same
      rw [if_neg single]
  · next different => exact absurd rfl (different body)

theorem buildUrl_eq (base : Url.Base readAuthority) (route : ApiRoute) :
    buildUrl readAuthority (String.ofList base.text) route.text =
      some (resource base [] route) := by
  rcases route.exists_body with ⟨body, written, isRoute⟩
  rw [buildUrl, String.toList_ofList]
  rcases parse_base base rfl with ⟨url, parsed, scheme, authority⟩
  rw [parsed, Option.bind_eq_bind, Option.bind_some, written,
    resolve_route url isRoute, resource, written, scheme, authority]
  rfl

/-- The adapter goes to the path of the coordinator's URL and on to the route.
The command line goes to the same address exactly if there is no path at all,
not even a slash. -/
theorem buildUrl_eq_adapterUrl_iff (base : Url.Base readAuthority)
    (route : ApiRoute) :
    adapterUrl readAuthority (String.ofList base.text) route.text =
        some (resource base base.segments route) ∧
      buildUrl readAuthority (String.ofList base.text) route.text =
        some (resource base [] route) ∧
      (buildUrl readAuthority (String.ofList base.text) route.text =
          adapterUrl readAuthority (String.ofList base.text) route.text ↔
        base.segments = []) := by
  refine ⟨adapterUrl_eq base route, buildUrl_eq base route, ?_⟩
  rw [adapterUrl_eq, buildUrl_eq, Option.some.injEq]
  constructor
  · intro same
    have paths : [] ++ _ = base.segments ++ _ := congrArg Url.path same
    exact (List.append_cancel_right paths).symm
  · intro empty
    rw [empty]

end Resources

namespace Sample

def readAuthority (_scheme text : List Char) : Option (List Char) := some text

def coordinator (path : List Char)
    (rooted : path = [] ∨ ∃ rest, path = '/' :: rest)
    (plain : ∀ char ∈ path, char ≠ '?' ∧ char ≠ '#') :
    Url.Base readAuthority where
  scheme := "http".toList
  isScheme := by decide
  notFile := by decide
  authority := "localhost:4010".toList
  nonempty := by decide
  within := by decide
  untouched := by decide
  host := "localhost:4010".toList
  reads := rfl
  path := path
  rooted := rooted
  plain := plain

def localUrl (path : List String) : Url (List Char) where
  scheme := "http".toList
  authority := "localhost:4010".toList
  path := path.map String.toList
  query := none

end Sample

theorem sample_path_lost :
    (Sample.coordinator ['/', 'a', 'p', 'i'] (.inr ⟨_, rfl⟩) (by decide)).text =
        "http://localhost:4010/api".toList ∧
      buildUrl Sample.readAuthority "http://localhost:4010/api" "/v1/health" =
        some (Sample.localUrl ["v1", "health"]) ∧
      adapterUrl Sample.readAuthority "http://localhost:4010/api"
        "/v1/health" = some (Sample.localUrl ["api", "v1", "health"]) ∧
      (Sample.coordinator ['/'] (.inr ⟨_, rfl⟩) (by decide)).text =
        "http://localhost:4010/".toList ∧
      buildUrl Sample.readAuthority "http://localhost:4010/" "/v1/health" =
        some (Sample.localUrl ["v1", "health"]) ∧
      adapterUrl Sample.readAuthority "http://localhost:4010/" "/v1/health" =
        some (Sample.localUrl ["", "v1", "health"]) := by
  decide +kernel

end Dispatch.Cli
