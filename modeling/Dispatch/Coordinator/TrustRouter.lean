import Dispatch.Coordinator.Machine
import Dispatch.Foundation.Sqlite

/-! # Trust pairings

`routes/trust.ts` on request bodies of any shape.
-/

namespace Dispatch.Coordinator.TrustRouter

open Sqlite

abbrev Table := OrderedMap String TrustRow

inductive RouteError
  | bind (error : BindError)
  | notNull
  | unique
  deriving DecidableEq, Repr

section Routes

variable {Number : Type} [JsNumber Number] [SqlNumber Number]

def field (body : Option (Json Number)) (key : JsString) :
    Option (Json Number) :=
  body.bind fun body => body.get? key

def bindParameter (argument : Json Number) : Except RouteError Value :=
  (bindOne (some argument)).mapError .bind

def insertPairing (id : Uuid) (userId : Value) (code : String)
    (now expiresAt : Nat) (table : Table) : Except RouteError Table :=
  match userId with
  | .null => .error .notNull
  | .text userId =>
    if table.values.any fun row => row.pairingCode = code then
      .error .unique
    else
      match table.insert? id.text
          { userId := userId, providerPubkey := none, pairingCode := code,
            claimed := false, expiresAt := expiresAt, createdAt := now } with
      | none => .error .unique
      | some table => .ok table

/-- `POST /v1/trust/create` -/
def create (now : Nat) (id : Uuid) (random : UInt8 × UInt8 × UInt8)
    (body : Option (Json Number)) (table : Table) :
    Except RouteError (Table × TrustReply) :=
  match (field body "user_id").filter Json.truthy with
  | none => .ok (table, .missing "Missing user_id")
  | some userId => do
    let code := pairingCode random
    let expiresAt := now + 60 * 60 * 1000
    let userId ← bindParameter userId
    let table ← insertPairing id userId code now expiresAt table
    return (table, .created code expiresAt)

def claim (now : Nat) (body : Option (Json Number)) (table : Table) :
    Except RouteError (Table × TrustReply) :=
  match (field body "pairing_code").filter Json.truthy,
      (field body "provider_pubkey").filter Json.truthy with
  | some code, some providerPubkey => do
    let code ← bindParameter code
    match table.find? fun row => code = .text row.pairingCode with
    | none => return (table, .invalidCode)
    | some (id, row) =>
      if row.claimed then return (table, .alreadyClaimed)
      else if row.expiresAt < now then return (table, .expired)
      else
        let providerPubkey ← bindParameter providerPubkey
        let table := table.modify id fun row =>
          { row with
            claimed := true, providerPubkey := providerPubkey.text? }
        return (table, .claimed row.userId now)
  | _, _ => .ok (table, .missing "Missing pairing_code or provider_pubkey")

end Routes

inductive ListReply
  | missing (error : String)
  | providers (rows : List (Option String × Nat))
  deriving DecidableEq, Repr

/-- `GET /v1/trust/list` -/
def list (userId : Option String) (table : Table) : ListReply :=
  match userId.filter (· ≠ "") with
  | none => .missing "Missing user_id query param"
  | some userId =>
    .providers ((table.values.filter fun row =>
      row.userId = userId && row.claimed).map fun row =>
        (row.providerPubkey, row.createdAt))

/-! ## Requests with texts -/

section Texts

variable {Number : Type} {body : Option (Json Number)} {state : State}

def textField (text : Option String) : Option (Json Number) :=
  text.map fun text => .string (JsString.ofString text)

variable [JsNumber Number] [SqlNumber Number]

end Texts

/-! ## Histories -/

inductive Request (Number : Type)
  | create (random : UInt8 × UInt8 × UInt8) (body : Option (Json Number))
  | claim (body : Option (Json Number))

structure Input (Number : Type) where
  now : Nat
  uuid : Uuid
  request : Request Number

inductive Occurrence
  | created (code userId : String) (time : Nat)
  | claimed (code : String) (providerPubkey : Option String) (time : Nat)
  deriving DecidableEq, Repr

namespace Occurrence

def createdCode? : Occurrence → Option String
  | created code _ _ => some code
  | claimed _ _ _ => none

def claimedCode? : Occurrence → Option String
  | created _ _ _ => none
  | claimed code _ _ => some code

def isCreatedFor (code userId : String) : Occurrence → Bool
  | created other user _ => other = code && user = userId
  | claimed _ _ _ => false

end Occurrence

def isAccepted : TrustReply → Bool
  | .created _ _ | .claimed _ _ => true
  | .missing _ | .invalidCode | .alreadyClaimed | .expired => false

def claimedFor (userId : String) (history : List Occurrence) :
    List (Option String) :=
  history.filterMap fun
    | .created _ _ _ => none
    | .claimed code providerPubkey _ =>
      if history.any (Occurrence.isCreatedFor code userId) then
        some providerPubkey
      else
        none

def listedFor (userId : String) (table : Table) : List (Option String) :=
  match list (some userId) table with
  | .missing _ => []
  | .providers rows => rows.map Prod.fst

section Machine

variable {Number : Type} [JsNumber Number] [SqlNumber Number]

def handle (table : Table) (input : Input Number) :
    Except RouteError (Table × TrustReply) :=
  match input.request with
  | .create random body => create input.now input.uuid random body table
  | .claim body => claim input.now body table

def step (table : Table) (input : Input Number) : Table :=
  match handle table input with
  | .ok (next, _) => next
  | .error _ => table

def boundText? (body : Option (Json Number)) (key : JsString) :
    Option String :=
  match bindOne (field body key) with
  | .ok value => value.text?
  | .error _ => none

def occurrences (table : Table) (input : Input Number) : List Occurrence :=
  match input.request, handle table input with
  | .create _ body, .ok (_, .created code _) =>
    match boundText? body "user_id" with
    | some userId => [.created code userId input.now]
    | none => []
  | .claim body, .ok (_, .claimed _ _) =>
    match boundText? body "pairing_code" with
    | some code =>
      [.claimed code (boundText? body "provider_pubkey") input.now]
    | none => []
  | _, _ => []

def machine (Number : Type) [JsNumber Number] [SqlNumber Number] :
    Machine Table (Input Number) where
  initial := .empty
  Enabled _ _ := True
  step := step

def accepts (table : Table) (input : Input Number) : Bool :=
  match handle table input with
  | .ok (_, reply) => isAccepted reply
  | .error _ => false

inductive Outcome (table : Table) (input : Input Number) :
    Except RouteError (Table × TrustReply) → Prop
  | thrown (error : RouteError) : Outcome table input (.error error)
  | refused {reply : TrustReply} (refusal : isAccepted reply = false) :
      Outcome table input (.ok (table, reply))
  | created {random : UInt8 × UInt8 × UInt8} {body : Option (Json Number)}
      {id : String} {sent : Json Number} {userId : String}
      (request : input.request = .create random body)
      (given : (field body "user_id").filter Json.truthy = some sent)
      (bound : bindOne (some sent) = .ok (.text userId))
      (freshId : table.get? id = none)
      (freshCode : ∀ other row, table.get? other = some row →
        row.pairingCode ≠ pairingCode random) :
      Outcome table input (.ok
        (table.set id
          { userId := userId, providerPubkey := none,
            pairingCode := pairingCode random, claimed := false,
            expiresAt := input.now + 60 * 60 * 1000, createdAt := input.now },
          .created (pairingCode random) (input.now + 60 * 60 * 1000)))
  | claimed {body : Option (Json Number)} {id : String} {row : TrustRow}
      {sent : Json Number} {providerPubkey : Value}
      (request : input.request = .claim body)
      (given : (field body "provider_pubkey").filter Json.truthy = some sent)
      (bound : bindOne (some sent) = .ok providerPubkey)
      (stored : table.get? id = some row)
      (code : boundText? body "pairing_code" = some row.pairingCode)
      (unclaimed : row.claimed = false) (inTime : input.now ≤ row.expiresAt) :
      Outcome table input (.ok
        (table.modify id fun row =>
          { row with
            claimed := true, providerPubkey := providerPubkey.text? },
          .claimed row.userId input.now))

theorem boundText?_of_bindOne {body : Option (Json Number)} {key : JsString}
    {sent : Json Number} {value : Value}
    (given : (field body key).filter Json.truthy = some sent)
    (bound : bindOne (some sent) = .ok value) :
    boundText? body key = value.text? := by
  rw [Option.filter_eq_some_iff] at given
  rw [boundText?, given.1, bound]

omit [JsNumber Number] in
theorem bindParameter_ok {argument : Json Number} {value : Value}
    (bound : bindParameter argument = .ok value) :
    bindOne (some argument) = .ok value := by
  unfold bindParameter at bound
  cases one : bindOne (some argument) with
  | error error => rw [one] at bound; cases bound
  | ok other => rw [one] at bound; cases bound; rfl

theorem insertPairing_ok {id : Uuid} {userId : Value} {code : String}
    {now expiresAt : Nat} {table next : Table}
    (inserted : insertPairing id userId code now expiresAt table = .ok next) :
    ∃ text, userId = .text text ∧ table.get? id.text = none ∧
      (∀ other row, table.get? other = some row → row.pairingCode ≠ code) ∧
      next = table.set id.text
        { userId := text, providerPubkey := none, pairingCode := code,
          claimed := false, expiresAt := expiresAt, createdAt := now } := by
  cases userId with
  | null => cases inserted
  | text userId =>
    rw [insertPairing] at inserted
    split_ifs at inserted with taken
    cases added : table.insert? id.text
        { userId := userId, providerPubkey := none, pairingCode := code,
          claimed := false, expiresAt := expiresAt, createdAt := now } with
    | none => rw [added] at inserted; cases inserted
    | some result =>
      rw [added] at inserted
      cases inserted
      rcases OrderedMap.insert?_eq_some added with ⟨fresh, rfl⟩
      refine ⟨userId, rfl, fresh, ?_, rfl⟩
      intro other row stored same
      apply taken
      rw [List.any_eq_true]
      exact ⟨row, (OrderedMap.mem_values_iff ..).mpr ⟨other, stored⟩,
        by simpa using same⟩

theorem create_outcome {table : Table} {input : Input Number}
    {random : UInt8 × UInt8 × UInt8} {body : Option (Json Number)}
    (request : input.request = .create random body) :
    Outcome table input
      (create input.now input.uuid random body table) := by
  rw [create]
  cases given : (field body "user_id").filter Json.truthy with
  | none => exact .refused rfl
  | some sent =>
    simp only [bind, Except.bind]
    cases bound : bindParameter sent with
    | error error => exact .thrown error
    | ok value =>
      dsimp only
      cases inserted : insertPairing input.uuid value (pairingCode random)
          input.now (input.now + 60 * 60 * 1000) table with
      | error error => exact .thrown error
      | ok next =>
        rcases insertPairing_ok inserted with
          ⟨userId, rfl, freshId, freshCode, rfl⟩
        exact .created request given (bindParameter_ok bound) freshId
          freshCode

theorem claim_outcome {table : Table} {input : Input Number}
    {body : Option (Json Number)} (request : input.request = .claim body) :
    Outcome table input (claim input.now body table) := by
  rw [claim]
  cases givenCode : (field body "pairing_code").filter Json.truthy with
  | none => exact .refused rfl
  | some sentCode =>
    cases given : (field body "provider_pubkey").filter Json.truthy with
    | none => exact .refused rfl
    | some sent =>
      simp only [bind, Except.bind]
      cases boundCode : bindParameter sentCode with
      | error error => exact .thrown error
      | ok code =>
        dsimp only
        cases found : table.find? fun row =>
            code = .text row.pairingCode with
        | none => exact .refused rfl
        | some entry =>
          rcases OrderedMap.get?_of_find? found with ⟨stored, same⟩
          rw [decide_eq_true_eq] at same
          subst same
          have code := boundText?_of_bindOne givenCode
            (bindParameter_ok boundCode)
          dsimp only
          split_ifs with already expired
          · exact .refused rfl
          · exact .refused rfl
          · cases bound : bindParameter sent with
            | error error => exact .thrown error
            | ok providerPubkey =>
              exact .claimed request given (bindParameter_ok bound)
                stored code (by simpa using already) (by omega)

theorem handle_outcome (table : Table) (input : Input Number) :
    Outcome table input (handle table input) := by
  unfold handle
  split
  · next request => exact create_outcome request
  · next request => exact claim_outcome request

end Machine

end Dispatch.Coordinator.TrustRouter
