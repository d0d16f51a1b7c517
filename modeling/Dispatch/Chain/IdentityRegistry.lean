import Dispatch.Foundation.Encoding

/-! # Registration of agents

`registerAgent` has the identity registry mint a token for an agent, and takes
the agent's id from the logs of the transaction.
-/

namespace Dispatch.Chain

/-! ## Logs -/

@[ext] structure Word where
  bytes : List UInt8
  length : bytes.length = 32

namespace Word

instance : DecidableEq Word := fun first second =>
  decidable_of_iff (first.bytes = second.bytes) Word.ext_iff.symm

def text (word : Word) : String :=
  String.ofList ('0' :: 'x' :: Hex.encode word.bytes)

def value (word : Word) : Nat :=
  word.bytes.foldl (fun value byte => 256 * value + byte.toNat) 0

end Word

structure Log (Address : Type) where
  address : Address
  topics : List Word
  data : List UInt8

/-! ## The function -/

def bigInt? (text : String) : Option Nat :=
  match text.toList with
  | '0' :: 'x' :: digit :: digits =>
    (digit :: digits).foldlM (fun value digit =>
      (Json.hexValue? digit).map (16 * value + ·)) 0
  | _ => none

structure ChainConfig where
  rpcUrl : String
  identityRegistry : String
  deriving DecidableEq

/-- `MONAD_TESTNET` -/
def monadTestnet : ChainConfig where
  rpcUrl := "https://testnet-rpc.monad.xyz"
  identityRegistry := "0x8004A818BFB912233c491871b3d84c89A494BD9e"

structure ProcessEnv where
  identityRegistry : String
  reputationRegistry : String
  rpcUrl : String
  chainId : String

def getChainConfig (processEnv : ProcessEnv) : ChainConfig :=
  if processEnv.identityRegistry ≠ "" ∧ processEnv.reputationRegistry ≠ "" ∧
      processEnv.rpcUrl ≠ "" ∧ processEnv.chainId ≠ "" then
    { rpcUrl := processEnv.rpcUrl
      identityRegistry := processEnv.identityRegistry }
  else monadTestnet

structure RegistryEnvironment (Address : Type) where
  processEnv : ProcessEnv
  writeContract : ChainConfig → List String → Except String String
  waitForTransactionReceipt : String → Except String (List (Log Address))
  address : String → Address
  registered : Word

section Function

variable {Address : Type}

def findAgentId : List (Log Address) → Option (Except String Nat)
  | [] => none
  | log :: logs =>
    match log.topics.map Word.text with
    | first :: second :: _ =>
      if first ≠ "" ∧ second ≠ "" then
        match bigInt? second with
        | some agentId => some (.ok agentId)
        | none => some (.error s!"Cannot convert {second} to a BigInt")
      else findAgentId logs
    | _ => findAgentId logs

def registerArgs : Option String → List String
  | none | some "" => []
  | some agentURI => [agentURI]

def registerAgent (env : RegistryEnvironment Address)
    (agentURI : Option String) : Except String Nat := do
  let cfg := getChainConfig env.processEnv
  let hash ← env.writeContract cfg (registerArgs agentURI)
  let logs ← env.waitForTransactionReceipt hash
  match findAgentId logs with
  | some found => found
  | none => .error s!"registerAgent: no Registered event found in tx {hash}"

end Function

/-! ## What the loop finds -/

theorem foldlM_encode (bytes : List UInt8) (start : Nat) :
    (Hex.encode bytes).foldlM (fun value digit =>
        (Json.hexValue? digit).map (16 * value + ·)) start =
      some (bytes.foldl (fun value byte => 256 * value + byte.toNat)
        start) := by
  induction bytes generalizing start with
  | nil => rfl
  | cons byte bytes induction =>
    have bound := byte.toNat_lt
    have high := Json.hexValue?_hexDigit ⟨byte.toNat / 16, by omega⟩
    have low := Json.hexValue?_hexDigit ⟨byte.toNat % 16, by omega⟩
    have joined : 16 * (16 * start + byte.toNat / 16) + byte.toNat % 16 =
        256 * start + byte.toNat := by
      omega
    rw [Hex.encode, List.flatMap_cons, List.cons_append, List.cons_append,
      List.nil_append, List.foldlM_cons, high, Option.map_some,
      Option.bind_eq_bind, Option.bind_some, List.foldlM_cons, low,
      Option.map_some, Option.bind_eq_bind, Option.bind_some, joined]
    exact induction _

theorem bigInt?_text (word : Word) : bigInt? word.text = some word.value := by
  rcases word with ⟨bytes, length⟩
  have read := foldlM_encode bytes 0
  rw [bigInt?, Word.text, String.toList_ofList]
  cases bytes with
  | nil => cases length
  | cons byte bytes => exact read

theorem text_ne_empty (word : Word) : word.text ≠ "" := by
  intro empty
  have chars := congrArg String.toList empty
  rw [Word.text, String.toList_ofList] at chars
  cases chars

section Loop

variable {Address : Type}

def Log.indexed? (log : Log Address) : Option Word :=
  log.topics[1]?

theorem findAgentId_eq (logs : List (Log Address)) :
    findAgentId logs =
      (logs.findSome? Log.indexed?).map fun word => .ok word.value := by
  induction logs with
  | nil => rfl
  | cons log logs induction =>
    rw [findAgentId, List.findSome?_cons, Log.indexed?]
    match log.topics with
    | [] | [_] => exact induction
    | first :: second :: _ =>
      simp only [List.map_cons]
      rw [if_pos ⟨text_ne_empty first, text_ne_empty second⟩, bigInt?_text]
      rfl

end Loop

/-! ## The event -/

section Event

variable {Address : Type} [DecidableEq Address]

def Log.registered? (env : RegistryEnvironment Address) (log : Log Address) :
    Option Nat :=
  let registry := (getChainConfig env.processEnv).identityRegistry
  match log.topics with
  | [signature, agentId, _] =>
    if log.address = env.address registry ∧ signature = env.registered then
      some agentId.value
    else none
  | _ => none

def registeredIds (env : RegistryEnvironment Address)
    (logs : List (Log Address)) : List Nat :=
  logs.filterMap (Log.registered? env)

def Returns (env : RegistryEnvironment Address) (logs : List (Log Address))
    (result : Except String Nat) : Prop :=
  (∀ agentId, registeredIds env logs = [agentId] → result = .ok agentId) ∧
    ((∃ message, result = .error message) ↔ registeredIds env logs = [])

def FirstIsId (env : RegistryEnvironment Address)
    (logs : List (Log Address)) : Prop :=
  ∀ word, logs.findSome? Log.indexed? = some word →
    registeredIds env logs ≠ [] ∧
      ∀ agentId, registeredIds env logs = [agentId] → word.value = agentId

variable {env : RegistryEnvironment Address} {logs : List (Log Address)}

theorem registeredIds_eq_nil
    (unindexed : logs.findSome? Log.indexed? = none) :
    registeredIds env logs = [] := by
  rw [registeredIds, List.filterMap_eq_nil_iff]
  intro log member
  have few := List.findSome?_eq_none_iff.mp unindexed log member
  rw [Log.indexed?, List.getElem?_eq_none_iff] at few
  unfold Log.registered?
  dsimp only
  split
  · next topics =>
      rw [topics] at few
      exact absurd few (by simp)
  · rfl

/-- What is returned is right exactly if the first log with an indexed value
happens to have the id there. -/
theorem registerAgent_returns_iff {agentURI : Option String} {hash : String}
    (written : env.writeContract (getChainConfig env.processEnv)
      (registerArgs agentURI) = .ok hash)
    (mined : env.waitForTransactionReceipt hash = .ok logs) :
    Returns env logs (registerAgent env agentURI) ↔ FirstIsId env logs := by
  have result : registerAgent env agentURI =
      match findAgentId logs with
      | some found => found
      | none =>
        .error s!"registerAgent: no Registered event found in tx {hash}" := by
    rw [registerAgent, written]
    change (env.waitForTransactionReceipt hash).bind _ = _
    rw [mined]
    rfl
  rw [result, findAgentId_eq, Returns, FirstIsId]
  cases found : logs.findSome? Log.indexed? with
  | none =>
    have empty : registeredIds env logs = [] := registeredIds_eq_nil found
    rw [empty]
    refine iff_of_true ⟨nofun, iff_of_true ⟨_, rfl⟩ rfl⟩ nofun
  | some word =>
    constructor
    · rintro ⟨returned, thrown⟩ _ ⟨⟩
      refine ⟨fun empty => ?_, fun agentId one => ?_⟩
      · rcases thrown.mpr empty with ⟨_, ⟨⟩⟩
      · exact Except.ok.inj (returned agentId one)
    · intro first
      rcases first word rfl with ⟨present, same⟩
      refine ⟨fun agentId one => congrArg Except.ok (same agentId one), ?_⟩
      exact iff_of_false nofun present

end Event

/-! ## A mint before the event -/

namespace Sample

def word (byte : UInt8) : Word where
  bytes := List.replicate 31 0 ++ [byte]
  length := by simp

def transferLog : Log Nat where
  address := 1
  topics := [word 221, word 0, word 9, word 5]
  data := []

def registeredLog : Log Nat where
  address := 1
  topics := [word 202, word 5, word 9]
  data := []

def registryEnvironment (logs : List (Log Nat)) : RegistryEnvironment Nat where
  processEnv := ⟨"", "", "", ""⟩
  writeContract _ _ := .ok "0x01"
  waitForTransactionReceipt _ := .ok logs
  address _ := 1
  registered := word 202

end Sample

theorem sample_registerAgent_returns :
    registerAgent (Sample.registryEnvironment
      [Sample.registeredLog, Sample.transferLog]) none = .ok 5 := by
  have first : FirstIsId (Sample.registryEnvironment
      [Sample.registeredLog, Sample.transferLog])
      [Sample.registeredLog, Sample.transferLog] := by
    rintro _ ⟨⟩
    have ids : registeredIds (Sample.registryEnvironment
        [Sample.registeredLog, Sample.transferLog])
        [Sample.registeredLog, Sample.transferLog] = [5] := by
      decide
    rw [ids]
    refine ⟨nofun, ?_⟩
    rintro _ ⟨⟩
    decide
  exact ((registerAgent_returns_iff rfl rfl).mpr first).1 5 (by decide)

theorem sample_registerAgent_zero :
    registeredIds (Sample.registryEnvironment [])
        [Sample.transferLog, Sample.registeredLog] = [5] ∧
      registerAgent (Sample.registryEnvironment
        [Sample.transferLog, Sample.registeredLog]) none = .ok 0 ∧
      registeredIds (Sample.registryEnvironment [])
        [Sample.transferLog] = [] ∧
      registerAgent (Sample.registryEnvironment
        [Sample.transferLog]) none = .ok 0 := by
  decide +kernel

end Dispatch.Chain
