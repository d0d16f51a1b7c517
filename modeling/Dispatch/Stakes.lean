import Dispatch.Bolt.Distributor
import Dispatch.Foundation.Base58
import Dispatch.Worker.ReceiptSigner

/-! # Stakes and payouts

A worker is known by the text it registers under.
-/

namespace Dispatch.Stakes

/-! ## Public keys -/

/-- A `PublicKey` of `@solana/web3.js`. -/
structure PublicKey where
  bytes : List UInt8
  length : bytes.length = 32
  deriving DecidableEq

namespace PublicKey

def ofText? (text : String) : Option PublicKey :=
  match Base58.decode? text.toList with
  | some bytes =>
    if length : bytes.length = 32 then some ⟨bytes, length⟩ else none
  | none => none

def ofBuffer? (buffer : List UInt8) : Option PublicKey :=
  let digits := buffer.dropWhile (· = 0)
  if bound : digits.length ≤ 32 then
    some ⟨List.replicate (32 - digits.length) 0 ++ digits, by simp [bound]⟩
  else
    none

def hex (key : PublicKey) : String := Worker.hex key.bytes

theorem ofText?_eq_none_of_length {text : String} (length : text.length = 64) :
    ofText? text = none := by
  rw [ofText?]
  cases decoded : Base58.decode? text.toList with
  | none => rfl
  | some bytes =>
    have size := Base58.length_le_of_decode? decoded
    rw [String.length_toList, length] at size
    exact dif_neg (by omega)

private theorem replicate_append_dropWhile (bytes : List UInt8) :
    List.replicate (bytes.length - (bytes.dropWhile (· = 0)).length) 0 ++
      bytes.dropWhile (· = 0) = bytes := by
  induction bytes with
  | nil => rfl
  | cons byte rest induction =>
    by_cases zero : byte = 0
    · have shorter := (List.dropWhile_suffix (· = 0) (l := rest)).length_le
      rw [List.dropWhile_cons_of_pos (by simpa using zero),
        List.length_cons, Nat.succ_sub shorter, List.replicate_succ,
        List.cons_append, induction, zero]
    · rw [List.dropWhile_cons_of_neg (by simpa using zero), Nat.sub_self]
      rfl

theorem ofBuffer?_bytes (key : PublicKey) :
    ofBuffer? key.bytes = some key := by
  have shorter := (List.dropWhile_suffix (· = 0) (l := key.bytes)).length_le
  have padded := replicate_append_dropWhile key.bytes
  rw [key.length] at shorter padded
  rw [ofBuffer?]
  exact (dif_pos shorter).trans (by simp only [padded])

end PublicKey

/-! ## The payout -/

def payee? (workerPubkey : String) : Option PublicKey :=
  if Bolt.BoltDistributor.isHex workerPubkey then
    PublicKey.ofBuffer? (Coordinator.WorkerHub.hexBytes workerPubkey.toList)
  else
    PublicKey.ofText? workerPubkey

/-! ## The stake -/

def STAKE_REQUIREMENTS : StakeTier → ℚ
  | .open => 0
  | .verified => 100
  | .sentinel => 1000

structure Connection where
  getTokenAccountBalance : PublicKey → Option (Option ℚ)

structure Solana where
  /-- `new Connection(rpcUrl, "confirmed")` -/
  connection : String → Option Connection
  getAssociatedTokenAddress : (mint owner : PublicKey) → Option PublicKey

def tierOf (balance : ℚ) : StakeTier :=
  if balance ≥ STAKE_REQUIREMENTS .sentinel then .sentinel
  else if balance ≥ STAKE_REQUIREMENTS .verified then .verified
  else .open

def stakeOwner? (pubkey : String) : Option PublicKey := PublicKey.ofText? pubkey

def balance? (solana : Solana) (rpcUrl boltMint pubkey : String) :
    Option ℚ := do
  let connection ← solana.connection rpcUrl
  let mint ← PublicKey.ofText? boltMint
  let owner ← stakeOwner? pubkey
  let ata ← solana.getAssociatedTokenAddress mint owner
  let uiAmount ← connection.getTokenAccountBalance ata
  return uiAmount.getD 0

def readStakeLevel (solana : Solana) (rpcUrl boltMint pubkey : String) :
    StakeTier :=
  match balance? solana rpcUrl boltMint pubkey with
  | some balance => tierOf balance
  | none => .open

structure ProcessEnv where
  SOLANA_RPC : Option String

structure BoltConfig where
  rpcUrl : String
  boltMint : String

inductive StakeReader
  | coordinatorSolana (env : ProcessEnv) (boltMint : String)
  | coordinatorMonad (env : ProcessEnv) (boltMint : String)
  | bolt (config : BoltConfig)

namespace StakeReader

def rpcUrl : StakeReader → String
  | coordinatorSolana env _ =>
    env.SOLANA_RPC.getD "https://api.devnet.solana.com"
  | coordinatorMonad env _ =>
    env.SOLANA_RPC.getD "https://api.devnet.solana.com"
  | bolt config => config.rpcUrl

def boltMint : StakeReader → String
  | coordinatorSolana _ boltMint => boltMint
  | coordinatorMonad _ boltMint => boltMint
  | bolt config => config.boltMint

def readStakeLevel (reader : StakeReader) (solana : Solana) (pubkey : String) :
    StakeTier :=
  Stakes.readStakeLevel solana reader.rpcUrl reader.boltMint pubkey

def Holds (reader : StakeReader) (solana : Solana) (key : PublicKey)
    (balance : ℚ) : Prop :=
  ∃ connection mint ata,
    solana.connection reader.rpcUrl = some connection ∧
    PublicKey.ofText? reader.boltMint = some mint ∧
    solana.getAssociatedTokenAddress mint key = some ata ∧
    connection.getTokenAccountBalance ata = some (some balance)

end StakeReader

/-! ## One account for each worker -/

structure OneAccount (reader : StakeReader) (solana : Solana)
    (key : PublicKey) : Prop where
  payee : payee? key.hex = some key
  owner : stakeOwner? key.hex = payee? key.hex
  tier : ∀ balance, reader.Holds solana key balance →
    reader.readStakeLevel solana key.hex = tierOf balance

theorem hex_length (key : PublicKey) : key.hex.length = 64 := by
  have digits : ∀ bytes : List UInt8,
      (Hex.encode bytes).length = 2 * bytes.length := by
    intro bytes
    simp [Hex.encode, List.length_flatMap]
    omega
  rw [PublicKey.hex, Worker.hex, String.length_ofList, digits, key.length]

theorem isHex_hex (key : PublicKey) :
    Bolt.BoltDistributor.isHex key.hex = true := by
  have digits : ∀ char ∈ Hex.encode key.bytes,
      (Json.hexValue? char).isSome = true := by
    intro char member
    rcases List.mem_flatMap.mp member with ⟨byte, _, digit⟩
    have bound := byte.toNat_lt
    have high := Json.hexValue?_hexDigit ⟨byte.toNat / 16, by omega⟩
    have low := Json.hexValue?_hexDigit ⟨byte.toNat % 16, by omega⟩
    rcases List.mem_pair.mp digit with same | same
    · rw [same, high]
      rfl
    · rw [same, low]
      rfl
  rw [Bolt.BoltDistributor.isHex, hex_length, Bool.and_eq_true]
  refine ⟨rfl, List.all_eq_true.mpr ?_⟩
  rwa [PublicKey.hex, Worker.hex, String.toList_ofList]

theorem payee?_hex (key : PublicKey) : payee? key.hex = some key := by
  rw [payee?, if_pos (isHex_hex key), PublicKey.hex, Worker.hex,
    String.toList_ofList, Worker.hexBytes_encode, PublicKey.ofBuffer?_bytes]

theorem stakeOwner?_hex (key : PublicKey) : stakeOwner? key.hex = none :=
  PublicKey.ofText?_eq_none_of_length (hex_length key)

theorem readStakeLevel_hex (reader : StakeReader) (solana : Solana)
    (key : PublicKey) : reader.readStakeLevel solana key.hex = .open := by
  have nothing : balance? solana reader.rpcUrl reader.boltMint key.hex =
      none := by
    rw [balance?, stakeOwner?_hex]
    cases solana.connection reader.rpcUrl with
    | none => rfl
    | some connection =>
      cases PublicKey.ofText? reader.boltMint with
      | none => rfl
      | some mint => rfl
  rw [StakeReader.readStakeLevel, readStakeLevel, nothing]

theorem not_oneAccount (reader : StakeReader) (solana : Solana)
    (key : PublicKey) : ¬ OneAccount reader solana key := by
  intro account
  have same := account.owner
  rw [stakeOwner?_hex, payee?_hex] at same
  cases same

/-- No worker's stake is read from the account it is paid on: the payout goes
to its key, the stake is read from no account at all, and the worker stays in
the lowest tier whatever it holds. -/
theorem stake_never_read_from_paid_account (reader : StakeReader)
    (solana : Solana) (key : PublicKey) :
    ¬ OneAccount reader solana key ∧ payee? key.hex = some key ∧
      stakeOwner? key.hex = none ∧
      reader.readStakeLevel solana key.hex = .open := by
  exact ⟨not_oneAccount reader solana key, payee?_hex key,
    stakeOwner?_hex key, readStakeLevel_hex reader solana key⟩

namespace Sample

def key : PublicKey where
  bytes := (List.range 32).map UInt8.ofNat
  length := by decide

def mintText : String := "11111111111111111111111111111111"

def mint : PublicKey where
  bytes := List.replicate 32 0
  length := by decide

def solana : Solana where
  connection _ := some
    { getTokenAccountBalance := fun account =>
        if account = key then some (some 5000) else none }
  getAssociatedTokenAddress _ owner := some owner

def readers : List StakeReader := [
  .coordinatorSolana { SOLANA_RPC := none } mintText,
  .coordinatorMonad { SOLANA_RPC := none } mintText,
  .bolt { rpcUrl := "https://api.devnet.solana.com", boltMint := mintText }]

end Sample

theorem sample_sentinel_stays_open :
    payee? Sample.key.hex = some Sample.key ∧
      Sample.readers.Forall (fun reader =>
        reader.Holds Sample.solana Sample.key 5000 ∧
          tierOf 5000 = .sentinel ∧
          reader.readStakeLevel Sample.solana Sample.key.hex = .open ∧
          ¬ OneAccount reader Sample.solana Sample.key) := by
  have mint : PublicKey.ofText? Sample.mintText = some Sample.mint := by
    decide +kernel
  have sentinel : tierOf 5000 = .sentinel := by decide +kernel
  have paid : payee? Sample.key.hex = some Sample.key := by decide +kernel
  have each : ∀ reader : StakeReader, reader.boltMint = Sample.mintText →
      reader.Holds Sample.solana Sample.key 5000 ∧ tierOf 5000 = .sentinel ∧
        reader.readStakeLevel Sample.solana Sample.key.hex = .open ∧
        ¬ OneAccount reader Sample.solana Sample.key := by
    intro reader sameMint
    have held : reader.Holds Sample.solana Sample.key 5000 :=
      ⟨_, Sample.mint, Sample.key, rfl, sameMint ▸ mint, rfl, by simp⟩
    exact ⟨held, sentinel, readStakeLevel_hex _ _ _, not_oneAccount _ _ _⟩
  exact ⟨paid, each _ rfl, each _ rfl, each _ rfl⟩

end Dispatch.Stakes
