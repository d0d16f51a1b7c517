import Dispatch.Foundation.Execution
import Dispatch.Foundation.Procedure
import Dispatch.Foundation.ProgramAddress
import Dispatch.Stakes

/-! # Receipt accounts

The program `receipt_anchor` keeps one account for each job, with the hash of
the receipt of the job in it.
-/

namespace Dispatch.Chain

open Stakes (PublicKey)

/-! ## Accounts -/

structure Account where
  lamports : Nat
  owner : PublicKey
  data : List UInt8
  deriving DecidableEq

theorem length_systemProgram : (List.replicate 32 (0 : UInt8)).length = 32 :=
  List.length_replicate

def systemProgram : PublicKey where
  bytes := List.replicate 32 0
  length := length_systemProgram

abbrev Ledger := PublicKey → Account

def Account.IsPlain (account : Account) : Prop :=
  account.owner = systemProgram ∧ account.data = []

instance (account : Account) : Decidable account.IsPlain :=
  inferInstanceAs (Decidable (_ ∧ _))

structure Runtime where
  curve : Curve PublicKey
  /-- `rent.minimum_balance(space)` -/
  minimumBalance : Nat → Nat
  discriminator : List UInt8
  length_discriminator : discriminator.length = 8

/-! ## Records -/

structure ReceiptRecord where
  jobId : String
  providerPubkey : PublicKey
  receiptHash : String
  completedAt : Int64
  anchor : PublicKey
  deriving DecidableEq

namespace ReceiptRecord

/-- `ReceiptRecord::SIZE` -/
def size : Nat := 8 + (4 + 64) + 32 + (4 + 64) + 8 + 32

def serialize (runtime : Runtime) (record : ReceiptRecord) : List UInt8 :=
  runtime.discriminator ++ (Borsh.string record.jobId ++
    (record.providerPubkey.bytes ++ (Borsh.string record.receiptHash ++
      (Borsh.littleEndian 8 record.completedAt.toUInt64.toNat ++
        record.anchor.bytes))))

def readPublicKey : Borsh.Reader PublicKey := do
  let bytes ← Borsh.bytes 32
  if length : bytes.length = 32 then return ⟨bytes, length⟩ else failure

def read (runtime : Runtime) : Borsh.Reader ReceiptRecord := do
  let discriminator ← Borsh.bytes 8
  if discriminator ≠ runtime.discriminator then failure
  let jobId ← Borsh.readString
  let providerPubkey ← readPublicKey
  let receiptHash ← Borsh.readString
  let completedAt ← Borsh.readNumber 8
  let anchor ← readPublicKey
  return { jobId, providerPubkey, receiptHash,
           completedAt := (UInt64.ofNat completedAt).toInt64, anchor }

def deserialize (runtime : Runtime) (data : List UInt8) :
    Option ReceiptRecord :=
  (read runtime data).map Prod.fst

end ReceiptRecord

/-! ## The instruction -/

inductive ProgramError
  | accountNotSigner
  | invalidProgramId
  /-- `find_program_address` panics. -/
  | noViableBump
  | constraintSeeds
  | accountAlreadyInUse
  | tryingToInitPayerAsProgramAccount
  | insufficientFunds
  | constraintMut
  | accountDidNotSerialize
  | receiptError (msg : String)
  deriving DecidableEq

structure AnchorReceipt where
  receiptRecord : PublicKey
  receiptRecordIsMut : Bool
  payer : PublicKey
  payerIsMut : Bool
  payerIsSigner : Bool
  systemProgram : PublicKey
  deriving DecidableEq

def seeds (jobId : String) : List (List UInt8) :=
  [Borsh.utf8 "receipt", Borsh.utf8 jobId]

def transfer (ledger : Ledger) (source target : PublicKey) (lamports : Nat) :
    Except ProgramError Ledger :=
  if ¬ (ledger source).IsPlain ∨ (ledger source).lamports < lamports then
    .error .insufficientFunds
  else
    let debited := Function.update ledger source { ledger source with
      lamports := (ledger source).lamports - lamports }
    .ok (Function.update debited target { debited target with
      lamports := (debited target).lamports + lamports })

def allocateAndAssign (ledger : Ledger) (address : PublicKey) (space : Nat)
    (owner : PublicKey) : Except ProgramError Ledger :=
  if (ledger address).IsPlain then
    .ok (Function.update ledger address { ledger address with
      owner := owner, data := List.replicate space 0 })
  else .error .accountAlreadyInUse

def topUp (runtime : Runtime) (ledger : Ledger) (address payer : PublicKey)
    (space : Nat) : Except ProgramError Ledger :=
  let required :=
    max (runtime.minimumBalance space) 1 - (ledger address).lamports
  if 0 < required then transfer ledger payer address required else .ok ledger

def init (runtime : Runtime) (ledger : Ledger) (address payer : PublicKey)
    (space : Nat) (owner : PublicKey) : Except ProgramError Ledger :=
  if (ledger address).lamports = 0 then do
    let allocated ← allocateAndAssign ledger address space owner
    transfer allocated payer address (runtime.minimumBalance space)
  else if payer = address then .error .tryingToInitPayerAsProgramAccount
  else do
    let funded ← topUp runtime ledger address payer space
    allocateAndAssign funded address space owner

def exit (runtime : Runtime) (ledger : Ledger) (address : PublicKey)
    (record : ReceiptRecord) : Except ProgramError Ledger :=
  let written := record.serialize runtime
  if written.length ≤ (ledger address).data.length then
    .ok (Function.update ledger address { ledger address with
      data := written ++ (ledger address).data.drop written.length })
  else .error .accountDidNotSerialize

def requireMut (accounts : AnchorReceipt) : Except ProgramError Unit :=
  if accounts.receiptRecordIsMut ∧ accounts.payerIsMut then .ok ()
  else .error .constraintMut

def requireLengths (jobId receiptHash : String) : Except ProgramError Unit :=
  if 64 < jobId.utf8ByteSize then
    .error (.receiptError "Job ID must be 64 characters or fewer")
  else if 64 < receiptHash.utf8ByteSize then
    .error (.receiptError "Receipt hash must be 64 characters or fewer")
  else .ok ()

def AnchorReceipt.record (accounts : AnchorReceipt) (jobId receiptHash : String)
    (providerPubkey : PublicKey) (completedAt : Int64) : ReceiptRecord where
  jobId := jobId
  providerPubkey := providerPubkey
  receiptHash := receiptHash
  completedAt := completedAt
  anchor := accounts.payer

def anchorReceipt (runtime : Runtime) (programId : PublicKey)
    (accounts : AnchorReceipt) (jobId receiptHash : String)
    (providerPubkey : PublicKey) (completedAt : Int64) (ledger : Ledger) :
    Except ProgramError Ledger :=
  if ¬ accounts.payerIsSigner then .error .accountNotSigner
  else if accounts.systemProgram ≠ systemProgram then .error .invalidProgramId
  else
    match runtime.curve.tryFindProgramAddress (seeds jobId) programId.bytes with
    | none => .error .noViableBump
    | some (address, _) =>
      if accounts.receiptRecord ≠ address then .error .constraintSeeds
      else do
        let created ← init runtime ledger address accounts.payer
          ReceiptRecord.size programId
        requireMut accounts
        requireLengths jobId receiptHash
        exit runtime created address
          (accounts.record jobId receiptHash providerPubkey completedAt)

/-! ## What is written is read -/

theorem reads_publicKey (key : PublicKey) :
    Borsh.Reads ReceiptRecord.readPublicKey key.bytes key := by
  intro rest
  have read := Borsh.reads_bytes key.bytes rest
  rw [key.length] at read
  change (Borsh.bytes 32 _).bind _ = _
  rw [read, Option.bind_some]
  dsimp only
  rw [dif_pos key.length]
  rfl

namespace ReceiptRecord

variable {runtime : Runtime} {record : ReceiptRecord}

theorem length_serialize (runtime : Runtime) (record : ReceiptRecord) :
    (record.serialize runtime).length =
      88 + record.jobId.utf8ByteSize + record.receiptHash.utf8ByteSize := by
  simp only [serialize, List.length_append, Borsh.length_string,
    Borsh.length_littleEndian, runtime.length_discriminator,
    record.providerPubkey.length, record.anchor.length]
  omega

theorem length_serialize_le (shortId : record.jobId.utf8ByteSize ≤ 64)
    (shortHash : record.receiptHash.utf8ByteSize ≤ 64) :
    (record.serialize runtime).length ≤ size := by
  have sum : size = 216 := rfl
  rw [length_serialize, sum]
  omega

theorem deserialize_serialize (shortId : record.jobId.utf8ByteSize < 256 ^ 4)
    (shortHash : record.receiptHash.utf8ByteSize < 256 ^ 4)
    (rest : List UInt8) :
    deserialize runtime (record.serialize runtime ++ rest) = some record := by
  have discriminator : Borsh.Reads (Borsh.bytes 8) runtime.discriminator
      runtime.discriminator := by
    have read := Borsh.reads_bytes runtime.discriminator
    rw [runtime.length_discriminator] at read
    exact read
  have time : (UInt64.ofNat record.completedAt.toUInt64.toNat).toInt64 =
      record.completedAt := by
    simp
  have whole : Borsh.Reads (read runtime) (record.serialize runtime)
      record := by
    unfold read serialize
    refine discriminator.bind ?_
    simp only [ne_eq, not_true_eq_false, if_false]
    refine (Borsh.reads_string shortId).bind ?_
    refine (reads_publicKey record.providerPubkey).bind ?_
    refine (Borsh.reads_string shortHash).bind ?_
    refine (Borsh.reads_number (UInt64.toNat_lt _)).bind ?_
    have last := (reads_publicKey record.anchor).map fun anchor =>
      { record with anchor := anchor }
    simp only [time]
    exact last
  rw [deserialize, whole rest]
  rfl

end ReceiptRecord

/-! ## Steps of the instruction -/

def Account.contents (account : Account) : PublicKey × List UInt8 :=
  (account.owner, account.data)

section Steps

variable {runtime : Runtime} {ledger final : Ledger}
    {address payer programId : PublicKey} {space : Nat}

theorem isPlain_iff (account : Account) :
    account.IsPlain ↔ account.contents = (systemProgram, []) :=
  Prod.mk_inj.symm

theorem contents_transfer {source target : PublicKey} {lamports : Nat}
    (done : transfer ledger source target lamports = .ok final)
    (key : PublicKey) : (final key).contents = (ledger key).contents := by
  rw [transfer] at done
  split at done
  · cases done
  · cases done
    have debited : (Function.update ledger source { ledger source with
        lamports := (ledger source).lamports - lamports } key).contents =
          (ledger key).contents := by
      rcases eq_or_ne key source with rfl | other
      · rw [Function.update_self]
        rfl
      · rw [Function.update_of_ne other]
    rcases eq_or_ne key target with rfl | other
    · rw [Function.update_self]
      exact debited
    · rw [Function.update_of_ne other]
      exact debited

theorem contents_topUp
    (done : topUp runtime ledger address payer space = .ok final)
    (key : PublicKey) : (final key).contents = (ledger key).contents := by
  rw [topUp] at done
  split at done
  · exact contents_transfer done key
  · cases done
    rfl

theorem allocateAndAssign_ok
    (done : allocateAndAssign ledger address space programId = .ok final) :
    (ledger address).IsPlain ∧
      (final address).contents = (programId, List.replicate space 0) ∧
      ∀ key ≠ address, final key = ledger key := by
  rw [allocateAndAssign] at done
  split at done
  · next plain =>
      cases done
      refine ⟨plain, ?_, fun key other => Function.update_of_ne other ..⟩
      rw [Function.update_self]
      rfl
  · cases done

theorem init_ok
    (done : init runtime ledger address payer space programId = .ok final) :
    (ledger address).IsPlain ∧
      (final address).contents = (programId, List.replicate space 0) ∧
      ∀ key ≠ address, (final key).contents = (ledger key).contents := by
  rw [init] at done
  split at done
  · rcases bind_eq_ok_iff.mp done with ⟨allocated, created, paid⟩
    rcases allocateAndAssign_ok created with ⟨plain, written, others⟩
    have kept := contents_transfer paid
    refine ⟨plain, (kept address).trans written, fun key other => ?_⟩
    rw [kept key, others key other]
  · split at done
    · cases done
    · rcases bind_eq_ok_iff.mp done with ⟨funded, paid, created⟩
      rcases allocateAndAssign_ok created with ⟨plain, written, others⟩
      have kept := contents_topUp paid
      rw [isPlain_iff, kept address, ← isPlain_iff] at plain
      refine ⟨plain, written, fun key other => ?_⟩
      rw [others key other, kept key]

theorem transfer_funded {source target : PublicKey} {lamports : Nat}
    (plain : (ledger source).IsPlain)
    (funds : lamports ≤ (ledger source).lamports) :
    ∃ final, transfer ledger source target lamports = .ok final := by
  rw [transfer, if_neg]
  · exact ⟨_, rfl⟩
  · rintro (occupied | poor)
    · exact occupied plain
    · omega

theorem allocateAndAssign_plain (plain : (ledger address).IsPlain) :
    ∃ final, allocateAndAssign ledger address space programId = .ok final := by
  rw [allocateAndAssign, if_pos plain]
  exact ⟨_, rfl⟩

structure Funded (runtime : Runtime) (ledger : Ledger) (payer : PublicKey) :
    Prop where
  plain : (ledger payer).IsPlain
  funds : max (runtime.minimumBalance ReceiptRecord.size) 1 ≤
    (ledger payer).lamports

theorem topUp_funded (funded : Funded runtime ledger payer) :
    ∃ final, topUp runtime ledger address payer ReceiptRecord.size =
      .ok final := by
  have funds := funded.funds
  rw [topUp]
  split
  · exact transfer_funded funded.plain (by omega)
  · exact ⟨_, rfl⟩

theorem init_funded (unused : (ledger address).IsPlain)
    (funded : Funded runtime ledger payer) (different : payer ≠ address) :
    ∃ final, init runtime ledger address payer ReceiptRecord.size programId =
      .ok final := by
  have funds := funded.funds
  rw [init]
  split
  · rcases @allocateAndAssign_plain _ _ programId ReceiptRecord.size unused with
      ⟨allocated, created⟩
    have same := (allocateAndAssign_ok created).2.2 payer different
    rw [created]
    exact transfer_funded (same ▸ funded.plain) (by rw [same]; omega)
  · rcases topUp_funded funded with ⟨richer, paid⟩
    rw [paid]
    refine allocateAndAssign_plain ?_
    rw [isPlain_iff, contents_topUp paid, ← isPlain_iff]
    exact unused

variable {accounts : AnchorReceipt} {jobId receiptHash : String}
    {providerPubkey : PublicKey} {completedAt : Int64}

theorem exit_ok {record : ReceiptRecord}
    (done : exit runtime ledger address record = .ok final) :
    (final address).contents = ((ledger address).owner,
        record.serialize runtime ++ (ledger address).data.drop
          (record.serialize runtime).length) ∧
      ∀ key ≠ address, final key = ledger key := by
  rw [exit] at done
  split at done
  · cases done
    refine ⟨?_, fun key other => Function.update_of_ne other ..⟩
    rw [Function.update_self]
    rfl
  · cases done

theorem requireLengths_ok_iff : requireLengths jobId receiptHash = .ok () ↔
    jobId.utf8ByteSize ≤ 64 ∧ receiptHash.utf8ByteSize ≤ 64 := by
  rw [requireLengths]
  split_ifs with longId longHash
  · exact iff_of_false nofun fun short => by omega
  · exact iff_of_false nofun fun short => by omega
  · exact iff_of_true rfl ⟨by omega, by omega⟩

theorem anchorReceipt_ok (done : anchorReceipt runtime programId accounts jobId
      receiptHash providerPubkey completedAt ledger = .ok final) :
    (∃ bump, runtime.curve.tryFindProgramAddress (seeds jobId)
      programId.bytes = some (accounts.receiptRecord, bump)) ∧
    jobId.utf8ByteSize ≤ 64 ∧ receiptHash.utf8ByteSize ≤ 64 ∧
    (ledger accounts.receiptRecord).IsPlain ∧
    (∃ rest, (final accounts.receiptRecord).contents = (programId,
      (accounts.record jobId receiptHash providerPubkey completedAt).serialize
        runtime ++ rest)) ∧
    ∀ key ≠ accounts.receiptRecord,
      (final key).contents = (ledger key).contents := by
  rw [anchorReceipt] at done
  split at done
  · cases done
  split at done
  · cases done
  split at done
  · cases done
  next address bump found =>
    split at done
    · cases done
    next same =>
      cases not_not.mp same
      rcases bind_eq_ok_iff.mp done with ⟨created, initialised, done⟩
      rcases bind_eq_ok_iff.mp done with ⟨_, writable, done⟩
      rcases bind_eq_ok_iff.mp done with ⟨_, lengths, done⟩
      rcases requireLengths_ok_iff.mp lengths with ⟨shortId, shortHash⟩
      rcases init_ok initialised with ⟨plain, empty, others⟩
      rcases exit_ok done with ⟨written, kept⟩
      have owner : (created accounts.receiptRecord).owner = programId :=
        (Prod.mk.inj empty).1
      rw [owner] at written
      refine ⟨⟨bump, found⟩, shortId, shortHash, plain, ⟨_, written⟩, ?_⟩
      intro key other
      rw [kept key other, others key other]

theorem anchorReceipt_funded {bump : UInt8}
    (found : runtime.curve.tryFindProgramAddress (seeds jobId)
      programId.bytes = some (address, bump))
    (shortId : jobId.utf8ByteSize ≤ 64)
    (shortHash : receiptHash.utf8ByteSize ≤ 64)
    (unused : (ledger address).IsPlain) (funded : Funded runtime ledger payer)
    (different : payer ≠ address) :
    ∃ final, anchorReceipt runtime programId
      { receiptRecord := address, receiptRecordIsMut := true, payer,
        payerIsMut := true, payerIsSigner := true, systemProgram }
      jobId receiptHash providerPubkey completedAt ledger = .ok final := by
  rcases @init_funded _ _ _ _ programId unused funded different with
    ⟨created, initialised⟩
  have lengths := requireLengths_ok_iff.mpr ⟨shortId, shortHash⟩
  have empty : (created address).data = List.replicate ReceiptRecord.size 0 :=
    (Prod.mk.inj (init_ok initialised).2.1).2
  have space : ∀ record : ReceiptRecord, record.jobId = jobId →
      record.receiptHash = receiptHash →
      (record.serialize runtime).length ≤ (created address).data.length := by
    rintro record rfl rfl
    rw [empty, List.length_replicate]
    exact ReceiptRecord.length_serialize_le shortId shortHash
  rw [anchorReceipt, if_neg (by simp), if_neg (by simp), found]
  dsimp only
  rw [if_neg (by simp), initialised]
  change ∃ final, (requireLengths jobId receiptHash).bind _ = _
  rw [lengths]
  change ∃ final, exit _ _ _ _ = _
  rw [exit, if_pos (space _ rfl rfl)]
  exact ⟨_, rfl⟩

end Steps

/-! ## The ledger over time -/

inductive Instruction
  | anchorReceipt (accounts : AnchorReceipt) (jobId receiptHash : String)
      (providerPubkey : PublicKey) (completedAt : Int64)
  | transfer (source target : PublicKey) (lamports : Nat)

def Instruction.process (runtime : Runtime) (programId : PublicKey)
    (ledger : Ledger) : Instruction → Except ProgramError Ledger
  | .anchorReceipt accounts jobId receiptHash providerPubkey completedAt =>
    Chain.anchorReceipt runtime programId accounts jobId receiptHash
      providerPubkey completedAt ledger
  | .transfer source target lamports =>
    Chain.transfer ledger source target lamports

def machine (runtime : Runtime) (programId : PublicKey) (genesis : Ledger) :
    Machine Ledger Instruction where
  initial := genesis
  Enabled _ _ := True
  step ledger instruction :=
    match instruction.process runtime programId ledger with
    | .ok final => final
    | .error _ => ledger

structure Recorded (runtime : Runtime) (programId : PublicKey)
    (ledger : Ledger) (address : PublicKey) (record : ReceiptRecord) : Prop
    where
  owner : (ledger address).owner = programId
  data : ReceiptRecord.deserialize runtime (ledger address).data = some record
  derived : ∃ bump, runtime.curve.tryFindProgramAddress (seeds record.jobId)
    programId.bytes = some (address, bump)

section Runs

variable {runtime : Runtime} {programId : PublicKey} {genesis ledger : Ledger}

theorem anchorReceipt_recorded {final : Ledger} {accounts : AnchorReceipt}
    {jobId receiptHash : String} {providerPubkey : PublicKey}
    {completedAt : Int64}
    (done : anchorReceipt runtime programId accounts jobId receiptHash
      providerPubkey completedAt ledger = .ok final) :
    Recorded runtime programId final accounts.receiptRecord
      (accounts.record jobId receiptHash providerPubkey completedAt) := by
  rcases anchorReceipt_ok done with
    ⟨derived, shortId, shortHash, _, ⟨rest, written⟩, _⟩
  rcases Prod.mk.inj written with ⟨owner, data⟩
  have read := @ReceiptRecord.deserialize_serialize runtime
    (accounts.record jobId receiptHash providerPubkey completedAt)
    (shortId.trans_lt (by decide)) (shortHash.trans_lt (by decide)) rest
  rw [← data] at read
  exact ⟨owner, read, derived⟩

end Runs

end Dispatch.Chain
