import Dispatch.Chain.ReceiptAnchor
import Dispatch.Coordinator.Machine

/-! # Anchoring receipts

`anchorReceipt` submits the hash of a receipt to the program `receipt_anchor`.
-/

namespace Dispatch.Coordinator

open Stakes (PublicKey)
open Chain (Runtime Ledger AnchorReceipt ProgramError ReceiptRecord Recorded
  Funded systemProgram)

/-! ## The function -/

def programIdStr : String := "11111111111111111111111111111111"

structure AnchorReceiptParams where
  jobId : String
  providerPubkey : String
  receiptHash : String
  completedAt : ℚ

structure AnchorEnvironment where
  imports : Except String Unit
  /-- `process.env.SOLANA_ANCHOR_KEYPAIR_PATH` -/
  keypairPath : Option String
  loadKeypair : String → Except String PublicKey
  /-- What `new PublicKey(text)` throws. -/
  invalidKey : String → String
  provider : PublicKey → Except String Unit
  /-- `new anchor.Program` -/
  program : PublicKey → Except String Unit
  bigNumber : ℚ → Except String Int64
  submit : Except String String
  confirm : Except String Unit
  programError : ProgramError → String

inductive AnchorOutcome
  | skipped
  | failed (message : String)
  | anchored (txSig : String)
  deriving DecidableEq

def AnchorOutcome.txSig : AnchorOutcome → Option String
  | .anchored txSig => some txSig
  | _ => none

structure AnchorRequest where
  programId : PublicKey
  accounts : AnchorReceipt
  jobId : String
  receiptHash : String
  providerPubkey : PublicKey
  completedAt : Int64

def anchorAccounts (receiptRecord payer : PublicKey) : AnchorReceipt where
  receiptRecord := receiptRecord
  receiptRecordIsMut := true
  payer := payer
  payerIsMut := true
  payerIsSigner := true
  systemProgram := systemProgram

section Function

variable (runtime : Runtime) (env : AnchorEnvironment) (programIdStr : String)
    (params : AnchorReceiptParams)

def newPublicKey (text : String) : Except String PublicKey :=
  match PublicKey.ofText? text with
  | some key => .ok key
  | none => .error (env.invalidKey text)

def receiptPda (programId : PublicKey) (jobId : String) :
    Except String PublicKey :=
  match runtime.curve.findProgramAddressSync
      [Borsh.utf8 "receipt", Borsh.utf8 jobId] programId.bytes with
  | .ok (address, _) => .ok address
  | .error thrown => .error thrown.message

def anchorRequest : Except String (Option AnchorRequest) := do
  env.imports
  match env.keypairPath with
  | none | some "" => return none
  | some keypairPath =>
    let payer ← env.loadKeypair keypairPath
    env.provider payer
    let programId ← newPublicKey env programIdStr
    env.program programId
    let receiptRecord ← receiptPda runtime programId params.jobId
    let providerPubkey ← newPublicKey env params.providerPubkey
    let completedAt ← env.bigNumber params.completedAt
    return some {
      programId, accounts := anchorAccounts receiptRecord payer,
      jobId := params.jobId, receiptHash := params.receiptHash,
      providerPubkey, completedAt }

def rpc (request : AnchorRequest) (ledger : Ledger) : Ledger × AnchorOutcome :=
  match env.submit with
  | .error message => (ledger, .failed message)
  | .ok txSig =>
    match Chain.anchorReceipt runtime request.programId request.accounts
        request.jobId request.receiptHash request.providerPubkey
        request.completedAt ledger with
    | .error error => (ledger, .failed (env.programError error))
    | .ok final =>
      match env.confirm with
      | .error message => (final, .failed message)
      | .ok _ => (final, .anchored txSig)

def anchorReceipt (ledger : Ledger) : Ledger × AnchorOutcome :=
  match anchorRequest runtime env programIdStr params with
  | .error message => (ledger, .failed message)
  | .ok none => (ledger, .skipped)
  | .ok (some request) => rpc runtime env request ledger

end Function

/-! ## Seeds -/

section Seeds

variable {runtime : Runtime} {programId : PublicKey} {jobId : String}

theorem short_seeds_iff (jobId : String) :
    Curve.Short (Chain.seeds jobId) ↔ jobId.utf8ByteSize ≤ 32 := by
  simp only [Curve.Short, Chain.seeds, List.forall_mem_cons,
    Borsh.length_utf8, List.not_mem_nil, false_imp_iff, implies_true, and_true]
  exact and_iff_right (by decide)

theorem seeds_injective {other : String}
    (same : Chain.seeds other = Chain.seeds jobId) : other = jobId := by
  rw [Chain.seeds, Chain.seeds] at same
  exact Borsh.utf8_injective (List.cons.inj (List.cons.inj same).2).1

theorem few_seeds (jobId : String) :
    (Chain.seeds jobId).length < Curve.maxSeeds :=
  (by decide : 2 < 16)

theorem tryFind_eq_some_iff {address : PublicKey} :
    (∃ bump, runtime.curve.tryFindProgramAddress (Chain.seeds jobId)
      programId.bytes = some (address, bump)) ↔
      receiptPda runtime programId jobId = .ok address := by
  rw [Curve.tryFindProgramAddress_eq_toOption (few_seeds jobId), receiptPda,
    ← Chain.seeds]
  cases runtime.curve.findProgramAddressSync (Chain.seeds jobId)
      programId.bytes with
  | error thrown => exact iff_of_false (by rintro ⟨_, ⟨⟩⟩) nofun
  | ok found =>
    rcases found with ⟨found, bump⟩
    constructor
    · rintro ⟨_, ⟨⟩⟩
      rfl
    · rintro ⟨⟩
      exact ⟨bump, rfl⟩

def Derivable (runtime : Runtime) (programId : PublicKey) (jobId : String) :
    Prop :=
  jobId.utf8ByteSize ≤ 32 ∧
    runtime.curve.Viable (Chain.seeds jobId) programId.bytes

theorem exists_receiptPda_iff :
    (∃ address, receiptPda runtime programId jobId = .ok address) ↔
      Derivable runtime programId jobId := by
  rw [Derivable, ← short_seeds_iff, ← Curve.findProgramAddressSync_isSome_iff,
    receiptPda, ← Chain.seeds]
  cases runtime.curve.findProgramAddressSync (Chain.seeds jobId)
      programId.bytes with
  | error thrown => exact iff_of_false nofun Bool.false_ne_true
  | ok found => exact iff_of_true ⟨found.1, rfl⟩ rfl

end Seeds

/-! ## Accounts -/

def Creatable (runtime : Runtime) (programId : PublicKey)
    (jobId receiptHash : String) : Prop :=
  ∃ address, ∀ ledger payer providerPubkey completedAt,
    (ledger address).IsPlain → Funded runtime ledger payer → payer ≠ address →
      ∃ final, Chain.anchorReceipt runtime programId
          (anchorAccounts address payer) jobId receiptHash providerPubkey
          completedAt ledger = .ok final ∧
        Recorded runtime programId final address
          ⟨jobId, providerPubkey, receiptHash, completedAt, payer⟩

section Accounts

variable {runtime : Runtime} {programId : PublicKey}
    {jobId receiptHash : String}

theorem exists_other_key (address : PublicKey) :
    ∃ payer : PublicKey, payer ≠ address := by
  rcases eq_or_ne systemProgram address with same | other
  · refine ⟨⟨List.replicate 32 1, List.length_replicate⟩, ?_⟩
    rw [← same]
    decide
  · exact ⟨systemProgram, other⟩

theorem creatable_iff (shortId : jobId.utf8ByteSize ≤ 64)
    (shortHash : receiptHash.utf8ByteSize ≤ 64) :
    Creatable runtime programId jobId receiptHash ↔
      Derivable runtime programId jobId := by
  rw [← exists_receiptPda_iff]
  constructor
  · rintro ⟨address, creates⟩
    rcases exists_other_key address with ⟨payer, different⟩
    -- every account is plain and has the lamports
    have rich : Funded runtime (fun _ => ⟨max (runtime.minimumBalance
        ReceiptRecord.size) 1, systemProgram, []⟩) payer :=
      ⟨⟨rfl, rfl⟩, le_rfl⟩
    rcases creates _ payer payer 0 ⟨rfl, rfl⟩ rich different with
      ⟨final, done, _⟩
    exact ⟨address, tryFind_eq_some_iff.mp (Chain.anchorReceipt_ok done).1⟩
  · rintro ⟨address, derived⟩
    rcases tryFind_eq_some_iff.mpr derived with ⟨bump, found⟩
    refine ⟨address, ?_⟩
    intro ledger payer providerPubkey completedAt unused funded different
    rcases Chain.anchorReceipt_funded found shortId shortHash unused funded
      different with ⟨final, done⟩
    exact ⟨final, done, Chain.anchorReceipt_recorded done⟩

/-- The record has the space that it needs for all ids and hashes that pass the
checks, and jobs do not share their seeds; but an account is created, and its
address derived by the program and by `anchorReceipt`, only for ids that fit
into a seed. -/
theorem receipt_account_iff (runtime : Runtime) (programId : PublicKey)
    (shortId : jobId.utf8ByteSize ≤ 64)
    (shortHash : receiptHash.utf8ByteSize ≤ 64) :
    (Creatable runtime programId jobId receiptHash ↔
      Derivable runtime programId jobId) ∧
    ((∃ address bump, runtime.curve.tryFindProgramAddress (Chain.seeds jobId)
        programId.bytes = some (address, bump)) ↔
      Derivable runtime programId jobId) ∧
    ((∃ address, receiptPda runtime programId jobId = .ok address) ↔
      Derivable runtime programId jobId) ∧
    (∀ providerPubkey completedAt anchor, (ReceiptRecord.serialize runtime
        ⟨jobId, providerPubkey, receiptHash, completedAt, anchor⟩).length ≤
      ReceiptRecord.size) ∧
    ∀ other, other ≠ jobId → Chain.seeds other ≠ Chain.seeds jobId := by
  refine ⟨creatable_iff shortId shortHash, ?_, exists_receiptPda_iff, ?_, ?_⟩
  · rw [← exists_receiptPda_iff]
    exact exists_congr fun address => tryFind_eq_some_iff
  · intro providerPubkey completedAt anchor
    exact ReceiptRecord.length_serialize_le shortId shortHash
  · intro other different same
    exact different (seeds_injective same)

theorem not_derivable_uuid (uuid : Uuid) :
    ¬ Derivable runtime programId uuid.text := by
  intro derivable
  have length : uuid.text.length = 36 := by
    have wellFormed := uuid.wellFormed
    rw [isUuid, Bool.and_eq_true, decide_eq_true_eq] at wellFormed
    exact wellFormed.1
  have bytes := Borsh.length_le_utf8ByteSize uuid.text
  have short := derivable.1
  omega

theorem exists_receiptPda_of_request {env : AnchorEnvironment}
    {programIdStr : String} {params : AnchorReceiptParams}
    {request : AnchorRequest}
    (made : anchorRequest runtime env programIdStr params =
      .ok (some request)) :
    ∃ programId address,
      receiptPda runtime programId params.jobId = .ok address := by
  rcases bind_eq_ok_iff.mp made with ⟨_, _, made⟩
  split at made
  · cases made
  · cases made
  · rcases bind_eq_ok_iff.mp made with ⟨payer, _, made⟩
    rcases bind_eq_ok_iff.mp made with ⟨_, _, made⟩
    rcases bind_eq_ok_iff.mp made with ⟨programId, _, made⟩
    rcases bind_eq_ok_iff.mp made with ⟨_, _, made⟩
    rcases bind_eq_ok_iff.mp made with ⟨address, derived, _⟩
    exact ⟨programId, address, derived⟩

theorem anchorReceipt_uuid (runtime : Runtime) (env : AnchorEnvironment)
    (programIdStr : String) {params : AnchorReceiptParams} {uuid : Uuid}
    (job : params.jobId = uuid.text) (ledger : Ledger) :
    (anchorReceipt runtime env programIdStr params ledger).1 = ledger ∧
      (anchorReceipt runtime env programIdStr params ledger).2.txSig =
        none := by
  rw [anchorReceipt]
  cases made : anchorRequest runtime env programIdStr params with
  | error message => exact ⟨rfl, rfl⟩
  | ok request =>
    cases request with
    | none => exact ⟨rfl, rfl⟩
    | some request =>
      rcases exists_receiptPda_of_request made with
        ⟨programId, address, derived⟩
      rw [job] at derived
      exact absurd (exists_receiptPda_iff.mp ⟨address, derived⟩)
        (not_derivable_uuid uuid)

end Accounts

/-! ## A uuid -/

namespace Sample

def anchorRuntime : Runtime where
  curve := {
    hash := fun bytes => ⟨(bytes ++ List.replicate 32 0).take 32, by simp⟩
    onCurve := fun _ => false }
  minimumBalance space := 128 + space
  discriminator := List.replicate 8 1
  length_discriminator := List.length_replicate

end Sample

theorem sample_receipt_account :
    Creatable Sample.anchorRuntime systemProgram "job-1" "00" := by
  refine (receipt_account_iff Sample.anchorRuntime systemProgram (by decide)
    (by decide)).1.mpr ⟨by decide, 255, ?_⟩
  decide

theorem sample_uuid_not_anchored :
    Sample.jobUuid.text.utf8ByteSize = 36 ∧
      Sample.anchorRuntime.curve.tryFindProgramAddress
        (Chain.seeds Sample.jobUuid.text) systemProgram.bytes = none ∧
      receiptPda Sample.anchorRuntime systemProgram Sample.jobUuid.text =
        .error "Max seed length exceeded" ∧
      ∀ env params ledger, params.jobId = Sample.jobUuid.text →
        (anchorReceipt Sample.anchorRuntime env programIdStr params
            ledger).1 = ledger ∧
          (anchorReceipt Sample.anchorRuntime env programIdStr params
            ledger).2.txSig = none := by
  refine ⟨by decide +kernel, by decide +kernel, by decide +kernel, ?_⟩
  intro env params ledger job
  exact anchorReceipt_uuid _ env programIdStr job ledger

end Dispatch.Coordinator
