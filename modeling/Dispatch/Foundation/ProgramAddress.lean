import Dispatch.Foundation.Borsh

/-! # Program addresses

A program of Solana signs for the addresses that are derived from its own
address and from seeds.
-/

namespace Dispatch

structure Curve (Key : Type) where
  hash : List UInt8 → Key
  onCurve : Key → Bool

namespace Curve

def maxSeedLength : Nat := 32

def maxSeeds : Nat := 16

variable {Key : Type} (curve : Curve Key) (seeds : List (List UInt8))
    (programId : List UInt8)

def addressOf : Key :=
  curve.hash (seeds.flatten ++ programId ++ Borsh.utf8 "ProgramDerivedAddress")

/-! ## In the runtime -/

inductive PubkeyError
  | maxSeedLengthExceeded
  | invalidSeeds
  deriving DecidableEq

def createProgramAddress : Except PubkeyError Key :=
  if maxSeeds < seeds.length then .error .maxSeedLengthExceeded
  else if seeds.any fun seed => maxSeedLength < seed.length then
    .error .maxSeedLengthExceeded
  else if curve.onCurve (curve.addressOf seeds programId) then
    .error .invalidSeeds
  else .ok (curve.addressOf seeds programId)

def tryFindFrom : Nat → Option (Key × UInt8)
  | 0 => none
  | bump + 1 =>
    let bumpSeed := UInt8.ofNat (bump + 1)
    match curve.createProgramAddress (seeds ++ [[bumpSeed]]) programId with
    | .ok address => some (address, bumpSeed)
    | .error .invalidSeeds => tryFindFrom bump
    | .error .maxSeedLengthExceeded => none

def tryFindProgramAddress : Option (Key × UInt8) :=
  curve.tryFindFrom seeds programId 255

/-! ## In `@solana/web3.js` -/

inductive Thrown
  | typeError (message : String)
  | error (message : String)
  deriving DecidableEq

def Thrown.message : Thrown → String
  | .typeError message => message
  | .error message => message

def createProgramAddressSync : Except Thrown Key :=
  if seeds.any fun seed => maxSeedLength < seed.length then
    .error (.typeError "Max seed length exceeded")
  else if curve.onCurve (curve.addressOf seeds programId) then
    .error (.error "Invalid seeds, address must fall off the curve")
  else .ok (curve.addressOf seeds programId)

def findSyncFrom : Nat → Except Thrown (Key × UInt8)
  | 0 => .error (.error "Unable to find a viable program address nonce")
  | nonce + 1 =>
    let nonceSeed := UInt8.ofNat (nonce + 1)
    match curve.createProgramAddressSync (seeds ++ [[nonceSeed]]) programId
    with
    | .ok address => .ok (address, nonceSeed)
    | .error (.typeError message) => .error (.typeError message)
    | .error (.error _) => findSyncFrom nonce

def findProgramAddressSync : Except Thrown (Key × UInt8) :=
  curve.findSyncFrom seeds programId 255

/-! ## When an address is found -/

def Viable : Prop :=
  ∃ bump : Nat, 0 < bump ∧ bump ≤ 255 ∧
    curve.onCurve
      (curve.addressOf (seeds ++ [[UInt8.ofNat bump]]) programId) = false

def Short (seeds : List (List UInt8)) : Prop :=
  ∀ seed ∈ seeds, seed.length ≤ maxSeedLength

instance : Decidable (Short seeds) :=
  inferInstanceAs (Decidable (∀ seed ∈ seeds, _))

variable {seeds}

theorem any_long_iff (bump : UInt8) :
    ((seeds ++ [[bump]]).any fun seed => maxSeedLength < seed.length) = true ↔
      ¬ Short seeds := by
  simp only [List.any_eq_true, List.mem_append, List.mem_singleton,
    decide_eq_true_eq, Short, not_forall, not_le]
  constructor
  · rintro ⟨seed, member | rfl, long⟩
    · exact ⟨seed, member, long⟩
    · rw [List.length_singleton] at long
      exact absurd long (by decide)
  · rintro ⟨seed, member, long⟩
    exact ⟨seed, .inl member, long⟩

variable {curve programId}

theorem tryFindFrom_eq_toOption (few : seeds.length < maxSeeds) (bound : Nat) :
    curve.tryFindFrom seeds programId bound =
      (curve.findSyncFrom seeds programId bound).toOption := by
  have counted : ∀ bump : UInt8,
      ¬ maxSeeds < (seeds ++ [[bump]]).length := by
    intro bump
    rw [List.length_append, List.length_singleton]
    omega
  induction bound with
  | zero => rfl
  | succ bump induction =>
    simp only [tryFindFrom, findSyncFrom, createProgramAddress,
      createProgramAddressSync, if_neg (counted _), any_long_iff]
    by_cases short : Short seeds
    · rw [if_neg (not_not_intro short), if_neg (not_not_intro short)]
      cases curve.onCurve (curve.addressOf
        (seeds ++ [[UInt8.ofNat (bump + 1)]]) programId) with
      | false => rfl
      | true => exact induction
    · rw [if_pos short, if_pos short]
      rfl

theorem findSyncFrom_long (long : ¬ Short seeds) (nonce : Nat) :
    curve.findSyncFrom seeds programId (nonce + 1) =
      .error (.typeError "Max seed length exceeded") := by
  simp only [findSyncFrom, createProgramAddressSync, any_long_iff]
  rw [if_pos long]

theorem findSyncFrom_isSome_iff (short : Short seeds) (bound : Nat) :
    (curve.findSyncFrom seeds programId bound).toOption.isSome = true ↔
      ∃ bump, 0 < bump ∧ bump ≤ bound ∧ curve.onCurve
        (curve.addressOf (seeds ++ [[UInt8.ofNat bump]]) programId) =
          false := by
  induction bound with
  | zero =>
    refine iff_of_false Bool.false_ne_true ?_
    rintro ⟨bump, positive, bounded, _⟩
    omega
  | succ nonce induction =>
    simp only [findSyncFrom, createProgramAddressSync, any_long_iff]
    rw [if_neg (not_not_intro short)]
    cases found : curve.onCurve
      (curve.addressOf (seeds ++ [[UInt8.ofNat (nonce + 1)]]) programId) with
    | false => exact iff_of_true rfl ⟨nonce + 1, by omega, le_rfl, found⟩
    | true =>
      refine Iff.trans induction ⟨?_, ?_⟩
      · rintro ⟨bump, positive, bounded, viable⟩
        exact ⟨bump, positive, by omega, viable⟩
      · rintro ⟨bump, positive, bounded, viable⟩
        rcases Nat.lt_or_eq_of_le bounded with smaller | rfl
        · exact ⟨bump, positive, by omega, viable⟩
        · rw [found] at viable
          cases viable

theorem findProgramAddressSync_isSome_iff :
    (curve.findProgramAddressSync seeds programId).toOption.isSome = true ↔
      Short seeds ∧ curve.Viable seeds programId := by
  by_cases short : Short seeds
  · rw [findProgramAddressSync, findSyncFrom_isSome_iff short]
    exact (and_iff_right short).symm
  · rw [findProgramAddressSync, findSyncFrom_long short]
    exact iff_of_false Bool.false_ne_true fun found => short found.1

theorem tryFindProgramAddress_eq_toOption (few : seeds.length < maxSeeds) :
    curve.tryFindProgramAddress seeds programId =
      (curve.findProgramAddressSync seeds programId).toOption :=
  tryFindFrom_eq_toOption few 255

end Curve

end Dispatch
