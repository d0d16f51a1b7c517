import Dispatch.Coordinator.RetryLoops

/-! # Private jobs

Which workers are told about a job, and that a private one goes to trusted
workers only.
-/

namespace Dispatch.Coordinator

open WorkerHub

/-! ## Where assignments come from -/

section Runs

variable {env : Environment} {state : State} {input : Input}

end Runs

/-! ## Trusted workers -/

def Trusts (state : State) (userId pubkey : String) : Prop :=
  ∃ id pairing, state.trustPairings.get? id = some pairing ∧
    pairing.claimed = true ∧ pairing.userId = userId ∧
    pairing.providerPubkey = some pubkey

theorem trusts_iff (state : State) (userId pubkey : String) :
    Trusts state userId pubkey ↔
      (trustedPubkeys state userId).contains (some pubkey) = true := by
  simp only [Trusts, trustedPubkeys, List.contains_iff_mem, List.mem_map,
    List.mem_filter, OrderedMap.values, Bool.and_eq_true, decide_eq_true_eq,
    OrderedMap.get?_eq_some_iff]
  constructor
  · intro trusts
    rcases trusts with ⟨id, pairing, stored, claimed, user, provider⟩
    exact ⟨pairing, ⟨⟨(id, pairing), stored, rfl⟩, user, claimed⟩, provider⟩
  · intro listed
    rcases listed with ⟨pairing, ⟨⟨entry, stored, same⟩, user, claimed⟩,
      provider⟩
    subst same
    exact ⟨entry.1, entry.2, stored, claimed, user, provider⟩

end Dispatch.Coordinator
