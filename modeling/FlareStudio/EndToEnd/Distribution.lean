import FlareStudio.Contracts.Payout
import FlareStudio.Contracts.PolicyFactory
import FlareStudio.Policy.Compile

set_option autoImplicit false

namespace FlareStudio.EndToEnd

open ConfidentialPolicy Reentrant Apportion Policy

-- A recipient of the browser's configuration and a share of the contract's calldata.
structure SameShare (recipient : PrivateRecipient) (share : Share) : Prop where
  address : Hex.fixed? 20 recipient.address = some share.recipient
  shareBps : recipient.shareBps = share.shareBps.toNat

theorem resolveFrom_apportion {recipients : List PrivateRecipient} {shares : List Share}
    (same : List.Forall₂ SameShare recipients shares) {balance allocated : Nat}
    (enough : allocated + (floors TOTAL_BPS balance (weights shares).dropLast).sum ≤ balance) :
    List.Forall₂ Distribution.Denotes (resolveFrom balance allocated recipients)
      ((shares.map Share.recipient).zip
        (apportion TOTAL_BPS balance allocated (weights shares))) := by
  induction same generalizing allocated with
  | nil => exact .nil
  | @cons recipient share recipients shares here rest ih =>
    have ends : recipients = [] ↔ shares = [] := by
      rw [← List.length_eq_zero_iff, ← List.length_eq_zero_iff, rest.length_eq]
    rw [apportion_weights_cons, resolveFrom, List.map_cons, List.zip_cons_cons]
    by_cases last : shares = []
    · have last' := ends.mpr last
      subst last last'
      simp only [weights, List.map_cons, List.map_nil, List.dropLast_singleton, floors,
        List.sum_nil, Nat.add_zero] at enough
      refine .cons ⟨here.address, ?_⟩ .nil
      simp only [if_true]
      omega
    · have last' : recipients ≠ [] := fun none => last (ends.mp none)
      have more : weights shares ≠ [] := by simpa [weights] using last
      have split : (weights (share :: shares)).dropLast =
          share.shareBps.toNat :: (weights shares).dropLast := List.dropLast_cons_of_ne_nil more
      simp only [split, floors, List.map_cons, List.sum_cons] at enough
      have amount : ((balance : Int) * recipient.shareBps).tdiv 10000 =
          (balance * share.shareBps.toNat / TOTAL_BPS : Nat) := by
        rw [here.shareBps, ← Nat.cast_mul]
        exact Int.ofNat_tdiv _ _
      rw [if_neg last, if_neg last', amount, ← Nat.cast_add]
      refine .cons ⟨here.address, rfl⟩ (ih ?_)
      simp only [floors]
      omega

def thirds : List Share :=
  [⟨.replicate 20 0x22, 3333⟩, ⟨.replicate 20 0x33, 3333⟩, ⟨.replicate 20 0x44, 3334⟩]

def thirdsPolicy : State :=
  { deployedPolicy with
    storage :=
      { deployedPolicy.storage with
        commitment := keccak256 (encodeShares thirds (.zero 32))
        status := .triggered
        triggeredAt := 1700000000 } }

def thirdsContext : Context := ⟨.replicate 20 0x01, .replicate 20 0xbb, 1700000060, 114⟩

def recoversOne : OpenZeppelin := .ofRecover fun _ _ => .ok (.replicate 20 0x77)

-- Everybody agrees, and the balance is 1001.
def thirdsAnswers (query : Query) : Answer :=
  match query.call with
  | .isAttested _ => .bool true
  | .balanceOf _ => .uint 1001
  | _ => .success

example : apportion TOTAL_BPS 1001 0 (weights thirds) = [333, 333, 335] := by decide

end FlareStudio.EndToEnd
