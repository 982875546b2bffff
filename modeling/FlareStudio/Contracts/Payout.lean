import FlareStudio.Contracts.PolicyRules
import FlareStudio.Shared.Apportion

set_option autoImplicit false

namespace FlareStudio.ConfidentialPolicy

open Reentrant Program Apportion

def weights (shares : List Share) : List Nat := shares.map fun share => share.shareBps.toNat

-- A call and its answer, without the address that was called.
def issued (exchange : Query × Answer) : ForeignCall × Answer := (exchange.1.call, exchange.2)

def payment (paid : Share × Nat) : ForeignCall × Answer :=
  (.safeTransfer paid.1.recipient paid.2, .success)

theorem apportion_weights_cons (available allocated : Nat) (share : Share) (rest : List Share) :
    apportion TOTAL_BPS available allocated (weights (share :: rest)) =
      let amount := if rest = [] then available - allocated
        else available * share.shareBps.toNat / TOTAL_BPS
      amount :: apportion TOTAL_BPS available (allocated + amount) (weights rest) := by
  simp [weights, apportion]

section Returns

theorem sumShares_returns {shares : List Share} {totalBps total : Nat} {state final : State}
    {exchanges : List (Query × Answer)}
    (returns : (sumShares totalBps shares).Returns state exchanges total final) :
    exchanges = [] ∧ total = totalBps + (weights shares).sum ∧ final = state := by
  induction shares generalizing totalBps exchanges state with
  | nil =>
    obtain ⟨silent, same, here⟩ := returns_pure.mp returns
    exact ⟨silent, by simp [weights, same], here⟩
  | cons share rest ih =>
    obtain ⟨_, sum, _, _, first, later, rfl⟩ := returns_bind.mp returns
    obtain ⟨-, rfl, rfl, rfl⟩ := returns_checkedAdd.mp first
    obtain ⟨rfl, rfl, rfl⟩ := ih later
    exact ⟨rfl, by simp [weights, Nat.add_assoc], rfl⟩

-- Whatever the token does inside a transfer, the amounts were fixed by the balance read before.
theorem payout_returns {shares : List Share} {available allocated : Nat} {state final : State}
    {exchanges : List (Query × Answer)}
    (returns : (payout available allocated shares).Returns state exchanges () final) :
    exchanges.map issued =
      (shares.zip (apportion TOTAL_BPS available allocated (weights shares))).map payment := by
  induction shares generalizing allocated exchanges state with
  | nil =>
    obtain ⟨rfl, -⟩ := returns_pure.mp returns
    rfl
  | cons share rest ih =>
    have pay (amount : Nat) {exchanges : List (Query × Answer)} (returns : Program.Returns (do
        let allocated ← checkedAdd allocated amount
        let storage ← readStorage
        callSuccess ⟨storage.asset, .safeTransfer share.recipient amount⟩
        payout available allocated rest) state exchanges () final) :
        exchanges.map issued = payment (share, amount) :: (rest.zip
          (apportion TOTAL_BPS available (allocated + amount) (weights rest))).map payment := by
      obtain ⟨_, sum, _, _, added, pays, rfl⟩ := returns_bind.mp returns
      obtain ⟨-, rfl, rfl, rfl⟩ := returns_checkedAdd.mp added
      rw [returns_readStorage_bind] at pays
      obtain ⟨_, _, _, _, paid, later, rfl⟩ := returns_bind.mp pays
      have transfer := returns_callSuccess.mp paid
      subst transfer
      simp only [List.nil_append, List.cons_append, List.map_cons, ih later]
      rfl
    rw [payout] at returns
    rw [apportion_weights_cons, List.zip_cons_cons, List.map_cons]
    by_cases last : rest = []
    · rw [if_pos last] at returns ⊢
      obtain ⟨_, amount, _, _, left, pays, rfl⟩ := returns_bind.mp returns
      obtain ⟨-, rfl, rfl, rfl⟩ := returns_checkedSub.mp left
      exact pay _ pays
    · rw [if_neg last] at returns ⊢
      obtain ⟨_, product, _, _, multiplied, divides, rfl⟩ := returns_bind.mp returns
      obtain ⟨-, rfl, rfl, rfl⟩ := returns_checkedMul.mp multiplied
      obtain ⟨_, amount, _, _, divided, pays, rfl⟩ := returns_bind.mp divides
      obtain ⟨rfl, rfl, rfl⟩ := returns_pure.mp divided
      exact pay _ pays

theorem execute_returns {oz : OpenZeppelin} {ctx : Context} {shares : List Share} {salt : Bytes32}
    {sig : Bytes} {state final : State} {exchanges : List (Query × Answer)}
    (returns : (execute oz ctx shares salt sig).Returns state exchanges () final) :
    (weights shares).sum = TOTAL_BPS ∧ ∃ signer available,
      exchanges.map issued = (.isAttested signer, .bool true) ::
        (.balanceOf ctx.self, .uint available) ::
        (shares.zip (apportion TOTAL_BPS available 0 (weights shares))).map payment := by
  rw [execute] at returns
  obtain ⟨_, _, _, _, status, checks, rfl⟩ := returns_bind.mp returns
  obtain ⟨-, rfl, rfl⟩ := returns_inStatus.mp status
  simp only [returns_readStorage_bind, returns_require_bind] at checks
  obtain ⟨-, recovers⟩ := checks
  obtain ⟨_, signer, _, _, recovered, gated, rfl⟩ := returns_bind.mp recovers
  obtain ⟨-, rfl, rfl⟩ := returns_recoverSigner.mp recovered
  obtain ⟨_, attested, _, _, gate, sums, rfl⟩ := returns_bind.mp gated
  have asked := returns_callBool.mp gate
  subst asked
  simp only [returns_require_bind] at sums
  obtain ⟨rfl, sums⟩ := sums
  obtain ⟨_, total, _, _, summed, reads, rfl⟩ := returns_bind.mp sums
  obtain ⟨rfl, rfl, rfl⟩ := sumShares_returns summed
  simp only [returns_readStorage_bind, returns_require_bind, Nat.zero_add] at reads
  obtain ⟨whole, reads⟩ := reads
  obtain ⟨_, available, _, _, balance, sets, rfl⟩ := returns_bind.mp reads
  have held := returns_callUint.mp balance
  subst held
  simp only [returns_require_bind] at sets
  obtain ⟨-, sets⟩ := sets
  obtain ⟨_, _, _, _, set, pays, rfl⟩ := returns_bind.mp sets
  obtain ⟨rfl, rfl⟩ := returns_setStatus.mp set
  obtain ⟨_, _, _, _, paid, emits, rfl⟩ := returns_bind.mp pays
  obtain ⟨rfl, -⟩ := returns_emit.mp emits
  refine ⟨whole, signer, available, ?_⟩
  simp only [List.nil_append, List.append_nil, List.cons_append, List.map_cons,
    payout_returns paid]
  rfl

end Returns

section Run

variable {answers : Query → Answer} {state : State}

theorem sumShares_runs {shares : List Share} {totalBps : Nat}
    (fits : totalBps + (weights shares).sum < 2 ^ 256) :
    run answers (sumShares totalBps shares) state =
      .ok (totalBps + (weights shares).sum, state) := by
  induction shares generalizing totalBps with
  | nil => rfl
  | cons share rest ih =>
    simp only [weights, List.map_cons, List.sum_cons, ← Nat.add_assoc] at fits ⊢
    rw [sumShares, run_bind_eq_ok]
    refine ⟨totalBps + share.shareBps.toNat, state, ?_, ih fits⟩
    rw [run_checkedAdd_eq_ok]
    exact ⟨by omega, rfl, rfl⟩

-- What was allocated and what is still to be rounded down never exceed the balance, so no
-- subtraction underflows and no sum overflows.
theorem payout_runs {shares : List Share} {available allocated : Nat}
    (fits : available * TOTAL_BPS < 2 ^ 256) (small : ∀ weight ∈ weights shares, weight ≤ TOTAL_BPS)
    (enough : allocated + (floors TOTAL_BPS available (weights shares).dropLast).sum ≤ available)
    (pays : ∀ receiver amount,
      answers ⟨state.storage.asset, .safeTransfer receiver amount⟩ = .success) :
    run answers (payout available allocated shares) state = .ok ((), state) := by
  have bounded : available < 2 ^ 256 := by
    unfold TOTAL_BPS at fits
    omega
  induction shares generalizing allocated with
  | nil => rfl
  | cons share rest ih =>
    have pay (amount : Nat) (within : allocated + amount ≤ available)
        (later : run answers (payout available (allocated + amount) rest) state =
          .ok ((), state)) : run answers (do
            let allocated ← checkedAdd allocated amount
            let storage ← readStorage
            callSuccess ⟨storage.asset, .safeTransfer share.recipient amount⟩
            payout available allocated rest) state = .ok ((), state) := by
      simp only [run_bind_eq_ok, run_checkedAdd_eq_ok, run_readStorage_eq_ok,
        run_callSuccess_eq_ok]
      exact ⟨_, _, ⟨by omega, rfl, rfl⟩, _, _, ⟨rfl, rfl⟩, (), _, ⟨pays _ _, rfl⟩, later⟩
    rw [payout]
    by_cases last : rest = []
    · subst last
      simp only [weights, List.map_cons, List.map_nil, List.dropLast_singleton, floors,
        List.sum_nil] at enough
      rw [if_pos rfl, run_bind_eq_ok]
      refine ⟨available - allocated, state, ?_, pay _ (by omega) rfl⟩
      rw [run_checkedSub_eq_ok]
      exact ⟨by omega, rfl, rfl⟩
    · have more : weights rest ≠ [] := by simpa [weights] using last
      have split : (weights (share :: rest)).dropLast =
          share.shareBps.toNat :: (weights rest).dropLast := List.dropLast_cons_of_ne_nil more
      simp only [split, floors, List.map_cons, List.sum_cons] at enough
      have weight : share.shareBps.toNat ≤ TOTAL_BPS := small _ (by simp [weights])
      have product := Nat.mul_le_mul_left available weight
      rw [if_neg last, run_bind_eq_ok]
      refine ⟨available * share.shareBps.toNat, state, ?_, ?_⟩
      · rw [run_checkedMul_eq_ok]
        exact ⟨by omega, rfl, rfl⟩
      · rw [run_bind_eq_ok]
        refine ⟨available * share.shareBps.toNat / TOTAL_BPS, state, rfl, pay _ ?_ ?_⟩
        · omega
        · apply ih
          · intro weight member
            exact small weight (List.mem_cons_of_mem _ member)
          · simp only [floors]
            omega

theorem execute_runs {oz : OpenZeppelin} {ctx : Context} {shares : List Share} {salt : Bytes32}
    {sig : Bytes} {signer : Address} {available : Nat}
    (accepts : Accepts oz ctx state shares salt sig signer)
    (attested : answers ⟨state.storage.attestorGate, .isAttested signer⟩ = .bool true)
    (whole : (weights shares).sum = TOTAL_BPS)
    (balance : answers ⟨state.storage.asset, .balanceOf ctx.self⟩ = .uint available)
    (nonzero : available ≠ 0) (fits : available * TOTAL_BPS < 2 ^ 256)
    (pays : ∀ receiver amount,
      answers ⟨state.storage.asset, .safeTransfer receiver amount⟩ = .success) :
    run answers (execute oz ctx shares salt sig) state =
      .ok ((), (state.withStatus .executed).withEvent (.policyExecuted signer available)) := by
  obtain ⟨triggered, commitment, recovered⟩ := accepts_iff.mp accepts
  have apportioned := apportion_apportioned available whole (by decide)
  have small : ∀ weight ∈ weights shares, weight ≤ TOTAL_BPS := by
    intro weight member
    rw [← whole]
    exact List.single_le_sum (fun _ _ => Nat.zero_le _) weight member
  have summed : run answers (sumShares 0 shares) state = .ok (TOTAL_BPS, state) := by
    rw [sumShares_runs, whole, Nat.zero_add]
    rw [whole]
    decide
  have paid : run answers (payout available 0 shares) (state.withStatus .executed) =
      .ok ((), state.withStatus .executed) :=
    payout_runs fits small (by simpa using apportioned.within) pays
  simp only [execute, run_bind_eq_ok, run_inStatus_eq_ok, run_readStorage_eq_ok,
    run_require_eq_ok, run_recoverSigner_eq_ok, run_callBool_eq_ok, run_callUint_eq_ok,
    run_setStatus_eq_ok, run_emit_eq_ok]
  exact ⟨(), _, ⟨triggered, rfl⟩, _, _, ⟨rfl, rfl⟩, (), _, ⟨commitment, rfl⟩, signer, _,
    ⟨recovered, rfl⟩, true, _, ⟨attested, rfl⟩, (), _, ⟨rfl, rfl⟩, _, _, summed, (), _, ⟨rfl, rfl⟩,
    _, _, ⟨rfl, rfl⟩, available, _, ⟨balance, rfl⟩, (), _, ⟨nonzero, rfl⟩, (), _, rfl, (), _, paid,
    rfl⟩

end Run

end FlareStudio.ConfidentialPolicy
