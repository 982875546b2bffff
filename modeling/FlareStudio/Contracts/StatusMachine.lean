import FlareStudio.Contracts.PolicyFactory

set_option autoImplicit false

namespace FlareStudio.ConfidentialPolicy

open Reentrant Program CallMachine

inductive Transition : Status → Status → Prop where
  | arm : Transition .active .triggered
  | cancel : Transition .active .cancelled
  | execute : Transition .triggered .executed

def Write.isStatus : Write → Bool
  | .status _ _ => true
  | .triggeredAt _ => false

def Write.isFinal : Write → Bool
  | .status _ .executed | .status _ .cancelled => true
  | _ => false

structure StatusMachine (state : State) : Prop where
  transitions : ∀ old new, .status old new ∈ state.writes → Transition old new
  final : state.writes.Pairwise fun earlier later => earlier.isFinal → ¬ later.isStatus
  armedOnce : (state.writes.filter fun write => !write.isStatus).length ≤ 1

-- The writes each status is reached by: the invariant of every call but an arm whose trigger
-- calls back.
def Phase (state : State) : Prop :=
  match state.storage.status with
  | .active => state.writes = []
  | .triggered => ∃ value, state.writes = [.status .active .triggered, .triggeredAt value]
  | .executed => ∃ value, state.writes =
      [.status .active .triggered, .triggeredAt value, .status .triggered .executed]
  | .cancelled => state.writes = [.status .active .cancelled]

theorem Phase.statusMachine {state : State} (phase : Phase state) : StatusMachine state := by
  unfold Phase at phase
  have cases : state.writes = [] ∨ state.writes = [.status .active .cancelled] ∨
      (∃ value, state.writes = [.status .active .triggered, .triggeredAt value]) ∨
      (∃ value, state.writes =
        [.status .active .triggered, .triggeredAt value, .status .triggered .executed]) := by
    cases status : state.storage.status <;> simp_all
  rcases cases with writes | writes | ⟨value, writes⟩ | ⟨value, writes⟩ <;>
    refine ⟨?_, ?_, ?_⟩ <;> rw [writes]
  all_goals try simp [Write.isFinal, Write.isStatus]
  · exact .cancel
  · exact .arm
  · rintro old new (⟨rfl, rfl⟩ | ⟨rfl, rfl⟩)
    · exact .arm
    · exact .execute

theorem Phase.of_active {state : State} (phase : Phase state)
    (active : state.storage.status = .active) : state.writes = [] := by
  simpa [Phase, active] using phase

-- An initialized clone in its phase: what every call keeps.
structure Settled (state : State) : Prop where
  initialized : state.storage.initialized = true
  phase : Phase state

theorem Settled.withEvent {state : State} (settled : Settled state) (event : Event) :
    Settled (state.withEvent event) := ⟨settled.initialized, settled.phase⟩

theorem Settled.cancelled {state : State} (settled : Settled state)
    (active : state.storage.status = .active) : Settled (state.withStatus .cancelled) := by
  have unwritten := settled.phase.of_active active
  refine ⟨settled.initialized, ?_⟩
  simp [Phase, State.withStatus, active, unwritten]

theorem Settled.executed {state : State} (settled : Settled state)
    (triggered : state.storage.status = .triggered) : Settled (state.withStatus .executed) := by
  obtain ⟨value, writes⟩ : ∃ value,
      state.writes = [.status .active .triggered, .triggeredAt value] := by
    simpa [Phase, triggered] using settled.phase
  refine ⟨settled.initialized, ?_⟩
  simp [Phase, State.withStatus, triggered, writes]

theorem Settled.armed {state : State} (settled : Settled state)
    (active : state.storage.status = .active) (timestamp : Nat) :
    Settled ((state.withStatus .triggered).withTriggeredAt timestamp) := by
  have unwritten := settled.phase.of_active active
  refine ⟨settled.initialized, ?_⟩
  simp [Phase, State.withStatus, State.withTriggeredAt, active, unwritten]

def Evolves (before after : PolicyWorld) : Prop := Settled before.state → Settled after.state

/-- When the last contract that an arm asks answers yes, which is the last condition or, without
any, the trigger, the policy is still active: nothing the trigger called has moved the status away
from what the arm checked. -/
def StillActive (_saved : PolicyWorld) (query : Query) (answer : Answer) (found : PolicyWorld) :
    Prop :=
  match query.call, answer with
  | .check _ _, .bool true =>
    found.state.storage.conditions = [] → found.state.storage.status = .active
  | .isSatisfied _, .bool true =>
    found.state.storage.conditions.getLast? = some query.target →
      found.state.storage.status = .active
  | _, _ => True

abbrev statusRules (oz : OpenZeppelin) (id : Nat) (message : Message) (saved : PolicyWorld) :=
  callRules (contract oz ForeignCall.isView) Evolves StillActive id message saved

section Calls

variable (oz : OpenZeppelin) (id : Nat) (message : Message) (saved : PolicyWorld)

theorem payout_settled (available allocated : Nat) (shares : List Share) (world : PolicyWorld)
    (settled : Settled world.state) :
    wp (statusRules oz id message saved) (payout available allocated shares)
      (fun _ later => Settled later.state) world := by
  induction shares generalizing allocated world with
  | nil => exact settled
  | cons share rest ih =>
    have pay (amount : Nat) : wp (statusRules oz id message saved) (do
        let allocated ← checkedAdd allocated amount
        let storage ← readStorage
        callSuccess ⟨storage.asset, .safeTransfer share.recipient amount⟩
        payout available allocated rest) (fun _ later => Settled later.state) world := by
      simp only [wp_bind, wp_checkedAdd, wp_readStorage, wp_callSuccess]
      intro _
      exact ⟨fun _ => settled, fun found relied => ih _ found (relied.2.1 settled)⟩
    by_cases last : rest = []
    · simpa [payout, last] using fun _ => pay (available - allocated)
    · simpa [payout, last] using fun _ => pay (available * share.shareBps.toNat / TOTAL_BPS)

variable (ctx : Context) (settled : Settled saved.state)
include settled

theorem initializePolicy_settled (owner_ asset_ : Address) (commitment_ : Bytes32)
    (attestorGate_ trigger_ : Address) (conditions_ : List Address) :
    wp (statusRules oz id message saved)
      (initializePolicy owner_ asset_ commitment_ attestorGate_ trigger_ conditions_)
      (fun _ later => Settled later.state) saved := by
  have initialized := settled.initialized
  simp [initializePolicy, initialized]

theorem deposit_settled (amount : Nat) :
    wp (statusRules oz id message saved) (deposit ctx amount)
      (fun _ later => Settled later.state) saved := by
  simp only [deposit, wp_bind, wp_inStatus, wp_readStorage, wp_callSuccess, wp_emit]
  intro _
  refine ⟨fun _ => settled, fun found relied => ?_⟩
  have kept : Settled found.state := relied.2.1 settled
  exact kept.withEvent _

theorem withdraw_settled (amount : Nat) :
    wp (statusRules oz id message saved) (withdraw ctx amount)
      (fun _ later => Settled later.state) saved := by
  simp only [withdraw, wp_bind, wp_onlyOwner, wp_inStatus, wp_readStorage, wp_callSuccess, wp_emit]
  intro _ _
  refine ⟨fun _ => settled, fun found relied => ?_⟩
  have kept : Settled found.state := relied.2.1 settled
  exact kept.withEvent _

theorem cancel_settled :
    wp (statusRules oz id message saved) (cancel ctx) (fun _ later => Settled later.state)
      saved := by
  simp only [cancel, wp_bind, wp_onlyOwner, wp_inStatus, wp_readStorage, wp_setStatus,
    wp_callUint]
  intro _ active
  have moved := settled.cancelled active
  refine ⟨fun _ => moved, fun remaining found relied => ?_⟩
  have kept : Settled found.state := relied.2.1 moved
  by_cases some : remaining > 0
  · simp only [some, if_true, wp_bind, wp_callSuccess, wp_emit]
    refine ⟨fun _ => kept, fun later relied => ?_⟩
    have still : Settled later.state := relied.2.1 kept
    exact still.withEvent _
  · simpa [some] using kept.withEvent .cancelled

-- The status is checked before the trigger is called and written after the conditions: what keeps
-- the phase is that the trigger leaves it active, which the last answer finds.
theorem arm_settled (proof : Bytes) :
    wp (statusRules oz id message saved) (arm ctx proof) (fun _ later => Settled later.state)
      saved := by
  simp only [arm, wp_bind, wp_inStatus, wp_readStorage, wp_callBool, wp_require]
  intro _
  refine ⟨fun _ => settled, ?_⟩
  rintro met found ⟨-, evolved, still⟩ rfl
  have kept : Settled found.state := evolved settled
  apply wp_checkConditions _ _ _ _ _ _ (fun _ => True) fun target =>
    found.state.storage.conditions.getLast? = some target → found.state.storage.status = .active
  · intro target answer asked found relied
    exact relied.1 rfl
  · intro target asked answered relied unchanged
    rw [← unchanged]
    exact relied.2.2
  · trivial
  · exact fun _ _ _ => trivial
  · exact fun _ _ _ => kept
  · intro log _ satisfied
    have active : found.state.storage.status = .active := by
      cases last : found.state.storage.conditions.getLast? with
      | none => exact still (List.getLast?_eq_none_iff.mp last)
      | some target => exact satisfied target (List.mem_of_getLast? last) last
    simp only [wp_setStatus, wp_setTriggeredAt, wp_emit]
    exact (kept.armed active ctx.timestamp).withEvent _

theorem execute_settled (shares : List Share) (salt : Bytes32) (sig : Bytes) :
    wp (statusRules oz id message saved) (execute oz ctx shares salt sig)
      (fun _ later => Settled later.state) saved := by
  simp only [execute, wp_bind, wp_inStatus, wp_readStorage, wp_require, wp_recoverSigner,
    wp_callBool]
  intro triggered _ signer _
  refine ⟨fun _ => settled, ?_⟩
  rintro attested found ⟨static, -, -⟩ _
  have unchanged := static rfl
  subst unchanged
  refine wp_sumShares _ _ _ _ _ fun total => ?_
  simp only [wp_callUint]
  intro _
  refine ⟨fun _ => settled, ?_⟩
  rintro available found ⟨static, -, -⟩ _
  have unchanged := static rfl
  subst unchanged
  simp only [wp_setStatus]
  have moved := settled.executed triggered
  refine wp_mono _ ?_ (payout_settled oz id message saved available 0 shares ⟨_, _⟩ moved)
  intro _ later settled
  exact settled.withEvent _

theorem dispatch_settled :
    wp (statusRules oz id message saved) (dispatch oz message)
      (fun _ later => Settled later.state) saved := by
  unfold dispatch
  cases message.call with
  | initializePolicy => exact initializePolicy_settled oz id message saved settled _ _ _ _ _ _
  | deposit amount => exact deposit_settled oz id message saved _ settled amount
  | withdraw amount => exact withdraw_settled oz id message saved _ settled amount
  | cancel => exact cancel_settled oz id message saved _ settled
  | arm proof => exact arm_settled oz id message saved _ settled proof
  | execute shares salt sig => exact execute_settled oz id message saved _ settled shares salt sig

end Calls

theorem evolves_guaranteed (oz : OpenZeppelin) {state : State} (settled : Settled state) :
    Guaranteed (contract oz ForeignCall.isView) Evolves StillActive ⟨state, []⟩ where
  refl _ := id
  trans first second := second ∘ first
  entry id message world evolved := by
    refine wp_mono _ ?_ (dispatch_settled oz id message world (evolved settled))
    intro _ later settled _
    exact settled

theorem deployed_settled {clone sender asset : Address} {commitment : Bytes32}
    {attestorGate trigger : Address} {conditions : List Address}
    {deployment : PolicyFactory.Deployment}
    (deployed : PolicyFactory.deploy clone sender asset commitment attestorGate trigger conditions
      = .ok deployment) : Settled deployment.state := by
  rw [PolicyFactory.deploy_eq] at deployed
  cases deployed
  exact ⟨rfl, rfl⟩

theorem statusMachine_of_stillActive (oz : OpenZeppelin) {clone sender asset : Address}
    {commitment : Bytes32} {attestorGate trigger : Address} {conditions : List Address}
    {deployment : PolicyFactory.Deployment}
    (deployed : PolicyFactory.deploy clone sender asset commitment attestorGate trigger conditions
      = .ok deployment)
    {machine : PolicyMachine}
    (reached : Reachable (contract oz ForeignCall.isView) (Admitted StillActive)
      (.start deployment.state) machine) :
    StatusMachine machine.world.state := by
  have settled := deployed_settled deployed
  have evolved := (evolves_guaranteed oz settled).reachable reached
  exact (evolved settled).phase.statusMachine

def quietArm : List (Input Answer Message) :=
  [.call (sentBy (.replicate 20 0xbb) (.arm [])), .answer (.bool true)]

theorem quietArm_statusMachine :
    ∃ machine : PolicyMachine,
      (Machine.start deployedPolicy).runs (contract recoversNothing ForeignCall.isView) quietArm
        = some machine ∧
      machine.world.state.storage.status = .triggered ∧ StatusMachine machine.world.state := by
  have permitted : Permitted (contract recoversNothing ForeignCall.isView)
      (Admitted StillActive) (.start deployedPolicy) quietArm := by
    refine ⟨trivial, ?_⟩
    rintro _ ⟨⟩
    exact ⟨fun _ => rfl, fun _ _ => trivial⟩
  refine ⟨_, rfl, rfl, ?_⟩
  exact statusMachine_of_stillActive _ (PolicyFactory.deploy_eq (.replicate 20 0x01) ownerAccount
    (.replicate 20 0x0a) (.replicate 32 0xcc) (.replicate 20 0x6a) (.replicate 20 0x7a) [])
    (permitted.reachable .refl rfl)

-- The trigger has the owner contract cancel while the arm waits for its answer.
def cancelInsideCheck : List (Input Answer Message) :=
  [.call (sentBy (.replicate 20 0xbb) (.arm [])), .call (sentBy ownerAccount .cancel),
    .answer (.uint 0), .answer (.bool true)]

theorem cancelInsideCheck_breaks :
    ∃ machine : PolicyMachine,
      (Machine.start deployedPolicy).runs (contract recoversNothing ForeignCall.isView)
        cancelInsideCheck = some machine ∧
      machine.world.state.writes = [.status .active .cancelled, .status .cancelled .triggered,
        .triggeredAt 1700000000] ∧
      ¬ StatusMachine machine.world.state := by
  refine ⟨_, rfl, rfl, fun sound => ?_⟩
  have transition : Transition .cancelled .triggered :=
    sound.transitions _ _ (by decide)
  cases transition

end FlareStudio.ConfidentialPolicy
