import FlareStudio.Contracts.PolicyFactory

set_option autoImplicit false

namespace FlareStudio.ConfidentialPolicy

open Reentrant Program CallMachine

abbrev PolicyEntry := Entry State Query Message

-- The shipped triggers read their own storage and make at most a static call to the verifier.
def ForeignCall.cannotCallBack : ForeignCall → Bool
  | .check _ _ => true
  | call => call.isView

structure SameTerms (deployed current : Storage) : Prop where
  initialized : current.initialized = true
  owner : current.owner = deployed.owner
  asset : current.asset = deployed.asset
  commitment : current.commitment = deployed.commitment
  attestorGate : current.attestorGate = deployed.attestorGate
  trigger : current.trigger = deployed.trigger
  conditions : current.conditions = deployed.conditions

def Call.isExit : Call → Bool
  | .withdraw _ | .cancel => true
  | _ => false

structure OwnerExit (deployed : Storage) (receiver : Address) (entry : PolicyEntry) : Prop where
  receiver : receiver = deployed.owner
  sender : entry.input.ctx.sender = deployed.owner
  call : entry.input.call.isExit = true
  active : entry.found.storage.status = .active

structure CommittedPayout (deployed : Storage) (receiver : Address) (entry : PolicyEntry) :
    Prop where
  reveals : ∃ shares salt sig, entry.input.call = .execute shares salt sig ∧
    keccak256 (encodeShares shares salt) = deployed.commitment ∧
    receiver ∈ shares.map Share.recipient
  triggered : entry.found.storage.status = .triggered

def Justified (deployed : Storage) (entry : PolicyEntry) : Prop :=
  match entry.query.call with
  | .safeTransfer receiver _ =>
      entry.query.target = deployed.asset ∧
        (OwnerExit deployed receiver entry ∨ CommittedPayout deployed receiver entry)
  | .safeTransferFrom source receiver amount =>
      entry.query.target = deployed.asset ∧ entry.input.call = .deposit amount ∧
        source = entry.input.ctx.sender ∧ receiver = entry.input.ctx.self
  | _ => True

def isPayout (entry : PolicyEntry) : Bool :=
  match entry.query.call, entry.input.call with
  | .safeTransfer _ _, .execute _ _ _ => true
  | _, _ => false

def payouts (log : List PolicyEntry) : List PolicyEntry := log.filter isPayout

theorem OwnerExit.justified {deployed : Storage} {receiver : Address} {entry : PolicyEntry}
    (exit : OwnerExit deployed receiver entry) {amount : Nat}
    (query : entry.query = ⟨deployed.asset, .safeTransfer receiver amount⟩) :
    Justified deployed entry := by
  simpa only [Justified, query] using ⟨trivial, .inl exit⟩

theorem OwnerExit.not_payout {deployed : Storage} {receiver : Address} {entry : PolicyEntry}
    (exit : OwnerExit deployed receiver entry) : isPayout entry = false := by
  have call := exit.call
  unfold Call.isExit at call
  unfold isPayout
  split <;> simp_all

structure FundSafe (deployed : Storage) (world : PolicyWorld) : Prop where
  terms : SameTerms deployed world.state.storage
  justified : ∀ entry ∈ world.log, Justified deployed entry
  -- One payout loop, since an id names one call.
  single : ∀ first ∈ payouts world.log, ∀ second ∈ payouts world.log, first.id = second.id
  paid : payouts world.log ≠ [] → world.state.storage.status = .executed

theorem payouts_append_other (log : List PolicyEntry) {entry : PolicyEntry}
    (other : isPayout entry = false) : payouts (log ++ [entry]) = payouts log := by
  simp [payouts, other]

theorem mem_payouts_append {log : List PolicyEntry} {entry logged : PolicyEntry}
    (member : logged ∈ payouts (log ++ [entry])) : logged ∈ payouts log ∨ logged = entry := by
  simp only [payouts, List.mem_filter, List.mem_append, List.mem_singleton] at member ⊢
  rcases member with ⟨before | now, pays⟩
  · exact .inl ⟨before, pays⟩
  · exact .inr now

namespace FundSafe

variable {deployed : Storage} {world : PolicyWorld}

theorem unpaid (safe : FundSafe deployed world)
    (moving : world.state.storage.status ≠ .executed) : payouts world.log = [] := by
  by_contra some
  exact moving (safe.paid some)

theorem record (safe : FundSafe deployed world) (entry : PolicyEntry)
    (justified : Justified deployed entry) (other : isPayout entry = false) :
    FundSafe deployed ⟨world.state, world.log ++ [entry]⟩ where
  terms := safe.terms
  justified logged member := by
    rcases List.mem_append.mp member with before | now
    · exact safe.justified logged before
    · rw [List.mem_singleton.mp now]
      exact justified
  single := by simpa only [payouts_append_other _ other] using safe.single
  paid := by simpa only [payouts_append_other _ other] using safe.paid

theorem recordPayout (safe : FundSafe deployed world) (entry : PolicyEntry)
    (justified : Justified deployed entry)
    (executed : world.state.storage.status = .executed)
    (own : ∀ earlier ∈ payouts world.log, earlier.id = entry.id) :
    FundSafe deployed ⟨world.state, world.log ++ [entry]⟩ := by
  have same : ∀ logged ∈ payouts (world.log ++ [entry]), logged.id = entry.id := by
    intro logged member
    rcases mem_payouts_append member with before | now
    · exact own logged before
    · rw [now]
  refine ⟨safe.terms, ?_, ?_, fun _ => executed⟩
  · intro logged member
    rcases List.mem_append.mp member with before | now
    · exact safe.justified logged before
    · rw [List.mem_singleton.mp now]
      exact justified
  · intro first inFirst second inSecond
    rw [same first inFirst, same second inSecond]

theorem withEvent (safe : FundSafe deployed world) (event : Event) :
    FundSafe deployed ⟨world.state.withEvent event, world.log⟩ :=
  ⟨safe.terms, safe.justified, safe.single, safe.paid⟩

-- A status other than Executed is only ever left while nothing has been paid out.
theorem withStatus (safe : FundSafe deployed world)
    (moving : world.state.storage.status ≠ .executed) (status : Status) :
    FundSafe deployed ⟨world.state.withStatus status, world.log⟩ := by
  have unpaid := safe.unpaid moving
  obtain ⟨terms, justified, single, -⟩ := safe
  refine ⟨⟨terms.1, terms.2, terms.3, terms.4, terms.5, terms.6, terms.7⟩, justified, single, ?_⟩
  exact fun some => absurd unpaid some

theorem withTriggeredAt (safe : FundSafe deployed world) (value : Nat) :
    FundSafe deployed ⟨world.state.withTriggeredAt value, world.log⟩ := by
  obtain ⟨terms, justified, single, paid⟩ := safe
  exact ⟨⟨terms.1, terms.2, terms.3, terms.4, terms.5, terms.6, terms.7⟩, justified, single, paid⟩

end FundSafe

def FundEvolves (deployed : Storage) (before after : PolicyWorld) : Prop :=
  FundSafe deployed before → FundSafe deployed after ∧
    (before.state.storage.status = .executed → after.state.storage.status = .executed ∧
      payouts after.log = payouts before.log)

abbrev fundRules (oz : OpenZeppelin) (deployed : Storage) (id : Nat) (message : Message)
    (saved : PolicyWorld) :=
  callRules (contract oz ForeignCall.cannotCallBack) (FundEvolves deployed)
    (fun _ _ _ _ => True) id message saved

section Calls

variable (oz : OpenZeppelin) {deployed : Storage} (id : Nat) (message : Message)
variable (saved : PolicyWorld)

-- Every call from an executed policy reverts before it calls out, so a payout in progress only
-- has to be safe.
theorem evolves_of_moving {later : PolicyWorld}
    (moving : saved.state.storage.status ≠ .executed) (safe : FundSafe deployed later) :
    FundEvolves deployed saved later :=
  fun _ => ⟨safe, fun executed => absurd executed moving⟩

theorem payout_fundSafe {shares rest : List Share} {salt : Bytes32} {sig : Bytes}
    (called : message.call = .execute shares salt sig)
    (committed : keccak256 (encodeShares shares salt) = deployed.commitment)
    (triggered : saved.state.storage.status = .triggered) (listed : rest ⊆ shares)
    (available allocated : Nat) (world : PolicyWorld) (safe : FundSafe deployed world)
    (executed : world.state.storage.status = .executed)
    (own : ∀ entry ∈ payouts world.log, entry.id = id) :
    wp (fundRules oz deployed id message saved) (payout available allocated rest)
      (fun _ later => FundSafe deployed later) world := by
  induction rest generalizing allocated world with
  | nil => exact safe
  | cons share rest ih =>
    have pay (amount : Nat) : wp (fundRules oz deployed id message saved) (do
        let allocated ← checkedAdd allocated amount
        let storage ← readStorage
        callSuccess ⟨storage.asset, .safeTransfer share.recipient amount⟩
        payout available allocated rest) (fun _ later => FundSafe deployed later) world := by
      simp only [wp_bind, wp_checkedAdd, wp_readStorage, wp_callSuccess,
    callRules_record]
      intro _
      let entry : PolicyEntry := ⟨id, message, saved.state,
        ⟨world.state.storage.asset, .safeTransfer share.recipient amount⟩⟩
      have justified : Justified deployed entry := by
        refine ⟨safe.terms.asset, .inr ⟨⟨shares, salt, sig, called, committed, ?_⟩, triggered⟩⟩
        exact List.mem_map_of_mem (listed List.mem_cons_self)
      have asked := safe.recordPayout entry justified executed own
      have moving : saved.state.storage.status ≠ .executed := by simp [triggered]
      refine ⟨evolves_of_moving saved moving asked, ?_⟩
      rintro found ⟨-, evolved, -⟩
      obtain ⟨later, frozen⟩ := evolved asked
      obtain ⟨still, same⟩ := frozen executed
      refine ih (List.subset_of_cons_subset listed) _ found later still ?_
      intro logged member
      rw [same] at member
      rcases mem_payouts_append member with before | now
      · exact own logged before
      · rw [now]
    by_cases last : rest = []
    · simpa [payout, last] using fun _ => pay (available - allocated)
    · simpa [payout, last] using fun _ => pay (available * share.shareBps.toNat / TOTAL_BPS)

variable (safe : FundSafe deployed saved)
include safe

theorem deposit_fundSafe {amount : Nat} (called : message.call = .deposit amount) :
    wp (fundRules oz deployed id message saved) (deposit message.ctx amount)
      (fun _ later => FundEvolves deployed saved later) saved := by
  simp only [deposit, wp_bind, wp_inStatus, wp_readStorage, wp_callSuccess, wp_emit,
    callRules_record]
  intro active
  have moving : saved.state.storage.status ≠ .executed := by simp [active]
  have asked := safe.record ⟨id, message, saved.state, ⟨saved.state.storage.asset,
    .safeTransferFrom message.ctx.sender message.ctx.self amount⟩⟩
    ⟨safe.terms.asset, called, rfl, rfl⟩ rfl
  refine ⟨evolves_of_moving saved moving asked, ?_⟩
  rintro found ⟨-, evolved, -⟩
  have kept := (evolved asked).1
  exact evolves_of_moving saved moving (kept.withEvent _)

theorem withdraw_fundSafe {amount : Nat} (called : message.call = .withdraw amount) :
    wp (fundRules oz deployed id message saved) (withdraw message.ctx amount)
      (fun _ later => FundEvolves deployed saved later) saved := by
  simp only [withdraw, wp_bind, wp_onlyOwner, wp_inStatus, wp_readStorage, wp_callSuccess, wp_emit,
    callRules_record]
  intro owned active
  have moving : saved.state.storage.status ≠ .executed := by simp [active]
  have owner := safe.terms.owner
  have exit : OwnerExit deployed saved.state.storage.owner ⟨id, message, saved.state,
      ⟨saved.state.storage.asset, .safeTransfer saved.state.storage.owner amount⟩⟩ :=
    ⟨owner, owned.trans owner, by simp [called, Call.isExit], active⟩
  have asked := safe.record _ (exit.justified (by rw [safe.terms.asset])) exit.not_payout
  refine ⟨evolves_of_moving saved moving asked, ?_⟩
  rintro found ⟨-, evolved, -⟩
  have kept := (evolved asked).1
  exact evolves_of_moving saved moving (kept.withEvent _)

theorem cancel_fundSafe (called : message.call = .cancel) :
    wp (fundRules oz deployed id message saved) (cancel message.ctx)
      (fun _ later => FundEvolves deployed saved later) saved := by
  simp only [cancel, wp_bind, wp_onlyOwner, wp_inStatus, wp_readStorage, wp_setStatus,
    wp_callUint, callRules_record]
  intro owned active
  have moving : saved.state.storage.status ≠ .executed := by simp [active]
  have owner := safe.terms.owner
  have asked := (safe.withStatus moving .cancelled).record ⟨id, message, saved.state,
    ⟨(saved.state.withStatus .cancelled).storage.asset, .balanceOf message.ctx.self⟩⟩ trivial rfl
  refine ⟨evolves_of_moving saved moving asked, ?_⟩
  rintro remaining found ⟨static, -, -⟩
  have unchanged := static rfl
  subst unchanged
  by_cases some : remaining > 0
  · simp only [some, if_true, wp_bind, wp_callSuccess, wp_emit,
    callRules_record]
    have exit : OwnerExit deployed saved.state.storage.owner ⟨id, message, saved.state,
        ⟨saved.state.storage.asset, .safeTransfer saved.state.storage.owner remaining⟩⟩ :=
      ⟨owner, owned.trans owner, by simp [called, Call.isExit], active⟩
    have paid := asked.record _ (exit.justified (by rw [safe.terms.asset])) exit.not_payout
    refine ⟨evolves_of_moving saved moving paid, ?_⟩
    rintro later ⟨-, evolved, -⟩
    have kept := (evolved paid).1
    exact evolves_of_moving saved moving (kept.withEvent _)
  · simpa [some] using evolves_of_moving saved moving (asked.withEvent .cancelled)

theorem arm_fundSafe (proof : Bytes) :
    wp (fundRules oz deployed id message saved) (arm message.ctx proof)
      (fun _ later => FundEvolves deployed saved later) saved := by
  simp only [arm, wp_bind, wp_inStatus, wp_readStorage, wp_callBool, wp_require,
    callRules_record]
  intro active
  have moving : saved.state.storage.status ≠ .executed := by simp [active]
  have asked := safe.record ⟨id, message, saved.state,
    ⟨saved.state.storage.trigger, .check message.ctx.self proof⟩⟩ trivial rfl
  refine ⟨evolves_of_moving saved moving asked, ?_⟩
  rintro met found ⟨static, -, -⟩ _
  have unchanged := static rfl
  subst unchanged
  apply wp_checkConditions _ _ _ _ _ _ (fun log => FundSafe deployed ⟨saved.state, log⟩)
    fun _ => True
  · intro target answer asked found relied
    exact relied.1 rfl
  · exact fun _ _ _ _ _ => trivial
  · exact asked
  · intro target log asked
    exact asked.record _ trivial rfl
  · intro log asked
    exact evolves_of_moving saved moving asked
  · intro log asked _
    simp only [wp_setStatus, wp_setTriggeredAt, wp_emit]
    have armed := (asked.withStatus moving .triggered).withTriggeredAt message.ctx.timestamp
    exact evolves_of_moving saved moving (armed.withEvent _)

theorem execute_fundSafe {shares : List Share} {salt : Bytes32} {sig : Bytes}
    (called : message.call = .execute shares salt sig) :
    wp (fundRules oz deployed id message saved) (execute oz message.ctx shares salt sig)
      (fun _ later => FundEvolves deployed saved later) saved := by
  simp only [execute, wp_bind, wp_inStatus, wp_readStorage, wp_require, wp_recoverSigner,
    wp_callBool, callRules_record]
  intro triggered committed signer _
  have moving : saved.state.storage.status ≠ .executed := by simp [triggered]
  have asked := safe.record ⟨id, message, saved.state,
    ⟨saved.state.storage.attestorGate, .isAttested signer⟩⟩ trivial rfl
  refine ⟨evolves_of_moving saved moving asked, ?_⟩
  rintro attested found ⟨static, -, -⟩ _
  have unchanged := static rfl
  subst unchanged
  refine wp_sumShares _ _ _ _ _ fun total => ?_
  simp only [wp_callUint, callRules_record]
  intro _
  have balance := asked.record ⟨id, message, saved.state,
    ⟨saved.state.storage.asset, .balanceOf message.ctx.self⟩⟩ trivial rfl
  refine ⟨evolves_of_moving saved moving balance, ?_⟩
  rintro available found ⟨static, -, -⟩ _
  have unchanged := static rfl
  subst unchanged
  simp only [wp_setStatus]
  have unpaid := balance.unpaid moving
  have begun := balance.withStatus moving .executed
  refine wp_mono _ ?_ (payout_fundSafe oz id message saved called
    (committed.trans safe.terms.commitment) triggered (List.Subset.refl shares) available 0
    ⟨_, _⟩ begun rfl ?_)
  · intro _ later kept
    exact evolves_of_moving saved moving (kept.withEvent _)
  · intro entry member
    have none : entry ∈ [] := unpaid ▸ member
    cases none

theorem dispatch_fundSafe :
    wp (fundRules oz deployed id message saved) (dispatch oz message)
      (fun _ later => FundEvolves deployed saved later) saved := by
  unfold dispatch
  cases called : message.call with
  | initializePolicy =>
    have initialized := safe.terms.initialized
    simp [initializePolicy, initialized]
  | deposit amount => exact deposit_fundSafe oz id message saved safe called
  | withdraw amount => exact withdraw_fundSafe oz id message saved safe called
  | cancel => exact cancel_fundSafe oz id message saved safe called
  | arm proof => exact arm_fundSafe oz id message saved safe proof
  | execute shares salt sig => exact execute_fundSafe oz id message saved safe called

end Calls

theorem fund_guaranteed (oz : OpenZeppelin) {deployed : Storage} {state : State}
    (safe : FundSafe deployed ⟨state, []⟩) :
    Guaranteed (contract oz ForeignCall.cannotCallBack) (FundEvolves deployed)
      (fun _ _ _ _ => True) ⟨state, []⟩ where
  refl _ safe := ⟨safe, fun executed => ⟨executed, rfl⟩⟩
  trans := by
    intro first second third evolved evolved' safe
    obtain ⟨safe, frozen⟩ := evolved safe
    obtain ⟨safe, frozen'⟩ := evolved' safe
    refine ⟨safe, fun executed => ?_⟩
    obtain ⟨executed, same⟩ := frozen executed
    obtain ⟨executed, same'⟩ := frozen' executed
    exact ⟨executed, same'.trans same⟩
  entry id message world evolved :=
    dispatch_fundSafe oz id message world (evolved safe).1

/-- Whatever the accounts and the asset do, an outgoing transfer is the owner's withdrawal or
refund from an active policy, or one payout of the committed split. -/
theorem policy_fundSafe (oz : OpenZeppelin) {clone sender asset : Address}
    {commitment : Bytes32} {attestorGate trigger : Address} {conditions : List Address}
    {deployment : PolicyFactory.Deployment}
    (deployed : PolicyFactory.deploy clone sender asset commitment attestorGate trigger conditions
      = .ok deployment)
    {machine : PolicyMachine}
    (reached : Reachable (contract oz ForeignCall.cannotCallBack) (fun _ _ => True)
      (.start deployment.state) machine) :
    FundSafe
      { initialized := true, owner := sender, asset, commitment, attestorGate, trigger, conditions,
        status := .active, triggeredAt := 0 }
      machine.world := by
  rw [PolicyFactory.deploy_eq] at deployed
  cases deployed
  have initial : FundSafe (PolicyFactory.deployedState sender asset commitment attestorGate trigger
      conditions).storage ⟨PolicyFactory.deployedState sender asset commitment attestorGate
      trigger conditions, []⟩ := by
    refine ⟨⟨rfl, rfl, rfl, rfl, rfl, rfl, rfl⟩, ?_, ?_, ?_⟩ <;> simp [payouts]
  exact ((fund_guaranteed oz initial).reachable_free reached initial).1

-- The asset calls back twice from the owner's withdrawal: a stranger's withdrawal reverts, the
-- owner's cancellation refunds the rest.
def withdrawReentered : List (Input Answer Message) :=
  [.call (sentBy ownerAccount (.withdraw 5)), .call (sentBy (.replicate 20 0xbb) (.withdraw 7)),
    .call (sentBy ownerAccount .cancel), .answer (.uint 3), .answer .success, .answer .success]

theorem withdrawReentered_fundSafe :
    ∃ machine : PolicyMachine,
      (Machine.start deployedPolicy).runs (contract recoversNothing ForeignCall.cannotCallBack)
        withdrawReentered = some machine ∧
      machine.world.log.map (fun entry => entry.query.call) =
        [.safeTransfer ownerAccount 5, .balanceOf (.replicate 20 0x01),
          .safeTransfer ownerAccount 3] ∧
      FundSafe deployedPolicy.storage machine.world := by
  refine ⟨_, rfl, rfl, ?_⟩
  have permitted (machine : PolicyMachine) (inputs : List (Input Answer Message)) :
      Permitted (contract recoversNothing ForeignCall.cannotCallBack) (fun _ _ => True) machine
        inputs := by
    induction inputs generalizing machine with
    | nil => trivial
    | cons input rest ih => exact ⟨trivial, fun next _ => ih next⟩
  exact policy_fundSafe _ (PolicyFactory.deploy_eq (.replicate 20 0x01) ownerAccount
    (.replicate 20 0x0a) (.replicate 32 0xcc) (.replicate 20 0x6a) (.replicate 20 0x7a) [])
    ((permitted _ withdrawReentered).reachable .refl rfl)

end FlareStudio.ConfidentialPolicy
