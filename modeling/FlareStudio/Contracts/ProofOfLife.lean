import FlareStudio.Contracts.ManualHeartbeatTrigger
import FlareStudio.Contracts.PolicyFactory
import FlareStudio.Contracts.PolicyRules

set_option autoImplicit false

namespace FlareStudio.ProofOfLife

open ConfidentialPolicy Reentrant

structure Chain where
  now : Nat
  manual : ManualHeartbeatTrigger.State
  policies : Address → Option ConfidentialPolicy.State

inductive Action where
  | configure (policy owner : Address) (interval : UInt64) (demoMode : Bool)
  | heartbeat (policy : Address)
  | simulateInactivity (policy : Address)
  -- `others` is what the contracts besides the check-in trigger answer.
  | arm (policy : Address) (proof : Bytes) (others : Query → Answer)
  -- Whatever else happens to the policies: new clones, deposits, arms through other triggers.
  | elsewhere (policies : Address → Option ConfidentialPolicy.State)

structure Transaction where
  sender : Address
  now : Nat
  action : Action

inductive Revert where
  | noPolicy
  | policy (error : PolicyError)
  | trigger (error : ManualHeartbeatTrigger.TriggerError)

variable (trigger : Address) (chainId : Nat)

-- The trigger has check and no other function that a policy calls.
def Chain.answers (chain : Chain) (now : Nat) (others : Query → Answer) (query : Query) : Answer :=
  if query.target = trigger then
    match query.call with
    | .check policy _ =>
      match ManualHeartbeatTrigger.check chain.manual now policy with
      | .ok met => .bool met
      | .error _ => .failure
    | _ => .failure
  else others query

def Chain.withManual (chain : Chain) (now : Nat) :
    Except ManualHeartbeatTrigger.TriggerError ManualHeartbeatTrigger.State → Except Revert Chain
  | .ok manual => .ok { chain with now, manual }
  | .error error => .error (.trigger error)

def Chain.apply (chain : Chain) (tx : Transaction) : Except Revert Chain :=
  match tx.action with
  | .configure policy owner interval demoMode => chain.withManual tx.now
      (ManualHeartbeatTrigger.configure chain.manual tx.now policy owner interval demoMode)
  | .heartbeat policy => chain.withManual tx.now
      (ManualHeartbeatTrigger.heartbeat chain.manual tx.now tx.sender policy)
  | .simulateInactivity policy => chain.withManual tx.now
      (ManualHeartbeatTrigger.simulateInactivity chain.manual tx.now tx.sender policy)
  | .arm policy proof others =>
    match chain.policies policy with
    | none => .error .noPolicy
    | some state =>
      match Program.run (chain.answers trigger tx.now others)
          (arm ⟨policy, tx.sender, tx.now, chainId⟩ proof) state with
      | .ok ((), armed) =>
        .ok { chain with now := tx.now, policies := Function.update chain.policies policy armed }
      | .error error => .error (.policy error)
  | .elsewhere policies => .ok { chain with now := tx.now, policies }

-- The transactions accepted so far, oldest first.
inductive History : List Transaction → Chain → Prop
  | genesis (policies : Address → Option ConfidentialPolicy.State) :
      History [] ⟨0, ManualHeartbeatTrigger.deployed, policies⟩
  | accepted {log : List Transaction} {chain next : Chain} {tx : Transaction}
      (history : History log chain) (ordered : chain.now ≤ tx.now) (bounded : tx.now < 2 ^ 64)
      (applied : chain.apply trigger chainId tx = .ok next) : History (log ++ [tx]) next

def Transaction.configures (policy : Address) (tx : Transaction) : Bool :=
  match tx.action with
  | .configure target _ _ _ => decide (target = policy)
  | _ => false

def Transaction.heartbeats (policy : Address) (tx : Transaction) : Bool :=
  match tx.action with
  | .heartbeat target => decide (target = policy)
  | _ => false

def latest (event : Transaction → Bool) (log : List Transaction) : Option Nat :=
  (log.filter event).getLast?.map Transaction.now

def checkedIn (log : List Transaction) (policy : Address) : Option Nat :=
  (latest (Transaction.heartbeats policy) log).or (latest (Transaction.configures policy) log)

theorem latest_append (event : Transaction → Bool) (log : List Transaction) (tx : Transaction) :
    latest event (log ++ [tx]) = if event tx then some tx.now else latest event log := by
  by_cases happens : event tx = true <;> simp [latest, happens]

structure CheckedIn (log : List Transaction) (chain : Chain) (policy : Address) : Prop where
  unowned : (chain.manual.configs policy).owner = .zero 20 →
    latest (Transaction.heartbeats policy) log = none
  deadline : (chain.manual.configs policy).owner ≠ .zero 20 →
    (chain.manual.configs policy).demoMode = false → ∃ time, checkedIn log policy = some time ∧
      (chain.manual.configs policy).deadline.toNat =
        time + (chain.manual.configs policy).interval.toNat

-- Nothing that leaves the policy's record alone checks in for it.
theorem CheckedIn.elsewhere {log : List Transaction} {chain next : Chain} {tx : Transaction}
    {policy : Address} (checked : CheckedIn log chain policy)
    (same : next.manual.configs policy = chain.manual.configs policy)
    (configures : tx.configures policy = false) (heartbeats : tx.heartbeats policy = false) :
    CheckedIn (log ++ [tx]) next policy := by
  obtain ⟨unowned, deadline⟩ := checked
  constructor
  · rw [same, latest_append, heartbeats]
    exact unowned
  · rw [same, checkedIn, latest_append, latest_append, configures, heartbeats]
    exact deadline

theorem Chain.withManual_eq_ok {chain next : Chain} {now : Nat}
    {result : Except ManualHeartbeatTrigger.TriggerError ManualHeartbeatTrigger.State}
    (applied : chain.withManual now result = .ok next) :
    ∃ manual, result = .ok manual ∧ next = { chain with now, manual } := by
  cases result with
  | ok manual => exact ⟨manual, rfl, (Except.ok.inj applied).symm⟩
  | error error => cases applied

theorem checkIn_deadline {now : Nat} {interval : UInt64} (bounded : now < 2 ^ 64)
    (fits : (UInt64.ofNat now).toNat + interval.toNat < 2 ^ 64) :
    (UInt64.ofNat now + interval).toNat = now + interval.toNat := by
  have exact : (UInt64.ofNat now).toNat = now := UInt64.toNat_ofNat_of_lt' bounded
  rw [UInt64.toNat_add, exact, Nat.mod_eq_of_lt (exact ▸ fits)]

variable {trigger chainId}

theorem apply_checkedIn {log : List Transaction} {chain next : Chain} {tx : Transaction}
    {policy : Address} (checked : CheckedIn log chain policy) (bounded : tx.now < 2 ^ 64)
    (applied : chain.apply trigger chainId tx = .ok next) :
    CheckedIn (log ++ [tx]) next policy := by
  obtain ⟨sender, now, action⟩ := tx
  cases action with
  | configure target owner interval demoMode =>
    obtain ⟨manual, accepted, rfl⟩ := Chain.withManual_eq_ok applied
    by_cases here : policy = target
    · subst here
      obtain ⟨free, fits, configs⟩ := ManualHeartbeatTrigger.configure_accepts accepted
      have silent := checked.unowned free
      constructor
      · intro _
        rw [latest_append]
        exact silent
      · intro _ _
        refine ⟨now, ?_, ?_⟩
        · rw [checkedIn, latest_append, latest_append, Transaction.heartbeats,
            Transaction.configures]
          simp [silent]
        · simp only [configs, Function.update_self]
          exact checkIn_deadline bounded fits
    · apply checked.elsewhere (ManualHeartbeatTrigger.configure_elsewhere accepted here)
      · simpa [Transaction.configures] using Ne.symm here
      · rfl
  | heartbeat target =>
    obtain ⟨manual, accepted, rfl⟩ := Chain.withManual_eq_ok applied
    by_cases here : policy = target
    · subst here
      obtain ⟨owned, -, fits, configs⟩ := ManualHeartbeatTrigger.heartbeat_accepts accepted
      constructor
      · intro unowned
        rw [configs, Function.update_self] at unowned
        exact absurd unowned owned
      · intro _ _
        refine ⟨now, ?_, ?_⟩
        · rw [checkedIn, latest_append, Transaction.heartbeats]
          simp
        · simp only [configs, Function.update_self]
          exact checkIn_deadline bounded fits
    · apply checked.elsewhere (ManualHeartbeatTrigger.heartbeat_elsewhere accepted here)
      · rfl
      · simpa [Transaction.heartbeats] using Ne.symm here
  | simulateInactivity target =>
    obtain ⟨manual, accepted, rfl⟩ := Chain.withManual_eq_ok applied
    by_cases here : policy = target
    · subst here
      obtain ⟨owned, demo, configs⟩ :=
        ManualHeartbeatTrigger.simulateInactivity_accepts accepted
      constructor
      · intro unowned
        rw [configs, Function.update_self] at unowned
        exact absurd unowned owned
      · intro _ real
        simp [configs, demo] at real
    · exact checked.elsewhere (ManualHeartbeatTrigger.simulateInactivity_elsewhere accepted here)
        rfl rfl
  | arm target proof others =>
    simp only [Chain.apply] at applied
    split at applied
    · cases applied
    · split at applied
      · cases applied
        exact checked.elsewhere rfl rfl rfl
      · cases applied
  | elsewhere policies =>
    cases applied
    exact checked.elsewhere rfl rfl rfl

theorem history_checkedIn {log : List Transaction} {chain : Chain}
    (history : History trigger chainId log chain) (policy : Address) :
    CheckedIn log chain policy := by
  induction history with
  | genesis policies => exact ⟨fun _ => rfl, fun owned => absurd rfl owned⟩
  | accepted _ _ bounded applied ih => exact apply_checkedIn ih bounded applied

-- An arm asks the trigger first, and goes on only if it answers true.
theorem arm_asks {answers : Query → Answer} {ctx : Context} {proof : Bytes}
    {state armed : ConfidentialPolicy.State}
    (ran : Program.run answers (arm ctx proof) state = .ok ((), armed)) :
    answers ⟨state.storage.trigger, .check ctx.self proof⟩ = .bool true := by
  simp only [arm, run_bind_eq_ok, run_inStatus_eq_ok, run_readStorage_eq_ok, run_callBool_eq_ok,
    run_require_eq_ok] at ran
  obtain ⟨-, _, ⟨-, rfl⟩, _, _, ⟨rfl, rfl⟩, met, _, ⟨asked, rfl⟩, -, _, ⟨rfl, rfl⟩, -⟩ := ran
  exact asked

theorem answers_check {chain : Chain} {now : Nat} {others : Query → Answer} {policy : Address}
    {proof : Bytes}
    (met : chain.answers trigger now others ⟨trigger, .check policy proof⟩ = .bool true) :
    ManualHeartbeatTrigger.check chain.manual now policy = .ok true := by
  simp only [Chain.answers, if_true] at met
  split at met
  · rename_i met' checked
    cases met
    exact checked
  · cases met

/-- An arm through the trigger of a policy without the demo control is accepted only when the
interval since the last check-in has passed, and the demo control is no check-in of anyone's. -/
theorem armed_after_interval {log : List Transaction} {chain : Chain}
    (history : History trigger chainId log chain) (policy : Address)
    (real : (chain.manual.configs policy).demoMode = false) :
    (∀ sender now proof others state next, chain.policies policy = some state →
      state.storage.trigger = trigger →
      chain.apply trigger chainId ⟨sender, now, .arm policy proof others⟩ = .ok next →
        ∃ time, checkedIn log policy = some time ∧
          time + (chain.manual.configs policy).interval.toNat < now) ∧
    (∀ sender now target next,
      chain.apply trigger chainId ⟨sender, now, .simulateInactivity target⟩ = .ok next →
        next.manual.configs policy = chain.manual.configs policy) := by
  constructor
  · intro sender now proof others state next held through applied
    simp only [Chain.apply, held] at applied
    split at applied
    · rename_i armed ran
      have asked := arm_asks ran
      rw [through] at asked
      have met : ManualHeartbeatTrigger.check chain.manual now policy = .ok true :=
        answers_check asked
      obtain ⟨owned, passed⟩ := ManualHeartbeatTrigger.check_eq_true.mp met
      obtain ⟨time, last, deadline⟩ := (history_checkedIn history policy).deadline owned real
      exact ⟨time, last, by omega⟩
    · cases applied
  · intro sender now target next applied
    obtain ⟨manual, accepted, rfl⟩ := Chain.withManual_eq_ok applied
    apply ManualHeartbeatTrigger.simulateInactivity_elsewhere accepted
    intro here
    subst here
    obtain ⟨-, demo, -⟩ := ManualHeartbeatTrigger.simulateInactivity_accepts accepted
    rw [real] at demo
    cases demo

def clone : Address := .replicate 20 0x01

def checkIns : List Transaction :=
  [⟨ownerAccount, 1700000000, .configure clone ownerAccount 3600 false⟩,
    ⟨ownerAccount, 1700001000, .heartbeat clone⟩]

-- One second more than the interval after the heartbeat.
def lateArm : Transaction := ⟨.replicate 20 0xbb, 1700004601, .arm clone [] fun _ => .failure⟩

def heldPolicies (policy : Address) : Option ConfidentialPolicy.State :=
  if policy = clone then some deployedPolicy else none

def checkedInChain : Chain where
  now := 1700001000
  manual :=
    { configs := Function.update (Function.update ManualHeartbeatTrigger.deployed.configs clone
        ⟨ownerAccount, 3600, 1700003600, false⟩) clone ⟨ownerAccount, 3600, 1700004600, false⟩
      events := [.configured clone 3600 false, .heartbeat clone 1700004600] }
  policies := heldPolicies

theorem checkIns_history : History deployedPolicy.storage.trigger 114 checkIns checkedInChain := by
  have configured : History deployedPolicy.storage.trigger 114 (checkIns.take 1) _ :=
    .accepted (.genesis heldPolicies) (Nat.zero_le _) (by decide) rfl
  exact .accepted configured (by decide) (by decide) rfl

theorem lateArm_after_interval :
    ∃ next, checkedInChain.apply deployedPolicy.storage.trigger 114 lateArm = .ok next ∧
      ∃ time, checkedIn checkIns clone = some time ∧
        time + (checkedInChain.manual.configs clone).interval.toNat < 1700004601 := by
  have safe := armed_after_interval checkIns_history clone rfl
  have applied : checkedInChain.apply deployedPolicy.storage.trigger 114 lateArm = .ok _ := rfl
  exact ⟨_, applied, safe.1 _ _ _ _ deployedPolicy _ rfl rfl applied⟩

end FlareStudio.ProofOfLife
