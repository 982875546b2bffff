import FlareStudio.Contracts.FdcNonexistenceTrigger
import FlareStudio.Contracts.ManualHeartbeatTrigger
import FlareStudio.Contracts.PolicyFactory
import FlareStudio.Contracts.TimestampTrigger
import FlareStudio.Shared.WriteOnce

set_option autoImplicit false

namespace FlareStudio.TriggerOwnership

open WriteOnce

structure Chain where
  deployments : List PolicyFactory.Deployment
  manual : ManualHeartbeatTrigger.State
  timestamp : TimestampTrigger.State
  fdc : FdcNonexistenceTrigger.State

inductive Action where
  -- `clone` is the address the new contract gets.
  | deploy (clone asset : Address) (commitment : Bytes32) (attestorGate trigger : Address)
      (conditions : List Address)
  | configureManual (policy owner : Address) (interval : UInt64) (demoMode : Bool)
  | heartbeat (policy : Address)
  | simulateInactivity (policy : Address)
  | configureTimestamp (policy : Address) (executeAfter : UInt64)
  | configureFdc (policy : Address) (config : FdcNonexistenceTrigger.Config)
deriving DecidableEq

structure Transaction where
  sender : Address
  now : Nat
  action : Action
deriving DecidableEq

inductive Revert where
  | addressTaken
  | policy (error : ConfidentialPolicy.PolicyError)
  | manual (error : ManualHeartbeatTrigger.TriggerError)
  | timestamp (error : TimestampTrigger.TriggerError)
  | fdc (error : FdcNonexistenceTrigger.TriggerError)

def within {σ ε : Type} (error : ε → Revert) (update : σ → Chain) :
    Except ε σ → Except Revert Chain
  | .ok state => .ok (update state)
  | .error reason => .error (error reason)

theorem within_eq_ok {σ ε : Type} {error : ε → Revert} {update : σ → Chain} {result : Except ε σ}
    {next : Chain} (applied : within error update result = .ok next) :
    ∃ state, result = .ok state ∧ next = update state := by
  cases result with
  | ok state => exact ⟨state, rfl, (Except.ok.inj applied).symm⟩
  | error reason => cases applied

def Chain.apply (chain : Chain) (tx : Transaction) : Except Revert Chain :=
  match tx.action with
  | .deploy clone asset commitment attestorGate trigger conditions =>
      if clone ∈ chain.deployments.map PolicyFactory.Deployment.policy then .error .addressTaken
      else within .policy
        (fun deployment => { chain with deployments := chain.deployments ++ [deployment] })
        (PolicyFactory.deploy clone tx.sender asset commitment attestorGate trigger conditions)
  | .configureManual policy owner interval demoMode =>
      within .manual (fun manual => { chain with manual })
        (ManualHeartbeatTrigger.configure chain.manual tx.now policy owner interval demoMode)
  | .heartbeat policy =>
      within .manual (fun manual => { chain with manual })
        (ManualHeartbeatTrigger.heartbeat chain.manual tx.now tx.sender policy)
  | .simulateInactivity policy =>
      within .manual (fun manual => { chain with manual })
        (ManualHeartbeatTrigger.simulateInactivity chain.manual tx.now tx.sender policy)
  | .configureTimestamp policy executeAfter =>
      within .timestamp (fun timestamp => { chain with timestamp })
        (TimestampTrigger.configure chain.timestamp tx.now policy executeAfter)
  | .configureFdc policy config =>
      within .fdc (fun fdc => { chain with fdc })
        (FdcNonexistenceTrigger.configure chain.fdc policy config)

def Chain.genesis : Chain :=
  ⟨[], ManualHeartbeatTrigger.deployed, TimestampTrigger.deployed, FdcNonexistenceTrigger.deployed⟩

-- The transactions accepted so far, oldest first.
inductive History : List Transaction → Chain → Prop
  | genesis : History [] .genesis
  | accepted {log : List Transaction} {chain next : Chain} {tx : Transaction}
      (history : History log chain) (applied : chain.apply tx = .ok next) :
      History (log ++ [tx]) next
  | reverted {log : List Transaction} {chain : Chain} {tx : Transaction} {reason : Revert}
      (history : History log chain) (failed : chain.apply tx = .error reason) : History log chain

def manualRegister : Register Address ManualHeartbeatTrigger.Terms Transaction where
  writes tx :=
    match tx.action with
    | .configureManual policy owner interval demoMode => some (policy, ⟨owner, interval, demoMode⟩)
    | _ => none
  held terms := decide (terms.owner ≠ .zero 20)

def timestampRegister : Register Address UInt64 Transaction where
  writes tx :=
    match tx.action with
    | .configureTimestamp policy executeAfter => some (policy, executeAfter)
    | _ => none
  held executeAfter := decide (executeAfter ≠ 0)

def fdcRegister : Register Address FdcNonexistenceTrigger.Config Transaction where
  writes tx :=
    match tx.action with
    | .configureFdc policy config => some (policy, config)
    | _ => none
  held config := decide (config.owner ≠ .zero 20)

structure Registered (log : List Transaction) (chain : Chain) : Prop where
  manual : Run manualRegister Chain.genesis.manual.terms log chain.manual.terms
  timestamp : Run timestampRegister Chain.genesis.timestamp.executeAfter log
    chain.timestamp.executeAfter
  fdc : Run fdcRegister Chain.genesis.fdc.configs log chain.fdc.configs

theorem apply_registered {log : List Transaction} {chain next : Chain} {tx : Transaction}
    (registered : Registered log chain) (applied : chain.apply tx = .ok next) :
    Registered (log ++ [tx]) next := by
  obtain ⟨manual, timestamp, fdc⟩ := registered
  obtain ⟨sender, now, action⟩ := tx
  cases action with
  | deploy clone asset commitment attestorGate trigger conditions =>
    simp only [Chain.apply] at applied
    split at applied
    · cases applied
    · obtain ⟨deployment, -, rfl⟩ := within_eq_ok applied
      exact ⟨.other manual rfl, .other timestamp rfl, .other fdc rfl⟩
  | configureManual policy owner interval demoMode =>
    obtain ⟨state, accepted, rfl⟩ := within_eq_ok applied
    obtain ⟨free, terms⟩ := ManualHeartbeatTrigger.configure_terms accepted
    have unheld : manualRegister.held (chain.manual.terms policy) = false := by
      simpa [manualRegister] using free
    refine ⟨?_, .other timestamp rfl, .other fdc rfl⟩
    rw [terms]
    exact .write manual unheld rfl
  | heartbeat policy =>
    obtain ⟨state, accepted, rfl⟩ := within_eq_ok applied
    have terms := ManualHeartbeatTrigger.heartbeat_terms accepted
    refine ⟨?_, .other timestamp rfl, .other fdc rfl⟩
    rw [terms]
    exact .other manual rfl
  | simulateInactivity policy =>
    obtain ⟨state, accepted, rfl⟩ := within_eq_ok applied
    have terms := ManualHeartbeatTrigger.simulateInactivity_terms accepted
    refine ⟨?_, .other timestamp rfl, .other fdc rfl⟩
    rw [terms]
    exact .other manual rfl
  | configureTimestamp policy executeAfter =>
    obtain ⟨state, accepted, rfl⟩ := within_eq_ok applied
    obtain ⟨free, -, configs⟩ := TimestampTrigger.configure_executeAfter accepted
    have unheld : timestampRegister.held (chain.timestamp.executeAfter policy) = false := by
      simpa [timestampRegister] using free
    refine ⟨.other manual rfl, ?_, .other fdc rfl⟩
    rw [configs]
    exact .write timestamp unheld rfl
  | configureFdc policy config =>
    obtain ⟨state, accepted, rfl⟩ := within_eq_ok applied
    obtain ⟨free, -, configs⟩ := FdcNonexistenceTrigger.configure_accepts accepted
    have unheld : fdcRegister.held (chain.fdc.configs policy) = false := by
      simpa [fdcRegister] using not_not.mp free
    refine ⟨.other manual rfl, .other timestamp rfl, ?_⟩
    rw [configs]
    exact .write fdc unheld rfl

theorem history_registered {log : List Transaction} {chain : Chain} (history : History log chain) :
    Registered log chain := by
  induction history with
  | genesis => exact ⟨.start, .start, .start⟩
  | accepted _ applied ih => exact apply_registered ih applied
  | reverted _ _ ih => exact ih

structure HeldFromFirst {V : Type} (register : Register Address V Transaction)
    (log : List Transaction) (policy owner : Address) (value : V) : Prop where
  first : register.held value = true →
    ∃ tx, register.first log policy = some tx ∧ register.writes tx = some (policy, value)
  owners : register.held value = true →
    (∀ tx, register.first log policy = some tx → tx.sender = owner) →
      ∃ tx ∈ log, tx.sender = owner ∧ register.writes tx = some (policy, value)

theorem heldFromFirst {V : Type} {register : Register Address V Transaction}
    {log : List Transaction} {initial store : Address → V} (run : Run register initial log store)
    (policy owner : Address) (empty : register.held (initial policy) = false) :
    HeldFromFirst register log policy owner (store policy) := by
  have holds := run.first_holds policy empty
  have first : register.held (store policy) = true →
      ∃ tx, register.first log policy = some tx ∧
        register.writes tx = some (policy, store policy) := by
    intro held
    cases found : register.first log policy with
    | none =>
      rw [found, held] at holds
      cases holds
    | some tx =>
      rw [found] at holds
      exact ⟨tx, rfl, holds⟩
  refine ⟨first, fun held unraced => ?_⟩
  obtain ⟨tx, found, writes⟩ := first held
  exact ⟨tx, List.mem_of_find?_eq_some found, unraced tx found, writes⟩

/-- A trigger holds for a policy what the first accepted configure for it carried, which is the
owner's if the owner's was the first. -/
theorem first_configure_holds {log : List Transaction} {chain : Chain}
    (history : History log chain) :
    ∀ deployment ∈ chain.deployments,
      HeldFromFirst manualRegister log deployment.policy deployment.state.storage.owner
          (chain.manual.terms deployment.policy) ∧
        HeldFromFirst timestampRegister log deployment.policy deployment.state.storage.owner
          (chain.timestamp.executeAfter deployment.policy) ∧
        HeldFromFirst fdcRegister log deployment.policy deployment.state.storage.owner
          (chain.fdc.configs deployment.policy) := by
  intro deployment _
  obtain ⟨manual, timestamp, fdc⟩ := history_registered history
  exact ⟨heldFromFirst manual _ _ rfl, heldFromFirst timestamp _ _ rfl, heldFromFirst fdc _ _ rfl⟩

def owner : Address := .replicate 20 0xaa

def stranger : Address := .replicate 20 0xbb

def clone : Address := .replicate 20 0x01

def deployment : PolicyFactory.Deployment :=
  ⟨clone, PolicyFactory.deployedState owner (.replicate 20 0x0a) (.replicate 32 0xcc)
    (.replicate 20 0x6a) (.replicate 20 0x7a) [],
    ⟨clone, owner, .replicate 20 0x0a, .replicate 32 0xcc, .replicate 20 0x7a⟩⟩

def deployTx : Transaction :=
  ⟨owner, 1700000000, .deploy clone (.replicate 20 0x0a) (.replicate 32 0xcc) (.replicate 20 0x6a)
    (.replicate 20 0x7a) []⟩

def configureBy (sender : Address) (interval : UInt64) : Transaction :=
  ⟨sender, 1700000000, .configureManual clone sender interval true⟩

theorem deployTx_history : History [deployTx]
    { Chain.genesis with deployments := [deployment] } := .accepted .genesis rfl

-- The stranger's configure comes second and reverts.
theorem owner_first_holds :
    ∃ chain, History [deployTx, configureBy owner 86400] chain ∧
      chain.apply (configureBy stranger 1) = .error (.manual .alreadyConfigured) ∧
      (chain.manual.configs clone).owner = owner ∧
      HeldFromFirst manualRegister [deployTx, configureBy owner 86400] clone owner
        (chain.manual.terms clone) := by
  have configured : History [deployTx, configureBy owner 86400] _ := .accepted deployTx_history rfl
  refine ⟨_, configured, rfl, rfl, ?_⟩
  exact (first_configure_holds configured deployment (List.mem_singleton_self _)).1

def strangersFdc : FdcNonexistenceTrigger.Config where
  owner := stranger
  sourceId := .replicate 32 0x01
  destinationAddressHash := .replicate 32 0x02
  paymentReference := .replicate 32 0x03
  minimumAmount := 1
  interval := 1
  start := 0

-- Between the owner's deploy and configure, a stranger configures all three triggers.
def overtaken : List Transaction :=
  [deployTx, configureBy stranger 1, ⟨stranger, 1700000000, .configureTimestamp clone 1700000001⟩,
    ⟨stranger, 1700000000, .configureFdc clone strangersFdc⟩]

theorem stranger_configures_first :
    ∃ chain, History overtaken chain ∧ chain.deployments = [deployment] ∧
      deployment.state.storage.owner = owner ∧
      (chain.manual.configs clone).owner = stranger ∧
      chain.timestamp.executeAfter clone = 1700000001 ∧
      chain.fdc.configs clone = strangersFdc ∧
      (∀ tx ∈ overtaken, tx.sender = owner → manualRegister.writes tx = none ∧
        timestampRegister.writes tx = none ∧ fdcRegister.writes tx = none) ∧
      chain.apply (configureBy owner 86400) = .error (.manual .alreadyConfigured) := by
  have manual : History [deployTx, configureBy stranger 1] _ := .accepted deployTx_history rfl
  have timestamp : History [deployTx, configureBy stranger 1,
      ⟨stranger, 1700000000, .configureTimestamp clone 1700000001⟩] _ := .accepted manual rfl
  have fdc : History overtaken _ := .accepted timestamp rfl
  exact ⟨_, fdc, rfl, rfl, rfl, rfl, rfl, by decide, rfl⟩

end FlareStudio.TriggerOwnership
