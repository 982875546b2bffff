import FlareStudio.Contracts.TriggerOwnership

set_option autoImplicit false

-- Both triggers tell that a policy is configured from the owner in the record, which is whatever
-- the caller passed.

namespace FlareStudio.TriggerOwnership

open WriteOnce

structure ManualOnce (log : List Transaction) (chain : Chain) (policy : Address) : Prop where
  once : (manualRegister.written log policy).length ≤ 1
  kept : ∀ terms ∈ manualRegister.written log policy, chain.manual.terms policy = terms
  locked : manualRegister.written log policy ≠ [] → ∀ now owner interval demoMode,
    ManualHeartbeatTrigger.configure chain.manual now policy owner interval demoMode =
      .error .alreadyConfigured
  configured : manualRegister.written log policy ≠ [] → ∀ now,
    ManualHeartbeatTrigger.check chain.manual now policy ≠ .error .notConfigured
  -- What is left to move is the deadline.
  moves : manualRegister.written log policy ≠ [] → ∀ tx next, chain.apply tx = .ok next →
    next.manual.configs policy ≠ chain.manual.configs policy →
      tx.action = .heartbeat policy ∨ tx.action = .simulateInactivity policy

structure FdcOnce (log : List Transaction) (chain : Chain) (policy : Address) : Prop where
  once : (fdcRegister.written log policy).length ≤ 1
  kept : ∀ config ∈ fdcRegister.written log policy, chain.fdc.configs policy = config
  locked : fdcRegister.written log policy ≠ [] → ∀ config,
    FdcNonexistenceTrigger.configure chain.fdc policy config = .error .alreadyConfigured
  configured : fdcRegister.written log policy ≠ [] → ∀ verifier now proof,
    FdcNonexistenceTrigger.check verifier chain.fdc now policy proof ≠ .error .notConfigured

theorem locked_manual {chain : Chain} {policy : Address}
    (held : (chain.manual.terms policy).owner ≠ .zero 20) (now : Nat) (owner : Address)
    (interval : UInt64) (demoMode : Bool) :
    ManualHeartbeatTrigger.configure chain.manual now policy owner interval demoMode =
      .error .alreadyConfigured := by
  have owned : (chain.manual.configs policy).owner ≠ .zero 20 := held
  simp [ManualHeartbeatTrigger.configure, Checked.require, owned, bind, Except.bind]

theorem apply_moves {chain next : Chain} {tx : Transaction} {policy : Address}
    (applied : chain.apply tx = .ok next)
    (held : (chain.manual.terms policy).owner ≠ .zero 20)
    (moved : next.manual.configs policy ≠ chain.manual.configs policy) :
    tx.action = .heartbeat policy ∨ tx.action = .simulateInactivity policy := by
  obtain ⟨sender, now, action⟩ := tx
  cases action with
  | deploy clone asset commitment attestorGate trigger conditions =>
    simp only [Chain.apply] at applied
    split at applied
    · cases applied
    · obtain ⟨deployment, -, rfl⟩ := within_eq_ok applied
      exact absurd rfl moved
  | configureManual target owner interval demoMode =>
    obtain ⟨state, accepted, rfl⟩ := within_eq_ok applied
    by_cases here : policy = target
    · subst here
      rw [locked_manual held] at accepted
      cases accepted
    · exact absurd (ManualHeartbeatTrigger.configure_elsewhere accepted here) moved
  | heartbeat target =>
    obtain ⟨state, accepted, rfl⟩ := within_eq_ok applied
    by_cases here : policy = target
    · subst here
      exact .inl rfl
    · exact absurd (ManualHeartbeatTrigger.heartbeat_elsewhere accepted here) moved
  | simulateInactivity target =>
    obtain ⟨state, accepted, rfl⟩ := within_eq_ok applied
    by_cases here : policy = target
    · subst here
      exact .inr rfl
    · exact absurd (ManualHeartbeatTrigger.simulateInactivity_elsewhere accepted here) moved
  | configureTimestamp | configureFdc =>
    obtain ⟨state, -, rfl⟩ := within_eq_ok applied
    exact absurd rfl moved

theorem manualOnce_iff {log : List Transaction} {chain : Chain} (history : History log chain)
    (policy : Address) : ManualOnce log chain policy ↔
      ∀ terms ∈ manualRegister.written log policy, terms.owner ≠ .zero 20 := by
  constructor
  · intro sound terms member unowned
    have kept := sound.kept terms member
    apply sound.configured (List.ne_nil_of_mem member) 0
    have free : (chain.manual.configs policy).owner = .zero 20 := by
      rw [← kept] at unowned
      exact unowned
    simp [ManualHeartbeatTrigger.check, Checked.require, free, bind, Except.bind]
  · intro owned
    have each : ∀ terms ∈ manualRegister.written log policy,
        manualRegister.held terms = true := by
      intro terms member
      simpa [manualRegister] using owned terms member
    rcases (history_registered history).manual.written_once policy each with ⟨none, -⟩ | once
    · constructor <;> simp [none]
    · have held : (chain.manual.terms policy).owner ≠ .zero 20 := owned _ (by simp [once])
      constructor
      · simp [once]
      · simp [once]
      · exact fun _ => locked_manual held
      · intro _ now
        have stored : (chain.manual.configs policy).owner ≠ .zero 20 := held
        simp [ManualHeartbeatTrigger.check, Checked.require, stored, bind, Except.bind]
      · intro _ tx next applied moved
        exact apply_moves applied held moved

theorem fdcOnce_iff {log : List Transaction} {chain : Chain} (history : History log chain)
    (policy : Address) : FdcOnce log chain policy ↔
      ∀ config ∈ fdcRegister.written log policy, config.owner ≠ .zero 20 := by
  constructor
  · intro sound config member unowned
    have kept := sound.kept config member
    apply sound.configured (List.ne_nil_of_mem member) (fun _ => none) 0 []
    simp [FdcNonexistenceTrigger.check, Checked.require, kept, unowned, bind, Except.bind]
  · intro owned
    have each : ∀ config ∈ fdcRegister.written log policy, fdcRegister.held config = true := by
      intro config member
      simpa [fdcRegister] using owned config member
    rcases (history_registered history).fdc.written_once policy each with ⟨none, -⟩ | once
    · constructor <;> simp [none]
    · have held : (chain.fdc.configs policy).owner ≠ .zero 20 := owned _ (by simp [once])
      constructor
      · simp [once]
      · simp [once]
      · intro _ config
        simp [FdcNonexistenceTrigger.configure, Checked.require, held, bind, Except.bind]
      · intro _ verifier now proof refused
        exact FdcNonexistenceTrigger.check_ne_notConfigured held refused

/-- A policy's configuration is written once exactly when no configure accepted for it names the
zero address as its owner. -/
theorem configuredOnce_iff {log : List Transaction} {chain : Chain} (history : History log chain)
    (policy : Address) :
    (ManualOnce log chain policy ↔
      ∀ terms ∈ manualRegister.written log policy, terms.owner ≠ .zero 20) ∧
    (FdcOnce log chain policy ↔
      ∀ config ∈ fdcRegister.written log policy, config.owner ≠ .zero 20) :=
  ⟨manualOnce_iff history policy, fdcOnce_iff history policy⟩

theorem owner_configuredOnce :
    ∃ chain, History [deployTx, configureBy owner 86400] chain ∧
      ManualOnce [deployTx, configureBy owner 86400] chain clone ∧
      FdcOnce [deployTx, configureBy owner 86400] chain clone := by
  have configured : History [deployTx, configureBy owner 86400] _ := .accepted deployTx_history rfl
  have once := configuredOnce_iff configured clone
  exact ⟨_, configured, once.1.mpr (by decide), once.2.mpr (by decide)⟩

def unownedManual : Transaction :=
  ⟨stranger, 1700000000, .configureManual clone (.zero 20) 3600 false⟩

def unownedFdc : Transaction :=
  ⟨stranger, 1700000000, .configureFdc clone { strangersFdc with owner := .zero 20 }⟩

def ownersFdc : Transaction :=
  ⟨owner, 1700000000, .configureFdc clone { strangersFdc with owner }⟩

-- The record with no owner is stored, answers NotConfigured, and is written over.
theorem unowned_configured_twice :
    ∃ first last, History [unownedManual, unownedFdc] first ∧
      first.manual.terms clone = ⟨.zero 20, 3600, false⟩ ∧
      ManualHeartbeatTrigger.check first.manual 1700000000 clone = .error .notConfigured ∧
      History [unownedManual, unownedFdc, configureBy owner 86400, ownersFdc] last ∧
      last.manual.terms clone = ⟨owner, 86400, true⟩ ∧
      ¬ ManualOnce [unownedManual, unownedFdc, configureBy owner 86400, ownersFdc] last clone ∧
      ¬ FdcOnce [unownedManual, unownedFdc, configureBy owner 86400, ownersFdc] last clone := by
  have manual : History [unownedManual] _ := .accepted .genesis rfl
  have fdc : History [unownedManual, unownedFdc] _ := .accepted manual rfl
  have again : History [unownedManual, unownedFdc, configureBy owner 86400] _ :=
    .accepted fdc rfl
  have both : History [unownedManual, unownedFdc, configureBy owner 86400, ownersFdc] _ :=
    .accepted again rfl
  have twice : 1 < (manualRegister.written
      [unownedManual, unownedFdc, configureBy owner 86400, ownersFdc] clone).length := by decide
  have twiceFdc : 1 < (fdcRegister.written
      [unownedManual, unownedFdc, configureBy owner 86400, ownersFdc] clone).length := by decide
  exact ⟨_, _, fdc, rfl, rfl, both, rfl, fun sound => absurd sound.once (by omega),
    fun sound => absurd sound.once (by omega)⟩

end FlareStudio.TriggerOwnership
