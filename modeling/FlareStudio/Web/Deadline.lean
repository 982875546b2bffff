import FlareStudio.Contracts.TriggerOwnership
import FlareStudio.Shared.Double
import FlareStudio.Shared.Text

set_option autoImplicit false

namespace FlareStudio.Web.Deadline

open TriggerOwnership

inductive TriggerContract where
  | manualHeartbeat
  | timestamp
  | fdcNonexistence
deriving DecidableEq

namespace TriggerContract

def kind : TriggerContract → Text
  | manualHeartbeat => text "manual-heartbeat"
  | timestamp => text "timestamp"
  | fdcNonexistence => text "fdc-nonexistence"

def check (chain : Chain) (verifier : FdcNonexistenceTrigger.Verifier) (now : Nat)
    (policy : Address) (proof : Bytes) : TriggerContract → Except Revert Bool
  | manualHeartbeat => (ManualHeartbeatTrigger.check chain.manual now policy).mapError .manual
  | timestamp => (TimestampTrigger.check chain.timestamp now policy).mapError .timestamp
  | fdcNonexistence =>
    (FdcNonexistenceTrigger.check verifier chain.fdc now policy proof).mapError .fdc

def notConfigured : TriggerContract → Revert
  | manualHeartbeat => .manual .notConfigured
  | timestamp => .timestamp .notConfigured
  | fdcNonexistence => .fdc .notConfigured

end TriggerContract

inductive Getter where
  | deadlineOf
  | executeAfter

-- A contract without the function reverts.
def readContract (chain : Chain) : TriggerContract → Getter → Address → Except Unit UInt64
  | .manualHeartbeat, .deadlineOf, policy =>
    .ok (ManualHeartbeatTrigger.deadlineOf chain.manual policy)
  | .timestamp, .executeAfter, policy => .ok (chain.timestamp.executeAfter policy)
  | _, _, _ => .error ()

-- Number of a bigint rounds.
def toNumber (value : UInt64) : ℚ := Double.nearest value.toNat

def readDeadline (readContract : Getter → Address → Except Unit UInt64) (kind : Text)
    (policy : Address) : Option ℚ :=
  if kind = text "manual-heartbeat" then
    match readContract .deadlineOf policy with
    | .ok deadline => some (toNumber deadline)
    | .error _ => none
  else if kind = text "timestamp" then
    match readContract .executeAfter policy with
    | .ok target => some (toNumber target)
    | .error _ => none
  else none

section Shown

variable (chain : Chain) (trigger : TriggerContract) (policy : Address)

def shown : Option ℚ := readDeadline (readContract chain trigger) trigger.kind policy

def Configured : Prop :=
  ∀ verifier now proof, trigger.check chain verifier now policy proof ≠ .error trigger.notConfigured

def Compares (deadline : ℚ) : Prop :=
  ∃ time : ℕ, deadline = time ∧
    ∀ verifier now proof, trigger.check chain verifier now policy proof = .ok (decide (time < now))

/-- A deadline is shown if and only if the trigger has one for the policy. -/
structure ShownRight (deadline : Option ℚ) : Prop where
  shown : deadline.isSome = true ↔ Configured chain trigger policy
  value : ∀ time ∈ deadline, Compares chain trigger policy time

/-- A deadline that is set and that a double holds exactly. The third trigger, of which nothing is
read, has to be left unconfigured. -/
def Readable : TriggerContract → Prop
  | .manualHeartbeat => (chain.manual.configs policy).owner ≠ .zero 20 ∧
    Representable (chain.manual.configs policy).deadline.toNat
  | .timestamp => chain.timestamp.executeAfter policy ≠ 0 ∧
    Representable (chain.timestamp.executeAfter policy).toNat
  | .fdcNonexistence => ¬ chain.fdc.Held policy

variable {chain trigger policy}

theorem toNumber_eq_iff {value : UInt64} : toNumber value = value.toNat ↔
    Representable value.toNat := by
  constructor
  · intro same
    have finite : Double.nearest value.toNat < 2 ^ (1024 : ℤ) := by
      have bound : (value.toNat : ℚ) < 2 ^ (64 : ℤ) := by exact_mod_cast value.toNat_lt
      rw [← toNumber, same]
      exact bound.trans (zpow_lt_zpow_right₀ (by norm_num) (by norm_num))
    have representable := Double.representable_nearest (Nat.cast_nonneg value.toNat) finite
    rwa [← toNumber, same] at representable
  · exact Double.nearest_of_representable

theorem compares_iff {stored : UInt64}
    (checks : ∀ verifier now proof,
      trigger.check chain verifier now policy proof = .ok (decide (stored.toNat < now))) :
    Compares chain trigger policy (toNumber stored) ↔ Representable stored.toNat := by
  rw [← toNumber_eq_iff]
  constructor
  · rintro ⟨time, shown, compared⟩
    have agree (now : Nat) : stored.toNat < now ↔ time < now := by
      have same := (checks (fun _ => none) now []).symm.trans (compared (fun _ => none) now [])
      simpa using same
    have least := (agree (stored.toNat + 1)).mp (Nat.lt_succ_self _)
    have most := (agree (time + 1)).mpr (Nat.lt_succ_self _)
    rw [shown, show stored.toNat = time by omega]
  · intro same
    exact ⟨stored.toNat, same, checks⟩

theorem shownRight_some_iff {stored : UInt64} {held : Prop}
    (configured : Configured chain trigger policy ↔ held)
    (checks : held → ∀ verifier now proof,
      trigger.check chain verifier now policy proof = .ok (decide (stored.toNat < now))) :
    ShownRight chain trigger policy (some (toNumber stored)) ↔
      held ∧ Representable stored.toNat := by
  constructor
  · intro right
    have set := configured.mp (right.shown.mp rfl)
    exact ⟨set, (compares_iff (checks set)).mp (right.value _ rfl)⟩
  · rintro ⟨set, representable⟩
    refine ⟨⟨fun _ => configured.mpr set, fun _ => rfl⟩, ?_⟩
    rintro time ⟨⟩
    exact (compares_iff (checks set)).mpr representable

theorem shownRight_none_iff :
    ShownRight chain trigger policy none ↔ ¬ Configured chain trigger policy := by
  constructor
  · intro right configured
    cases right.shown.mpr configured
  · intro unset
    exact ⟨⟨fun none => (by cases none), fun configured => absurd configured unset⟩, by simp⟩

theorem configured_iff {held : Prop}
    (refuses : ¬ held →
      trigger.check chain (fun _ => none) 0 policy [] = .error trigger.notConfigured)
    (answers : held → ∀ verifier now proof,
      trigger.check chain verifier now policy proof ≠ .error trigger.notConfigured) :
    Configured chain trigger policy ↔ held := by
  constructor
  · intro configured
    by_contra free
    exact configured _ _ _ (refuses free)
  · exact answers

theorem check_manual (set : (chain.manual.configs policy).owner ≠ .zero 20)
    (verifier : FdcNonexistenceTrigger.Verifier) (now : Nat) (proof : Bytes) :
    TriggerContract.manualHeartbeat.check chain verifier now policy proof =
      .ok (decide ((chain.manual.configs policy).deadline.toNat < now)) := by
  simp [TriggerContract.check, ManualHeartbeatTrigger.check, Checked.require, set, bind,
    Except.bind, Except.mapError]

theorem configured_manual : Configured chain .manualHeartbeat policy ↔
    (chain.manual.configs policy).owner ≠ .zero 20 := by
  apply configured_iff
  · intro free
    simp [TriggerContract.check, TriggerContract.notConfigured, ManualHeartbeatTrigger.check,
      Checked.require, not_not.mp free, bind, Except.bind, Except.mapError]
  · intro set verifier now proof refused
    cases (check_manual set verifier now proof).symm.trans refused

theorem check_timestamp (set : chain.timestamp.executeAfter policy ≠ 0)
    (verifier : FdcNonexistenceTrigger.Verifier) (now : Nat) (proof : Bytes) :
    TriggerContract.timestamp.check chain verifier now policy proof =
      .ok (decide ((chain.timestamp.executeAfter policy).toNat < now)) := by
  simp [TriggerContract.check, TimestampTrigger.check, Checked.require, set, bind, Except.bind,
    Except.mapError]

theorem configured_timestamp : Configured chain .timestamp policy ↔
    chain.timestamp.executeAfter policy ≠ 0 := by
  apply configured_iff
  · intro free
    simp [TriggerContract.check, TriggerContract.notConfigured, TimestampTrigger.check,
      Checked.require, not_not.mp free, bind, Except.bind, Except.mapError]
  · intro set verifier now proof refused
    cases (check_timestamp set verifier now proof).symm.trans refused

theorem configured_fdc : Configured chain .fdcNonexistence policy ↔ chain.fdc.Held policy := by
  apply configured_iff
  · intro free
    simp [TriggerContract.check, TriggerContract.notConfigured, FdcNonexistenceTrigger.check,
      Checked.require, not_not.mp free, bind, Except.bind, Except.mapError]
  · intro held verifier now proof refused
    simp only [TriggerContract.check, TriggerContract.notConfigured] at refused
    cases checked : FdcNonexistenceTrigger.check verifier chain.fdc now policy proof with
    | ok answer => simp [checked, Except.mapError] at refused
    | error reason =>
      simp only [checked, Except.mapError, Except.error.injEq, Revert.fdc.injEq] at refused
      exact FdcNonexistenceTrigger.check_ne_notConfigured held (refused ▸ checked)

theorem shown_right_iff (chain : Chain) (trigger : TriggerContract) (policy : Address) :
    ShownRight chain trigger policy (shown chain trigger policy) ↔
      Readable chain policy trigger := by
  cases trigger with
  | manualHeartbeat => exact shownRight_some_iff configured_manual check_manual
  | timestamp => exact shownRight_some_iff configured_timestamp check_timestamp
  | fdcNonexistence => exact shownRight_none_iff.trans (not_congr configured_fdc)
end Shown

-- The policy is deployed and neither trigger is configured for it yet.
theorem unconfigured_shows_zero :
    ∃ chain, History [deployTx] chain ∧
      shown chain .manualHeartbeat clone = some 0 ∧
      ¬ ShownRight chain .manualHeartbeat clone (shown chain .manualHeartbeat clone) ∧
      shown chain .timestamp clone = some 0 ∧
      ¬ ShownRight chain .timestamp clone (shown chain .timestamp clone) := by
  have zero : some (toNumber 0) = some 0 := by simp [toNumber]
  refine ⟨_, deployTx_history, zero, fun right => ?_, zero, fun right => ?_⟩
  · exact configured_manual.mp (right.shown.mp rfl) rfl
  · exact configured_timestamp.mp (right.shown.mp rfl) rfl

end FlareStudio.Web.Deadline
