import FlareStudio.Shared.Checked

set_option autoImplicit false

namespace FlareStudio.TimestampTrigger

open Checked

structure Configured where
  policy : Address
  executeAfter : UInt64
deriving DecidableEq

structure State where
  executeAfter : Address → UInt64
  events : List Configured

def deployed : State := ⟨fun _ => 0, []⟩

inductive TriggerError where
  | alreadyConfigured
  | notConfigured
  | timestampInPast
deriving DecidableEq

def configure (state : State) (now : Nat) (policy : Address) (executeAfter_ : UInt64) :
    Except TriggerError State := do
  require (state.executeAfter policy = 0) .alreadyConfigured
  require (now < executeAfter_.toNat) .timestampInPast
  .ok
    { executeAfter := Function.update state.executeAfter policy executeAfter_
      events := state.events ++ [⟨policy, executeAfter_⟩] }

def check (state : State) (now : Nat) (policy : Address) : Except TriggerError Bool := do
  let target := state.executeAfter policy
  require (target ≠ 0) .notConfigured
  .ok (decide (target.toNat < now))

theorem configure_executeAfter {state next : State} {now : Nat} {policy : Address}
    {executeAfter_ : UInt64} (accepted : configure state now policy executeAfter_ = .ok next) :
    state.executeAfter policy = 0 ∧ executeAfter_ ≠ 0 ∧
      next.executeAfter = Function.update state.executeAfter policy executeAfter_ := by
  simp only [configure, require_reaches, Except.ok.injEq] at accepted
  obtain ⟨free, future, rfl⟩ := accepted
  refine ⟨free, ?_, rfl⟩
  rintro rfl
  exact absurd future (Nat.not_lt_zero now)

end FlareStudio.TimestampTrigger
