import FlareStudio.Shared.Checked

set_option autoImplicit false

namespace FlareStudio.ManualHeartbeatTrigger

open Checked

structure Config where
  owner : Address
  interval : UInt64
  deadline : UInt64
  demoMode : Bool
deriving DecidableEq

def Config.unset : Config where
  owner := .zero 20
  interval := 0
  deadline := 0
  demoMode := false

inductive Event where
  | configured (policy : Address) (interval : UInt64) (demoMode : Bool)
  | heartbeat (policy : Address) (newDeadline : UInt64)
  | inactivitySimulated (policy : Address)
deriving DecidableEq

structure State where
  configs : Address → Config
  events : List Event

def deployed : State := ⟨fun _ => .unset, []⟩

inductive TriggerError where
  | alreadyConfigured
  | notConfigured
  | notPolicyOwner
  | demoModeDisabled
  | intervalTooShort
  | panic (code : Nat)
deriving DecidableEq

-- uint64(block.timestamp) truncates.
def configure (state : State) (now : Nat) (policy owner : Address) (interval : UInt64)
    (demoMode : Bool) : Except TriggerError State := do
  require ((state.configs policy).owner = .zero 20) .alreadyConfigured
  require (interval ≠ 0) .intervalTooShort
  let deadline ← add64 .panic (UInt64.ofNat now) interval
  .ok
    { configs := Function.update state.configs policy ⟨owner, interval, deadline, demoMode⟩
      events := state.events ++ [.configured policy interval demoMode] }

def setDeadline (state : State) (policy : Address) (deadline : UInt64) (event : Event) : State where
  configs := Function.update state.configs policy { state.configs policy with deadline }
  events := state.events ++ [event]

def heartbeat (state : State) (now : Nat) (sender policy : Address) :
    Except TriggerError State := do
  let c := state.configs policy
  require (c.owner ≠ .zero 20) .notConfigured
  require (sender = c.owner) .notPolicyOwner
  let deadline ← add64 .panic (UInt64.ofNat now) c.interval
  .ok (setDeadline state policy deadline (.heartbeat policy deadline))

def simulateInactivity (state : State) (now : Nat) (sender policy : Address) :
    Except TriggerError State := do
  let c := state.configs policy
  require (c.owner ≠ .zero 20) .notConfigured
  require (sender = c.owner) .notPolicyOwner
  require (c.demoMode = true) .demoModeDisabled
  let deadline ← sub64 .panic (UInt64.ofNat now) 1
  .ok (setDeadline state policy deadline (.inactivitySimulated policy))

def check (state : State) (now : Nat) (policy : Address) : Except TriggerError Bool := do
  let c := state.configs policy
  require (c.owner ≠ .zero 20) .notConfigured
  .ok (decide (c.deadline.toNat < now))

def deadlineOf (state : State) (policy : Address) : UInt64 := (state.configs policy).deadline

-- What a configure fixes: all of the configuration but its deadline.
structure Terms where
  owner : Address
  interval : UInt64
  demoMode : Bool
deriving DecidableEq

def Config.terms (config : Config) : Terms := ⟨config.owner, config.interval, config.demoMode⟩

def State.terms (state : State) (policy : Address) : Terms := (state.configs policy).terms

theorem configure_terms {state next : State} {now : Nat} {policy owner : Address}
    {interval : UInt64} {demoMode : Bool}
    (accepted : configure state now policy owner interval demoMode = .ok next) :
    (state.terms policy).owner = .zero 20 ∧
      next.terms = Function.update state.terms policy ⟨owner, interval, demoMode⟩ := by
  simp only [configure, require_reaches, add64_reaches, Except.ok.injEq] at accepted
  obtain ⟨free, -, -, rfl⟩ := accepted
  refine ⟨free, funext fun other => ?_⟩
  by_cases here : other = policy
  · subst here
    simp [State.terms, Config.terms]
  · simp [State.terms, here]

theorem setDeadline_terms (state : State) (policy : Address) (deadline : UInt64) (event : Event) :
    (setDeadline state policy deadline event).terms = state.terms := by
  funext other
  by_cases here : other = policy
  · subst here
    simp [State.terms, setDeadline, Config.terms]
  · simp [State.terms, setDeadline, here]

theorem heartbeat_terms {state next : State} {now : Nat} {sender policy : Address}
    (accepted : heartbeat state now sender policy = .ok next) : next.terms = state.terms := by
  simp only [heartbeat, require_reaches, add64_reaches, Except.ok.injEq] at accepted
  obtain ⟨-, -, -, rfl⟩ := accepted
  exact setDeadline_terms ..

theorem simulateInactivity_terms {state next : State} {now : Nat} {sender policy : Address}
    (accepted : simulateInactivity state now sender policy = .ok next) :
    next.terms = state.terms := by
  simp only [simulateInactivity, require_reaches, sub64_reaches, Except.ok.injEq] at accepted
  obtain ⟨-, -, -, -, rfl⟩ := accepted
  exact setDeadline_terms ..

section Accepted

variable {state next : State} {now : Nat} {sender policy other : Address}

theorem configure_accepts {owner : Address} {interval : UInt64} {demoMode : Bool}
    (accepted : configure state now policy owner interval demoMode = .ok next) :
    (state.configs policy).owner = .zero 20 ∧
      (UInt64.ofNat now).toNat + interval.toNat < 2 ^ 64 ∧
      next.configs = Function.update state.configs policy
        ⟨owner, interval, UInt64.ofNat now + interval, demoMode⟩ := by
  simp only [configure, require_reaches, add64_reaches, Except.ok.injEq] at accepted
  obtain ⟨free, -, fits, rfl⟩ := accepted
  exact ⟨free, fits, rfl⟩

theorem heartbeat_accepts (accepted : heartbeat state now sender policy = .ok next) :
    (state.configs policy).owner ≠ .zero 20 ∧ sender = (state.configs policy).owner ∧
      (UInt64.ofNat now).toNat + (state.configs policy).interval.toNat < 2 ^ 64 ∧
      next.configs = Function.update state.configs policy { state.configs policy with
        deadline := UInt64.ofNat now + (state.configs policy).interval } := by
  simp only [heartbeat, require_reaches, add64_reaches, Except.ok.injEq] at accepted
  obtain ⟨owned, permitted, fits, rfl⟩ := accepted
  exact ⟨owned, permitted, fits, rfl⟩

theorem simulateInactivity_accepts
    (accepted : simulateInactivity state now sender policy = .ok next) :
    (state.configs policy).owner ≠ .zero 20 ∧ (state.configs policy).demoMode = true ∧
      next.configs = Function.update state.configs policy { state.configs policy with
        deadline := UInt64.ofNat now - 1 } := by
  simp only [simulateInactivity, require_reaches, sub64_reaches, Except.ok.injEq] at accepted
  obtain ⟨owned, -, demo, -, rfl⟩ := accepted
  exact ⟨owned, demo, rfl⟩

theorem configure_elsewhere {owner : Address} {interval : UInt64} {demoMode : Bool}
    (accepted : configure state now policy owner interval demoMode = .ok next)
    (elsewhere : other ≠ policy) : next.configs other = state.configs other := by
  obtain ⟨-, -, configs⟩ := configure_accepts accepted
  rw [configs, Function.update_of_ne elsewhere]

theorem heartbeat_elsewhere (accepted : heartbeat state now sender policy = .ok next)
    (elsewhere : other ≠ policy) : next.configs other = state.configs other := by
  obtain ⟨-, -, -, configs⟩ := heartbeat_accepts accepted
  rw [configs, Function.update_of_ne elsewhere]

theorem simulateInactivity_elsewhere
    (accepted : simulateInactivity state now sender policy = .ok next)
    (elsewhere : other ≠ policy) : next.configs other = state.configs other := by
  obtain ⟨-, -, configs⟩ := simulateInactivity_accepts accepted
  rw [configs, Function.update_of_ne elsewhere]

theorem check_eq_true : check state now policy = .ok true ↔
    (state.configs policy).owner ≠ .zero 20 ∧ (state.configs policy).deadline.toNat < now := by
  simp [check]

end Accepted

end FlareStudio.ManualHeartbeatTrigger
