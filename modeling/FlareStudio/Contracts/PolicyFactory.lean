import FlareStudio.Contracts.PolicyRules

set_option autoImplicit false

namespace FlareStudio

open Reentrant CallMachine

namespace PolicyFactory

open ConfidentialPolicy

structure PolicyDeployed where
  policy : Address
  owner : Address
  asset : Address
  commitment : Bytes32
  trigger : Address
deriving DecidableEq

structure Deployment where
  policy : Address
  state : State
  event : PolicyDeployed
deriving DecidableEq

-- The storage of a new minimal proxy: every slot is zero.
def freshClone : State where
  storage :=
    { initialized := false
      owner := FixedBytes.zero 20
      asset := FixedBytes.zero 20
      commitment := FixedBytes.zero 32
      attestorGate := FixedBytes.zero 20
      trigger := FixedBytes.zero 20
      conditions := []
      status := .active
      triggeredAt := 0 }
  events := []
  writes := []

-- `clone` is the address Clones.clone creates, `sender` is msg.sender.
def deploy (clone sender asset : Address) (commitment : Bytes32)
    (attestorGate trigger : Address) (conditions : List Address) :
    Except PolicyError Deployment := do
  let (_, state) ← Program.run (fun _ => .failure)
    (initializePolicy sender asset commitment attestorGate trigger conditions) freshClone
  pure ⟨clone, state, ⟨clone, sender, asset, commitment, trigger⟩⟩

def deployedState (sender asset : Address) (commitment : Bytes32)
    (attestorGate trigger : Address) (conditions : List Address) : State where
  storage :=
    { initialized := true
      owner := sender
      asset := asset
      commitment := commitment
      attestorGate := attestorGate
      trigger := trigger
      conditions := conditions
      status := .active
      triggeredAt := 0 }
  events := []
  writes := []

theorem deploy_eq (clone sender asset : Address) (commitment : Bytes32)
    (attestorGate trigger : Address) (conditions : List Address) :
    deploy clone sender asset commitment attestorGate trigger conditions =
      .ok ⟨clone, deployedState sender asset commitment attestorGate trigger conditions,
        ⟨clone, sender, asset, commitment, trigger⟩⟩ := rfl

end PolicyFactory

namespace ConfidentialPolicy

/-- The clone's entry points with the foreign calls that cannot call back. -/
def contract (oz : OpenZeppelin) (isStatic : ForeignCall → Bool) :
    Contract State PolicyError Query Answer Message where
  entry := dispatch oz
  isStatic query := isStatic query.call

abbrev PolicyMachine := Machine State PolicyError Query Answer Message

abbrev PolicyWorld := CallWorld State Query Message

-- One deployment for the concrete runs.
def ownerAccount : Address := .replicate 20 0xaa

def deployedPolicy : State :=
  PolicyFactory.deployedState ownerAccount (.replicate 20 0x0a) (.replicate 32 0xcc)
    (.replicate 20 0x6a) (.replicate 20 0x7a) []

def sentBy (sender : Address) (call : Call) : Message :=
  ⟨⟨.replicate 20 0x01, sender, 1700000000, 114⟩, call⟩

def recoversNothing : OpenZeppelin := .ofRecover fun _ _ => .error .invalidSignature

end ConfidentialPolicy

end FlareStudio
