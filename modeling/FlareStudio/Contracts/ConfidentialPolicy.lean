import FlareStudio.Contracts.OpenZeppelin
import FlareStudio.Shared.CallMachine

set_option autoImplicit false

namespace FlareStudio.ConfidentialPolicy

open Reentrant

structure Share where
  recipient : Address
  shareBps : UInt16
deriving DecidableEq

inductive Status where
  | active
  | triggered
  | executed
  | cancelled
deriving DecidableEq

def SHARE_TYPEHASH : Bytes32 := keccak256 (ascii "Share(address recipient,uint16 shareBps)")

def EXECUTION_TYPEHASH : Bytes32 :=
  keccak256 (ascii "Execution(bytes32 commitment,bytes32 sharesHash,uint256 triggeredAt)")

def TOTAL_BPS : Nat := 10000

structure Storage where
  -- OpenZeppelin's Initializable, in its own storage slot.
  initialized : Bool
  owner : Address
  asset : Address
  commitment : Bytes32
  attestorGate : Address
  trigger : Address
  conditions : List Address
  status : Status
  triggeredAt : Nat
deriving DecidableEq

inductive Event where
  | deposited (source : Address) (amount : Nat)
  | withdrawn (receiver : Address) (amount : Nat)
  | armed (triggeredAt : Nat)
  | policyExecuted (teeId : Address) (totalDistributed : Nat)
  | cancelled
deriving DecidableEq

inductive Write where
  | status (old new : Status)
  | triggeredAt (value : Nat)
deriving DecidableEq

-- `writes` is a history variable: no function reads it.
structure State where
  storage : Storage
  events : List Event
  writes : List Write
deriving DecidableEq

def State.withStatus (state : State) (status : Status) : State where
  storage := { state.storage with status := status }
  events := state.events
  writes := state.writes ++ [.status state.storage.status status]

def State.withTriggeredAt (state : State) (value : Nat) : State where
  storage := { state.storage with triggeredAt := value }
  events := state.events
  writes := state.writes ++ [.triggeredAt value]

def State.withEvent (state : State) (event : Event) : State :=
  { state with events := state.events ++ [event] }

inductive PolicyError where
  | notOwner
  | wrongStatus (expected actual : Status)
  | triggerNotMet
  | conditionNotMet (index : Nat)
  | signerNotAttested (signer : Address)
  | commitmentMismatch
  | nothingToDistribute
  | sharesDoNotSumToTotal (totalBps : Nat)
  | invalidInitialization
  | ecdsa (error : ECDSAError)
  | panic (code : Nat)
  -- A callee reverted, or returned what its interface does not allow.
  | callee
deriving DecidableEq

inductive ForeignCall where
  | check (policy : Address) (proof : Bytes)
  | isSatisfied (policy : Address)
  | isAttested (teeId : Address)
  | balanceOf (account : Address)
  | safeTransfer (receiver : Address) (amount : Nat)
  | safeTransferFrom (source receiver : Address) (amount : Nat)
deriving DecidableEq

structure Query where
  target : Address
  call : ForeignCall
deriving DecidableEq

inductive Answer where
  | bool (value : Bool)
  | uint (value : Nat)
  | success
  | failure
deriving DecidableEq

structure Context where
  self : Address
  sender : Address
  timestamp : Nat
  chainId : Nat
deriving DecidableEq

abbrev Exec (α : Type) : Type := Program State PolicyError Query Answer α

def readStorage : Exec Storage := do
  let state ← Program.get
  pure state.storage

def setStatus (status : Status) : Exec Unit := Program.modify (·.withStatus status)

def setTriggeredAt (value : Nat) : Exec Unit := Program.modify (·.withTriggeredAt value)

def emit (event : Event) : Exec Unit := Program.modify (·.withEvent event)

def callBool (query : Query) : Exec Bool := do
  match ← Program.ask query with
  | .bool value => pure value
  | _ => Program.revert .callee

def callUint (query : Query) : Exec Nat := do
  match ← Program.ask query with
  | .uint value => pure value
  | _ => Program.revert .callee

def callSuccess (query : Query) : Exec Unit := do
  match ← Program.ask query with
  | .success => pure ()
  | _ => Program.revert .callee

def require (condition : Prop) [Decidable condition] (error : PolicyError) : Exec Unit :=
  if condition then pure () else Program.revert error

-- Checked arithmetic of Solidity 0.8 on uint256: Panic(0x11) on overflow and underflow.
def checkedAdd (a b : Nat) : Exec Nat := do
  require (a + b < 2 ^ 256) (.panic 0x11)
  pure (a + b)

def checkedSub (a b : Nat) : Exec Nat := do
  require (b ≤ a) (.panic 0x11)
  pure (a - b)

def checkedMul (a b : Nat) : Exec Nat := do
  require (a * b < 2 ^ 256) (.panic 0x11)
  pure (a * b)

def onlyOwner (ctx : Context) : Exec Unit := do
  let storage ← readStorage
  require (ctx.sender = storage.owner) .notOwner

def inStatus (expected : Status) : Exec Unit := do
  let storage ← readStorage
  require (storage.status = expected) (.wrongStatus expected storage.status)

def initializePolicy (owner_ asset_ : Address) (commitment_ : Bytes32)
    (attestorGate_ trigger_ : Address) (conditions_ : List Address) : Exec Unit := do
  let storage ← readStorage
  require (storage.initialized = false) .invalidInitialization
  Program.modify fun state =>
    { state with
      storage :=
        { initialized := true
          owner := owner_
          asset := asset_
          commitment := commitment_
          attestorGate := attestorGate_
          trigger := trigger_
          conditions := storage.conditions ++ conditions_
          status := .active
          triggeredAt := storage.triggeredAt } }

def deposit (ctx : Context) (amount : Nat) : Exec Unit := do
  inStatus .active
  let storage ← readStorage
  callSuccess ⟨storage.asset, .safeTransferFrom ctx.sender ctx.self amount⟩
  emit (.deposited ctx.sender amount)

def withdraw (ctx : Context) (amount : Nat) : Exec Unit := do
  onlyOwner ctx
  inStatus .active
  let storage ← readStorage
  callSuccess ⟨storage.asset, .safeTransfer storage.owner amount⟩
  let storage ← readStorage
  emit (.withdrawn storage.owner amount)

def cancel (ctx : Context) : Exec Unit := do
  onlyOwner ctx
  inStatus .active
  setStatus .cancelled
  let storage ← readStorage
  let remaining ← callUint ⟨storage.asset, .balanceOf ctx.self⟩
  if remaining > 0 then
    callSuccess ⟨storage.asset, .safeTransfer storage.owner remaining⟩
  emit .cancelled

def checkConditions (ctx : Context) : Nat → List Address → Exec Unit
  | _, [] => pure ()
  | index, condition :: rest => do
    let satisfied ← callBool ⟨condition, .isSatisfied ctx.self⟩
    require (satisfied = true) (.conditionNotMet index)
    checkConditions ctx (index + 1) rest

def arm (ctx : Context) (proof : Bytes) : Exec Unit := do
  inStatus .active
  let storage ← readStorage
  let met ← callBool ⟨storage.trigger, .check ctx.self proof⟩
  require (met = true) .triggerNotMet
  let storage ← readStorage
  checkConditions ctx 0 storage.conditions
  setStatus .triggered
  setTriggeredAt ctx.timestamp
  emit (.armed ctx.timestamp)

def _hashShares (shares : List Share) : Bytes32 :=
  keccak256 (shares.flatMap fun share =>
    (keccak256 (Abi.encode [.bytes32 SHARE_TYPEHASH, .address share.recipient,
      .uint share.shareBps.toNat])).bytes)

def shareValue (share : Share) : Abi.Value :=
  .tuple [.address share.recipient, .uint share.shareBps.toNat]

-- abi.encode(shares, salt)
def encodeShares (shares : List Share) (salt : Bytes32) : Bytes :=
  Abi.encode [.array (shares.map shareValue), .bytes32 salt]

def executionStructHash (commitment : Bytes32) (shares : List Share) (triggeredAt : Nat) :
    Bytes32 :=
  keccak256 (Abi.encode [.bytes32 EXECUTION_TYPEHASH, .bytes32 commitment,
    .bytes32 (_hashShares shares), .uint triggeredAt])

def sumShares : Nat → List Share → Exec Nat
  | totalBps, [] => pure totalBps
  | totalBps, share :: rest => do
    let totalBps ← checkedAdd totalBps share.shareBps.toNat
    sumShares totalBps rest

def payout (available : Nat) : Nat → List Share → Exec Unit
  | _, [] => pure ()
  | allocated, share :: rest => do
    let amount ←
      if rest = [] then checkedSub available allocated
      else do
        let product ← checkedMul available share.shareBps.toNat
        pure (product / TOTAL_BPS)
    let allocated ← checkedAdd allocated amount
    let storage ← readStorage
    callSuccess ⟨storage.asset, .safeTransfer share.recipient amount⟩
    payout available allocated rest

def recoverSigner (oz : OpenZeppelin) (hash : Bytes32) (sig : Bytes) : Exec Address :=
  match oz.recover hash sig with
  | .ok signer => pure signer
  | .error error => Program.revert (.ecdsa error)

-- The constructor passes the name and version to EIP712 once, for every clone.
def digest (oz : OpenZeppelin) (ctx : Context) (structHash : Bytes32) : Bytes32 :=
  oz.hashTypedDataV4 (ascii "FlareStudioPolicy") (ascii "1") ctx.chainId ctx.self structHash

def execute (oz : OpenZeppelin) (ctx : Context) (shares : List Share) (salt : Bytes32)
    (sig : Bytes) : Exec Unit := do
  inStatus .triggered
  let storage ← readStorage
  require (keccak256 (encodeShares shares salt) = storage.commitment) .commitmentMismatch
  let digest := digest oz ctx
    (executionStructHash storage.commitment shares storage.triggeredAt)
  let signer ← recoverSigner oz (oz.toEthSignedMessageHash digest) sig
  let attested ← callBool ⟨storage.attestorGate, .isAttested signer⟩
  require (attested = true) (.signerNotAttested signer)
  let totalBps ← sumShares 0 shares
  require (totalBps = TOTAL_BPS) (.sharesDoNotSumToTotal totalBps)
  let storage ← readStorage
  let available ← callUint ⟨storage.asset, .balanceOf ctx.self⟩
  require (available ≠ 0) .nothingToDistribute
  -- Set before transferring: the asset may call back from every transfer below.
  setStatus .executed
  payout available 0 shares
  emit (.policyExecuted signer available)

inductive Call where
  | initializePolicy (owner_ asset_ : Address) (commitment_ : Bytes32)
      (attestorGate_ trigger_ : Address) (conditions_ : List Address)
  | deposit (amount : Nat)
  | withdraw (amount : Nat)
  | cancel
  | arm (proof : Bytes)
  | execute (shares : List Share) (salt : Bytes32) (sig : Bytes)
deriving DecidableEq

structure Message where
  ctx : Context
  call : Call
deriving DecidableEq

def dispatch (oz : OpenZeppelin) (message : Message) : Exec Unit :=
  match message.call with
  | .initializePolicy owner_ asset_ commitment_ attestorGate_ trigger_ conditions_ =>
      initializePolicy owner_ asset_ commitment_ attestorGate_ trigger_ conditions_
  | .deposit amount => deposit message.ctx amount
  | .withdraw amount => withdraw message.ctx amount
  | .cancel => cancel message.ctx
  | .arm proof => arm message.ctx proof
  | .execute shares salt sig => execute oz message.ctx shares salt sig

-- The interfaces declare these view, so the compiler emits a static call for them; ITrigger.check
-- is declared non-view and gets an ordinary one.
def ForeignCall.isView : ForeignCall → Bool
  | .isSatisfied _ | .isAttested _ | .balanceOf _ => true
  | _ => false

end FlareStudio.ConfidentialPolicy
