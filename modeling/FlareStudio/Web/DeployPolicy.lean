import FlareStudio.Shared.Throwing
import FlareStudio.Web.Configure
import FlareStudio.Web.Vault

set_option autoImplicit false

-- One run of the deploy flow against a wallet, a node and a browser each of which may fail at
-- every call, and what the run leaves behind.

namespace FlareStudio.Web

open Policy Throwing

-- An Error, by what `message` reads of it; a missing text is empty.
inductive Thrown where
  | deploy (error : DeployError)
  | other (code : Option Int) (shortMessage message string : Text)
deriving DecidableEq

def Thrown.ofMessage (error : Text) : Thrown := .other none [] error (text "Error: " ++ error)

def Thrown.enclaveHandoff (error : Text) : Thrown :=
  .other none [] error (text "EnclaveHandoffError: " ++ error)

def Thrown.ofRequest : RequestError → Thrown
  | .deploy error => .deploy error
  | .viem message => .other none message message (text "Error: " ++ message)

def firstLine (message : Text) : Text := message.takeWhile (· ≠ 10)

def message : Thrown → Text
  | .deploy error => if error.message ≠ [] then firstLine error.message else text "DeployError"
  | .other code shortMessage message string =>
    if code = some 4001 then text "You rejected the request in your wallet."
    else if shortMessage ≠ [] then shortMessage
    else if message ≠ [] then firstLine message
    else string

inductive TxStatus where
  | success
  | reverted
deriving DecidableEq

/-- What becomes of a transaction: what the wallet answers, whether a block has it in the end, at
whatever price, and the status in the receipt that waiting for it gets, if it gets one. That is the
node's answer, and where the wallet has put another call in its place the receipt is of that one. -/
structure Submission where
  answer : Except Thrown Bytes32
  mined : Option TxStatus
  receipt : Except Thrown TxStatus

structure Submission.Confirmed (submission : Submission) : Prop where
  answered : ∃ hash, submission.answer = .ok hash
  success : submission.receipt = .ok .success

-- What decodeEventLog finds in a log by the ABI of the factory and by that of the registry, if it
-- does not throw.
structure Log where
  address : Address
  policyDeployed : Option Address
  teeInstructionsSent : Option Bytes32

-- viem is not part of the repository: an address that it decodes it spells in hexadecimal, with
-- letters of either case.
structure Site where
  viem : Viem
  addresses : Addresses
  policyInstructionSender : Address
  checksumAddress : Address → Text
  checksumAddress_lower : ∀ address,
    toLowerCase (checksumAddress address) = Hex.prefixed address.bytes

/-- The builder compiles with the salt that it hands on. -/
structure DeployOptions (viem : Viem) where
  compiled : CompiledPolicy
  salt : Text
  templateId : Text
  account : Address
  deposit : Int
  accepted : ∃ input, compile viem input salt = .ok compiled

-- The answers to everything one run asks. `clone` is the address that the factory's nonce gives,
-- `otherLogs` are those in a receipt that is not of the creation; no other call makes its event.
structure Environment where
  provider : Except Thrown Unit
  teeKey : Except Thrown (Option Text)
  eciesEncrypt : Text → Text → Except Thrown Text
  clone : Address
  deploy : Submission
  otherLogs : List Log
  otherLogs_plain : ∀ log ∈ otherLogs, log.policyDeployed = none
  configuredAt : DateNow
  configure : Submission
  deployedAt : DateNow
  setItem : Except Thrown Unit
  simulate : Except Thrown Unit
  handoff : Submission
  handoffLogs : List Log
  handedAt : DateNow
  setItemAgain : Except Thrown Unit
  approve : Submission
  deposit : Submission

structure Clone where
  policy : Address
  arguments : FactoryArguments
deriving DecidableEq

-- What one run leaves for the next: the vault, and the clones made by this browser's calls.
structure World where
  vault : VaultItem
  clones : List Clone

inductive Transaction where
  | deploy (arguments : FactoryArguments)
  | configure (trigger : Address) (request : ConfigureRequest)
  | handoff (policy : Address) (ciphertext : Text) (fee : Nat)
  | approve (asset policy : Address) (deposit : Int)
  | deposit (policy : Address) (deposit : Int)
deriving DecidableEq

def Transaction.step : Transaction → DeployStepId
  | .deploy _ => .deploy
  | .configure _ _ => .configure
  | .handoff _ _ _ => .handoff
  | .approve _ _ _ => .approve
  | .deposit _ _ => .deposit

inductive StepStatus where
  | pending
  | running
  | done
  | skipped
  | error
deriving DecidableEq

structure DeployStep where
  id : DeployStepId
  label : Text
  status : StepStatus
  txHash : Option Bytes32
  note : Option Text
deriving DecidableEq

/-- A run so far. `reports` are the lists that onProgress got, `submitted` the transactions that
the wallet was asked for and `completed` those of them that are mined with success. -/
structure Attempt where
  vault : VaultItem
  clones : List Clone
  steps : List DeployStep
  reports : List (List DeployStep)
  submitted : List Transaction
  completed : List Transaction

def Attempt.world (attempt : Attempt) : World := ⟨attempt.vault, attempt.clones⟩

abbrev Browser := EStateM Thrown Attempt

def Attempt.updated (id : DeployStepId) (patch : DeployStep → DeployStep) (attempt : Attempt) :
    Attempt :=
  let steps := attempt.steps.map fun step => if step.id = id then patch step else step
  { attempt with steps, reports := attempt.reports ++ [steps] }

def update (id : DeployStepId) (patch : DeployStep → DeployStep) : Browser Unit :=
  modify (Attempt.updated id patch)

-- `effect` is what the transaction does when it is mined with success.
def Attempt.sent (submission : Submission) (transaction : Transaction)
    (effect : List Clone → List Clone) (attempt : Attempt) : Attempt :=
  let asked := { attempt with submitted := attempt.submitted ++ [transaction] }
  if submission.mined = some .success then
    { asked with
      clones := effect asked.clones
      completed := asked.completed ++ [transaction] }
  else asked

def writeContract (submission : Submission) (transaction : Transaction)
    (effect : List Clone → List Clone) : Browser Bytes32 := do
  modify (Attempt.sent submission transaction effect)
  MonadExcept.ofExcept submission.answer

-- Up to the receipt, the four fatal steps do the same; all but the approval look at its status.
def transact (submission : Submission) (transaction : Transaction)
    (effect : List Clone → List Clone) : Browser (Bytes32 × TxStatus) := do
  let hash ← writeContract submission transaction effect
  update transaction.step ({ · with txHash := some hash })
  let status ← MonadExcept.ofExcept submission.receipt
  pure (hash, status)

def requireSuccess (status : TxStatus) : Browser Unit :=
  if status = .success then pure () else throw (.ofMessage (text "the transaction reverted"))

def confirm (submission : Submission) (transaction : Transaction)
    (effect : List Clone → List Clone) : Browser Bytes32 := do
  let (hash, status) ← transact submission transaction effect
  requireSuccess status
  pure hash

def fatal {α : Type} (id : DeployStepId) (body : Browser α) : Browser α :=
  tryCatch body fun e => do
    update id ({ · with status := .error, note := some (message e) })
    throw (.deploy ⟨message e, id⟩)

def save (setItem : Except Thrown Unit) (entry : VaultEntry) : Browser Unit := do
  let item ← MonadExcept.ofExcept (Vault.saveEntry setItem entry (← get).vault)
  modify ({ · with vault := item })

def sealPrivate (env : Environment) (plaintext : Text) : Browser (Option Text) := do
  update .seal ({ · with status := .running })
  tryCatch (do
    match ← MonadExcept.ofExcept env.teeKey with
    | some teeKey =>
      let ciphertext ← MonadExcept.ofExcept (env.eciesEncrypt teeKey plaintext)
      update .seal ({ · with
        status := .done, note := some (decimal plaintext.length ++ text " bytes sealed") })
      pure (some ciphertext)
    | none =>
      update .seal ({ · with
        status := .skipped
        note := some (text "No enclave key available. Kept in this browser only.") })
      pure none)
    fun e => do
      update .seal ({ · with
        status := .skipped
        note := some (text "Kept in this browser only (" ++ message e ++ text ")") })
      pure none

def policyAddressFromReceipt (factory : Address) : List Log → Except Thrown Address
  | [] => .error (.ofMessage
      (text "the policy was created but its address could not be read from the receipt"))
  | log :: rest =>
    if log.address = factory then
      match log.policyDeployed with
      | some policy => .ok policy
      | none => policyAddressFromReceipt factory rest
    else policyAddressFromReceipt factory rest

-- A creation at an address that is in use reverts.
def Environment.creation (env : Environment) (clones : List Clone) : Submission :=
  if env.clone ∈ clones.map Clone.policy then
    { env.deploy with mined := env.deploy.mined.map fun _ => .reverted }
  else env.deploy

-- The call that creates the policy is mined with success.
def Environment.Creates (env : Environment) (clones : List Clone) : Prop :=
  (env.creation clones).mined = some .success

instance (env : Environment) (clones : List Clone) : Decidable (env.Creates clones) :=
  inferInstanceAs (Decidable (_ = _))

-- The creation has one event, which the factory emits.
def Environment.deployLogs (env : Environment) (factory : Address) (clones : List Clone) :
    List Log :=
  if env.Creates clones then [⟨factory, some env.clone, none⟩] else env.otherLogs

def createPolicy (site : Site) (env : Environment) (arguments : FactoryArguments) :
    Browser (Address × Bytes32) := do
  update .deploy ({ · with status := .running })
  fatal .deploy do
    let attempt ← get
    let deployTx ← confirm (env.creation attempt.clones) (.deploy arguments)
      (· ++ [⟨env.clone, arguments⟩])
    let policy ← MonadExcept.ofExcept (policyAddressFromReceipt site.addresses.policyFactory
      (env.deployLogs site.addresses.policyFactory attempt.clones))
    update .deploy ({ · with status := .done, note := some (site.checksumAddress policy) })
    pure (policy, deployTx)

def configureTrigger (site : Site) (env : Environment) (compiled : CompiledPolicy)
    (account trigger policy : Address) : Browser Unit := do
  update .configure ({ · with status := .running })
  fatal .configure do
    let request ← MonadExcept.ofExcept ((configureRequest site.viem env.configuredAt
      compiled.ir.val.trigger account policy).mapError .ofRequest)
    let _ ← confirm env.configure (.configure trigger request) id
    update .configure ({ · with status := .done })

def isSet (address : Address) : Bool := address ≠ .zero 20

def Site.enclaveHandoffConfigured (site : Site) : Bool := isSet site.policyInstructionSender

def INSTRUCTION_FEE : Nat := 1000000

def extractInstructionId : List Log → Except Thrown Bytes32
  | [] => .error (.enclaveHandoff (text
      ("the transaction succeeded but emitted no TeeInstructionsSent event -- the extension id " ++
        "is probably unset, or the op type and command pair was rejected before dispatch")))
  | log :: rest =>
    match log.teeInstructionsSent with
    | some instructionId => .ok instructionId
    | none => extractInstructionId rest

def storePolicyOnChain (site : Site) (env : Environment) (policy : Address) (ciphertext : Text) :
    Browser (Bytes32 × Bytes32) := do
  if site.enclaveHandoffConfigured then
    MonadExcept.ofExcept env.simulate
    let txHash ← writeContract env.handoff (.handoff policy ciphertext INSTRUCTION_FEE) id
    let status ← MonadExcept.ofExcept env.handoff.receipt
    if status = .success then
      let instructionId ← MonadExcept.ofExcept (extractInstructionId env.handoffLogs)
      pure (instructionId, txHash)
    else
      throw (.enclaveHandoff (text "the hand-off transaction reverted (" ++
        Hex.prefixed txHash.bytes ++ text ")"))
  else
    throw (.enclaveHandoff (text
      "No instruction sender is configured, so the enclave cannot be reached from this build."))

def skipHandoff (note : Text) (entry : VaultEntry) : Browser VaultEntry := do
  update .handoff ({ · with status := .skipped, note := some note })
  pure entry

-- The entry returned has the hand-off even where the second save of it failed.
def handOff (site : Site) (env : Environment) (policy : Address) (entry : VaultEntry) :
    Browser VaultEntry := do
  let skip e := skipHandoff (message e ++ text " You can retry from the policy screen.")
  update .handoff ({ · with status := .running })
  match entry.ciphertext with
  | none => skipHandoff (text ("Nothing sealed to send. Configure an enclave key, then retry " ++
      "from the policy screen.")) entry
  | some ciphertext =>
    if site.enclaveHandoffConfigured then
      tryCatch (do
        let (instructionId, txHash) ← storePolicyOnChain site env policy ciphertext
        let handed := { entry with handoff := some ⟨instructionId, txHash, env.handedAt.val⟩ }
        tryCatch (do
          save env.setItemAgain handed
          update .handoff ({ · with status := .done, txHash := some txHash })
          pure handed)
          (skip · handed))
        (skip · entry)
    else skipHandoff (text "No instruction sender configured in this build.") entry

def fund (site : Site) (env : Environment) (policy : Address) (deposit : Int) :
    Browser Unit := do
  if deposit = 0 then
    update .approve ({ · with
      status := .skipped
      note := some (text "You can deposit any time from the policy screen.") })
    update .deposit ({ · with status := .skipped })
  else
    update .approve ({ · with status := .running })
    fatal .approve do
      let _ ← transact env.approve (.approve site.addresses.fxrp policy deposit) id
      update .approve ({ · with status := .done })
    update .deposit ({ · with status := .running })
    fatal .deposit do
      let _ ← confirm env.deposit (.deposit policy deposit) id
      update .deposit ({ · with status := .done })

def triggerKind : Trigger → Text
  | .manualHeartbeat _ _ => text "manualHeartbeat"
  | .timestamp _ => text "timestamp"
  | .chainProofOfLife _ _ _ _ => text "chainProofOfLife"

def DeployOptions.entry {viem : Viem} (options : DeployOptions viem) (policy : Text)
    (ciphertext : Option Text) (trigger : Address) (deployTx : Bytes32) (deployedAt : DateNow) :
    VaultEntry where
  policy := policy
  chainId := 114
  name := options.compiled.ir.val.name.val
  templateId := options.templateId
  assetSymbol := options.compiled.ir.val.asset
  salt := options.salt
  privateConfig := options.compiled.privateConfig
  ciphertext := ciphertext
  handoff := none
  triggerKind := triggerKind options.compiled.ir.val.trigger
  triggerAddress := trigger
  deployTx := deployTx
  deployedAt := deployedAt.val

def deployPolicy (site : Site) (options : DeployOptions site.viem) (env : Environment) :
    Browser VaultEntry := do
  MonadExcept.ofExcept env.provider
  let arguments ← MonadExcept.ofExcept
    ((factoryCall site.addresses options.compiled).mapError .deploy)
  let ciphertext ← sealPrivate env options.compiled.plaintext
  let (policy, deployTx) ← createPolicy site env arguments
  configureTrigger site env options.compiled options.account arguments.trigger policy
  let entry := options.entry (site.checksumAddress policy) ciphertext arguments.trigger deployTx
    env.deployedAt
  save env.setItem entry
  let entry ← handOff site env policy entry
  fund site env policy options.deposit
  pure entry

def pendingSteps (compiled : CompiledPolicy) : List DeployStep :=
  [⟨.seal, text "Encrypt your confidential inputs", .pending, none, none⟩,
    ⟨.deploy, text "Create the policy contract", .pending, none, none⟩,
    ⟨.configure, text "Set the trigger", .pending, none, none⟩,
    ⟨.handoff, text "Hand the sealed policy to the enclave", .pending, none, none⟩,
    ⟨.approve, text "Approve " ++ compiled.ir.val.asset, .pending, none, none⟩,
    ⟨.deposit, text "Deposit " ++ compiled.ir.val.asset, .pending, none, none⟩]

def World.begin (world : World) (compiled : CompiledPolicy) : Attempt :=
  ⟨world.vault, world.clones, pendingSteps compiled, [], [], []⟩

def run (site : Site) (options : DeployOptions site.viem) (env : Environment) (world : World) :
    EStateM.Result Thrown Attempt VaultEntry :=
  (deployPolicy site options env).run (world.begin options.compiled)

end FlareStudio.Web
