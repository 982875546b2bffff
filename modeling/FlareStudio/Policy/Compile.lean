import FlareStudio.Policy.Commitment
import FlareStudio.Policy.Schema

set_option autoImplicit false

namespace FlareStudio.Policy

-- The asset registry, by symbol: the compiler only asks whether it has an entry.
def ASSETS : List Text := [text "FXRP", text "FBTC"]

-- Looked up on an object literal, these names find what every object inherits.
def objectPrototype : List Text :=
  [text "constructor", text "__proto__", text "hasOwnProperty", text "isPrototypeOf",
    text "propertyIsEnumerable", text "toLocaleString", text "toString", text "valueOf",
    text "__defineGetter__", text "__defineSetter__", text "__lookupGetter__",
    text "__lookupSetter__"]

inductive CompileError where
  | policyCompile (message : Text)
  | unknownAsset (message : Text)
  | viem (message : Text)
deriving DecidableEq

def getAsset (symbol : Text) : Except CompileError Unit :=
  if symbol ∈ ASSETS ∨ symbol ∈ objectPrototype then .ok ()
  else .error (.unknownAsset (text "Unknown asset \"" ++ symbol ++ text "\". Known: " ++
    (text ", ").intercalate ASSETS ++ text (". Adding an asset should be one entry in assets.ts " ++
      "and nothing else.")))

structure PublicArgs where
  assetSymbol : Text
  commitment : Text
  trigger : Trigger
  conditions : List Condition
deriving DecidableEq

structure PrivateRecipient where
  address : Text
  shareBps : Nat
  label : Option Text
deriving DecidableEq

structure PrivateConfig where
  name : Text
  recipients : List PrivateRecipient
deriving DecidableEq

structure EnclaveShare where
  recipient : Text
  shareBps : Nat
deriving DecidableEq

structure EnclaveConfig where
  salt : Text
  shares : List EnclaveShare
deriving DecidableEq

structure CompiledPolicy where
  ir : PolicyIR
  publicArgs : PublicArgs
  privateConfig : PrivateConfig
  enclaveConfig : EnclaveConfig
  plaintext : Text
deriving DecidableEq

def Action.isSplitTransfer : Action → Bool
  | .splitTransfer _ => true

def Recipient.toPrivate (recipient : Recipient) : PrivateRecipient :=
  ⟨recipient.address.val, recipient.shareBps.val, recipient.label.map Subtype.val⟩

def shareCommitmentSet (config : PrivateConfig) : List Distribution :=
  config.recipients.map fun recipient => ⟨recipient.address, recipient.shareBps⟩

def enclaveShares (config : PrivateConfig) : List EnclaveShare :=
  config.recipients.map fun recipient => ⟨recipient.address, recipient.shareBps⟩

def EnclaveShare.json (share : EnclaveShare) : JsonValue :=
  .object [(text "recipient", .string share.recipient), (text "shareBps", .integer share.shareBps)]

def EnclaveConfig.json (config : EnclaveConfig) : JsonValue :=
  .object [(text "salt", .string config.salt),
    (text "shares", .array (config.shares.map EnclaveShare.json))]

def issueMessage (issue : Zod.Issue) : Text :=
  (text ".").intercalate issue.path ++ text ": " ++ issue.message

def parsePolicy (input : JsValue) : Except CompileError PolicyIR :=
  match policyIrSchema input with
  | .ok ir => .ok ir
  | .error issue => .error (.policyCompile (issueMessage issue))

def commitTo (viem : Viem) (distributions : List Distribution) (salt : Text) :
    Except CompileError Text :=
  match computeCommitment viem distributions salt with
  | .ok commitment => .ok commitment
  | .error message => .error (.viem message)

def compile (viem : Viem) (input : JsValue) (salt : Text) : Except CompileError CompiledPolicy := do
  let ir ← parsePolicy input
  getAsset ir.val.asset
  match ir.val.actions.val.find? Action.isSplitTransfer with
  | none => .error (.policyCompile (text "policy has no distribution action"))
  | some transfer => do
    let privateConfig : PrivateConfig :=
      ⟨ir.val.name.val, transfer.recipients.map Recipient.toPrivate⟩
    let commitment ← commitTo viem (shareCommitmentSet privateConfig) salt
    let enclaveConfig : EnclaveConfig := ⟨salt, enclaveShares privateConfig⟩
    .ok
      { ir
        publicArgs := ⟨ir.val.asset, commitment, ir.val.trigger, ir.val.conditions⟩
        privateConfig
        enclaveConfig
        plaintext := canonicalize enclaveConfig.json }

-- BigInt division truncates.
def resolveFrom (balance : Int) : Int → List PrivateRecipient → List Distribution
  | _, [] => []
  | allocated, recipient :: rest =>
    let amount :=
      if rest = [] then balance - allocated
      else (balance * recipient.shareBps).tdiv 10000
    ⟨recipient.address, amount⟩ :: resolveFrom balance (allocated + amount) rest

def resolveDistributions (config : PrivateConfig) (balance : Int) : List Distribution :=
  resolveFrom balance 0 config.recipients

def PolicyIR.transfer (ir : PolicyIR) : Action := ir.val.actions.val.head ir.val.actions.property

theorem find?_isSplitTransfer (ir : PolicyIR) :
    ir.val.actions.val.find? Action.isSplitTransfer = some ir.transfer := by
  obtain ⟨⟨name, asset, trigger, conditions, ⟨actions, nonempty⟩⟩, checked⟩ := ir
  cases actions with
  | nil => exact absurd rfl nonempty
  | cons action rest => cases action; rfl

structure Compiles (viem : Viem) (ir : PolicyIR) (salt : Text) (compiled : CompiledPolicy) :
    Prop where
  carried : compiled.ir = ir
  assetSymbol : compiled.publicArgs.assetSymbol = ir.val.asset
  trigger : compiled.publicArgs.trigger = ir.val.trigger
  conditions : compiled.publicArgs.conditions = ir.val.conditions
  recipients : compiled.privateConfig.recipients =
    ir.transfer.recipients.map Recipient.toPrivate
  commitment : computeCommitment viem (shareCommitmentSet compiled.privateConfig) salt =
    .ok compiled.publicArgs.commitment
  enclaveConfig : compiled.enclaveConfig = ⟨salt, enclaveShares compiled.privateConfig⟩
  plaintext : compiled.plaintext = canonicalize compiled.enclaveConfig.json

theorem commitTo_eq_ok {viem : Viem} {distributions : List Distribution} {salt commitment : Text}
    (committed : commitTo viem distributions salt = .ok commitment) :
    computeCommitment viem distributions salt = .ok commitment := by
  unfold commitTo at committed
  split at committed
  · rename_i computed
    cases committed
    exact computed
  · cases committed

theorem parsePolicy_eq_ok {input : JsValue} {ir : PolicyIR} :
    parsePolicy input = .ok ir ↔ policyIrSchema input = .ok ir := by
  unfold parsePolicy
  cases policyIrSchema input <;> simp

theorem compile_compiles {viem : Viem} {input : JsValue} {salt : Text} {compiled : CompiledPolicy}
    (accepted : compile viem input salt = .ok compiled) :
    ∃ ir, policyIrSchema input = .ok ir ∧ getAsset ir.val.asset = .ok () ∧
      Compiles viem ir salt compiled := by
  simp only [compile, Checked.bind_reaches, parsePolicy_eq_ok, find?_isSplitTransfer,
    Except.ok.injEq] at accepted
  obtain ⟨ir, parsed, _, known, commitment, committed, rfl⟩ := accepted
  exact ⟨ir, parsed, known, rfl, rfl, rfl, rfl, rfl, commitTo_eq_ok committed, rfl, rfl⟩

def PolicyIR.recipients (ir : PolicyIR) : List Recipient :=
  ir.val.actions.val.flatMap Action.recipients

def EnclaveConfig.distributions (config : EnclaveConfig) : List Distribution :=
  config.shares.map fun share => ⟨share.recipient, share.shareBps⟩

/-- The recipients of all actions are among the shares, in order, and the commitment is over those
shares. -/
structure CommitsToAll (viem : Viem) (ir : PolicyIR) (salt : Text) (compiled : CompiledPolicy) :
    Prop where
  shares : (enclaveShares ⟨ir.val.name.val, ir.recipients.map Recipient.toPrivate⟩).Sublist
    compiled.enclaveConfig.shares
  commitment : computeCommitment viem compiled.enclaveConfig.distributions salt =
    .ok compiled.publicArgs.commitment

theorem enclaveShares_distributions (salt : Text) (config : PrivateConfig) :
    (EnclaveConfig.mk salt (enclaveShares config)).distributions = shareCommitmentSet config := by
  rw [EnclaveConfig.distributions, enclaveShares, shareCommitmentSet, List.map_map]
  rfl

theorem recipients_length_le (ir : PolicyIR)
    (within : ir.recipients.length ≤ ir.transfer.recipients.length) :
    ir.val.actions.val.length = 1 := by
  obtain ⟨⟨name, asset, trigger, conditions, ⟨actions, nonempty⟩⟩, checked⟩ := ir
  cases actions with
  | nil => exact absurd rfl nonempty
  | cons action rest =>
    cases rest with
    | nil => rfl
    | cons second rest =>
      have positive := List.length_pos_of_ne_nil second.recipients_ne_nil
      simp only [PolicyIR.recipients, PolicyIR.transfer, List.flatMap_cons, List.length_append,
        List.head_cons] at within
      omega

theorem recipients_of_one (ir : PolicyIR) (one : ir.val.actions.val.length = 1) :
    ir.recipients = ir.transfer.recipients := by
  obtain ⟨action, actions⟩ := List.length_eq_one_iff.mp one
  simp [PolicyIR.recipients, PolicyIR.transfer, actions]

theorem commitsToAll_iff {viem : Viem} {input : JsValue} {salt : Text} {ir : PolicyIR}
    {compiled : CompiledPolicy} (parsed : policyIrSchema input = .ok ir)
    (accepted : compile viem input salt = .ok compiled) :
    CommitsToAll viem ir salt compiled ↔ ir.val.actions.val.length = 1 := by
  obtain ⟨ir', parsed', -, compiles⟩ := compile_compiles accepted
  rw [parsed, Except.ok.injEq] at parsed'
  subst parsed'
  constructor
  · intro all
    have within := all.shares.length_le
    simp only [compiles.enclaveConfig, enclaveShares, compiles.recipients, List.length_map]
      at within
    exact recipients_length_le ir within
  · intro one
    constructor
    · rw [compiles.enclaveConfig, enclaveShares, enclaveShares, compiles.recipients,
        recipients_of_one ir one]
    · rw [compiles.enclaveConfig, enclaveShares_distributions]
      exact compiles.commitment

def recipientInput (digit : String) (shareBps : Nat) : JsValue :=
  .object [(text "address", .string (text "0x" ++ (List.replicate 40 (text digit)).flatten)),
    (text "shareBps", .number (.finite shareBps))]

def splitInput (recipients : List JsValue) : JsValue :=
  .object [(text "kind", .string (text "splitTransfer")), (text "recipients", .array recipients)]

def assetInput (asset : String) (conditions actions : List JsValue) : JsValue :=
  .object [(text "version", .number (.finite 1)), (text "name", .string (text "Test policy")),
    (text "asset", .string (text asset)),
    (text "trigger", .object [(text "kind", .string (text "manualHeartbeat")),
      (text "intervalSeconds", .number (.finite 86400)), (text "demoMode", .boolean true)]),
    (text "conditions", .array conditions), (text "actions", .array actions)]

def policyInput (actions : List JsValue) : JsValue := assetInput "FXRP" [] actions

def familyInput : JsValue := splitInput [recipientInput "2" 7000, recipientInput "3" 3000]

def charityInput : JsValue := splitInput [recipientInput "4" 5000, recipientInput "5" 5000]

def sampleSalt : Text := text "0x" ++ (List.replicate 32 (text "ab")).flatten

theorem family_commitsToAll :
    ∃ ir compiled, policyIrSchema (policyInput [familyInput]) = .ok ir ∧
      compile .lowercase (policyInput [familyInput]) sampleSalt = .ok compiled ∧
      CommitsToAll .lowercase ir sampleSalt compiled := by
  have one : (policyIrSchema (policyInput [familyInput])).map
      (fun ir => ir.val.actions.val.length) = .ok 1 := by decide +kernel
  have accepted : (compile .lowercase (policyInput [familyInput]) sampleSalt).map
      (fun compiled => compiled.enclaveConfig.shares.length) = .ok 2 := by decide +kernel
  obtain ⟨ir, parsed, one⟩ := Checked.map_eq_ok one
  obtain ⟨compiled, accepted, -⟩ := Checked.map_eq_ok accepted
  exact ⟨ir, compiled, parsed, accepted, (commitsToAll_iff parsed accepted).mpr one⟩

-- The second action's recipients are checked, shown and left out.
theorem charity_left_out :
    ∃ ir compiled, policyIrSchema (policyInput [familyInput, charityInput]) = .ok ir ∧
      compile .lowercase (policyInput [familyInput, charityInput]) sampleSalt = .ok compiled ∧
      ir.recipients.length = 4 ∧ compiled.enclaveConfig.shares.length = 2 ∧
      ¬ CommitsToAll .lowercase ir sampleSalt compiled := by
  have four : (policyIrSchema (policyInput [familyInput, charityInput])).map
      (fun ir => ir.recipients.length) = .ok 4 := by decide +kernel
  have two : (compile .lowercase (policyInput [familyInput, charityInput]) sampleSalt).map
      (fun compiled => compiled.enclaveConfig.shares.length) = .ok 2 := by decide +kernel
  obtain ⟨ir, parsed, four⟩ := Checked.map_eq_ok four
  obtain ⟨compiled, accepted, two⟩ := Checked.map_eq_ok two
  refine ⟨ir, compiled, parsed, accepted, four, two, fun all => ?_⟩
  have within := all.shares.length_le
  simp only [enclaveShares, List.length_map] at within
  omega

end FlareStudio.Policy
