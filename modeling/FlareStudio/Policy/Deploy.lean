import FlareStudio.Contracts.PolicyFactory
import FlareStudio.Contracts.PolicyRules
import FlareStudio.Policy.Compile

set_option autoImplicit false

namespace FlareStudio.Policy

open ConfidentialPolicy Reentrant

structure Addresses where
  policyFactory : Address
  teeAttestorGate : Address
  manualHeartbeatTrigger : Address
  timestampTrigger : Address
  fdcNonexistenceTrigger : Address
  fxrp : Address

inductive DeployStepId where
  | seal
  | deploy
  | configure
  | handoff
  | approve
  | deposit
deriving DecidableEq

structure DeployError where
  message : Text
  step : DeployStepId
deriving DecidableEq

def requireDeployed (address : Address) (what : String) : Except DeployError Address :=
  if address = .zero 20 then
    .error ⟨text "The " ++ text what ++
      text " is not deployed on Flare Testnet Coston2 yet.", .configure⟩
  else .ok address

def triggerAddress (addresses : Addresses) : Trigger → Except DeployError Address
  | .manualHeartbeat _ _ => requireDeployed addresses.manualHeartbeatTrigger "check-in trigger"
  | .timestamp _ => requireDeployed addresses.timestampTrigger "scheduled-date trigger"
  | .chainProofOfLife _ _ _ _ =>
    requireDeployed addresses.fdcNonexistenceTrigger "payment proof-of-life trigger"

structure FactoryArguments where
  asset : Address
  commitment : Text
  attestorGate : Address
  trigger : Address
  conditions : List Address
deriving DecidableEq

-- deployPolicy up to the call that creates the policy. Sealing the private half comes in between:
-- whether it succeeds decides nothing about the call.
def factoryCall (addresses : Addresses) (compiled : CompiledPolicy) :
    Except DeployError FactoryArguments := do
  let trigger ← triggerAddress addresses compiled.ir.val.trigger
  .ok
    { asset := addresses.fxrp
      commitment := compiled.publicArgs.commitment
      attestorGate := addresses.teeAttestorGate
      trigger
      conditions := [] }

-- The clone that the factory makes of the arguments, before anything happened to it.
def FactoryArguments.clone (arguments : FactoryArguments) (sender : Address)
    (commitment : Bytes32) : State :=
  PolicyFactory.deployedState sender arguments.asset commitment arguments.attestorGate
    arguments.trigger arguments.conditions

/-- The policy deployed is the one compiled. `token` is the asset manager's registry,
`conditionContract` the contract that checks a condition. -/
structure Deploys (addresses : Addresses) (token : Text → Option Address)
    (conditionContract : Condition → Address) (compiled : CompiledPolicy)
    (arguments : FactoryArguments) : Prop where
  asset : token compiled.publicArgs.assetSymbol = some arguments.asset
  commitment : arguments.commitment = compiled.publicArgs.commitment
  trigger : triggerAddress addresses compiled.publicArgs.trigger = .ok arguments.trigger
  conditions : arguments.conditions = compiled.publicArgs.conditions.map conditionContract
  gates : ∀ sender commitment answers ctx proof armed,
    Program.run answers (arm ctx proof) (arguments.clone sender commitment) = .ok ((), armed) →
      ∀ condition ∈ compiled.publicArgs.conditions,
        answers ⟨conditionContract condition, .isSatisfied ctx.self⟩ = .bool true

theorem checkConditions_satisfied {answers : Query → Answer} {ctx : Context} {index : Nat}
    {conditions : List Address} {state found : State}
    (ran : Program.run answers (checkConditions ctx index conditions) state = .ok ((), found)) :
    ∀ condition ∈ conditions, answers ⟨condition, .isSatisfied ctx.self⟩ = .bool true := by
  induction conditions generalizing index with
  | nil => simp
  | cons condition rest ih =>
    simp only [checkConditions, run_bind_eq_ok, run_callBool_eq_ok, run_require_eq_ok] at ran
    obtain ⟨_, _, ⟨asked, rfl⟩, _, _, ⟨rfl, rfl⟩, later⟩ := ran
    intro other member
    rcases List.mem_cons.mp member with rfl | member
    · exact asked
    · exact ih later other member

theorem arm_satisfied {answers : Query → Answer} {ctx : Context} {proof : Bytes}
    {state armed : State} (ran : Program.run answers (arm ctx proof) state = .ok ((), armed)) :
    ∀ condition ∈ state.storage.conditions,
      answers ⟨condition, .isSatisfied ctx.self⟩ = .bool true := by
  simp only [arm, run_bind_eq_ok, run_inStatus_eq_ok, run_readStorage_eq_ok, run_callBool_eq_ok,
    run_require_eq_ok] at ran
  obtain ⟨-, _, ⟨-, rfl⟩, _, _, ⟨rfl, rfl⟩, _, _, ⟨-, rfl⟩, -, _, ⟨-, rfl⟩, _, _, ⟨rfl, rfl⟩,
    _, _, checked, -⟩ := ran
  exact checkConditions_satisfied checked

theorem gates_of_conditions {conditionContract : Condition → Address} {conditions : List Condition}
    {arguments : FactoryArguments} (each : arguments.conditions = conditions.map conditionContract)
    {sender : Address} {commitment : Bytes32} {answers : Query → Answer} {ctx : Context}
    {proof : Bytes} {armed : State}
    (ran : Program.run answers (arm ctx proof) (arguments.clone sender commitment) =
      .ok ((), armed)) : ∀ condition ∈ conditions,
        answers ⟨conditionContract condition, .isSatisfied ctx.self⟩ = .bool true := by
  intro condition member
  apply arm_satisfied ran
  rw [FactoryArguments.clone, PolicyFactory.deployedState, each]
  exact List.mem_map_of_mem member

/-- What is deployed is what was compiled exactly for a policy over FXRP without conditions. -/
theorem deploys_iff {viem : Viem} {input : JsValue} {salt : Text} {compiled : CompiledPolicy}
    (accepted : compile viem input salt = .ok compiled) {addresses : Addresses}
    {token : Text → Option Address} (fxrp : token (text "FXRP") = some addresses.fxrp)
    (only : ∀ symbol, token symbol = some addresses.fxrp → symbol = text "FXRP")
    (conditionContract : Condition → Address) {arguments : FactoryArguments}
    (called : factoryCall addresses compiled = .ok arguments) :
    Deploys addresses token conditionContract compiled arguments ↔
      compiled.publicArgs.assetSymbol = text "FXRP" ∧ compiled.publicArgs.conditions = [] := by
  obtain ⟨ir, -, -, compiles⟩ := compile_compiles accepted
  simp only [factoryCall, Checked.bind_reaches, Except.ok.injEq] at called
  obtain ⟨trigger, deployed, rfl⟩ := called
  constructor
  · intro deploys
    have dropped := deploys.conditions
    exact ⟨only _ deploys.asset, List.map_eq_nil_iff.mp dropped.symm⟩
  · intro ⟨asset, conditions⟩
    have each : [] = compiled.publicArgs.conditions.map conditionContract := by
      rw [conditions, List.map_nil]
    constructor
    · rw [asset]
      exact fxrp
    · rfl
    · rw [compiles.trigger, ← compiles.carried]
      exact deployed
    · exact each
    · intro _ _ _ _ _ _ ran
      exact gates_of_conditions each ran

def sampleAddresses : Addresses where
  policyFactory := .replicate 20 0x0f
  teeAttestorGate := .replicate 20 0x6a
  manualHeartbeatTrigger := .replicate 20 0x7a
  timestampTrigger := .replicate 20 0x7b
  fdcNonexistenceTrigger := .replicate 20 0x7c
  fxrp := .replicate 20 0x0a

def sampleTokens (symbol : Text) : Option Address :=
  if symbol = text "FXRP" then some sampleAddresses.fxrp
  else if symbol = text "FBTC" then some (.replicate 20 0x0b)
  else none

theorem sampleTokens_only {symbol : Text}
    (found : sampleTokens symbol = some sampleAddresses.fxrp) : symbol = text "FXRP" := by
  unfold sampleTokens at found
  split_ifs at found with fxrp fbtc
  · exact fxrp
  · exact absurd found (by decide)

theorem family_deploys :
    ∃ compiled arguments, compile .lowercase (policyInput [familyInput]) sampleSalt = .ok compiled ∧
      factoryCall sampleAddresses compiled = .ok arguments ∧
      Deploys sampleAddresses sampleTokens (fun _ => .replicate 20 0xc0) compiled arguments := by
  have evaluated : (compile .lowercase (policyInput [familyInput]) sampleSalt).map
      (fun compiled => ((factoryCall sampleAddresses compiled).isOk,
        compiled.publicArgs.assetSymbol, compiled.publicArgs.conditions)) =
          .ok (true, text "FXRP", []) := by decide +kernel
  obtain ⟨compiled, accepted, parts⟩ := Checked.map_eq_ok evaluated
  simp only [Prod.mk.injEq] at parts
  obtain ⟨called, asset, conditions⟩ := parts
  cases called' : factoryCall sampleAddresses compiled with
  | error error => simp [called', Except.isOk, Except.toBool] at called
  | ok arguments =>
    refine ⟨compiled, arguments, accepted, called', ?_⟩
    exact (deploys_iff accepted rfl (fun _ => sampleTokens_only) _ called').mpr ⟨asset, conditions⟩

def priceInput : JsValue :=
  .object [(text "kind", .string (text "priceAbove")),
    (text "feedId", .string (text "0x014254432f55534400000000000000000000000000")),
    (text "minimumUsd", .number (.finite 100000))]

def bitcoinInput : JsValue := assetInput "FBTC" [priceInput] [familyInput]

def sampleArguments : FactoryArguments where
  asset := .replicate 20 0x0a
  commitment := text "0xd8edb5137cd8b2bd1e3c7ea926d92052166a4b5c4162570c630ee8b10c870cc2"
  attestorGate := .replicate 20 0x6a
  trigger := .replicate 20 0x7a
  conditions := []

theorem family_called :
    ∃ compiled, compile .lowercase (policyInput [familyInput]) sampleSalt = .ok compiled ∧
      compiled.publicArgs.assetSymbol = text "FXRP" ∧
      compiled.ir.val.trigger = .manualHeartbeat ⟨86400, by decide⟩ true ∧
      factoryCall sampleAddresses compiled = .ok sampleArguments := by
  have evaluated : (compile .lowercase (policyInput [familyInput]) sampleSalt).map
      (fun compiled => (compiled.publicArgs.assetSymbol, compiled.ir.val.trigger,
        factoryCall sampleAddresses compiled)) =
        .ok (text "FXRP", .manualHeartbeat ⟨86400, by decide⟩ true, .ok sampleArguments) := by
    decide +kernel
  obtain ⟨compiled, accepted, parts⟩ := Checked.map_eq_ok evaluated
  simp only [Prod.mk.injEq] at parts
  exact ⟨compiled, accepted, parts⟩

-- Another asset and a condition, and the call is the one made for FXRP without any.
theorem bitcoin_deploys_as_fxrp :
    ∃ fxrp fbtc, compile .lowercase (policyInput [familyInput]) sampleSalt = .ok fxrp ∧
      compile .lowercase bitcoinInput sampleSalt = .ok fbtc ∧
      fxrp.publicArgs.assetSymbol = text "FXRP" ∧ fbtc.publicArgs.assetSymbol = text "FBTC" ∧
      fbtc.publicArgs.conditions.length = 1 ∧
      factoryCall sampleAddresses fxrp = .ok sampleArguments ∧
      factoryCall sampleAddresses fbtc = .ok sampleArguments ∧
      ¬ Deploys sampleAddresses sampleTokens (fun _ => .replicate 20 0xc0) fbtc
        sampleArguments := by
  obtain ⟨fxrp, accepted, asset, -, called⟩ := family_called
  have second : (compile .lowercase bitcoinInput sampleSalt).map
      (fun compiled => (compiled.publicArgs.assetSymbol, compiled.publicArgs.conditions.length,
        factoryCall sampleAddresses compiled)) =
        .ok (text "FBTC", 1, .ok sampleArguments) := by decide +kernel
  obtain ⟨fbtc, accepted', parts'⟩ := Checked.map_eq_ok second
  simp only [Prod.mk.injEq] at parts'
  obtain ⟨asset', conditions, called'⟩ := parts'
  refine ⟨fxrp, fbtc, accepted, accepted', asset, asset', conditions, called, called', ?_⟩
  intro deploys
  have dropped := congrArg List.length deploys.conditions
  simp [sampleArguments, conditions] at dropped

end FlareStudio.Policy
