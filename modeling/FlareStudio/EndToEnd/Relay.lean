import FlareStudio.EndToEnd.Completeness
import FlareStudio.Orchestrator.RoundTrip

set_option autoImplicit false

namespace FlareStudio.EndToEnd

open Policy Extension ConfidentialPolicy Reentrant

open Orchestrator (Clients NodeJs Proxy PollOptions Delivers Instructed Mined roundTrip)

/-- The node reports the clone's arming and mines what the clone accepts, and the proxy delivers the
enclave's response in time. -/
structure Relays (oz : OpenZeppelin) (ctx : Context) (state : ConfidentialPolicy.State)
    (answers : Query → ConfidentialPolicy.Answer) (clients : Clients) (proxy : Proxy)
    (instructionSender policy : Address) (extProxyUrl : Text) (options : PollOptions)
    (resp : EvaluatePolicyResponse) : Prop where
  account : clients.account.isSome = true
  armed : clients.triggeredAt policy = .ok state.storage.triggeredAt
  delivers : ∃ instructionId, Instructed clients
      (.sendEvaluatePolicy instructionSender policy state.storage.triggeredAt) instructionId ∧
    Delivers proxy (Orchestrator.resultUrl extProxyUrl instructionId) options resp
  mines : ∀ (args : Orchestrator.ExecuteArgs) (final : Unit × ConfidentialPolicy.State),
    Program.run answers (execute oz ctx args.shares args.salt args.signature) state = .ok final →
      ∃ receipt txHash, Mined clients (.execute policy args) receipt txHash

theorem length_normalizeV {raw : Bytes} (length : raw.length = 65)
    (recoveryId : raw.getD 64 0 ≤ 1) : (normalizeV raw).length = 65 := by
  rw [normalizeV_of_recoveryId recoveryId]
  simp [length]

/-- An armed clone is paid out by any orchestrator that the enclave's answer reaches in time: what
the compiler committed to and sealed is what the round trip submits and the clone accepts. -/
theorem relayed_paid {lib : Library} (reads : lib.Reads) {viem : Policy.Viem} {input : JsValue}
    {salt : Text} {compiled : CompiledPolicy} {policy : Address} {chainID : Int}
    {before between : List Input} {store : Input} {cfg : Extension.PrivateConfig}
    (units : ∀ unit ∈ salt, unit < 0x10000)
    (accepted : compile viem input salt = .ok compiled)
    (stores : StoresCompiled lib compiled policy store cfg)
    (latest : ∀ input ∈ between, stored lib policy input = none) (positive : 0 < chainID)
    {oz : OpenZeppelin} {ctx : Context} {state : ConfidentialPolicy.State}
    {answers : Query → ConfidentialPolicy.Answer} {node : Node} {asker signer : Address}
    {raw : Bytes} {triggeredAt balance : Nat} (time : 0 < triggeredAt)
    (bounded : triggeredAt < 2 ^ 256)
    (payable : Payable ctx state answers policy chainID compiled.publicArgs.commitment triggeredAt
      signer balance)
    (signs : SignsFor oz node signer (evaluatedDistribution chainID ⟨policy, some triggeredAt⟩
      triggeredAt cfg).message raw)
    {nodeJs : NodeJs} {execution : Orchestrator.Viem} {clients : Clients} {proxy : Proxy}
    {instructionSender : Address} {extProxyUrl : Text} {options : PollOptions} {request : Request}
    (carries : Carries lib request (sendEvaluatePolicy asker policy triggeredAt))
    (relays : ∀ resp, evaluated lib chainID (after lib chainID new (before ++ store :: between))
      (node, request) = some resp →
        Relays oz ctx state answers clients proxy instructionSender policy extProxyUrl options
          resp) :
    ∃ args txHash,
      (roundTrip nodeJs execution clients proxy instructionSender policy extProxyUrl options).run
        [] =
        .ok txHash [.sendEvaluatePolicy instructionSender policy triggeredAt,
          .execute policy args] ∧
      args.shares = cfg.shares ∧ args.salt = cfg.salt ∧
      Program.run answers (execute oz ctx args.shares args.salt args.signature) state =
        .ok ((), (state.withStatus .executed).withEvent (.policyExecuted signer balance)) := by
  obtain ⟨commitment, whole⟩ := compile_decodes units accepted (stores.decodes reads)
  rw [commitment] at payable
  have held : (after lib chainID new (before ++ store :: between)).policies.lookup policy =
      some cfg := held_after_latest stores.accepted latest
  have produced : openEvaluate lib chainID node
      (after lib chainID new (before ++ store :: between)) (evaluateMessage policy triggeredAt) =
        .ok ⟨policy, cfg.shares, cfg.salt, normalizeV raw⟩ :=
    openEvaluate_of_held (reads.evaluate policy triggeredAt bounded) (by omega) (by omega) held
      (signViaNode_of_sign signs.answered signs.length)
  have relay := relays _ (sendEvaluatePolicy_evaluated reads carries produced)
  have paid := execute_runs (payable_accepts payable signs) payable.attested whole payable.funded
    payable.nonzero payable.fits payable.pays
  obtain ⟨instructionId, instructed, delivers⟩ := relay.delivers
  obtain ⟨receipt, txHash, mined⟩ := relay.mines ⟨cfg.shares, cfg.salt, normalizeV raw⟩ _ paid
  have armed : clients.triggeredAt policy = .ok triggeredAt ∧ triggeredAt ≠ 0 :=
    ⟨payable.armed ▸ relay.armed, by omega⟩
  rw [payable.armed] at instructed
  exact ⟨⟨cfg.shares, cfg.salt, normalizeV raw⟩, txHash,
    Orchestrator.roundTrip_delivered relay.account armed instructed delivers
      (length_normalizeV signs.length signs.recoveryId) mined, rfl, rfl, paid⟩

def relayClients : Clients where
  account := some strangerAccount
  triggeredAt _ := .ok sampleTime
  simulateContract _ := .ok ()
  writeContract _ := .ok (.replicate 32 9)
  waitForTransactionReceipt _ := .ok ⟨true, [⟨none⟩, ⟨some (.replicate 32 7)⟩]⟩

-- Every signature that reaches it is a string.
def relayNodeJs : NodeJs := ⟨fun _ => .error (text "TypeError")⟩

def actionResponse (resp : EvaluatePolicyResponse) : Policy.Canonical.Value :=
  .object [(text "result", .object [(text "status", .number (.ofNat 1)),
    (text "log", .string (text "ok")),
    (text "data", .string (base64 (marshal resp.json))), (text "version", .string (text "0.1.0"))])]

-- It has the response at once, in base64, or else does not find it.
def relayProxy (resp : Option EvaluatePolicyResponse) : Proxy where
  now := 0
  fetch _ _ :=
    match resp with
    | some resp => (some ⟨true, 200, .ok (actionResponse resp)⟩, 0)
    | none => (some ⟨false, 404, .error []⟩, 0)
  delay _ := 0

theorem relayClients_mined (call : Orchestrator.Call) : Mined relayClients call
    ⟨true, [⟨none⟩, ⟨some (.replicate 32 7)⟩]⟩ (.replicate 32 9) :=
  ⟨rfl, rfl, rfl, rfl⟩

theorem relay_relays (oz : OpenZeppelin) (ctx : Context) (extProxyUrl : Text)
    (resp : EvaluatePolicyResponse) :
    Relays oz ctx familyPolicy familyAnswers relayClients (relayProxy (some resp))
      (.replicate 20 8) samplePolicy extProxyUrl ⟨180000, 2000⟩ resp where
  account := rfl
  armed := rfl
  delivers := by
    refine ⟨.replicate 32 7, ⟨_, _, relayClients_mined _, rfl⟩, ?_, ?_⟩
    · intro time found given ok
      simp only [relayProxy, Option.some.injEq] at given
      subst given
      exact ⟨_, _, rfl, ⟨_, rfl, rfl, rfl⟩, .inl rfl⟩
    · exact ⟨0, Nat.zero_lt_succ _, rfl⟩
  mines args _ _ := ⟨_, _, relayClients_mined (.execute samplePolicy args)⟩

theorem family_relayed : ∃ proxy args txHash,
    (roundTrip relayNodeJs .unchecked relayClients proxy (.replicate 20 8) samplePolicy
      (text "http://proxy/") ⟨180000, 2000⟩).run [] =
      .ok txHash [.sendEvaluatePolicy (.replicate 20 8) samplePolicy sampleTime,
        .execute samplePolicy args] ∧
    Program.run familyAnswers (execute (.ofRecover (recoverTable machineAccount signatures))
        payoutContext args.shares args.salt args.signature) familyPolicy =
      .ok ((), (familyPolicy.withStatus .executed).withEvent
        (.policyExecuted machineAccount 1000)) := by
  have compiles : (compile .lowercase (policyInput [familyInput]) familySalt).map
      (fun compiled => (textEncode compiled.plaintext, compiled.publicArgs.commitment)) =
        .ok (marshal familyConfig.json, Hex.prefixed
          (Extension.computeCommitment familyConfig.shares familyConfig.salt).bytes) := by
    decide +kernel
  obtain ⟨compiled, accepted, same⟩ := Checked.map_eq_ok compiles
  obtain ⟨plaintext, commitment⟩ := Prod.mk.inj same
  have stores : StoresCompiled wire compiled samplePolicy ownersStore familyConfig := by
    refine ⟨⟨Extension.ownerAccount, ascii "sealed family", wire_carries _, by decide +kernel, ?_⟩,
      ownersStore_stored⟩
    rw [plaintext]
    decide +kernel
  have payable : Payable payoutContext familyPolicy familyAnswers samplePolicy 114
      compiled.publicArgs.commitment sampleTime machineAccount 1000 :=
    ⟨rfl, rfl, rfl, commitment.symm, rfl, rfl, rfl, by decide, by decide, fun _ _ => rfl⟩
  have units : ∀ unit ∈ familySalt, unit < 0x10000 :=
    units_of_fixed (Hex.fixed?_prefixed familyConfig.salt)
  have latest : ∀ input ∈ ([] : List Input), stored wire samplePolicy input = none := by simp
  let proxy := relayProxy (evaluated wire 114 (after wire 114 new ([] ++ ownersStore :: []))
    (machine, (sendEvaluatePolicy strangerAccount samplePolicy sampleTime).request))
  have relays : ∀ resp, evaluated wire 114 (after wire 114 new ([] ++ ownersStore :: []))
      (machine, (sendEvaluatePolicy strangerAccount samplePolicy sampleTime).request) = some resp →
        Relays (.ofRecover (recoverTable machineAccount signatures)) payoutContext familyPolicy
          familyAnswers relayClients proxy (.replicate 20 8) samplePolicy (text "http://proxy/")
          ⟨180000, 2000⟩ resp := by
    intro resp evaluates
    simp only [proxy, evaluates]
    exact relay_relays _ _ _ resp
  obtain ⟨args, txHash, submitted, -, -, paid⟩ := relayed_paid wire_reads units accepted stores
    latest (by decide) (by decide) (by decide) payable familySignature_signs (wire_carries _) relays
  exact ⟨proxy, args, txHash, submitted, paid⟩

end FlareStudio.EndToEnd
