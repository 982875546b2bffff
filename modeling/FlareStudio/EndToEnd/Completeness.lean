import FlareStudio.Contracts.Payout
import FlareStudio.EndToEnd.Acceptance
import FlareStudio.EndToEnd.SignatureBinding

set_option autoImplicit false

namespace FlareStudio.EndToEnd

open Policy Extension ConfidentialPolicy Reentrant

theorem prefixed_injective {n : Nat} {a b : FixedBytes n}
    (same : Hex.prefixed a.bytes = Hex.prefixed b.bytes) : a = b := by
  have decoded := congrArg (Hex.fixed? n) same
  rw [Hex.fixed?_prefixed, Hex.fixed?_prefixed] at decoded
  exact Option.some.inj decoded

structure Decodes (compiled : CompiledPolicy) (cfg : Extension.PrivateConfig) : Prop where
  commitment : compiled.publicArgs.commitment =
    Hex.prefixed (Extension.computeCommitment cfg.shares cfg.salt).bytes
  whole : (weights cfg.shares).sum = TOTAL_BPS

theorem commitmentSet_denotes {config : Policy.PrivateConfig} {shares : List Extension.Share}
    (denotes : List.Forall₂ EnclaveShare.Denotes (enclaveShares config) shares) :
    List.Forall₂ Policy.Distribution.Denotes (shareCommitmentSet config) (shareValues shares) := by
  rw [enclaveShares, List.forall₂_map_left_iff] at denotes
  rw [shareCommitmentSet, shareValues, List.forall₂_map_left_iff, List.forall₂_map_right_iff]
  apply denotes.imp
  rintro recipient share ⟨address, shareBps⟩
  exact ⟨address, congrArg Nat.cast shareBps⟩

theorem compile_decodes {viem : Viem} {input : JsValue} {salt : Text} {compiled : CompiledPolicy}
    {cfg : Extension.PrivateConfig} (units : ∀ unit ∈ salt, unit < 0x10000)
    (accepted : compile viem input salt = .ok compiled)
    (decodes : unmarshal (textEncode compiled.plaintext) = some cfg) : Decodes compiled cfg := by
  obtain ⟨ir, -, -, compiles⟩ := compile_compiles accepted
  obtain ⟨shares, read, denotes, whole⟩ := compiles_read compiles
  rw [compiles.plaintext, compiles.enclaveConfig, unmarshal_plaintext units denotes,
    Option.map_eq_some_iff] at decodes
  obtain ⟨word, bytes32, rfl⟩ := decodes
  constructor
  · exact computeCommitment_of_denotes (commitmentSet_denotes denotes) bytes32 compiles.commitment
  · exact (total_of_readAs read).trans whole

/-- A STORE of the compiled plaintext for the policy that the machine accepts. -/
structure StoresCompiled (lib : Library) (compiled : CompiledPolicy) (policy : Address)
    (store : Input) (cfg : Extension.PrivateConfig) : Prop where
  sent : ∃ sender ciphertext, Carries lib store.2 (sendStorePolicy sender policy ciphertext) ∧
    ciphertext.length < 2 ^ 256 ∧
    store.1.decrypt ciphertext = .ok (textEncode compiled.plaintext)
  accepted : stored lib policy store = some cfg

theorem StoresCompiled.decodes {lib : Library} {compiled : CompiledPolicy} {policy : Address}
    {store : Input} {cfg : Extension.PrivateConfig} (reads : lib.Reads)
    (stores : StoresCompiled lib compiled policy store cfg) :
    unmarshal (textEncode compiled.plaintext) = some cfg := by
  obtain ⟨⟨sender, ciphertext, ⟨action, asked, carried⟩, fits, decrypted⟩, accepted⟩ := stores
  obtain ⟨action', df, asked', parsed, -, -, opened⟩ := stored_eq_some accepted
  obtain rfl : action = action' := Request.action.inj (asked.symm.trans asked')
  obtain rfl : (sendStorePolicy sender policy ciphertext).dataFixed = df :=
    Except.ok.inj (carried.symm.trans parsed)
  obtain ⟨req, plaintext, decoded, -, -, -, opens, decodes, -⟩ := openStore_eq_ok opened
  obtain rfl : (⟨policy, ciphertext⟩ : StorePolicyRequest) = req :=
    Except.ok.inj ((reads.store policy ciphertext fits).symm.trans decoded)
  obtain rfl : textEncode compiled.plaintext = plaintext :=
    Except.ok.inj (decrypted.symm.trans opens)
  exact decodes

theorem held_after_latest {lib : Library} {chainID : Int} {policy : Address}
    {before between : List Input} {store : Input} {cfg : Extension.PrivateConfig}
    (accepted : stored lib policy store = some cfg)
    (latest : ∀ input ∈ between, stored lib policy input = none) :
    (after lib chainID new (before ++ store :: between)).policies.lookup policy = some cfg := by
  have silent : between.filterMap (stored lib policy) = [] :=
    List.filterMap_eq_nil_iff.mpr latest
  rw [lookup_after, List.filterMap_append, List.filterMap_cons_some accepted, silent]
  simp

def LowS (raw : Bytes) : Prop :=
  ofBigEndian ((raw.drop 32).take 32) ≤
    0x7fffffffffffffffffffffffffffffff5d576e7357a4501ddfe92f46681b20a0

/-- The node signs keccak256 of the message under the EIP-191 envelope, with a low s and a recovery
id, and recovery inverts signing. -/
structure SignsFor (oz : OpenZeppelin) (node : Node) (signer : Address) (message raw : Bytes) :
    Prop where
  answered : node.sign message = .ok raw
  length : raw.length = 65
  recoveryId : raw.getD 64 0 ≤ 1
  lowS : LowS raw
  recovers : LowS raw → oz.recover (oz.toEthSignedMessageHash (keccak256 message))
    (raw.take 64 ++ [raw.getD 64 0 + 27]) = .ok signer

theorem normalizeV_of_recoveryId {raw : Bytes} (recoveryId : raw.getD 64 0 ≤ 1) :
    normalizeV raw = raw.take 64 ++ [raw.getD 64 0 + 27] := by
  have small : raw.getD 64 0 < 27 := UInt8.lt_of_le_of_lt recoveryId (by decide)
  rw [normalizeV, if_pos small]

/-- A triggered clone with a balance, on the machine's chain, whose callees do their part. -/
structure Payable (ctx : Context) (state : ConfidentialPolicy.State)
    (answers : Query → ConfidentialPolicy.Answer) (policy : Address) (chainID : Int)
    (commitment : Text) (triggeredAt : Nat) (signer : Address) (balance : Nat) : Prop where
  self : ctx.self = policy
  chain : (ctx.chainId : Int) = chainID
  status : state.storage.status = .triggered
  commits : Hex.prefixed state.storage.commitment.bytes = commitment
  armed : state.storage.triggeredAt = triggeredAt
  attested : answers ⟨state.storage.attestorGate, .isAttested signer⟩ = .bool true
  funded : answers ⟨state.storage.asset, .balanceOf ctx.self⟩ = .uint balance
  nonzero : balance ≠ 0
  fits : balance * 10000 < 2 ^ 256
  pays : ∀ receiver amount,
    answers ⟨state.storage.asset, .safeTransfer receiver amount⟩ = .success

theorem payable_accepts {oz : OpenZeppelin} {ctx : Context} {state : ConfidentialPolicy.State}
    {answers : Query → ConfidentialPolicy.Answer} {policy : Address} {chainID : Int}
    {triggeredAt balance : Nat} {signer : Address} {node : Node} {raw : Bytes}
    {cfg : Extension.PrivateConfig}
    (payable : Payable ctx state answers policy chainID
      (Hex.prefixed (Extension.computeCommitment cfg.shares cfg.salt).bytes) triggeredAt signer
      balance)
    (signs : SignsFor oz node signer (evaluatedDistribution chainID ⟨policy, some triggeredAt⟩
      triggeredAt cfg).message raw) :
    Accepts oz ctx state cfg.shares cfg.salt (normalizeV raw) signer := by
  have executed : executedDistribution ctx state cfg.shares cfg.salt =
      evaluatedDistribution chainID ⟨policy, some triggeredAt⟩ triggeredAt cfg := by
    rw [executedDistribution, evaluatedDistribution, payable.self, payable.chain,
      payable.armed]
  rw [accepts_iff_recovers, executed, ← toEthSignedMessageHash_message,
    normalizeV_of_recoveryId signs.recoveryId]
  exact ⟨payable.status, (prefixed_injective payable.commits).symm, signs.recovers signs.lowS⟩

/-- The decoded split re-derives the commitment, and what an evaluation returns for a triggered
clone of that commitment passes every check of its execute. -/
theorem store_evaluate_execute {lib : Library} (reads : lib.Reads) {viem : Viem} {input : JsValue}
    {salt : Text} {compiled : CompiledPolicy} {policy : Address} {chainID : Int}
    {before between : List Input} {store : Input} {cfg : Extension.PrivateConfig}
    (units : ∀ unit ∈ salt, unit < 0x10000)
    (accepted : compile viem input salt = .ok compiled)
    (stores : StoresCompiled lib compiled policy store cfg)
    (latest : ∀ input ∈ between, stored lib policy input = none) (positive : 0 < chainID) :
    compiled.publicArgs.commitment =
        Hex.prefixed (Extension.computeCommitment cfg.shares cfg.salt).bytes ∧
      ∀ (oz : OpenZeppelin) (ctx : Context) (state : ConfidentialPolicy.State)
        (answers : Query → ConfidentialPolicy.Answer) (node : Node) (asker signer : Address)
        (raw : Bytes) (triggeredAt balance : Nat) (request : Request), 0 < triggeredAt →
        triggeredAt < 2 ^ 256 → Carries lib request (sendEvaluatePolicy asker policy triggeredAt) →
        Payable ctx state answers policy chainID compiled.publicArgs.commitment triggeredAt signer
          balance →
        SignsFor oz node signer (evaluatedDistribution chainID ⟨policy, some triggeredAt⟩
          triggeredAt cfg).message raw →
        ∃ resp, evaluated lib chainID (after lib chainID new (before ++ store :: between))
            (node, request) = some resp ∧
          Program.run answers (execute oz ctx resp.shares resp.salt resp.signature) state =
            .ok ((), (state.withStatus .executed).withEvent (.policyExecuted signer balance)) := by
  obtain ⟨commitment, whole⟩ := compile_decodes units accepted (stores.decodes reads)
  constructor
  · exact commitment
  intro oz ctx state answers node asker signer raw triggeredAt balance request time bounded carries
    payable signs
  rw [commitment] at payable
  have held : (after lib chainID new (before ++ store :: between)).policies.lookup policy =
      some cfg := held_after_latest stores.accepted latest
  have produced : openEvaluate lib chainID node
      (after lib chainID new (before ++ store :: between)) (evaluateMessage policy triggeredAt) =
        .ok ⟨policy, cfg.shares, cfg.salt, normalizeV raw⟩ :=
    openEvaluate_of_held (reads.evaluate policy triggeredAt bounded) (by omega) (by omega) held
      (signViaNode_of_sign signs.answered signs.length)
  refine ⟨_, sendEvaluatePolicy_evaluated reads carries produced, ?_⟩
  exact execute_runs (payable_accepts payable signs) payable.attested whole payable.funded
    payable.nonzero payable.fits payable.pays

def familySalt : Text := Hex.prefixed familyConfig.salt.bytes

-- Everybody agrees, and the balance is 1000.
def familyAnswers (query : Query) : ConfidentialPolicy.Answer :=
  match query.call with
  | .isAttested _ => .bool true
  | .balanceOf _ => .uint 1000
  | _ => .success

def familySignature : Bytes :=
  hexBytes "9739ff1e416a719b95941ce5ab0c29ea5bb682c9445a1e05aceeb641bda90a2d" ++
    hexBytes "373ef61c4088c0b7a6da2442ccee44aeb50146202570fade667f202ac993752f01"

theorem familySignature_signs :
    SignsFor (.ofRecover (recoverTable machineAccount signatures)) machine machineAccount
      (evaluatedDistribution 114 ⟨samplePolicy, some (sampleTime : Int)⟩ sampleTime
        familyConfig).message familySignature := by
  have message : (evaluatedDistribution 114 ⟨samplePolicy, some (sampleTime : Int)⟩ sampleTime
      familyConfig).message = familyMessage := familyMessage_eq
  rw [message]
  exact ⟨by decide +kernel, by decide +kernel, by decide +kernel, by unfold LowS; decide +kernel,
    fun _ => by decide +kernel⟩

theorem family_paid :
    ∃ compiled, compile .lowercase (policyInput [familyInput]) familySalt = .ok compiled ∧
      compiled.publicArgs.commitment =
        Hex.prefixed (Extension.computeCommitment familyConfig.shares familyConfig.salt).bytes ∧
      ∃ resp, evaluated wire 114 (after wire 114 new ([] ++ ownersStore :: []))
          (machine, (sendEvaluatePolicy strangerAccount samplePolicy sampleTime).request) =
            some resp ∧
        Program.run familyAnswers (execute (.ofRecover (recoverTable machineAccount signatures))
            payoutContext resp.shares resp.salt resp.signature) familyPolicy =
          .ok ((), (familyPolicy.withStatus .executed).withEvent
            (.policyExecuted machineAccount 1000)) := by
  have compiles : (compile .lowercase (policyInput [familyInput]) familySalt).map
      (fun compiled => (textEncode compiled.plaintext, compiled.publicArgs.commitment)) =
        .ok (marshal familyConfig.json, Hex.prefixed
          (Extension.computeCommitment familyConfig.shares familyConfig.salt).bytes) := by
    decide +kernel
  obtain ⟨compiled, accepted, same⟩ := Checked.map_eq_ok compiles
  obtain ⟨plaintext, commitment⟩ := Prod.mk.inj same
  have stores : StoresCompiled wire compiled samplePolicy ownersStore familyConfig := by
    refine ⟨⟨Extension.ownerAccount, ascii "sealed family", wire_carries _, by decide +kernel, ?_⟩,
      ownersStore_stored⟩
    rw [plaintext]
    decide +kernel
  have payable : Payable payoutContext familyPolicy familyAnswers samplePolicy 114
      compiled.publicArgs.commitment sampleTime machineAccount 1000 :=
    ⟨rfl, rfl, rfl, commitment.symm, rfl, rfl, rfl, by decide, by decide, fun _ _ => rfl⟩
  have units : ∀ unit ∈ familySalt, unit < 0x10000 :=
    units_of_fixed (Hex.fixed?_prefixed familyConfig.salt)
  have latest : ∀ input ∈ ([] : List Input), stored wire samplePolicy input = none := by simp
  exact ⟨compiled, accepted, commitment,
    (store_evaluate_execute wire_reads units accepted stores latest (by decide)).2 _ _ _ _ _
      strangerAccount _ _ _ _ _ (by decide) (by decide) (wire_carries _) payable
      familySignature_signs⟩

end FlareStudio.EndToEnd
