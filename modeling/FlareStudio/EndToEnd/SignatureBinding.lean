import FlareStudio.Contracts.PolicyFactory
import FlareStudio.Extension.Holdings

set_option autoImplicit false

namespace FlareStudio.EndToEnd

open Extension ConfidentialPolicy

structure Distribution where
  policy : Address
  chainID : Int
  triggeredAt : Int
  shares : List Extension.Share
  salt : Bytes32

namespace Distribution

def message (d : Distribution) : Bytes :=
  eip712Preimage d.policy d.chainID (computeCommitment d.shares d.salt) d.shares d.triggeredAt

-- EIP-191 over the digest of the message.
def envelope (d : Distribution) : Bytes :=
  0x19 :: ascii "Ethereum Signed Message:\n32" ++ (keccak256 d.message).bytes

def strings (d : Distribution) : Set Bytes :=
  {d.envelope, d.message, domainBytes d.policy d.chainID,
    structBytes (computeCommitment d.shares d.salt) d.shares d.triggeredAt,
    commitmentBytes d.shares d.salt}

theorem envelope_injective {d d' : Distribution} (same : d.envelope = d'.envelope) :
    keccak256 d.message = keccak256 d'.message :=
  FixedBytes.ext (List.append_cancel_left same)

theorem binds {d d' : Distribution} (free : CollisionFree (d.strings ∪ d'.strings))
    (same : keccak256 d.envelope = keccak256 d'.envelope) :
    d.policy = d'.policy ∧ d.chainID.natAbs = d'.chainID.natAbs ∧
      d.triggeredAt.natAbs = d'.triggeredAt.natAbs ∧ d.shares = d'.shares ∧ d.salt = d'.salt := by
  have digests := envelope_injective (free.eq (by simp [strings]) (by simp [strings]) same)
  have messages : d.message = d'.message :=
    free.eq (by simp [strings]) (by simp [strings]) digests
  obtain ⟨domains, structs⟩ := eip712Preimage_injective messages
  have domain : domainBytes d.policy d.chainID = domainBytes d'.policy d'.chainID :=
    free.eq (by simp [strings]) (by simp [strings]) domains
  have struct : structBytes (computeCommitment d.shares d.salt) d.shares d.triggeredAt =
      structBytes (computeCommitment d'.shares d'.salt) d'.shares d'.triggeredAt :=
    free.eq (by simp [strings]) (by simp [strings]) structs
  obtain ⟨policies, chains⟩ := domainBytes_injective domain
  obtain ⟨commitments, -, times⟩ := structBytes_injective struct
  have contents : commitmentBytes d.shares d.salt = commitmentBytes d'.shares d'.salt :=
    free.eq (by simp [strings]) (by simp [strings]) commitments
  obtain ⟨shares, salts⟩ := commitmentBytes_injective contents
  exact ⟨policies, chains, times, shares, salts⟩

end Distribution

def evaluatedDistribution (chainID : Int) (req : EvaluatePolicyRequest) (triggeredAt : Int)
    (cfg : PrivateConfig) : Distribution :=
  ⟨req.policy, chainID, triggeredAt, cfg.shares, cfg.salt⟩

def executedDistribution (ctx : Context) (state : ConfidentialPolicy.State)
    (shares : List Extension.Share) (salt : Bytes32) : Distribution :=
  ⟨ctx.self, ctx.chainId, state.storage.triggeredAt, shares, salt⟩

theorem toEthSignedMessageHash_message (oz : OpenZeppelin) (d : Distribution) :
    oz.toEthSignedMessageHash (keccak256 d.message) = keccak256 d.envelope :=
  oz.toEthSignedMessageHash_eq _

theorem accepts_iff_recovers {oz : OpenZeppelin} {ctx : Context}
    {state : ConfidentialPolicy.State} {shares : List Extension.Share} {salt : Bytes32}
    {sig : Bytes} {signer : Address} :
    Accepts oz ctx state shares salt sig signer ↔
      state.storage.status = .triggered ∧
        computeCommitment shares salt = state.storage.commitment ∧
        oz.recover (keccak256 (executedDistribution ctx state shares salt).envelope) sig =
          .ok signer := by
  rw [accepts_iff, ← commitmentBytes_eq_encodeShares]
  apply and_congr_right
  intro _
  apply and_congr_right
  intro commitment
  rw [← commitment, digest_eq, ← toEthSignedMessageHash_message]
  rfl

theorem evaluated_signed {lib : Library} {node : Node} {e : Extension.State} {message : Bytes}
    {req : EvaluatePolicyRequest} {chainID triggeredAt : Int} {cfg : PrivateConfig}
    {resp : EvaluatePolicyResponse} (decoded : lib.decodeEvaluate message = .ok req)
    (asked : req.triggeredAt = some triggeredAt) (held : e.policies.lookup req.policy = some cfg)
    (produced : openEvaluate lib chainID node e message = .ok resp) :
    ∃ raw, node.sign (evaluatedDistribution chainID req triggeredAt cfg).message = .ok raw ∧
      resp.signature = normalizeV raw := by
  obtain ⟨req', time', cfg', decoded', -, asked', -, held', -, -, -, signed⟩ :=
    openEvaluate_eq_ok produced
  have sameReq : req = req' := Except.ok.inj (decoded.symm.trans decoded')
  subst sameReq
  have sameTime : triggeredAt = time' := Option.some.inj (asked.symm.trans asked')
  have sameCfg : cfg = cfg' := Option.some.inj (held.symm.trans held')
  subst sameTime sameCfg
  obtain ⟨raw, answered, -, signature⟩ := signViaNode_eq_ok signed
  exact ⟨raw, answered, signature⟩

def SignsOnce (oz : OpenZeppelin) (machines : Set Address) (node : Node) : Prop :=
  ∀ signer ∈ machines, ∀ hash sent raw, node.sign sent = .ok raw →
    oz.recover hash (normalizeV raw) = .ok signer →
    hash = oz.toEthSignedMessageHash (keccak256 sent)

/-- A signature a machine made in an evaluation is accepted for that policy, chain, arming and
split, and for nothing else. -/
theorem signature_binds {oz : OpenZeppelin} {lib : Library} {node : Node} {e : Extension.State}
    {message : Bytes} {req : EvaluatePolicyRequest} {chainID triggeredAt : Int}
    {cfg : PrivateConfig} {resp : EvaluatePolicyResponse} {machines : Set Address}
    {ctx : Context} {state : ConfidentialPolicy.State} {shares : List Extension.Share}
    {salt : Bytes32} {signer : Address}
    (chain : 0 < chainID) (time : 0 ≤ triggeredAt)
    (decoded : lib.decodeEvaluate message = .ok req) (asked : req.triggeredAt = some triggeredAt)
    (held : e.policies.lookup req.policy = some cfg)
    (produced : openEvaluate lib chainID node e message = .ok resp)
    (signsOnce : SignsOnce oz machines node)
    (free : CollisionFree ((executedDistribution ctx state shares salt).strings ∪
      (evaluatedDistribution chainID req triggeredAt cfg).strings))
    (machine : signer ∈ machines)
    (accepts : Accepts oz ctx state shares salt resp.signature signer) :
    req.policy = ctx.self ∧ chainID = ctx.chainId ∧ triggeredAt = state.storage.triggeredAt ∧
      cfg.shares = shares ∧ cfg.salt = salt := by
  obtain ⟨raw, signed, signature⟩ := evaluated_signed decoded asked held produced
  obtain ⟨-, -, recovered⟩ := accepts_iff_recovers.mp accepts
  rw [signature] at recovered
  have hashes := signsOnce signer machine _ _ raw signed recovered
  have envelopes : keccak256 (executedDistribution ctx state shares salt).envelope =
      keccak256 (evaluatedDistribution chainID req triggeredAt cfg).envelope :=
    hashes.trans (toEthSignedMessageHash_message oz _)
  obtain ⟨policies, chains, times, split, salts⟩ := Distribution.binds free envelopes
  simp only [executedDistribution, evaluatedDistribution] at policies chains times split salts
  have chain : chainID = ctx.chainId := by omega
  have time : triggeredAt = state.storage.triggeredAt := by omega
  exact ⟨policies.symm, chain, time, split.symm, salts.symm⟩

-- Recovers what an account is known to have signed, and nothing else.
def recoverTable (account : Address) (table : List (Bytes × Bytes)) (hash : Bytes32) (sig : Bytes) :
    Except ECDSAError Address :=
  match table.find? fun entry => normalizeV entry.2 = sig with
  | none => .error .invalidSignature
  | some (sent, _) =>
    if hash =
        keccak256 (0x19 :: ascii "Ethereum Signed Message:\n32" ++ (keccak256 sent).bytes) then
      .ok account
    else .error .invalidSignature

theorem recoverTable_signsOnce {account : Address} {table : List (Bytes × Bytes)} {node : Node}
    {machines : Set Address}
    (distinct : ∀ entry ∈ table,
      table.find? (fun other => normalizeV other.2 = normalizeV entry.2) = some entry)
    (listed : ∀ sent raw, node.sign sent = .ok raw → (sent, raw) ∈ table) :
    SignsOnce (.ofRecover (recoverTable account table)) machines node := by
  intro signer _ hash sent raw signed recovered
  have found := distinct _ (listed sent raw signed)
  simp only [OpenZeppelin.ofRecover, recoverTable, found] at recovered
  split_ifs at recovered with same
  exact same

theorem machine_listed {sent raw : Bytes} (signed : machine.sign sent = .ok raw) :
    (sent, raw) ∈ signatures := by
  have found : signatures.lookup sent = some raw := by
    have answer : machine.sign sent =
        (signatures.lookup sent).elim (.error "signing failed") .ok := rfl
    rw [answer] at signed
    cases found : signatures.lookup sent with
    | none =>
      rw [found] at signed
      cases signed
    | some other =>
      rw [found] at signed
      cases signed
      rfl
  obtain ⟨front, back, split, -⟩ := List.lookup_eq_some_iff.mp found
  rw [split]
  simp

theorem machine_signsOnce :
    SignsOnce (.ofRecover (recoverTable machineAccount signatures)) {machineAccount} machine :=
  recoverTable_signsOnce (by decide +kernel) fun _ _ => machine_listed

def holdsFamily : Extension.State := ⟨(∅ : AList _).insert samplePolicy familyConfig, 0, ""⟩

def familyPolicy : ConfidentialPolicy.State where
  storage :=
    { deployedPolicy.storage with
      commitment := computeCommitment familyConfig.shares familyConfig.salt
      status := .triggered
      triggeredAt := sampleTime }
  events := []
  writes := []

def payoutContext : Context := ⟨samplePolicy, strangerAccount, 1700000100, 114⟩

def familyDistribution : Distribution :=
  ⟨samplePolicy, 114, sampleTime, familyConfig.shares, familyConfig.salt⟩

theorem familyDistribution_message : familyDistribution.message = familyMessage := familyMessage_eq

theorem familyResponse_accepted :
    Accepts (.ofRecover (recoverTable machineAccount signatures)) payoutContext familyPolicy
      familyConfig.shares familyConfig.salt familyResponse.signature machineAccount := by
  have executed : executedDistribution payoutContext familyPolicy familyConfig.shares
      familyConfig.salt = familyDistribution := rfl
  rw [accepts_iff_recovers, executed, Distribution.envelope, familyDistribution_message]
  exact ⟨rfl, rfl, by decide +kernel⟩

theorem familyStrings_collisionFree :
    CollisionFree ((executedDistribution payoutContext familyPolicy familyConfig.shares
        familyConfig.salt).strings ∪
      (evaluatedDistribution 114 ⟨samplePolicy, some (sampleTime : Int)⟩ sampleTime
        familyConfig).strings) := by
  have nodup : ([familyDistribution.envelope, familyDistribution.message,
      domainBytes familyDistribution.policy familyDistribution.chainID,
      structBytes (computeCommitment familyDistribution.shares familyDistribution.salt)
        familyDistribution.shares familyDistribution.triggeredAt,
      commitmentBytes familyDistribution.shares familyDistribution.salt].map keccak256).Nodup := by
    rw [Distribution.envelope, familyDistribution_message]
    decide +kernel
  apply Set.InjOn.mono _ (CollisionFree.of_nodup nodup)
  change familyDistribution.strings ∪ familyDistribution.strings ⊆ _
  rw [Set.union_self]
  intro bytes member
  simpa [Distribution.strings] using member

theorem familyResponse_binds :
    samplePolicy = payoutContext.self ∧ (114 : Int) = payoutContext.chainId ∧
      (sampleTime : Int) = familyPolicy.storage.triggeredAt ∧
      familyConfig.shares = familyConfig.shares ∧ familyConfig.salt = familyConfig.salt :=
  signature_binds (by decide) (by decide)
    (decodeEvaluate_evaluateMessage samplePolicy (by decide)) rfl (AList.lookup_insert _)
    (familyResponse_produced (e := holdsFamily) (AList.lookup_insert _)) machine_signsOnce
    familyStrings_collisionFree rfl familyResponse_accepted

end FlareStudio.EndToEnd
