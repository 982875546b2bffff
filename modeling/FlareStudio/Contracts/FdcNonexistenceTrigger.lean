import FlareStudio.Shared.Abi
import FlareStudio.Shared.Checked
import FlareStudio.Shared.Keccak

set_option autoImplicit false

namespace FlareStudio

namespace ReferencedPaymentNonexistence

structure RequestBody where
  minimalBlockNumber : UInt64
  deadlineBlockNumber : UInt64
  deadlineTimestamp : UInt64
  destinationAddressHash : Bytes32
  amount : Nat
  standardPaymentReference : Bytes32
  checkSourceAddresses : Bool
  sourceAddressesRoot : Bytes32
deriving DecidableEq

structure ResponseBody where
  minimalBlockTimestamp : UInt64
  firstOverflowBlockNumber : UInt64
  firstOverflowBlockTimestamp : UInt64
deriving DecidableEq

structure Response where
  attestationType : Bytes32
  sourceId : Bytes32
  votingRound : UInt64
  lowestUsedTimestamp : UInt64
  requestBody : RequestBody
  responseBody : ResponseBody
deriving DecidableEq

structure Proof where
  merkleProof : List Bytes32
  data : Response
deriving DecidableEq

def Proof.type : Abi.Ty :=
  .tuple [.array .bytes32,
    .tuple [.bytes32, .bytes32, .uint 64, .uint 64,
      .tuple [.uint 64, .uint 64, .uint 64, .bytes32, .uint 256, .bytes32, .bool, .bytes32],
      .tuple [.uint 64, .uint 64, .uint 64]]]

def Proof.value (proof : Proof) : Abi.Value :=
  .tuple [.array (proof.merkleProof.map .bytes32),
    .tuple [.bytes32 proof.data.attestationType, .bytes32 proof.data.sourceId,
      .uint proof.data.votingRound.toNat, .uint proof.data.lowestUsedTimestamp.toNat,
      .tuple [.uint proof.data.requestBody.minimalBlockNumber.toNat,
        .uint proof.data.requestBody.deadlineBlockNumber.toNat,
        .uint proof.data.requestBody.deadlineTimestamp.toNat,
        .bytes32 proof.data.requestBody.destinationAddressHash,
        .uint proof.data.requestBody.amount,
        .bytes32 proof.data.requestBody.standardPaymentReference,
        .bool proof.data.requestBody.checkSourceAddresses,
        .bytes32 proof.data.requestBody.sourceAddressesRoot],
      .tuple [.uint proof.data.responseBody.minimalBlockTimestamp.toNat,
        .uint proof.data.responseBody.firstOverflowBlockNumber.toNat,
        .uint proof.data.responseBody.firstOverflowBlockTimestamp.toNat]]]

def bytes32Of? : Abi.Value → Option Bytes32
  | .bytes32 value => some value
  | _ => none

def Proof.ofValue? : Abi.Value → Option Proof
  | .tuple [.array merkleProof,
      .tuple [.bytes32 attestationType, .bytes32 sourceId, .uint votingRound,
        .uint lowestUsedTimestamp,
        .tuple [.uint minimalBlockNumber, .uint deadlineBlockNumber, .uint deadlineTimestamp,
          .bytes32 destinationAddressHash, .uint amount, .bytes32 standardPaymentReference,
          .bool checkSourceAddresses, .bytes32 sourceAddressesRoot],
        .tuple [.uint minimalBlockTimestamp, .uint firstOverflowBlockNumber,
          .uint firstOverflowBlockTimestamp]]] => do
    let merkleProof ← merkleProof.mapM bytes32Of?
    some
      { merkleProof
        data :=
          { attestationType, sourceId
            votingRound := .ofNat votingRound
            lowestUsedTimestamp := .ofNat lowestUsedTimestamp
            requestBody :=
              { minimalBlockNumber := .ofNat minimalBlockNumber
                deadlineBlockNumber := .ofNat deadlineBlockNumber
                deadlineTimestamp := .ofNat deadlineTimestamp
                destinationAddressHash, amount, standardPaymentReference, checkSourceAddresses
                sourceAddressesRoot }
            responseBody :=
              { minimalBlockTimestamp := .ofNat minimalBlockTimestamp
                firstOverflowBlockNumber := .ofNat firstOverflowBlockNumber
                firstOverflowBlockTimestamp := .ofNat firstOverflowBlockTimestamp } } }
  | _ => none

def Proof.encode (proof : Proof) : Bytes := Abi.encode [proof.value]

-- abi.decode(proof, (Proof)); the word of each uint64 is in range once it is decoded.
def Proof.decode? (data : Bytes) : Option Proof := do
  match ← Abi.decode [Proof.type] data with
  | [value] => Proof.ofValue? value
  | _ => none

end ReferencedPaymentNonexistence

open ReferencedPaymentNonexistence Checked

namespace FdcNonexistenceTrigger

def ATTESTATION_TYPE : Bytes32 :=
  ⟨ascii "ReferencedPaymentNonexistence" ++ [0, 0, 0], by decide +kernel⟩

structure Config where
  owner : Address
  sourceId : Bytes32
  destinationAddressHash : Bytes32
  paymentReference : Bytes32
  minimumAmount : Nat
  interval : UInt64
  start : UInt64
deriving DecidableEq

def Config.unset : Config where
  owner := .zero 20
  sourceId := .zero 32
  destinationAddressHash := .zero 32
  paymentReference := .zero 32
  minimumAmount := 0
  interval := 0
  start := 0

structure Configured where
  policy : Address
  paymentReference : Bytes32
  interval : UInt64
deriving DecidableEq

structure State where
  configs : Address → Config
  events : List Configured

-- The constructor's verifier address is an immutable; the contract behind it is a parameter.
def deployed : State := ⟨fun _ => .unset, []⟩

inductive TriggerError where
  | alreadyConfigured
  | notConfigured
  | intervalTooShort
  | proofNotVerified
  | wrongAttestationType (got : Bytes32)
  | wrongSourceId (got : Bytes32)
  | wrongPaymentReference (got : Bytes32)
  | wrongDestination (got : Bytes32)
  | amountTooLow (got required : Nat)
  | sourceAddressFilterNotAllowed
  | deadlineNotReached (deadline : UInt64)
  | deadlineNotOnBoundary (deadline : UInt64)
  | windowDoesNotCoverInterval (minimalBlockTimestamp required : UInt64)
  | panic (code : Nat)
  -- abi.decode or the verifier reverted.
  | undecodable
  | verifierReverted
deriving DecidableEq

-- verifyReferencedPaymentNonexistence, with none for a revert.
abbrev Verifier := Proof → Option Bool

def configure (state : State) (policy : Address) (config : Config) :
    Except TriggerError State := do
  require ((state.configs policy).owner = .zero 20) .alreadyConfigured
  require (config.interval ≠ 0) .intervalTooShort
  .ok
    { configs := Function.update state.configs policy config
      events := state.events ++ [⟨policy, config.paymentReference, config.interval⟩] }

def checkResponse (cfg : Config) (now : Nat) (data : Response) : Except TriggerError Bool := do
  let req := data.requestBody
  require (data.attestationType = ATTESTATION_TYPE) (.wrongAttestationType data.attestationType)
  require (data.sourceId = cfg.sourceId) (.wrongSourceId data.sourceId)
  require (req.standardPaymentReference = cfg.paymentReference)
    (.wrongPaymentReference req.standardPaymentReference)
  require (req.destinationAddressHash = cfg.destinationAddressHash)
    (.wrongDestination req.destinationAddressHash)
  require (¬ req.amount < cfg.minimumAmount) (.amountTooLow req.amount cfg.minimumAmount)
  require (req.checkSourceAddresses = false) .sourceAddressFilterNotAllowed
  let deadline := req.deadlineTimestamp
  require (deadline.toNat ≤ now) (.deadlineNotReached deadline)
  require (¬ deadline ≤ cfg.start) (.deadlineNotOnBoundary deadline)
  let elapsed ← sub64 .panic deadline cfg.start
  let overrun ← mod64 .panic elapsed cfg.interval
  require (overrun = 0) (.deadlineNotOnBoundary deadline)
  let windowStart ← sub64 .panic deadline cfg.interval
  require (¬ data.responseBody.minimalBlockTimestamp > windowStart)
    (.windowDoesNotCoverInterval data.responseBody.minimalBlockTimestamp windowStart)
  .ok true

def check (verifier : Verifier) (state : State) (now : Nat) (policy : Address) (proof : Bytes) :
    Except TriggerError Bool := do
  let cfg := state.configs policy
  require (cfg.owner ≠ .zero 20) .notConfigured
  let p ← ofOption .undecodable (Proof.decode? proof)
  let verified ← ofOption .verifierReverted (verifier p)
  require (verified = true) .proofNotVerified
  checkResponse cfg now p.data

def currentDeadline (state : State) (now : Nat) (policy : Address) : Except TriggerError UInt64 := do
  let cfg := state.configs policy
  require (cfg.owner ≠ .zero 20) .notConfigured
  if now ≤ cfg.start.toNat then add64 .panic cfg.start cfg.interval
  else do
    let elapsed ← sub64 .panic (UInt64.ofNat now) cfg.start
    require (cfg.interval ≠ 0) (.panic 0x12)
    let periods ← add64 .panic (elapsed / cfg.interval) 1
    require (periods.toNat * cfg.interval.toNat < 2 ^ 64) (.panic 0x11)
    add64 .panic cfg.start (periods * cfg.interval)

-- abi.encodePacked of the tag and the address.
def referenceBytes (policy : Address) : Bytes :=
  ascii "flare-studio.policy-reference.v1" ++ policy.bytes

def policyReference (policy : Address) : Bytes32 := keccak256 (referenceBytes policy)

theorem policyReference_injective (free : CollisionFree (Set.range referenceBytes)) :
    Function.Injective policyReference := by
  intro a b same
  have bytes : referenceBytes a = referenceBytes b := free.eq ⟨a, rfl⟩ ⟨b, rfl⟩ same
  exact FixedBytes.ext (List.append_cancel_left bytes)

inductive Reachable (permitted : State → Address → Config → Prop) : State → Prop
  | deployed : Reachable permitted deployed
  | configure {state next : State} {policy : Address} {config : Config}
      (reached : Reachable permitted state) (allowed : permitted state policy config)
      (accepted : configure state policy config = .ok next) : Reachable permitted next

def State.Held (state : State) (policy : Address) : Prop := (state.configs policy).owner ≠ .zero 20

theorem configure_accepts {state next : State} {policy : Address} {config : Config}
    (accepted : configure state policy config = .ok next) :
    ¬ state.Held policy ∧ config.interval ≠ 0 ∧
      next.configs = Function.update state.configs policy config := by
  simp only [configure, require_reaches, Except.ok.injEq] at accepted
  obtain ⟨free, positive, rfl⟩ := accepted
  exact ⟨not_not_intro free, positive, rfl⟩

-- What every configuration held has to satisfy, from what each accepted one satisfies.
theorem Reachable.held {permitted : State → Address → Config → Prop} {state : State}
    (reached : Reachable permitted state) (property : Address → Config → Prop)
    (each : ∀ state policy config, permitted state policy config → config.interval ≠ 0 →
      property policy config)
    (policy : Address) (held : state.Held policy) : property policy (state.configs policy) := by
  induction reached with
  | deployed => exact absurd rfl held
  | @configure state next target config _ allowed accepted ih =>
    obtain ⟨-, positive, configs⟩ := configure_accepts accepted
    unfold State.Held at held
    rw [configs] at held ⊢
    by_cases here : policy = target
    · subst here
      rw [Function.update_self]
      exact each state policy config allowed positive
    · rw [Function.update_of_ne here] at held ⊢
      exact ih held

-- The checks on the decoded response but the one on the amount, over natural numbers.
structure Entitled (cfg : Config) (now : Nat) (data : Response) : Prop where
  attestationType : data.attestationType = ATTESTATION_TYPE
  sourceId : data.sourceId = cfg.sourceId
  reference : data.requestBody.standardPaymentReference = cfg.paymentReference
  destination : data.requestBody.destinationAddressHash = cfg.destinationAddressHash
  unfiltered : data.requestBody.checkSourceAddresses = false
  reached : data.requestBody.deadlineTimestamp.toNat ≤ now
  started : cfg.start.toNat < data.requestBody.deadlineTimestamp.toNat
  boundary : cfg.interval.toNat ∣ data.requestBody.deadlineTimestamp.toNat - cfg.start.toNat
  covered : data.responseBody.minimalBlockTimestamp.toNat ≤
    data.requestBody.deadlineTimestamp.toNat - cfg.interval.toNat

-- A boundary strictly after the start is at least one interval from zero, so neither checked
-- subtraction panics.
theorem Entitled.interval_le {cfg : Config} {now : Nat} {data : Response}
    (entitled : Entitled cfg now data) :
    cfg.interval.toNat ≤ data.requestBody.deadlineTimestamp.toNat := by
  have started := entitled.started
  have within := Nat.le_of_dvd (by omega) entitled.boundary
  omega

theorem overrun_eq_zero {deadline start interval : UInt64} (after : start ≤ deadline) :
    (deadline - start) % interval = 0 ↔ interval.toNat ∣ deadline.toNat - start.toNat := by
  rw [← UInt64.toNat_inj, UInt64.toNat_mod, UInt64.toNat_sub_of_le _ _ after]
  exact Nat.dvd_iff_mod_eq_zero.symm

theorem checkResponse_eq_true {cfg : Config} (positive : cfg.interval ≠ 0) (now : Nat)
    (data : Response) : checkResponse cfg now data = .ok true ↔
      Entitled cfg now data ∧ cfg.minimumAmount ≤ data.requestBody.amount := by
  simp only [checkResponse, require_reaches, sub64_reaches, mod64_reaches, and_true, not_lt,
    UInt64.not_lt, UInt64.not_le, gt_iff_lt]
  constructor
  next =>
    rintro ⟨attestationType, sourceId, reference, destination, amount, unfiltered, reached, started,
      after, -, boundary, within, covered⟩
    rw [UInt64.le_iff_toNat_le, UInt64.toNat_sub_of_le _ _ within] at covered
    exact ⟨⟨attestationType, sourceId, reference, destination, unfiltered, reached,
      UInt64.lt_iff_toNat_lt.mp started, (overrun_eq_zero after).mp boundary, covered⟩, amount⟩
  next =>
    rintro ⟨entitled, amount⟩
    have started := UInt64.lt_iff_toNat_lt.mpr entitled.started
    have after : cfg.start ≤ data.requestBody.deadlineTimestamp := by
      apply UInt64.le_iff_toNat_le.mpr
      have := entitled.started
      omega
    have within := UInt64.le_iff_toNat_le.mpr entitled.interval_le
    refine ⟨entitled.attestationType, entitled.sourceId, entitled.reference, entitled.destination,
      amount, entitled.unfiltered, entitled.reached, started, after, positive,
      (overrun_eq_zero after).mpr entitled.boundary, within, ?_⟩
    rw [UInt64.le_iff_toNat_le, UInt64.toNat_sub_of_le _ _ within]
    exact entitled.covered

theorem check_eq_true {state : State} {policy : Address}
    (positive : state.Held policy → (state.configs policy).interval ≠ 0) (verifier : Verifier)
    (now : Nat) (proof : Bytes) :
    check verifier state now policy proof = .ok true ↔
      state.Held policy ∧ ∃ p, Proof.decode? proof = some p ∧ verifier p = some true ∧
        Entitled (state.configs policy) now p.data ∧
        (state.configs policy).minimumAmount ≤ p.data.requestBody.amount := by
  simp only [check, require_reaches, ofOption_reaches]
  constructor
  next =>
    rintro ⟨held, p, decoded, _, verified, rfl, accepted⟩
    have sound := (checkResponse_eq_true (positive held) now p.data).mp accepted
    exact ⟨held, p, decoded, verified, sound⟩
  next =>
    rintro ⟨held, p, decoded, verified, sound⟩
    have accepted := (checkResponse_eq_true (positive held) now p.data).mpr sound
    exact ⟨held, p, decoded, true, verified, rfl, accepted⟩

-- Only the guard on the owner answers NotConfigured.
theorem checkResponse_ne_notConfigured (cfg : Config) (now : Nat) (data : Response) :
    Refuses (checkResponse cfg now data) (· ≠ .notConfigured) := by
  simp [checkResponse]

theorem check_ne_notConfigured {verifier : Verifier} {state : State} {now : Nat}
    {policy : Address} {proof : Bytes} (held : (state.configs policy).owner ≠ .zero 20) :
    check verifier state now policy proof ≠ .error .notConfigured := by
  have refuses : Refuses (check verifier state now policy proof) (· ≠ .notConfigured) := by
    simp [check, held, checkResponse_ne_notConfigured]
  exact fun refused => refuses _ refused rfl

end FdcNonexistenceTrigger

end FlareStudio
