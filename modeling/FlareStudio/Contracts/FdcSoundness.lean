import FlareStudio.Contracts.FdcNonexistenceTrigger

set_option autoImplicit false

namespace FlareStudio.FdcNonexistenceTrigger

open ReferencedPaymentNonexistence Checked

structure Payment where
  sourceId : Bytes32
  sourceAddress : Bytes32
  destinationAddressHash : Bytes32
  reference : Bytes32
  amount : Nat
  timestamp : Nat
deriving DecidableEq

structure Payment.Qualifies (payment : Payment) (sourceId destination reference : Bytes32)
    (amount first last : Nat) : Prop where
  sourceId : payment.sourceId = sourceId
  destination : payment.destinationAddressHash = destination
  reference : payment.reference = reference
  amount : amount ≤ payment.amount
  first : first ≤ payment.timestamp
  last : payment.timestamp ≤ last

-- A payment whose existence the attestation denies. `listed` is membership in the tree of a
-- source addresses root.
def Denied (listed : Bytes32 → Bytes32 → Prop) (data : Response) (payment : Payment) : Prop :=
  payment.Qualifies data.sourceId data.requestBody.destinationAddressHash
    data.requestBody.standardPaymentReference data.requestBody.amount
    data.responseBody.minimalBlockTimestamp.toNat data.requestBody.deadlineTimestamp.toNat ∧
  (data.requestBody.checkSourceAddresses = true →
    listed data.requestBody.sourceAddressesRoot payment.sourceAddress)

def Sound (verifier : Verifier) (listed : Bytes32 → Bytes32 → Prop) (payments : List Payment) :
    Prop :=
  ∀ p, verifier p = some true → ∀ payment ∈ payments, ¬ Denied listed p.data payment

def Config.deadline (cfg : Config) (n : Nat) : Nat := cfg.start.toNat + n * cfg.interval.toNat

def Config.Heartbeat (cfg : Config) (n : Nat) (payment : Payment) : Prop :=
  payment.Qualifies cfg.sourceId cfg.destinationAddressHash cfg.paymentReference cfg.minimumAmount
    (cfg.deadline n - cfg.interval.toNat) (cfg.deadline n)

/-- Some scheduled deadline has passed without a heartbeat in the interval before it. -/
def Missed (cfg : Config) (payments : List Payment) (now : Nat) : Prop :=
  ∃ n, 1 ≤ n ∧ cfg.deadline n ≤ now ∧ ∀ payment ∈ payments, ¬ cfg.Heartbeat n payment

/-- Everything but the amount entitles the policy to arm, and the amount denied is above the
heartbeat the policy asks for. -/
def Overstated (state : State) (policy : Address) (now : Nat) (proof : Bytes) : Prop :=
  state.Held policy ∧ ∃ p, Proof.decode? proof = some p ∧
    Entitled (state.configs policy) now p.data ∧
    (state.configs policy).minimumAmount < p.data.requestBody.amount

theorem Entitled.deadline_eq {cfg : Config} {now : Nat} {data : Response}
    (entitled : Entitled cfg now data) :
    ∃ n, 1 ≤ n ∧ data.requestBody.deadlineTimestamp.toNat = cfg.deadline n := by
  have started := entitled.started
  obtain ⟨n, elapsed⟩ := entitled.boundary
  refine ⟨n, ?_, ?_⟩
  · rcases Nat.eq_zero_or_pos n with rfl | positive
    · omega
    · exact positive
  · rw [Config.deadline, Nat.mul_comm]
    omega

-- A heartbeat before the attested deadline is a payment the attestation denies, once the
-- attested amount is no larger than the heartbeat's.
theorem Entitled.denies {cfg : Config} {now : Nat} {data : Response}
    (entitled : Entitled cfg now data) (modest : data.requestBody.amount ≤ cfg.minimumAmount)
    {n : Nat} (deadline : data.requestBody.deadlineTimestamp.toNat = cfg.deadline n)
    (listed : Bytes32 → Bytes32 → Prop) {payment : Payment} (paid : cfg.Heartbeat n payment) :
    Denied listed data payment := by
  have covered := entitled.covered
  have first := paid.first
  have last := paid.last
  have amount := paid.amount
  refine ⟨⟨?_, ?_, ?_, ?_, ?_, ?_⟩, ?_⟩
  · rw [paid.sourceId, entitled.sourceId]
  · rw [paid.destination, entitled.destination]
  · rw [paid.reference, entitled.reference]
  · omega
  · omega
  · omega
  · rw [entitled.unfiltered]
    exact fun filtered => absurd filtered (by decide)

def heartbeat (cfg : Config) (n : Nat) : Payment where
  sourceId := cfg.sourceId
  sourceAddress := .zero 32
  destinationAddressHash := cfg.destinationAddressHash
  reference := cfg.paymentReference
  amount := cfg.minimumAmount
  timestamp := cfg.deadline n

theorem heartbeat_qualifies (cfg : Config) (n : Nat) : cfg.Heartbeat n (heartbeat cfg n) :=
  ⟨rfl, rfl, rfl, le_rfl, Nat.sub_le _ _, le_rfl⟩

-- The owner who pays the minimum at every deadline up to now.
def heartbeats (cfg : Config) (now : Nat) : List Payment :=
  (List.range (now + 1)).map (heartbeat cfg)

theorem heartbeats_not_missed {cfg : Config} (positive : cfg.interval ≠ 0) (now : Nat) :
    ¬ Missed cfg (heartbeats cfg now) now := by
  rintro ⟨n, -, passed, unpaid⟩
  have interval : 0 < cfg.interval.toNat := by
    rcases Nat.eq_zero_or_pos cfg.interval.toNat with zero | some
    · exact absurd (UInt64.toNat_inj.mp zero) positive
    · exact some
  have bound : n ≤ now := by
    have := Nat.le_mul_of_pos_right n interval
    unfold Config.deadline at passed
    omega
  apply unpaid (heartbeat cfg n)
  · exact List.mem_map_of_mem (List.mem_range.mpr (by omega))
  · exact heartbeat_qualifies cfg n

theorem heartbeats_undenied {cfg : Config} {data : Response}
    (larger : cfg.minimumAmount < data.requestBody.amount) (listed : Bytes32 → Bytes32 → Prop)
    (now : Nat) : ∀ payment ∈ heartbeats cfg now, ¬ Denied listed data payment := by
  intro payment member denied
  obtain ⟨n, -, rfl⟩ := List.mem_map.mp member
  have amount : data.requestBody.amount ≤ cfg.minimumAmount := denied.1.amount
  omega

abbrev AnyConfigure : State → Address → Config → Prop := fun _ _ _ => True

theorem check_sound_iff {state : State} (reached : Reachable AnyConfigure state)
    (policy : Address) (now : Nat) (proof : Bytes) :
    (∀ verifier listed payments, Sound verifier listed payments →
      check verifier state now policy proof = .ok true →
        Missed (state.configs policy) payments now) ↔
      ¬ Overstated state policy now proof := by
  have positive : state.Held policy → (state.configs policy).interval ≠ 0 :=
    reached.held (fun _ config => config.interval ≠ 0) (fun _ _ _ _ positive => positive) policy
  constructor
  next =>
    rintro sound ⟨held, p, decoded, entitled, larger⟩
    -- The verifier that attests to this proof alone is sound for an owner who always paid.
    apply heartbeats_not_missed (positive held) now
    apply sound (fun q => some (q = p)) (fun _ _ => True)
    · intro q verified
      have same : q = p := by simpa using verified
      subst same
      exact heartbeats_undenied larger _ now
    · rw [check_eq_true positive]
      exact ⟨held, p, decoded, by simp, entitled, larger.le⟩
  next =>
    intro modest verifier listed payments sound accepted
    obtain ⟨held, p, decoded, verified, entitled, amount⟩ :=
      (check_eq_true positive verifier now proof).mp accepted
    obtain ⟨n, positive, deadline⟩ := entitled.deadline_eq
    refine ⟨n, positive, ?_, fun payment member paid => ?_⟩
    · rw [← deadline]
      exact entitled.reached
    · have exact : p.data.requestBody.amount ≤ (state.configs policy).minimumAmount := by
        by_contra larger
        exact modest ⟨held, p, decoded, entitled, by omega⟩
      exact sound p verified payment member (entitled.denies exact deadline listed paid)

def policyA : Address := .replicate 20 0x0a

def monthly : Config where
  owner := .replicate 20 0xaa
  sourceId := ⟨ascii "testXRP" ++ List.replicate 25 0, by decide +kernel⟩
  destinationAddressHash := .replicate 32 0xde
  paymentReference := policyReference policyA
  minimumAmount := 100000
  interval := 2592000
  start := 31536000

def absenceOf (amount : Nat) : Proof where
  merkleProof := []
  data :=
    { attestationType := ATTESTATION_TYPE
      sourceId := monthly.sourceId
      votingRound := 1
      lowestUsedTimestamp := 31536000
      requestBody :=
        { minimalBlockNumber := 1
          deadlineBlockNumber := 100
          deadlineTimestamp := 34128000
          destinationAddressHash := monthly.destinationAddressHash
          amount
          standardPaymentReference := monthly.paymentReference
          checkSourceAddresses := false
          sourceAddressesRoot := .zero 32 }
      responseBody :=
        { minimalBlockTimestamp := 31536000
          firstOverflowBlockNumber := 101
          firstOverflowBlockTimestamp := 34128001 } }

def configured : State where
  configs := Function.update deployed.configs policyA monthly
  events := [⟨policyA, monthly.paymentReference, monthly.interval⟩]

theorem configured_reachable : Reachable AnyConfigure configured := by
  have accepted : configure deployed policyA monthly = .ok configured := rfl
  exact .configure .deployed trivial accepted

theorem configured_monthly : configured.configs policyA = monthly := by
  simp [configured]

def attestsTo (p : Proof) : Verifier := fun q => some (q = p)

theorem minimum_absence_sound :
    check (attestsTo (absenceOf 100000)) configured 34128001 policyA (absenceOf 100000).encode
        = .ok true ∧
      ∀ verifier listed payments, Sound verifier listed payments →
        check verifier configured 34128001 policyA (absenceOf 100000).encode = .ok true →
          Missed (configured.configs policyA) payments 34128001 := by
  refine ⟨by decide +kernel, ?_⟩
  apply (check_sound_iff configured_reachable policyA 34128001 (absenceOf 100000).encode).mpr
  rintro ⟨-, p, decoded, -, larger⟩
  have same : Proof.decode? (absenceOf 100000).encode = some (absenceOf 100000) := by
    decide +kernel
  rw [same, Option.some.injEq] at decoded
  subst decoded
  rw [configured_monthly] at larger
  exact absurd larger (by decide)

def paidHalfway : Payment := { heartbeat monthly 1 with timestamp := 32832000 }

-- No payment of 1000 XRP was made; one of the 0.1 XRP that the policy asks for was.
theorem thousand_xrp_arms :
    Sound (attestsTo (absenceOf 1000000000)) (fun _ _ => True) [paidHalfway] ∧
      check (attestsTo (absenceOf 1000000000)) configured 34128001 policyA
        (absenceOf 1000000000).encode = .ok true ∧
      ¬ Missed (configured.configs policyA) [paidHalfway] 34128001 := by
  refine ⟨?_, by decide +kernel, ?_⟩
  · intro p verified payment member denied
    have same : p = absenceOf 1000000000 := by simpa [attestsTo] using verified
    have paid : payment = paidHalfway := by simpa using member
    subst same paid
    exact absurd denied.1.amount (by decide)
  · rw [configured_monthly]
    rintro ⟨n, positive, passed, unpaid⟩
    have deadline : monthly.deadline n = 31536000 + n * 2592000 := rfl
    have first : n = 1 := by omega
    subst first
    apply unpaid paidHalfway List.mem_cons_self
    exact ⟨rfl, rfl, rfl, le_rfl, by decide, by decide⟩

def Config.Boundary (cfg : Config) (deadline : UInt64) : Prop :=
  cfg.start.toNat < deadline.toNat ∧ cfg.interval.toNat ∣ deadline.toNat - cfg.start.toNat

/-- Both configurations ask for the same payment, and some deadline is on both schedules. -/
structure Collides (a b : Config) : Prop where
  sourceId : a.sourceId = b.sourceId
  destination : a.destinationAddressHash = b.destinationAddressHash
  reference : a.paymentReference = b.paymentReference
  deadline : ∃ deadline, a.Boundary deadline ∧ b.Boundary deadline

theorem Collides.symm {a b : Config} (collides : Collides a b) : Collides b a := by
  obtain ⟨deadline, first, second⟩ := collides.deadline
  exact ⟨collides.sourceId.symm, collides.destination.symm, collides.reference.symm, deadline,
    second, first⟩

theorem Entitled.collides {a b : Config} {now now' : Nat} {data : Response}
    (first : Entitled a now data) (second : Entitled b now' data) : Collides a b where
  sourceId := first.sourceId.symm.trans second.sourceId
  destination := first.destination.symm.trans second.destination
  reference := first.reference.symm.trans second.reference
  deadline := ⟨data.requestBody.deadlineTimestamp, ⟨first.started, first.boundary⟩,
    ⟨second.started, second.boundary⟩⟩

-- The policy's configuration does not collide with one that another policy holds.
def Separate (state : State) (policy : Address) (config : Config) : Prop :=
  config.owner ≠ .zero 20 → ∀ other, other ≠ policy → state.Held other →
    ¬ Collides config (state.configs other)

def Separated (state : State) : Prop :=
  ∀ a b, a ≠ b → state.Held a → state.Held b → ¬ Collides (state.configs a) (state.configs b)

theorem configure_separated {state next : State} {policy : Address} {config : Config}
    (separated : Separated state) (separate : Separate state policy config)
    (accepted : configure state policy config = .ok next) : Separated next := by
  obtain ⟨-, -, configs⟩ := configure_accepts accepted
  intro a b distinct heldA heldB
  unfold State.Held at heldA heldB
  rw [configs] at heldA heldB ⊢
  by_cases here : a = policy
  · subst here
    rw [Function.update_self] at heldA ⊢
    rw [Function.update_of_ne distinct.symm] at heldB ⊢
    exact separate heldA b distinct.symm heldB
  · rw [Function.update_of_ne here] at heldA ⊢
    by_cases there : b = policy
    · subst there
      rw [Function.update_self] at heldB ⊢
      exact fun collides => separate heldB a here heldA collides.symm
    · rw [Function.update_of_ne there] at heldB ⊢
      exact separated a b distinct heldA heldB

theorem reachable_separated {state : State} (reached : Reachable Separate state) :
    Separated state := by
  induction reached with
  | deployed => exact fun _ _ _ held => absurd rfl held
  | configure _ allowed accepted ih => exact configure_separated ih allowed accepted

def OneProofOnePolicy (state : State) : Prop :=
  ∀ verifier now now' a b proof, check verifier state now a proof = .ok true →
    check verifier state now' b proof = .ok true → a = b

theorem one_proof_one_policy {state : State} (reached : Reachable Separate state) :
    OneProofOnePolicy state := by
  intro verifier now now' a b proof first second
  have positive (policy : Address) :=
    reached.held (fun _ config => config.interval ≠ 0) (fun _ _ _ _ positive => positive) policy
  obtain ⟨heldA, p, decoded, -, entitledA, -⟩ := (check_eq_true (positive a) ..).mp first
  obtain ⟨heldB, q, decoded', -, entitledB, -⟩ := (check_eq_true (positive b) ..).mp second
  rw [decoded, Option.some.injEq] at decoded'
  subst decoded'
  by_contra distinct
  exact reachable_separated reached a b distinct heldA heldB (entitledA.collides entitledB)

def policyB : Address := .replicate 20 0x0b

def monthlyB : Config := { monthly with paymentReference := policyReference policyB }

def bothConfigured (config : Config) : State where
  configs := Function.update configured.configs policyB config
  events := configured.events ++ [⟨policyB, config.paymentReference, config.interval⟩]

theorem bothConfigured_accepted (config : Config) (positive : config.interval ≠ 0) :
    configure configured policyB config = .ok (bothConfigured config) := by
  have other : policyB ≠ policyA := by decide
  have free : (configured.configs policyB).owner = .zero 20 := by
    simp [configured, other, deployed, Config.unset]
  simp [configure, require, free, positive, bothConfigured, bind, Except.bind]

theorem own_references_one_policy : OneProofOnePolicy (bothConfigured monthlyB) := by
  have first : configure deployed policyA monthly = .ok configured := rfl
  have second := bothConfigured_accepted monthlyB (by decide)
  apply one_proof_one_policy
  refine .configure (.configure .deployed ?_ first) ?_ second
  · exact fun _ other _ held => absurd rfl held
  · intro _ other distinct held collides
    by_cases same : other = policyA
    · subst same
      have reference := collides.reference
      rw [configured_monthly] at reference
      exact absurd reference (by decide +kernel)
    · apply held
      simp [configured, same, deployed, Config.unset]

-- The second policy was given the first one's reference.
theorem shared_reference_two_policies :
    Reachable AnyConfigure (bothConfigured monthly) ∧
      check (attestsTo (absenceOf 100000)) (bothConfigured monthly) 34128001 policyA
        (absenceOf 100000).encode = .ok true ∧
      check (attestsTo (absenceOf 100000)) (bothConfigured monthly) 34128001 policyB
        (absenceOf 100000).encode = .ok true ∧
      ¬ OneProofOnePolicy (bothConfigured monthly) := by
  have accepted := bothConfigured_accepted monthly (by decide)
  have first : check (attestsTo (absenceOf 100000)) (bothConfigured monthly) 34128001 policyA
      (absenceOf 100000).encode = .ok true := by decide +kernel
  have second : check (attestsTo (absenceOf 100000)) (bothConfigured monthly) 34128001 policyB
      (absenceOf 100000).encode = .ok true := by decide +kernel
  refine ⟨.configure configured_reachable trivial accepted, first, second, fun sound => ?_⟩
  exact absurd (sound _ _ _ _ _ _ first second) (by decide)

theorem derived_references_one_policy {state : State}
    (free : CollisionFree (Set.range referenceBytes))
    (reached : Reachable (fun _ policy config => config.paymentReference = policyReference policy)
      state) : OneProofOnePolicy state := by
  intro verifier now now' a b proof first second
  have positive (policy : Address) :=
    reached.held (fun _ config => config.interval ≠ 0) (fun _ _ _ _ positive => positive) policy
  have derived (policy : Address) :=
    reached.held (fun policy config => config.paymentReference = policyReference policy)
      (fun _ _ _ derived _ => derived) policy
  obtain ⟨heldA, p, decoded, -, entitledA, -⟩ := (check_eq_true (positive a) ..).mp first
  obtain ⟨heldB, q, decoded', -, entitledB, -⟩ := (check_eq_true (positive b) ..).mp second
  rw [decoded, Option.some.injEq] at decoded'
  subst decoded'
  apply policyReference_injective free
  calc policyReference a = (state.configs a).paymentReference := (derived a heldA).symm
    _ = (state.configs b).paymentReference := (entitledA.collides entitledB).reference
    _ = policyReference b := derived b heldB

end FlareStudio.FdcNonexistenceTrigger
