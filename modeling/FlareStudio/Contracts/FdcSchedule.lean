import FlareStudio.Contracts.FdcSoundness
import FlareStudio.Shared.AbiRoundTrip

set_option autoImplicit false

namespace FlareStudio

namespace ReferencedPaymentNonexistence

theorem words_hasType (hashes : List Bytes32) :
    Abi.HaveTypes (hashes.map .bytes32) (List.replicate hashes.length .bytes32) := by
  induction hashes with
  | nil => simp [Abi.HaveTypes]
  | cons hash rest ih =>
    rw [List.map_cons, List.length_cons, List.replicate_succ, Abi.HaveTypes]
    exact ⟨trivial, ih⟩

theorem length_words {hashes : List Bytes32} (counted : hashes.length < 2 ^ 256) :
    (Abi.encodeValue (.array (hashes.map .bytes32))).length = 32 * hashes.length + 32 := by
  have static : Abi.anyDynamic (hashes.map .bytes32) = false := by
    rw [Abi.anyDynamic_eq_any, List.any_eq_false]
    simp [Abi.Value.isDynamic]
  have head := Abi.headSize_encodeParts _ _ (words_hasType hashes)
  rw [Abi.headSizes_replicate, show Abi.Ty.bytes32.headSize = 32 from rfl] at head
  rw [Abi.encodeValue, List.length_append, List.length_map, padUint_length counted,
    Abi.length_layout_static (Abi.static_encodeParts static), head]
  omega

theorem Proof.value_hasType {proof : Proof} (amount : proof.data.requestBody.amount < 2 ^ 256)
    (siblings : proof.merkleProof.length < 2 ^ 256) : proof.value.HasType Proof.type := by
  simp only [Proof.value, Proof.type, Abi.Value.HasType, Abi.HaveTypes, and_true]
  simp only [List.length_map, siblings, amount, UInt64.toNat_lt, le_refl, true_and, and_true]
  exact ⟨words_hasType _, by decide⟩

theorem Proof.ofValue?_value (proof : Proof) : Proof.ofValue? proof.value = some proof := by
  have words (hashes : List Bytes32) :
      (hashes.map Abi.Value.bytes32).mapM bytes32Of? = some hashes := by
    induction hashes with
    | nil => rfl
    | cons hash rest ih => simp [List.mapM_cons, bytes32Of?, ih]
  simp only [Proof.value, Proof.ofValue?, words, Option.bind_eq_bind, Option.bind_some,
    UInt64.ofNat_toNat]

-- The head of a proof is the offset of its siblings and fifteen words; their tail comes last.
theorem Proof.length_value {proof : Proof} (amount : proof.data.requestBody.amount < 2 ^ 256)
    (siblings : 32 * proof.merkleProof.length + 1024 < 2 ^ 256) :
    (Abi.encodeValue proof.value).length = 32 * proof.merkleProof.length + 544 := by
  have counted : proof.merkleProof.length < 2 ^ 256 := by omega
  have typed := Proof.value_hasType amount counted
  have tail (data : Abi.Value) (static : data.isDynamic = false) :
      (Abi.tails (Abi.encodeParts [.array (proof.merkleProof.map .bytes32), data])).length =
        32 * proof.merkleProof.length + 32 := by
    rw [← length_words counted]
    simp [Abi.encodeParts, Abi.tails, Abi.Part.tail, static, Abi.Value.isDynamic]
  unfold Proof.value Proof.type at typed
  rw [Abi.Value.HasType] at typed
  have head : Abi.headSizes [.array .bytes32, .tuple [.bytes32, .bytes32, .uint 64, .uint 64,
      .tuple [.uint 64, .uint 64, .uint 64, .bytes32, .uint 256, .bytes32, .bool, .bytes32],
      .tuple [.uint 64, .uint 64, .uint 64]]] = 512 := rfl
  rw [Proof.value, Abi.length_tuple typed] <;> rw [head, tail _ rfl] <;> omega

theorem Proof.decode?_encode {proof : Proof} (amount : proof.data.requestBody.amount < 2 ^ 256)
    (siblings : 32 * proof.merkleProof.length + 1024 < 2 ^ 256) :
    Proof.decode? proof.encode = some proof := by
  have typed : Abi.HaveTypes [proof.value] [Proof.type] := by
    simp only [Abi.HaveTypes, and_true]
    exact Proof.value_hasType amount (by omega)
  have head : Abi.headSize (Abi.encodeParts [proof.value]) = 32 :=
    Abi.headSize_encodeParts _ _ typed
  have tail : (Abi.tails (Abi.encodeParts [proof.value])).length =
      32 * proof.merkleProof.length + 544 := by
    rw [← Proof.length_value amount siblings]
    simp [Abi.encodeParts, Abi.tails, Abi.Part.tail, Proof.value, Abi.Value.isDynamic,
      Abi.anyDynamic]
  have within : Abi.headSize (Abi.encodeParts [proof.value]) +
      (Abi.tails (Abi.encodeParts [proof.value])).length < 2 ^ 256 := by omega
  have fits : (Abi.encode [proof.value]).length < 2 ^ 256 := by
    rw [Abi.encode, Abi.length_layout within]
    exact within
  have read := Abi.decode_encode typed fits
  simp only [Proof.decode?, Proof.encode, read, Option.bind_eq_bind, Option.bind_some,
    Proof.ofValue?_value]

end ReferencedPaymentNonexistence

namespace FdcNonexistenceTrigger

open ReferencedPaymentNonexistence

-- The states that later configure calls lead to.
inductive Later (start : State) : State → Prop
  | refl : Later start start
  | configure {state next : State} {policy : Address} {config : Config}
      (reached : Later start state) (accepted : configure state policy config = .ok next) :
      Later start next

/-- As long as the policy has the configuration, whatever proof is accepted from the time of its
creation on, the absence it shows ends strictly later than that. -/
def SinceCreation (start : State) (policy : Address) (config : Config) (created : Nat) : Prop :=
  ∀ state, Later start state → state.configs policy = config →
    ∀ verifier now proof p, created ≤ now → Proof.decode? proof = some p →
      check verifier state now policy proof = .ok true →
        created < p.data.requestBody.deadlineTimestamp.toNat

theorem Entitled.first_le {cfg : Config} {now : Nat} {data : Response}
    (entitled : Entitled cfg now data) :
    cfg.deadline 1 ≤ data.requestBody.deadlineTimestamp.toNat := by
  have started := entitled.started
  have within := Nat.le_of_dvd (by omega) entitled.boundary
  unfold Config.deadline
  omega

-- The proof that a heartbeat of the configuration was missed by its first boundary.
def firstAbsence (config : Config) : Proof where
  merkleProof := []
  data :=
    { attestationType := ATTESTATION_TYPE
      sourceId := config.sourceId
      votingRound := 0
      lowestUsedTimestamp := 0
      requestBody :=
        { minimalBlockNumber := 0
          deadlineBlockNumber := 0
          deadlineTimestamp := .ofNat (config.deadline 1)
          destinationAddressHash := config.destinationAddressHash
          amount := config.minimumAmount
          standardPaymentReference := config.paymentReference
          checkSourceAddresses := false
          sourceAddressesRoot := .zero 32 }
      responseBody :=
        { minimalBlockTimestamp := 0
          firstOverflowBlockNumber := 0
          firstOverflowBlockTimestamp := 0 } }

theorem firstAbsence_entitled {config : Config} (positive : config.interval ≠ 0)
    (fits : config.deadline 1 < 2 ^ 64) {now : Nat} (passed : config.deadline 1 ≤ now) :
    Entitled config now (firstAbsence config).data := by
  have deadline : (firstAbsence config).data.requestBody.deadlineTimestamp.toNat =
      config.deadline 1 := UInt64.toNat_ofNat_of_lt' fits
  have first : config.deadline 1 = config.start.toNat + config.interval.toNat := by
    rw [Config.deadline, Nat.one_mul]
  have interval : 0 < config.interval.toNat := by
    rcases Nat.eq_zero_or_pos config.interval.toNat with zero | some
    · exact absurd (UInt64.toNat_inj.mp zero) positive
    · exact some
  constructor
  · rfl
  · rfl
  · rfl
  · rfl
  · rfl
  · omega
  · omega
  · rw [deadline, first, Nat.add_sub_cancel_left]
  · exact Nat.zero_le _

theorem firstAbsence_decodes {config : Config} (amount : config.minimumAmount < 2 ^ 256) :
    Proof.decode? (firstAbsence config).encode = some (firstAbsence config) := by
  apply Proof.decode?_encode amount
  simp [firstAbsence]

/-- For a configure accepted at the time `created`. -/
theorem since_creation_iff {state next : State} {policy : Address} {config : Config}
    (created : Nat) (amount : config.minimumAmount < 2 ^ 256)
    (accepted : configure state policy config = .ok next) :
    SinceCreation next policy config created ↔
      config.owner = .zero 20 ∨ created < config.deadline 1 ∨ 2 ^ 64 ≤ config.deadline 1 := by
  obtain ⟨-, positive, configs⟩ := configure_accepts accepted
  have stored : next.configs policy = config := by rw [configs, Function.update_self]
  constructor
  · intro sound
    by_contra early
    simp only [not_or, not_lt, not_le] at early
    obtain ⟨owned, passed, fits⟩ := early
    have entitled := firstAbsence_entitled positive fits passed
    have decoded := firstAbsence_decodes amount
    have armed : check (fun _ => some true) next created policy (firstAbsence config).encode =
        .ok true := by
      rw [check_eq_true (by rw [stored]; exact fun _ => positive), State.Held, stored]
      exact ⟨owned, firstAbsence config, decoded, rfl, entitled, le_rfl⟩
    have later := sound next .refl stored _ created _ _ le_rfl decoded armed
    have deadline : (firstAbsence config).data.requestBody.deadlineTimestamp.toNat =
        config.deadline 1 := UInt64.toNat_ofNat_of_lt' fits
    omega
  · intro condition later _ holds verifier now proof p _ decoded armed
    rw [check_eq_true (by rw [holds]; exact fun _ => positive), State.Held, holds] at armed
    obtain ⟨owned, q, decoded', -, entitled, -⟩ := armed
    rw [decoded, Option.some.injEq] at decoded'
    subst decoded'
    have first := entitled.first_le
    have bounded := p.data.requestBody.deadlineTimestamp.toNat_lt
    rcases condition with unowned | ahead | never
    · exact absurd unowned owned
    · omega
    · omega

theorem monthly_since_creation :
    configure deployed policyA monthly = .ok configured ∧
      SinceCreation configured policyA monthly 31536000 := by
  have accepted : configure deployed policyA monthly = .ok configured := rfl
  exact ⟨accepted, (since_creation_iff 31536000 (by decide) accepted).mpr (.inr (.inl (by decide)))⟩

-- Configured in 2023 with a schedule that started in 1971.
theorem backdated_schedule_arms :
    configure deployed policyA monthly = .ok configured ∧
      check (attestsTo (absenceOf 100000)) configured 1700000000 policyA
        (absenceOf 100000).encode = .ok true ∧
      (absenceOf 100000).data.requestBody.deadlineTimestamp.toNat < 1700000000 ∧
      ¬ SinceCreation configured policyA monthly 1700000000 := by
  have armed : check (attestsTo (absenceOf 100000)) configured 1700000000 policyA
      (absenceOf 100000).encode = .ok true := by decide +kernel
  have decoded : Proof.decode? (absenceOf 100000).encode = some (absenceOf 100000) := by
    decide +kernel
  refine ⟨rfl, armed, by decide, fun sound => ?_⟩
  have later := sound configured .refl configured_monthly _ 1700000000 _ _ le_rfl decoded armed
  exact absurd later (by decide)

end FdcNonexistenceTrigger

end FlareStudio
