import FlareStudio.Extension.Types

set_option autoImplicit false

namespace FlareStudio.Extension

def EIP712DomainName : String := "FlareStudioPolicy"

def EIP712DomainVersion : String := "1"

def eip712DomainTypehash : Bytes32 :=
  keccak256 (ascii
    "EIP712Domain(string name,string version,uint256 chainId,address verifyingContract)")

def shareTypehash : Bytes32 := keccak256 (ascii "Share(address recipient,uint16 shareBps)")

def executionTypehash : Bytes32 :=
  keccak256 (ascii "Execution(bytes32 commitment,bytes32 sharesHash,uint256 triggeredAt)")

-- The sign of a big.Int is not part of its Bytes.
def padBig (value : Int) : Bytes := padUint value.natAbs

def commitmentBytes (shares : List Share) (salt : Bytes32) : Bytes :=
  padUint 0x40 ++ salt.bytes ++ padUint shares.length ++
    shares.flatMap fun s => s.recipient.word ++ padUint s.shareBps.toNat

def computeCommitment (shares : List Share) (salt : Bytes32) : Bytes32 :=
  keccak256 (commitmentBytes shares salt)

def shareBytes (s : Share) : Bytes :=
  shareTypehash.bytes ++ s.recipient.word ++ padUint s.shareBps.toNat

def hashShares (shares : List Share) : Bytes32 :=
  keccak256 (shares.flatMap fun s => (keccak256 (shareBytes s)).bytes)

def domainBytes (policy : Address) (chainID : Int) : Bytes :=
  eip712DomainTypehash.bytes ++ (keccak256 (ascii EIP712DomainName)).bytes ++
    (keccak256 (ascii EIP712DomainVersion)).bytes ++ padBig chainID ++ policy.word

def domainSeparator (policy : Address) (chainID : Int) : Bytes32 :=
  keccak256 (domainBytes policy chainID)

def structBytes (commitment : Bytes32) (shares : List Share) (triggeredAt : Int) : Bytes :=
  executionTypehash.bytes ++ commitment.bytes ++ (hashShares shares).bytes ++ padBig triggeredAt

def eip712Preimage (policy : Address) (chainID : Int) (commitment : Bytes32) (shares : List Share)
    (triggeredAt : Int) : Bytes :=
  [0x19, 0x01] ++ (domainSeparator policy chainID).bytes ++
    (keccak256 (structBytes commitment shares triggeredAt)).bytes

theorem shareWords_length (s : Share) :
    (s.recipient.word ++ padUint s.shareBps.toNat).length = 64 := by
  have small : s.shareBps.toNat < 2 ^ 256 := lt_trans s.shareBps.toNat_lt (by norm_num)
  rw [List.length_append, s.recipient.word_length (by decide), padUint_length small]

theorem shareWords_injective :
    Function.Injective fun s : Share => s.recipient.word ++ padUint s.shareBps.toNat := by
  intro a b same
  have words : a.recipient.word.length = b.recipient.word.length := by
    rw [a.recipient.word_length (by decide), b.recipient.word_length (by decide)]
  obtain ⟨recipient, bps⟩ := List.append_inj same words
  have recipients := FixedBytes.word_injective recipient
  have shareBps := UInt16.toNat_inj.mp (padUint_injective bps)
  cases a
  cases b
  simp_all

open Abi ConfidentialPolicy in
theorem commitmentBytes_eq_encodeShares (shares : List Share) (salt : Bytes32) :
    commitmentBytes shares salt = encodeShares shares salt := by
  have element (s : Share) : encodeValue (shareValue s) =
      s.recipient.word ++ padUint s.shareBps.toNat := by
    rw [shareValue, encodeValue, layout_encodeParts_static]
    · simp [encodeValue]
    · simp [Value.isDynamic]
  have array : encodeValue (.array (shares.map shareValue)) =
      padUint shares.length ++
        shares.flatMap fun s => s.recipient.word ++ padUint s.shareBps.toNat := by
    rw [encodeValue, layout_encodeParts_static, List.flatMap_map, List.length_map]
    · simp only [element]
    · simp [shareValue, Value.isDynamic, anyDynamic]
  simp only [encodeShares, Abi.encode, encodeParts, array]
  simp [commitmentBytes, layout, heads, tails, headSize, Part.headSize, Part.tail,
    Value.isDynamic, encodeValue]

theorem commitmentBytes_length (shares : List Share) (salt : Bytes32) :
    (commitmentBytes shares salt).length =
      64 + (padUint shares.length).length + 64 * shares.length := by
  have offset : (padUint 0x40).length = 32 := padUint_length (by norm_num)
  simp only [commitmentBytes, List.length_append, offset, salt.length_bytes]
  rw [flatMap_length shareWords_length]

/-- Two different share lists or salts never give the same buffer, whatever their lengths. -/
theorem commitmentBytes_injective {shares shares' : List Share} {salt salt' : Bytes32}
    (same : commitmentBytes shares salt = commitmentBytes shares' salt') :
    shares = shares' ∧ salt = salt' := by
  have lengths := congrArg List.length same
  rw [commitmentBytes_length, commitmentBytes_length, padUint_length_eq, padUint_length_eq]
    at lengths
  -- The count word never shrinks as the list grows, so the lengths determine the count.
  have count : shares.length = shares'.length := by
    rcases Nat.lt_trichotomy shares.length shares'.length with less | equal | more
    · have := bigEndian_length_mono less.le
      omega
    · exact equal
    · have := bigEndian_length_mono more.le
      omega
  unfold commitmentBytes at same
  rw [count] at same
  obtain ⟨front, elements⟩ := List.append_inj same (by simp)
  have salts := List.append_cancel_left (List.append_cancel_right front)
  exact ⟨flatMap_injective shareWords_length (by decide) shareWords_injective elements,
    FixedBytes.ext salts⟩

section Contract

open Abi ConfidentialPolicy

variable (commitment : Bytes32) (shares : List Share)

theorem hashShares_eq : _hashShares shares = hashShares shares := by
  have each (share : Share) : Abi.encode [.bytes32 SHARE_TYPEHASH, .address share.recipient,
      .uint share.shareBps.toNat] = shareBytes share := by
    rw [Abi.encode, layout_encodeParts_static]
    · simp [encodeValue, shareBytes, SHARE_TYPEHASH, shareTypehash]
    · simp [Value.isDynamic]
  simp only [_hashShares, hashShares, each]

theorem executionStructHash_eq (triggeredAt : Nat) :
    executionStructHash commitment shares triggeredAt =
      keccak256 (structBytes commitment shares triggeredAt) := by
  rw [executionStructHash, Abi.encode, layout_encodeParts_static]
  · simp [encodeValue, structBytes, hashShares_eq, EXECUTION_TYPEHASH, executionTypehash, padBig]
  · simp [Value.isDynamic]

/-- The message the node is handed hashes to the digest the contract recovers against. -/
theorem digest_eq (oz : OpenZeppelin) (ctx : Context) (triggeredAt : Nat) :
    digest oz ctx (executionStructHash commitment shares triggeredAt) =
      keccak256 (eip712Preimage ctx.self ctx.chainId commitment shares triggeredAt) := by
  have domain : Abi.encode [.bytes32 FlareStudio.eip712DomainTypehash,
      .bytes32 (keccak256 (ascii "FlareStudioPolicy")), .bytes32 (keccak256 (ascii "1")),
      .uint ctx.chainId, .address ctx.self] = domainBytes ctx.self ctx.chainId := by
    rw [Abi.encode, layout_encodeParts_static]
    · simp [encodeValue, domainBytes, FlareStudio.eip712DomainTypehash, eip712DomainTypehash,
        EIP712DomainName, EIP712DomainVersion, padBig]
    · simp [Value.isDynamic]
  rw [digest, oz.hashTypedDataV4_eq, domain, executionStructHash_eq]
  simp [eip712Preimage, domainSeparator]

end Contract

theorem domainBytes_injective {policy policy' : Address} {chainID chainID' : Int}
    (same : domainBytes policy chainID = domainBytes policy' chainID') :
    policy = policy' ∧ chainID.natAbs = chainID'.natAbs := by
  have words : policy.word.length = policy'.word.length := by
    rw [policy.word_length (by decide), policy'.word_length (by decide)]
  obtain ⟨front, word⟩ := List.append_inj' same words
  exact ⟨FixedBytes.word_injective word, padUint_injective (List.append_cancel_left front)⟩

theorem structBytes_injective {commitment commitment' : Bytes32} {shares shares' : List Share}
    {triggeredAt triggeredAt' : Int}
    (same : structBytes commitment shares triggeredAt =
      structBytes commitment' shares' triggeredAt') :
    commitment = commitment' ∧ hashShares shares = hashShares shares' ∧
      triggeredAt.natAbs = triggeredAt'.natAbs := by
  obtain ⟨front, time⟩ := List.append_inj same (by simp)
  obtain ⟨head, hash⟩ := List.append_inj front (by simp)
  exact ⟨FixedBytes.ext (List.append_cancel_left head), FixedBytes.ext hash,
    padUint_injective time⟩

theorem eip712Preimage_injective {policy policy' : Address} {chainID chainID' : Int}
    {commitment commitment' : Bytes32} {shares shares' : List Share}
    {triggeredAt triggeredAt' : Int}
    (same : eip712Preimage policy chainID commitment shares triggeredAt =
      eip712Preimage policy' chainID' commitment' shares' triggeredAt') :
    domainSeparator policy chainID = domainSeparator policy' chainID' ∧
      keccak256 (structBytes commitment shares triggeredAt) =
        keccak256 (structBytes commitment' shares' triggeredAt') := by
  obtain ⟨front, body⟩ := List.append_inj same (by simp)
  exact ⟨FixedBytes.ext (List.append_cancel_left front), FixedBytes.ext body⟩

end FlareStudio.Extension
