import FlareStudio.Policy.Compile

set_option autoImplicit false

-- The schema lets an address through in any letter case. viem takes one in lower case, or in the
-- case that EIP-55 reads from the hash of its digits, and throws on any other.

namespace FlareStudio.Policy

section LetterCase

theorem value?_lowerUnit (code : Nat) : Hex.value? (lowerUnit code) = Hex.value? code := by
  unfold lowerUnit
  by_cases capital : 65 ≤ code ∧ code ≤ 90
  · rw [if_pos capital]
    unfold Hex.value?
    by_cases digit : code ≤ 70
    · rw [if_neg (by omega), if_pos (by omega), if_neg (by omega), if_neg (by omega),
        if_pos (by omega)]
      congr 1
    · rw [if_neg (by omega), if_neg (by omega), if_neg (by omega), if_neg (by omega),
        if_neg (by omega), if_neg (by omega)]
  · rw [if_neg capital]

theorem decode_toLowerCase (digits : Text) :
    Hex.decode (toLowerCase digits) = Hex.decode digits := by
  induction digits using Hex.decode.induct with
  | case1 => rfl
  | case2 => rfl
  | case3 high low rest ih =>
    unfold toLowerCase at ih
    simp only [toLowerCase, List.map_cons, Hex.decode, value?_lowerUnit, ih]

theorem fixed?_of_ne {n first : Nat} (other : first ≠ 48) (rest : Text) :
    Hex.fixed? n (first :: rest) = none := by
  unfold Hex.fixed?
  split
  · rename_i same
    exact absurd (List.cons.inj same).1 other
  · rfl

theorem fixed?_toLowerCase (n : Nat) (value : Text) :
    Hex.fixed? n (toLowerCase value) = Hex.fixed? n value := by
  rcases value with _ | ⟨first, _ | ⟨marker, digits⟩⟩
  · rfl
  · simp [toLowerCase, Hex.fixed?]
  · by_cases zero : first = 48
    · have same : (lowerUnit marker = 120 ∨ lowerUnit marker = 88) ↔
          (marker = 120 ∨ marker = 88) := by
        unfold lowerUnit
        split <;> omega
      subst zero
      change (if lowerUnit marker = 120 ∨ lowerUnit marker = 88 then
        (Hex.decode (toLowerCase digits)).bind (FixedBytes.ofBytes? n) else none) = _
      rw [decode_toLowerCase, if_congr same rfl rfl]
      rfl
    · have other : lowerUnit first ≠ 48 := by
        unfold lowerUnit
        split <;> omega
      rw [fixed?_of_ne zero]
      exact fixed?_of_ne other _

theorem lowerUnit_digit {value : Nat} (small : value < 16) :
    lowerUnit (Hex.digit value) = Hex.digit value := by
  unfold lowerUnit Hex.digit
  split <;> exact if_neg (by omega)

theorem toLowerCase_prefixed (bytes : Bytes) :
    toLowerCase (Hex.prefixed bytes) = Hex.prefixed bytes := by
  have digits : toLowerCase (Hex.encode bytes) = Hex.encode bytes := by
    induction bytes with
    | nil => rfl
    | cons byte rest ih =>
      have small := byte.toNat_lt
      have split : Hex.encode (byte :: rest) = Hex.digit (byte.toNat / 16) ::
        Hex.digit (byte.toNat % 16) :: Hex.encode rest := rfl
      unfold toLowerCase at ih
      rw [split, toLowerCase, List.map_cons, List.map_cons, ih, lowerUnit_digit (by omega),
        lowerUnit_digit (by omega)]
  exact congrArg (fun rest => 48 :: 120 :: rest) digits

end LetterCase

theorem decode_hexDigits {digits : Text} {n : Nat} (hex : digits.all isHexDigit = true)
    (length : digits.length = 2 * n) : ∃ bytes, Hex.decode digits = some bytes := by
  induction digits using Hex.decode.induct generalizing n with
  | case1 => exact ⟨[], rfl⟩
  | case2 => simp at length; omega
  | case3 high low rest ih =>
    simp only [List.all_cons, Bool.and_eq_true, isHexDigit] at hex
    obtain ⟨first, second, later⟩ := hex
    obtain ⟨h, known⟩ := Option.isSome_iff_exists.mp first
    obtain ⟨l, known'⟩ := Option.isSome_iff_exists.mp second
    obtain ⟨bytes, decoded⟩ := ih (n := n - 1) later (by simp at length; omega)
    exact ⟨UInt8.ofNat (h * 16 + l) :: bytes, by simp [Hex.decode, known, known', decoded]⟩

theorem hex_denotes {units : Text} {n : Nat} (marker : units.take 2 = text "0x")
    (length : units.length = 2 * n + 2) (hex : (units.drop 2).all isHexDigit = true) :
    ∃ value : FixedBytes n, Hex.fixed? n units = some value := by
  obtain ⟨bytes, decoded⟩ := decode_hexDigits hex (by rw [List.length_drop, length]; rfl)
  have sized : bytes.length = n := by
    have digits := Hex.decode_length decoded
    rw [List.length_drop, length] at digits
    omega
  have split : units = 48 :: 120 :: units.drop 2 := by
    conv_lhs => rw [← List.take_append_drop 2 units, marker]
    rfl
  refine ⟨⟨bytes, sized⟩, ?_⟩
  rw [split, Hex.fixed?]
  simp [decoded, FixedBytes.ofBytes?, sized]

theorem all_isHexDigit {digits : Text} {bytes : Bytes} (decoded : Hex.decode digits = some bytes) :
    digits.all isHexDigit = true := by
  induction digits using Hex.decode.induct generalizing bytes with
  | case1 => rfl
  | case2 => cases decoded
  | case3 high low rest ih =>
    simp only [Hex.decode, Option.bind_eq_bind, Option.bind_eq_some_iff] at decoded
    obtain ⟨_, first, _, second, tail, decodedTail, -⟩ := decoded
    simp [isHexDigit, first, second, ih decodedTail]

theorem isAddress_prefixed (address : Address) : IsAddress (Hex.prefixed address.bytes) := by
  have decoded := Hex.decode_encode address.bytes
  have length := Hex.decode_length decoded
  refine ⟨rfl, ?_, all_isHexDigit decoded⟩
  rw [Hex.prefixed, List.length_cons, List.length_cons, length, address.length_bytes]

theorem isAddress_denotes {units : Text} (address : IsAddress units) :
    ∃ value : Address, Hex.fixed? 20 units = some value :=
  hex_denotes address.1 address.2.1 address.2.2

theorem lowerUnit_of_value? {code value : Nat} (known : Hex.value? code = some value) :
    lowerUnit code = Hex.digit value ∧ value < 16 := by
  unfold Hex.value? at known
  unfold lowerUnit Hex.digit
  split_ifs at known ⊢ <;> simp only [Option.some.injEq] at known <;> omega

theorem toLowerCase_of_decode {digits : Text} {bytes : Bytes}
    (decoded : Hex.decode digits = some bytes) : toLowerCase digits = Hex.encode bytes := by
  induction digits using Hex.decode.induct generalizing bytes with
  | case1 =>
    cases decoded
    rfl
  | case2 => cases decoded
  | case3 high low rest ih =>
    simp only [Hex.decode, Option.bind_eq_bind, Option.bind_eq_some_iff, Option.some.injEq]
      at decoded
    obtain ⟨h, first, l, second, tail, decodedTail, rfl⟩ := decoded
    obtain ⟨highDigit, highSmall⟩ := lowerUnit_of_value? first
    obtain ⟨lowDigit, lowSmall⟩ := lowerUnit_of_value? second
    have later := ih decodedTail
    have byte : (UInt8.ofNat (h * 16 + l)).toNat = h * 16 + l := by
      rw [UInt8.toNat_ofNat']
      omega
    have high' : (h * 16 + l) / 16 = h := by omega
    have low' : (h * 16 + l) % 16 = l := by omega
    simp only [toLowerCase] at later
    simp only [toLowerCase, List.map_cons, highDigit, lowDigit, later, Hex.encode,
      List.flatMap_cons, byte, high', low', List.cons_append, List.nil_append]

-- In lower case, an address is written as its bytes are.
theorem toLowerCase_eq_prefixed {units : Text} (address : IsAddress units) {value : Address}
    (denotes : Hex.fixed? 20 units = some value) :
    toLowerCase units = Hex.prefixed value.bytes := by
  have split : units = 48 :: 120 :: units.drop 2 := by
    conv_lhs => rw [← List.take_append_drop 2 units, address.1]
    rfl
  rw [split, Hex.fixed?, if_pos (.inl rfl)] at denotes
  obtain ⟨bytes, decoded, sized⟩ := Option.bind_eq_some_iff.mp denotes
  have same : value.bytes = bytes := by
    unfold FixedBytes.ofBytes? at sized
    split_ifs at sized
    cases sized
    rfl
  rw [split, same, Hex.prefixed, ← toLowerCase_of_decode decoded]
  rfl

def upperUnit (unit : Nat) : Nat := if 97 ≤ unit ∧ unit ≤ 122 then unit - 32 else unit

def nibbles (bytes : Bytes) : List Nat :=
  bytes.flatMap fun byte => [byte.toNat / 16, byte.toNat % 16]

def checksumUnit (unit nibble : Nat) : Nat := if 8 ≤ nibble then upperUnit unit else unit

def checksumAddress (address : Text) : Text :=
  let hexAddress := toLowerCase (address.drop 2)
  text "0x" ++ List.zipWith checksumUnit hexAddress
    (nibbles (keccak256 (hexAddress.map UInt8.ofNat)).bytes)

def PassesChecksum (address : Text) : Prop :=
  toLowerCase address = address ∨ checksumAddress address = address

instance : DecidablePred PassesChecksum := fun _ => inferInstanceAs (Decidable (_ ∨ _))

-- A hex string of 32 bytes.
def IsSalt (units : Text) : Prop :=
  units.take 2 = text "0x" ∧ units.length = 66 ∧ (units.drop 2).all isHexDigit = true

instance : DecidablePred IsSalt := fun _ => inferInstanceAs (Decidable (_ ∧ _ ∧ _))

theorem IsSalt.denotes {salt : Text} (formed : IsSalt salt) :
    ∃ word : Bytes32, Hex.fixed? 32 salt = some word :=
  hex_denotes formed.1 formed.2.1 formed.2.2

def Distribution.Encodable (distribution : Distribution) : Prop :=
  IsAddress distribution.recipient ∧ 0 ≤ distribution.amount ∧ distribution.amount < 2 ^ 256

-- encodeAbiParameters throws on an address that fails its checksum, and on nothing else here.
structure Viem.ChecksAddresses (viem : Viem) : Prop where
  encodes_iff : ∀ (distributions : List Distribution) (salt : Text),
    (∀ distribution ∈ distributions, distribution.Encodable) → IsSalt salt →
    ((∃ encoded, viem.encodeAbiParameters distributions salt = .ok encoded) ↔
      ∀ distribution ∈ distributions, PassesChecksum distribution.recipient)

def lowered (distribution : Distribution) : Distribution :=
  ⟨toLowerCase distribution.recipient, distribution.amount⟩

def Distribution.Checksummed (distribution : Distribution) : Prop :=
  IsAddress distribution.recipient ∧ PassesChecksum distribution.recipient

instance : DecidablePred Distribution.Checksummed := fun _ => inferInstanceAs (Decidable (_ ∧ _))

theorem denotes_lowered {distributions : List Distribution} {values : List (Address × Nat)}
    (denotes : List.Forall₂ Distribution.Denotes distributions values) :
    List.Forall₂ Distribution.Denotes (distributions.map lowered) values := by
  rw [List.forall₂_map_left_iff]
  refine denotes.imp fun distribution value here => ⟨?_, here.2⟩
  rw [lowered, fixed?_toLowerCase]
  exact here.1

theorem denotes_of_encodable {distributions : List Distribution}
    (encodable : ∀ distribution ∈ distributions, distribution.Encodable) :
    ∃ values, List.Forall₂ Distribution.Denotes distributions values := by
  induction distributions with
  | nil => exact ⟨[], .nil⟩
  | cons distribution rest ih =>
    obtain ⟨values, later⟩ :=
      ih fun other member => encodable other (List.mem_cons_of_mem _ member)
    obtain ⟨address, positive, -⟩ := encodable distribution List.mem_cons_self
    obtain ⟨recipient, denotes⟩ := isAddress_denotes address
    exact ⟨(recipient, distribution.amount.toNat) :: values,
      .cons ⟨denotes, (Int.toNat_of_nonneg positive).symm⟩ later⟩

theorem encodable_values {distributions : List Distribution}
    (encodable : ∀ distribution ∈ distributions, distribution.Encodable) :
    ∃ values : List (Address × Nat), (∀ value ∈ values, value.2 < 2 ^ 256) ∧
      distributions.map lowered =
        values.map fun value => ⟨Hex.prefixed value.1.bytes, value.2⟩ := by
  induction distributions with
  | nil => exact ⟨[], nofun, rfl⟩
  | cons distribution rest ih =>
    obtain ⟨values, small, later⟩ :=
      ih fun other member => encodable other (List.mem_cons_of_mem _ member)
    obtain ⟨address, positive, below⟩ := encodable distribution List.mem_cons_self
    obtain ⟨recipient, denotes⟩ := isAddress_denotes address
    refine ⟨(recipient, distribution.amount.toNat) :: values, ?_, ?_⟩
    · intro value member
      rcases List.mem_cons.mp member with rfl | member
      · exact (Int.toNat_lt positive).mpr (by simpa using below)
      · exact small value member
    · rw [List.map_cons, later, List.map_cons, lowered, toLowerCase_eq_prefixed address denotes,
        Int.toNat_of_nonneg positive]

def Viem.checksummed : Viem where
  encodeAbiParameters distributions salt :=
    if ∀ distribution ∈ distributions, distribution.Checksummed then
      Viem.lowercase.encodeAbiParameters (distributions.map lowered) salt
    else .error (text "Address is invalid.")
  keccak256 := Viem.lowercase.keccak256
  encodeAbiParameters_eq distributions salt values word encoded denotes decoded encodes := by
    split_ifs at encodes
    exact Viem.lowercase.encodeAbiParameters_eq _ _ _ _ _ (denotes_lowered denotes) decoded encodes
  encodeAbiParameters_lowercase values word small := by
    have checked : ∀ distribution ∈ values.map fun value =>
        (⟨Hex.prefixed value.1.bytes, value.2⟩ : Distribution), distribution.Checksummed := by
      intro distribution member
      obtain ⟨value, -, rfl⟩ := List.mem_map.mp member
      exact ⟨isAddress_prefixed value.1, .inl (toLowerCase_prefixed _)⟩
    have unchanged : (values.map fun value =>
        (⟨Hex.prefixed value.1.bytes, value.2⟩ : Distribution)).map lowered =
          values.map fun value => ⟨Hex.prefixed value.1.bytes, value.2⟩ := by
      simp [lowered, toLowerCase_prefixed, Function.comp_def]
    rw [if_pos checked, unchanged]
    exact Viem.lowercase.encodeAbiParameters_lowercase values word small
  keccak256_eq := Viem.lowercase.keccak256_eq

theorem Viem.checksummed_checksAddresses : Viem.checksummed.ChecksAddresses where
  encodes_iff distributions salt encodable formed := by
    constructor
    · intro ⟨encoded, encodes⟩ distribution member
      simp only [Viem.checksummed] at encodes
      split_ifs at encodes with checked
      exact (checked distribution member).2
    · intro passes
      obtain ⟨values, small, written⟩ := encodable_values encodable
      obtain ⟨word, denotes⟩ := formed.denotes
      have checked : ∀ distribution ∈ distributions, distribution.Checksummed :=
        fun distribution member => ⟨(encodable distribution member).1, passes distribution member⟩
      have lowercase : Viem.lowercase.encodeAbiParameters (distributions.map lowered) salt =
          .ok (Hex.prefixed (abiEncoding values word)) := by
        rw [written]
        simp [Viem.lowercase, lowercaseValues_ok small, denotes, Checked.ofOption, bind,
          Except.bind]
      exact ⟨_, (if_pos checked).trans lowercase⟩

def CompileError.IsPolicyCompile : CompileError → Prop
  | .policyCompile _ => True
  | .unknownAsset _ | .viem _ => False

section Outcome

variable {viem : Viem} {input : JsValue} {salt : Text} {ir : PolicyIR}

def PolicyIR.distributions (ir : PolicyIR) : List Distribution :=
  ir.transfer.recipients.map fun recipient => ⟨recipient.address.val, recipient.shareBps.val⟩

theorem encodable_distributions (ir : PolicyIR) :
    ∀ distribution ∈ ir.distributions, distribution.Encodable := by
  intro distribution member
  obtain ⟨recipient, -, rfl⟩ := List.mem_map.mp member
  have small := recipient.shareBps.property.2
  refine ⟨recipient.address.property, ?_, ?_⟩ <;> dsimp only <;> omega

theorem shareCommitmentSet_transfer (ir : PolicyIR) : shareCommitmentSet
    ⟨ir.val.name.val, ir.transfer.recipients.map Recipient.toPrivate⟩ = ir.distributions := by
  rw [shareCommitmentSet, List.map_map]
  rfl

theorem computeCommitment_ok_iff (checks : viem.ChecksAddresses) (formed : IsSalt salt)
    (ir : PolicyIR) :
    (∃ commitment, computeCommitment viem ir.distributions salt = .ok commitment) ↔
      ∀ recipient ∈ ir.transfer.recipients, PassesChecksum recipient.address.val := by
  have encodable := encodable_distributions ir
  have recipients : (∀ distribution ∈ ir.distributions, PassesChecksum distribution.recipient) ↔
      ∀ recipient ∈ ir.transfer.recipients, PassesChecksum recipient.address.val := by
    simp [PolicyIR.distributions]
  rw [← recipients, ← checks.encodes_iff _ _ encodable formed]
  constructor
  · rintro ⟨commitment, computed⟩
    rw [computeCommitment, Checked.bind_reaches] at computed
    obtain ⟨encoded, encodes, -⟩ := computed
    exact ⟨encoded, encodes⟩
  · rintro ⟨encoded, encodes⟩
    obtain ⟨values, denotes⟩ := denotes_of_encodable encodable
    obtain ⟨word, decoded⟩ := formed.denotes
    have bytes := viem.encodeAbiParameters_eq _ _ _ _ _ denotes decoded encodes
    have hashes := viem.keccak256_eq (abiEncoding values word)
    rw [← bytes] at hashes
    exact ⟨_, Checked.bind_reaches.mpr ⟨encoded, encodes, hashes⟩⟩

theorem compile_of_unknown {error : CompileError} (parsed : policyIrSchema input = .ok ir)
    (unknown : getAsset ir.val.asset = .error error) : compile viem input salt = .error error := by
  simp only [compile, parsePolicy, parsed, unknown, bind, Except.bind]

theorem compile_of_known (parsed : policyIrSchema input = .ok ir)
    (known : getAsset ir.val.asset = .ok ()) :
    (∀ message, computeCommitment viem ir.distributions salt = .error message →
      compile viem input salt = .error (.viem message)) ∧
    (∀ commitment, computeCommitment viem ir.distributions salt = .ok commitment →
      ∃ compiled, compile viem input salt = .ok compiled) := by
  have transfer := find?_isSplitTransfer ir
  constructor
  · intro message failed
    have commits : commitTo viem ir.distributions salt = .error (.viem message) := by
      rw [commitTo, failed]
    simp only [compile, parsePolicy, parsed, known, transfer, shareCommitmentSet_transfer, commits,
      bind, Except.bind]
  · intro commitment computed
    have commits : commitTo viem ir.distributions salt = .ok commitment := by
      rw [commitTo, computed]
    exact ⟨_, by simp only [compile, parsePolicy, parsed, known, transfer,
      shareCommitmentSet_transfer, commits, bind, Except.bind]; rfl⟩

theorem compile_ok_iff (checks : viem.ChecksAddresses) (formed : IsSalt salt)
    (parsed : policyIrSchema input = .ok ir) :
    (∃ compiled, compile viem input salt = .ok compiled) ↔ getAsset ir.val.asset = .ok () ∧
      ∀ recipient ∈ ir.transfer.recipients, PassesChecksum recipient.address.val := by
  rw [← computeCommitment_ok_iff checks formed ir]
  rcases known : getAsset ir.val.asset with error | ⟨⟩
  · simp [compile_of_unknown parsed known]
  · obtain ⟨fails, succeeds⟩ := @compile_of_known viem input salt ir parsed known
    rcases computed : computeCommitment viem ir.distributions salt with message | commitment
    · simp [fails message computed]
    · simpa using succeeds commitment computed

theorem compile_error_of_parsed {error : CompileError} (parsed : policyIrSchema input = .ok ir)
    (failed : compile viem input salt = .error error) : ¬ error.IsPolicyCompile := by
  rcases known : getAsset ir.val.asset with unknown | ⟨⟩
  · rw [compile_of_unknown parsed known, Except.error.injEq] at failed
    subst failed
    unfold getAsset at known
    split_ifs at known
    cases known
    exact id
  · obtain ⟨fails, succeeds⟩ := @compile_of_known viem input salt ir parsed known
    rcases computed : computeCommitment viem ir.distributions salt with message | commitment
    · rw [fails message computed, Except.error.injEq] at failed
      subst failed
      exact id
    · obtain ⟨compiled, accepted⟩ := succeeds commitment computed
      rw [accepted] at failed
      cases failed

theorem compile_of_rejected {issue : Zod.Issue} (rejected : policyIrSchema input = .error issue) :
    compile viem input salt = .error (.policyCompile (issueMessage issue)) := by
  simp only [compile, parsePolicy, rejected, bind, Except.bind]

/-- On a valid policy every failure is someone else's error. -/
theorem compile_refuses_iff (checks : viem.ChecksAddresses) (input : JsValue)
    (formed : IsSalt salt) :
    Checked.Refuses (compile viem input salt) CompileError.IsPolicyCompile ↔
      ∀ ir, policyIrSchema input = .ok ir →
        (ir.val.asset ∈ ASSETS ∨ ir.val.asset ∈ objectPrototype) ∧
          ∀ recipient ∈ ir.transfer.recipients, PassesChecksum recipient.address.val := by
  rcases parsed : policyIrSchema input with issue | ir
  · simp [compile_of_rejected parsed, Checked.Refuses, CompileError.IsPolicyCompile]
  · have known : getAsset ir.val.asset = .ok () ↔
        ir.val.asset ∈ ASSETS ∨ ir.val.asset ∈ objectPrototype := by
      unfold getAsset
      split_ifs with found <;> simp [found]
    have outcome := compile_ok_iff checks formed parsed
    rw [known] at outcome
    simp only [Except.ok.injEq, forall_eq']
    rw [← outcome]
    constructor
    · intro refuses
      rcases result : compile viem input salt with error | compiled
      · exact absurd (refuses error result) (compile_error_of_parsed parsed result)
      · exact ⟨compiled, rfl⟩
    · rintro ⟨compiled, accepted⟩
      rw [accepted]
      exact Checked.refuses_ok

end Outcome

-- All letters in upper case is a spelling the schema takes and EIP-55 does not give.
def capitalInput : JsValue := splitInput [recipientInput "A" 10000]

theorem family_refuses : Checked.Refuses (compile .checksummed (policyInput [familyInput]) sampleSalt)
    CompileError.IsPolicyCompile := by
  apply (compile_refuses_iff Viem.checksummed_checksAddresses _ (by decide)).mpr
  have accepted : (policyIrSchema (policyInput [familyInput])).map
      (fun ir => decide ((ir.val.asset ∈ ASSETS ∨ ir.val.asset ∈ objectPrototype) ∧
        ∀ recipient ∈ ir.transfer.recipients, PassesChecksum recipient.address.val)) =
          .ok true := by
    decide +kernel
  intro ir parsed
  rw [parsed] at accepted
  exact of_decide_eq_true (Except.ok.inj accepted)

theorem others_escape :
    IsSalt sampleSalt ∧
    ¬ Checked.Refuses (compile .checksummed (assetInput "FDOGE" [] [familyInput]) sampleSalt)
      CompileError.IsPolicyCompile ∧
    ¬ Checked.Refuses (compile .checksummed (policyInput [capitalInput]) sampleSalt)
      CompileError.IsPolicyCompile := by
  have unknown : compile .checksummed (assetInput "FDOGE" [] [familyInput]) sampleSalt =
      .error (.unknownAsset (text ("Unknown asset \"FDOGE\". Known: FXRP, FBTC. Adding an asset " ++
        "should be one entry in assets.ts and nothing else."))) := by decide +kernel
  have checksum : compile .checksummed (policyInput [capitalInput]) sampleSalt =
      .error (.viem (text "Address is invalid.")) := by decide +kernel
  exact ⟨by decide, fun refuses => refuses _ unknown, fun refuses => refuses _ checksum⟩

end FlareStudio.Policy
