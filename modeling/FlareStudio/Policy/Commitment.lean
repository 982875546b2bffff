import FlareStudio.Extension.Policy
import FlareStudio.Shared.Checked
import FlareStudio.Shared.Json

set_option autoImplicit false

namespace FlareStudio.Policy

structure Distribution where
  recipient : Text
  amount : Int

def Distribution.Denotes (distribution : Distribution) (value : Address × Nat) : Prop :=
  Hex.fixed? 20 distribution.recipient = some value.1 ∧ distribution.amount = value.2

def abiEncoding (values : List (Address × Nat)) (salt : Bytes32) : Bytes :=
  Abi.encode [.array (values.map fun value => .tuple [.address value.1, .uint value.2]),
    .bytes32 salt]

-- viem is not part of the repository: it encodes by the ABI specification or throws, which it does
-- not do on addresses in lower case.
structure Viem where
  encodeAbiParameters : List Distribution → Text → Except Text Text
  keccak256 : Text → Except Text Text
  encodeAbiParameters_eq : ∀ distributions salt values word encoded,
    List.Forall₂ Distribution.Denotes distributions values → Hex.fixed? 32 salt = some word →
    encodeAbiParameters distributions salt = .ok encoded →
    encoded = Hex.prefixed (abiEncoding values word)
  encodeAbiParameters_lowercase : ∀ (values : List (Address × Nat)) (word : Bytes32),
    (∀ value ∈ values, value.2 < 2 ^ 256) → ∃ encoded,
    encodeAbiParameters (values.map fun value => ⟨Hex.prefixed value.1.bytes, value.2⟩)
      (Hex.prefixed word.bytes) = .ok encoded
  keccak256_eq : ∀ bytes,
    keccak256 (Hex.prefixed bytes) = .ok (Hex.prefixed (FlareStudio.keccak256 bytes).bytes)

-- A viem that knows no checksums: it takes addresses in lower case only.
section Lowercase

def lowercaseValue (distribution : Distribution) : Except Text (Address × Nat) :=
  match Hex.fixed? 20 distribution.recipient with
  | none => .error (text "Address is invalid.")
  | some recipient =>
    if distribution.recipient = Hex.prefixed recipient.bytes ∧ 0 ≤ distribution.amount ∧
        distribution.amount < 2 ^ 256 then
      .ok (recipient, distribution.amount.toNat)
    else .error (text "Address is invalid.")

def lowercaseValues : List Distribution → Except Text (List (Address × Nat))
  | [] => .ok []
  | distribution :: rest => do
    let value ← lowercaseValue distribution
    let values ← lowercaseValues rest
    .ok (value :: values)

theorem lowercaseValues_denoted {distributions : List Distribution}
    {values found : List (Address × Nat)}
    (denotes : List.Forall₂ Distribution.Denotes distributions values)
    (read : lowercaseValues distributions = .ok found) : found = values := by
  induction denotes generalizing found with
  | nil => exact (Except.ok.inj read).symm
  | @cons distribution value distributions values here later ih =>
    obtain ⟨recipient, amount⟩ := here
    simp only [lowercaseValues, lowercaseValue, recipient, amount, Checked.bind_reaches,
      Except.ok.injEq] at read
    obtain ⟨head, first, tail, others, rfl⟩ := read
    split_ifs at first
    cases first
    rw [ih others, Int.toNat_natCast]

theorem lowercaseValues_ok {values : List (Address × Nat)}
    (small : ∀ value ∈ values, value.2 < 2 ^ 256) :
    lowercaseValues (values.map fun value => ⟨Hex.prefixed value.1.bytes, value.2⟩) =
      .ok values := by
  induction values with
  | nil => rfl
  | cons value rest ih =>
    have here := small value List.mem_cons_self
    have later := ih fun value member => small value (List.mem_cons_of_mem _ member)
    norm_num at here
    simp [lowercaseValues, lowercaseValue, later, here, bind, Except.bind]

def Viem.lowercase : Viem where
  encodeAbiParameters distributions salt := do
    let values ← lowercaseValues distributions
    let word ← Checked.ofOption (text "Size of bytes does not match.") (Hex.fixed? 32 salt)
    .ok (Hex.prefixed (abiEncoding values word))
  keccak256 value := do
    let bytes ← Checked.ofOption (text "Invalid byte sequence") (Hex.decode (value.drop 2))
    .ok (Hex.prefixed (FlareStudio.keccak256 bytes).bytes)
  encodeAbiParameters_eq _ _ _ _ _ denotes decoded encodes := by
    rw [decoded, Checked.bind_reaches] at encodes
    obtain ⟨values, read, encoded⟩ := encodes
    rw [lowercaseValues_denoted denotes read] at encoded
    exact (Except.ok.inj encoded).symm
  encodeAbiParameters_lowercase values word small := by
    exact ⟨Hex.prefixed (abiEncoding values word), by
      simp [lowercaseValues_ok small, Checked.ofOption, bind, Except.bind]⟩
  keccak256_eq bytes := by
    simp [Hex.prefixed, Checked.ofOption, bind, Except.bind]

end Lowercase

def computeCommitment (viem : Viem) (distributions : List Distribution) (salt : Text) :
    Except Text Text := do
  let encoded ← viem.encodeAbiParameters distributions salt
  viem.keccak256 encoded

def Distribution.ofShare (share : ConfidentialPolicy.Share) : Distribution :=
  ⟨Hex.prefixed share.recipient.bytes, share.shareBps.toNat⟩

def shareValues (shares : List ConfidentialPolicy.Share) : List (Address × Nat) :=
  shares.map fun share => (share.recipient, share.shareBps.toNat)

open Extension in
theorem abiEncoding_shareValues (shares : List ConfidentialPolicy.Share) (salt : Bytes32) :
    abiEncoding (shareValues shares) salt = commitmentBytes shares salt := by
  rw [commitmentBytes_eq_encodeShares, abiEncoding, shareValues, List.map_map]
  rfl

theorem encodeAbiParameters_of_denotes {viem : Viem} {distributions : List Distribution}
    {shares : List ConfidentialPolicy.Share} {salt encoded : Text} {word : Bytes32}
    (denotes : List.Forall₂ Distribution.Denotes distributions (shareValues shares))
    (decoded : Hex.fixed? 32 salt = some word)
    (encodes : viem.encodeAbiParameters distributions salt = .ok encoded) :
    encoded = Hex.prefixed (Extension.commitmentBytes shares word) := by
  rw [← abiEncoding_shareValues]
  exact viem.encodeAbiParameters_eq _ _ _ _ _ denotes decoded encodes

theorem computeCommitment_of_denotes {viem : Viem} {distributions : List Distribution}
    {shares : List ConfidentialPolicy.Share} {salt commitment : Text} {word : Bytes32}
    (denotes : List.Forall₂ Distribution.Denotes distributions (shareValues shares))
    (decoded : Hex.fixed? 32 salt = some word)
    (computed : computeCommitment viem distributions salt = .ok commitment) :
    commitment = Hex.prefixed (Extension.computeCommitment shares word).bytes := by
  unfold computeCommitment at computed
  rw [Checked.bind_reaches] at computed
  obtain ⟨encoded, encodes, hashed⟩ := computed
  rw [encodeAbiParameters_of_denotes denotes decoded encodes, viem.keccak256_eq] at hashed
  exact (Except.ok.inj hashed).symm

theorem ofShare_denotes (shares : List ConfidentialPolicy.Share) :
    List.Forall₂ Distribution.Denotes (shares.map Distribution.ofShare) (shareValues shares) := by
  rw [shareValues, List.forall₂_map_left_iff, List.forall₂_map_right_iff, List.forall₂_same]
  intro share _
  exact ⟨Hex.fixed?_prefixed _, rfl⟩

theorem encodeAbiParameters_ofShare (viem : Viem) (shares : List ConfidentialPolicy.Share)
    (salt : Bytes32) :
    viem.encodeAbiParameters (shares.map Distribution.ofShare) (Hex.prefixed salt.bytes) =
      .ok (Hex.prefixed (Extension.commitmentBytes shares salt)) := by
  have small : ∀ value ∈ shareValues shares, value.2 < 2 ^ 256 := by
    intro value member
    obtain ⟨share, -, rfl⟩ := List.mem_map.mp member
    exact lt_trans share.shareBps.toNat_lt (by norm_num)
  obtain ⟨encoded, encodes⟩ := viem.encodeAbiParameters_lowercase (shareValues shares) salt small
  rw [shareValues, List.map_map] at encodes
  have bytes := encodeAbiParameters_of_denotes (ofShare_denotes shares) (Hex.fixed?_prefixed salt)
    encodes
  exact bytes ▸ encodes

/-- The three implementations hash one string, which no other shares or salt give, so that equal
commitments of different contents are a collision. -/
theorem commitments_agree_and_bind (viem : Viem) (shares shares' : List ConfidentialPolicy.Share)
    (salt salt' : Bytes32) :
    Extension.commitmentBytes shares salt = ConfidentialPolicy.encodeShares shares salt ∧
    viem.encodeAbiParameters (shares.map Distribution.ofShare) (Hex.prefixed salt.bytes) =
      .ok (Hex.prefixed (Extension.commitmentBytes shares salt)) ∧
    computeCommitment viem (shares.map Distribution.ofShare) (Hex.prefixed salt.bytes) =
      .ok (Hex.prefixed (Extension.computeCommitment shares salt).bytes) ∧
    (∀ distributions spelling encoded,
      List.Forall₂ Distribution.Denotes distributions (shareValues shares) →
      Hex.fixed? 32 spelling = some salt →
      viem.encodeAbiParameters distributions spelling = .ok encoded →
      encoded = Hex.prefixed (Extension.commitmentBytes shares salt)) ∧
    (Extension.commitmentBytes shares salt = Extension.commitmentBytes shares' salt' →
      shares = shares' ∧ salt = salt') ∧
    (CollisionFree {Extension.commitmentBytes shares salt,
        Extension.commitmentBytes shares' salt'} →
      Extension.computeCommitment shares salt = Extension.computeCommitment shares' salt' →
      shares = shares' ∧ salt = salt') := by
  have encodes := encodeAbiParameters_ofShare viem shares salt
  have computes : computeCommitment viem (shares.map Distribution.ofShare)
      (Hex.prefixed salt.bytes) =
        .ok (Hex.prefixed (Extension.computeCommitment shares salt).bytes) := by
    rw [computeCommitment, encodes]
    exact viem.keccak256_eq _
  refine ⟨Extension.commitmentBytes_eq_encodeShares shares salt, encodes, computes, ?_,
    Extension.commitmentBytes_injective, ?_⟩
  · intro distributions spelling encoded denotes decoded encodes
    exact encodeAbiParameters_of_denotes denotes decoded encodes
  · intro free same
    have strings := free.eq (by simp) (by simp) same
    exact Extension.commitmentBytes_injective strings

-- The values canonicalize meets: what JSON can express, and bigints.
inductive JsonValue where
  | boolean (value : Bool)
  | integer (value : Nat)
  | bigint (value : Nat)
  | string (units : Text)
  | array (elements : List JsonValue)
  | object (members : List (Text × JsonValue))

def unicodeEscape (unit : Nat) : Text :=
  text "\\u" ++ [Hex.digit (unit / 4096), Hex.digit (unit / 256 % 16), Hex.digit (unit / 16 % 16),
    Hex.digit (unit % 16)]

def escapeUnit (unit : Nat) : Text :=
  if unit = 34 ∨ unit = 92 then [92, unit]
  else if unit = 8 then text "\\b"
  else if unit = 9 then text "\\t"
  else if unit = 10 then text "\\n"
  else if unit = 12 then text "\\f"
  else if unit = 13 then text "\\r"
  else if unit < 32 ∨ 0xd800 ≤ unit ∧ unit < 0xe000 then unicodeEscape unit
  else [unit]

-- As JSON.stringify writes a string: a surrogate without its half is escaped, a pair is not.
def escape : Text → Text
  | [] => []
  | [unit] => escapeUnit unit
  | high :: low :: rest =>
    if 0xd800 ≤ high ∧ high < 0xdc00 ∧ 0xdc00 ≤ low ∧ low < 0xe000 then
      high :: low :: escape rest
    else escapeUnit high ++ escape (low :: rest)

def lexLe : Text → Text → Bool
  | [], _ => true
  | _ :: _, [] => false
  | a :: as, b :: bs => a < b || (a == b && lexLe as bs)

mutual

-- What JSON.stringify makes of the result is written in the leaves. Integer-like keys, which
-- Object.fromEntries would move to the front, do not occur.
def sortKeys : JsonValue → Json
  | .boolean value => .bool value
  | .integer value => .num (decimal value)
  | .bigint value => .str (decimal value)
  | .string units => .str (escape units)
  | .array elements => .arr (sortElements elements)
  | .object members =>
    .obj (((sortMembers members).insertionSort fun a b => lexLe a.1 b.1).map
      fun member => (escape member.1, member.2))

def sortElements : List JsonValue → List Json
  | [] => []
  | element :: rest => sortKeys element :: sortElements rest

def sortMembers : List (Text × JsonValue) → List (Text × Json)
  | [] => []
  | (key, value) :: rest => (key, sortKeys value) :: sortMembers rest

end

def canonicalize (value : JsonValue) : Text := (sortKeys value).render

end FlareStudio.Policy
