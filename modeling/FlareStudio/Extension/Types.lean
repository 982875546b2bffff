import FlareStudio.Contracts.ConfidentialPolicy
import FlareStudio.Shared.Json

set_option autoImplicit false

namespace FlareStudio.Extension

-- types.Share mirrors ConfidentialPolicy.Share.
abbrev Share := ConfidentialPolicy.Share

structure PrivateConfig where
  shares : List Share
  salt : Bytes32
deriving DecidableEq

structure StorePolicyRequest where
  policy : Address
  ciphertext : Bytes
deriving DecidableEq

structure StorePolicyResponse where
  policy : Address
  stored : Bool
  shareCount : Nat
deriving DecidableEq

-- A big.Int is a pointer, so it can be nil.
structure EvaluatePolicyRequest where
  policy : Address
  triggeredAt : Option Int
deriving DecidableEq

structure EvaluatePolicyResponse where
  policy : Address
  shares : List Share
  salt : Bytes32
  signature : Bytes
deriving DecidableEq

structure StateResponse where
  stateVersion : Bytes32
  policiesStored : Nat
  evaluationCount : Nat
  lastPolicy : String
deriving DecidableEq

def base64Digit (value : Nat) : Nat :=
  if value < 26 then 65 + value
  else if value < 52 then 71 + value
  else if value < 62 then value - 4
  else if value = 62 then 43
  else 47

def base64 : Bytes → Text
  | [] => []
  | [a] => [base64Digit (a.toNat / 4), base64Digit (a.toNat % 4 * 16), 61, 61]
  | [a, b] => [base64Digit (a.toNat / 4), base64Digit (a.toNat % 4 * 16 + b.toNat / 16),
      base64Digit (b.toNat % 16 * 4), 61]
  | a :: b :: c :: rest =>
    base64Digit (a.toNat / 4) :: base64Digit (a.toNat % 4 * 16 + b.toNat / 16) ::
      base64Digit (b.toNat % 16 * 4 + c.toNat / 64) :: base64Digit (c.toNat % 64) :: base64 rest

def hexJson {n : Nat} (value : FixedBytes n) : Json := .str (Hex.prefixed value.bytes)

def StorePolicyResponse.json (response : StorePolicyResponse) : Json :=
  .obj [(text "policy", hexJson response.policy), (text "stored", .bool response.stored),
    (text "shareCount", .num (decimal response.shareCount))]

def shareJson (share : Share) : Json :=
  .obj [(text "recipient", hexJson share.recipient),
    (text "shareBps", .num (decimal share.shareBps.toNat))]

def EvaluatePolicyResponse.json (response : EvaluatePolicyResponse) : Json :=
  .obj [(text "policy", hexJson response.policy),
    (text "shares", .arr (response.shares.map shareJson)), (text "salt", hexJson response.salt),
    (text "signature", .str (base64 response.signature))]

def marshal (json : Json) : Bytes := json.render.map UInt8.ofNat

theorem marshal_text {json : Json} (plain : json.Plain) : (marshal json).text = json.render := by
  rw [marshal, Bytes.text, List.map_map]
  apply (List.map_congr_left ?_).trans (List.map_id _)
  intro code member
  have small := plain.ascii json code member
  simp only [Function.comp_apply, UInt8.toNat_ofNat', id_eq]
  omega

theorem parse_marshal {json : Json} (plain : json.Plain) :
    Json.parse (marshal json).text = some json := by
  rw [marshal_text plain, Json.parse_render json (plain.wellFormed json)]

-- The code point of four hexadecimal digits.
def hexUnit (a b c d : Nat) : Nat :=
  [a, b, c, d].foldl (fun value code => value * 16 + (Hex.value? code).getD 0) 0

def utf8 (code : Nat) : Text :=
  if code < 0x80 then [code]
  else if code < 0x800 then [0xc0 + code / 0x40, 0x80 + code % 0x40]
  else if code < 0x10000 then
    [0xe0 + code / 0x1000, 0x80 + code / 0x40 % 0x40, 0x80 + code % 0x40]
  else [0xf0 + code / 0x40000, 0x80 + code / 0x1000 % 0x40, 0x80 + code / 0x40 % 0x40,
    0x80 + code % 0x40]

def escaped (letter : Nat) : Nat :=
  if letter = 98 then 8 else if letter = 102 then 12 else if letter = 110 then 10
  else if letter = 114 then 13 else if letter = 116 then 9 else letter

-- A surrogate without its half becomes the replacement character. Bytes that are no UTF-8 do too
-- in the source; here they stay, since no field name has one.
def unquote : Text → Text
  | [] => []
  | 92 :: 117 :: a :: b :: c :: d :: 92 :: 117 :: e :: f :: g :: h :: rest =>
    let high := hexUnit a b c d
    let low := hexUnit e f g h
    if 0xd800 ≤ high ∧ high < 0xdc00 ∧ 0xdc00 ≤ low ∧ low < 0xe000 then
      utf8 (0x10000 + (high - 0xd800) * 0x400 + (low - 0xdc00)) ++ unquote rest
    else
      utf8 (if 0xd800 ≤ high ∧ high < 0xe000 then 0xfffd else high) ++
        unquote (92 :: 117 :: e :: f :: g :: h :: rest)
  | 92 :: 117 :: a :: b :: c :: d :: rest =>
    let unit := hexUnit a b c d
    utf8 (if 0xd800 ≤ unit ∧ unit < 0xe000 then 0xfffd else unit) ++ unquote rest
  | 92 :: letter :: rest => escaped letter :: unquote rest
  | code :: rest => code :: unquote rest

-- Keys match up to case folding, under which the long s is an S.
def foldName : Text → Text
  | [] => []
  | 0xc5 :: 0xbf :: rest => 83 :: foldName rest
  | code :: rest => (if 97 ≤ code ∧ code ≤ 122 then code - 32 else code) :: foldName rest

def isField (name : String) (key : Text) : Bool := foldName (unquote key) = foldName (text name)

-- UnmarshalJSON of common.Address and common.Hash, which see the literal as it is written.
def unmarshalHex (n : Nat) : Json → Option (FixedBytes n)
  | .str raw => Hex.fixed? n raw
  | _ => none

def unmarshalUint16 (current : UInt16) : Json → Option UInt16
  | .num lexeme =>
    if lexeme.all Json.isDigit ∧ ofDecimal lexeme < 2 ^ 16 then some (.ofNat (ofDecimal lexeme))
    else none
  | .null => some current
  | _ => none

def unmarshalShareField (current : Share) (member : Text × Json) : Option Share :=
  if isField "recipient" member.1 then
    (unmarshalHex 20 member.2).map fun recipient => { current with recipient }
  else if isField "shareBps" member.1 then
    (unmarshalUint16 current.shareBps member.2).map fun shareBps => { current with shareBps }
  else some current

def unmarshalShare (current : Share) : Json → Option Share
  | .null => some current
  | .obj members => members.foldlM unmarshalShareField current
  | _ => none

-- A slice keeps what was decoded into its backing array before, also beyond its length.
structure Slice where
  backing : List Share
  length : Nat

def Slice.shares (slice : Slice) : List Share := slice.backing.take slice.length

def unmarshalElements (backing : List Share) : Nat → List Json → Option (List Share)
  | _, [] => some backing
  | index, element :: rest => do
    let share ← unmarshalShare (backing.getD index ⟨.zero 20, 0⟩) element
    unmarshalElements (backing.take index ++ share :: backing.drop (index + 1)) (index + 1) rest

def unmarshalShares (current : Slice) : Json → Option Slice
  | .null | .arr [] => some ⟨[], 0⟩
  | .arr elements =>
    (unmarshalElements current.backing 0 elements).map fun backing => ⟨backing, elements.length⟩
  | _ => none

def unmarshalField (current : Slice × Bytes32) (member : Text × Json) : Option (Slice × Bytes32) :=
  if isField "shares" member.1 then
    (unmarshalShares current.1 member.2).map fun shares => (shares, current.2)
  else if isField "salt" member.1 then
    (unmarshalHex 32 member.2).map fun salt => (current.1, salt)
  else some current

def unmarshalTree : Json → Option PrivateConfig
  | .null => some ⟨[], .zero 32⟩
  | .obj members =>
    (members.foldlM unmarshalField (⟨[], 0⟩, .zero 32)).map fun fields =>
      ⟨fields.1.shares, fields.2⟩
  | _ => none

def maxNestingDepth : Nat := 10000

def unmarshal (plaintext : Bytes) : Option PrivateConfig := do
  let tree ← Json.parse plaintext.text
  if tree.depth ≤ maxNestingDepth then unmarshalTree tree else none

end FlareStudio.Extension
