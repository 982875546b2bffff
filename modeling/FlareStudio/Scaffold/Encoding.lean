import FlareStudio.Policy.Checksum
import FlareStudio.Policy.Plaintext

set_option autoImplicit false

-- The encoding helpers that an extension in TypeScript and one in Python are built on. They read
-- the same wire, and not quite the same texts.

namespace FlareStudio.Scaffold

open Policy

namespace TypeScript

-- One marker is taken off, of either case.
def stripMarker : Text → Text
  | 48 :: 120 :: digits => digits
  | 48 :: 88 :: digits => digits
  | h => h

-- parseInt of two digits at a time.
def parsePairs : Text → Bytes
  | high :: low :: rest =>
    UInt8.ofNat ((Hex.value? high).getD 0 * 16 + (Hex.value? low).getD 0) :: parsePairs rest
  | _ => []

-- Null and undefined are none, and an error is the message of the Error that is thrown.
def hexToBytes : Option Text → Except Text Bytes
  | none => .ok []
  | some h =>
    let s := stripMarker h
    if s = [] then .ok []
    else if s.length % 2 ≠ 0 then
      .error (text "invalid hex: odd length (" ++ decimal s.length ++ text ")")
    else if s.all isHexDigit then .ok (parsePairs s)
    else .error (text "invalid hex: non-hex characters")

def bytesToHex (b : Bytes) : Text := Hex.prefixed b

end TypeScript

theorem length_rightpad {b : Bytes} (short : b.length ≤ 32) : (b.rightpad 32 0).length = 32 := by
  rw [List.rightpad, List.length_append, List.length_replicate]
  omega

def padBytes32 (b : Bytes) : Option Bytes32 :=
  if short : b.length ≤ 32 then some ⟨b.rightpad 32 0, length_rightpad short⟩ else none

def TypeScript.stringToBytes32Hex (s : Text) : Except Text Text :=
  match padBytes32 (textEncode s) with
  | some padded => .ok (bytesToHex padded.bytes)
  | none => .error (text "string too long for bytes32 (" ++ decimal (textEncode s).length ++
      text " bytes): " ++ s)

namespace Python

def removePrefix (marker h : Text) : Text :=
  if marker.isPrefixOf h then h.drop marker.length else h

-- Py_ISSPACE
def isSpace (unit : Nat) : Bool := (9 ≤ unit && unit ≤ 13) || unit = 32

-- Where the first character stands that is neither part of a pair of digits nor white space
-- between two pairs.
def fromHexAt : Nat → Text → Except Nat Bytes
  | _, [] => .ok []
  | position, [unit] =>
    if isSpace unit then .ok []
    else .error (if (Hex.value? unit).isSome then position + 1 else position)
  | position, high :: low :: rest =>
    if isSpace high then fromHexAt (position + 1) (low :: rest)
    else match Hex.value? high, Hex.value? low with
      | some h, some l => (fromHexAt (position + 2) rest).map (UInt8.ofNat (h * 16 + l) :: ·)
      | none, _ => .error position
      | some _, none => .error (position + 1)

-- A str that is not ASCII is refused for its first such character.
def scanHex (h : Text) : Except Nat Bytes :=
  match h.findIdx? (128 ≤ ·) with
  | some position => .error position
  | none => fromHexAt 0 h

-- bytes.fromhex, with the text of its ValueError.
def fromHex (h : Text) : Except Text Bytes :=
  (scanHex h).mapError fun position =>
    text "non-hexadecimal number found in fromhex() arg at position " ++ decimal position

def hex_to_bytes : Option Text → Except Text Bytes
  | none => .ok []
  | some h =>
    let h := removePrefix (text "0X") (removePrefix (text "0x") h)
    if h = [] then .ok [] else fromHex h

def bytes_to_hex (b : Bytes) : Text := Hex.prefixed b

-- The code points of a str; str.encode refuses a surrogate.
def encode (s : Text) : Option Bytes :=
  if s.any fun code => 0xd800 ≤ code && code < 0xe000 then none
  else some ((s.flatMap Extension.utf8).map UInt8.ofNat)

def string_to_bytes32_hex (s : Text) : Option Text := do
  let b ← encode s
  let padded ← padBytes32 b
  some (bytes_to_hex padded.bytes)

end Python

open TypeScript (stripMarker parsePairs)

theorem parsePairs_of_decode {digits : Text} {bytes : Bytes}
    (decoded : Hex.decode digits = some bytes) : parsePairs digits = bytes := by
  induction digits using Hex.decode.induct generalizing bytes with
  | case1 => simpa [Hex.decode, parsePairs] using decoded
  | case2 => cases decoded
  | case3 high low rest ih =>
    simp only [Hex.decode, Option.bind_eq_bind, Option.bind_eq_some_iff, Option.some.injEq]
      at decoded
    obtain ⟨h, first, l, second, tail, later, rfl⟩ := decoded
    simp [parsePairs, first, second, ih later]

theorem hexToBytes_eq_ok {h : Text} {bytes : Bytes} :
    TypeScript.hexToBytes (some h) = .ok bytes ↔ Hex.decode (stripMarker h) = some bytes := by
  simp only [TypeScript.hexToBytes]
  generalize stripMarker h = s
  by_cases empty : s = []
  · simp [empty, Hex.decode]
  · rw [if_neg empty]
    constructor
    · intro read
      by_cases odd : s.length % 2 ≠ 0
      · simp [odd] at read
      · by_cases hex : s.all isHexDigit = true
        · rw [if_neg odd, if_pos hex, Except.ok.injEq] at read
          obtain ⟨bytes', decoded⟩ := decode_hexDigits (n := s.length / 2) hex (by omega)
          rw [decoded, ← read, parsePairs_of_decode decoded]
        · simp [odd, hex] at read
    · intro decoded
      have even : ¬ s.length % 2 ≠ 0 := by
        have length := Hex.decode_length decoded
        omega
      rw [if_neg even, if_pos (all_isHexDigit decoded), parsePairs_of_decode decoded]

theorem value?_space {unit : Nat} (space : Python.isSpace unit = true) :
    Hex.value? unit = none := by
  have range : unit ≤ 13 ∨ unit = 32 := by
    simp only [Python.isSpace, Bool.or_eq_true, Bool.and_eq_true, decide_eq_true_eq] at space
    omega
  unfold Hex.value?
  rw [if_neg (by omega), if_neg (by omega), if_neg (by omega)]

theorem fromHexAt_of_decode {digits : Text} {bytes : Bytes}
    (decoded : Hex.decode digits = some bytes) (position : Nat) :
    Python.fromHexAt position digits = .ok bytes := by
  induction digits using Hex.decode.induct generalizing bytes position with
  | case1 => simpa [Hex.decode, Python.fromHexAt] using decoded
  | case2 => cases decoded
  | case3 high low rest ih =>
    simp only [Hex.decode, Option.bind_eq_bind, Option.bind_eq_some_iff, Option.some.injEq]
      at decoded
    obtain ⟨h, first, l, second, tail, later, rfl⟩ := decoded
    have digit : ¬ Python.isSpace high = true := by
      intro space
      rw [value?_space space] at first
      cases first
    simp [Python.fromHexAt, digit, first, second, ih later, Except.map]

theorem decode_of_fromHexAt {digits : Text} {bytes : Bytes} {position : Nat}
    (read : Python.fromHexAt position digits = .ok bytes)
    (compact : ∀ unit ∈ digits, Python.isSpace unit = false) :
    Hex.decode digits = some bytes := by
  induction digits using Hex.decode.induct generalizing bytes position with
  | case1 => simpa [Hex.decode, Python.fromHexAt] using read
  | case2 unit => simp [Python.fromHexAt, compact unit List.mem_cons_self] at read
  | case3 high low rest ih =>
    simp only [List.forall_mem_cons] at compact
    rw [Python.fromHexAt, compact.1] at read
    cases first : Hex.value? high with
    | none => simp [first] at read
    | some h =>
      cases second : Hex.value? low with
      | none => simp [first, second] at read
      | some l =>
        simp only [first, second, Bool.false_eq_true, if_false] at read
        obtain ⟨tail, later, found⟩ := Checked.map_eq_ok read
        simp [Hex.decode, first, second, ih later compact.2.2, ← found]

theorem scanHex_eq_ok {h : Text} {bytes : Bytes}
    (compact : ∀ unit ∈ h, Python.isSpace unit = false) :
    Python.scanHex h = .ok bytes ↔ Hex.decode h = some bytes := by
  unfold Python.scanHex
  constructor
  · intro read
    cases foreign : h.findIdx? (128 ≤ ·) with
    | some position => simp [foreign] at read
    | none =>
      rw [foreign] at read
      exact decode_of_fromHexAt read compact
  · intro decoded
    have ascii : h.findIdx? (128 ≤ ·) = none := by
      rw [List.findIdx?_eq_none_iff]
      intro unit member
      by_contra foreign
      have large : 128 ≤ unit := by simpa using foreign
      have none : Hex.value? unit = none := by
        unfold Hex.value?
        rw [if_neg (by omega), if_neg (by omega), if_neg (by omega)]
      have digit := List.all_eq_true.mp (all_isHexDigit decoded) unit member
      simp [isHexDigit, none] at digit
    rw [ascii]
    exact fromHexAt_of_decode decoded 0

theorem mapError_eq_ok {ε ε' α : Type} {first : Except ε α} {change : ε → ε'} {value : α} :
    first.mapError change = .ok value ↔ first = .ok value := by
  cases first <;> simp [Except.mapError]

theorem removePrefix_of_not {marker h : Text} (other : ¬ marker <+: h) :
    Python.removePrefix marker h = h := by
  rw [Python.removePrefix, if_neg (by rwa [List.isPrefixOf_iff_prefix])]

theorem removePrefix_append (marker h : Text) : Python.removePrefix marker (marker ++ h) = h := by
  rw [Python.removePrefix, if_pos (by simp [List.isPrefixOf_iff_prefix]), List.drop_left]

theorem removePrefix_marker {h : Text} (single : ¬ text "0x0X" <+: h) :
    Python.removePrefix (text "0X") (Python.removePrefix (text "0x") h) = stripMarker h := by
  by_cases lower : text "0x" <+: h
  · obtain ⟨digits, rfl⟩ := lower
    have other : ¬ text "0X" <+: digits := by
      rintro ⟨rest, rfl⟩
      exact single ⟨rest, rfl⟩
    rw [removePrefix_append, removePrefix_of_not other]
    rfl
  · rw [removePrefix_of_not lower]
    by_cases upper : text "0X" <+: h
    · obtain ⟨digits, rfl⟩ := upper
      rw [removePrefix_append]
      rfl
    · rw [removePrefix_of_not upper]
      unfold stripMarker
      split
      · exact absurd ⟨_, rfl⟩ lower
      · exact absurd ⟨_, rfl⟩ upper
      · rfl

theorem compact_stripMarker {h : Text} :
    (∀ unit ∈ stripMarker h, Python.isSpace unit = false) ↔
      ∀ unit ∈ h, Python.isSpace unit = false := by
  unfold stripMarker
  split <;> simp [Python.isSpace]

section Reads

variable {h : Text} {bytes : Bytes}

theorem hex_to_bytes_eq_ok (single : ¬ text "0x0X" <+: h)
    (compact : ∀ unit ∈ h, Python.isSpace unit = false) :
    Python.hex_to_bytes (some h) = .ok bytes ↔ Hex.decode (stripMarker h) = some bytes := by
  simp only [Python.hex_to_bytes, removePrefix_marker single]
  by_cases empty : stripMarker h = []
  · simp [empty, Hex.decode]
  · rw [if_neg empty, Python.fromHex, mapError_eq_ok,
      scanHex_eq_ok (compact_stripMarker.mpr compact)]

theorem compact_of_decode (decoded : Hex.decode (stripMarker h) = some bytes) :
    ∀ unit ∈ h, Python.isSpace unit = false := by
  rw [← compact_stripMarker]
  intro unit member
  have digit := List.all_eq_true.mp (all_isHexDigit decoded) unit member
  by_contra space
  simp [isHexDigit, value?_space (by simpa using space)] at digit

theorem single_of_decode (decoded : Hex.decode (stripMarker h) = some bytes) :
    ¬ text "0x0X" <+: h := by
  rintro ⟨rest, rfl⟩
  have second := List.all_eq_true.mp (all_isHexDigit decoded) 88 (by simp [stripMarker, text])
  exact absurd second (by decide)

theorem hex_to_bytes_of_hexToBytes (read : TypeScript.hexToBytes (some h) = .ok bytes) :
    Python.hex_to_bytes (some h) = .ok bytes := by
  have decoded := hexToBytes_eq_ok.mp read
  exact (hex_to_bytes_eq_ok (single_of_decode decoded) (compact_of_decode decoded)).mpr decoded

end Reads

/-- The Python decoder reads what the TypeScript one reads, and besides it white space between two
pairs of digits and the second of two markers. -/
theorem hexToBytes_iff (h : Text) (bytes : Bytes) :
    TypeScript.hexToBytes (some h) = .ok bytes ↔
      Python.hex_to_bytes (some h) = .ok bytes ∧ ¬ text "0x0X" <+: h ∧
        ∀ unit ∈ h, Python.isSpace unit = false := by
  constructor
  · intro read
    have decoded := hexToBytes_eq_ok.mp read
    exact ⟨hex_to_bytes_of_hexToBytes read, single_of_decode decoded, compact_of_decode decoded⟩
  · rintro ⟨read, single, compact⟩
    exact hexToBytes_eq_ok.mpr ((hex_to_bytes_eq_ok single compact).mp read)

end FlareStudio.Scaffold
