import FlareStudio.Shared.Text

set_option autoImplicit false

namespace FlareStudio.Buffer

-- Decoding stops at the first pair that is not two digits.
def fromHex : Text → Bytes
  | high :: low :: rest =>
    match Hex.value? high, Hex.value? low with
    | some h, some l => UInt8.ofNat (h * 16 + l) :: fromHex rest
    | _, _ => []
  | _ => []

theorem fromHex_of_decode {digits : Text} {bytes : Bytes}
    (decoded : Hex.decode digits = some bytes) : fromHex digits = bytes := by
  induction digits using Hex.decode.induct generalizing bytes with
  | case1 => simpa [Hex.decode, fromHex] using decoded
  | case2 => cases decoded
  | case3 high low rest ih =>
    simp only [Hex.decode, Option.bind_eq_bind, Option.bind_eq_some_iff, Option.some.injEq]
      at decoded
    obtain ⟨h, first, l, second, tail, later, rfl⟩ := decoded
    rw [fromHex, first, second, ih later]

-- The standard alphabet and the one for URLs.
def sextet (unit : Nat) : Option Nat :=
  if 65 ≤ unit ∧ unit ≤ 90 then some (unit - 65)
  else if 97 ≤ unit ∧ unit ≤ 122 then some (unit - 71)
  else if 48 ≤ unit ∧ unit ≤ 57 then some (unit + 4)
  else if unit = 43 ∨ unit = 45 then some 62
  else if unit = 47 ∨ unit = 95 then some 63
  else none

-- Units outside the alphabets are skipped, and the first = ends the text.
def sextets (units : Text) : List Nat := (units.takeWhile (· ≠ 61)).filterMap sextet

def joinSextets : List Nat → Bytes
  | a :: b :: c :: d :: rest =>
    UInt8.ofNat (a * 4 + b / 16) :: UInt8.ofNat (b % 16 * 16 + c / 4) ::
      UInt8.ofNat (c % 4 * 64 + d) :: joinSextets rest
  | [a, b, c] => [UInt8.ofNat (a * 4 + b / 16), UInt8.ofNat (b % 16 * 16 + c / 4)]
  | [a, b] => [UInt8.ofNat (a * 4 + b / 16)]
  | _ => []

def fromBase64 (units : Text) : Bytes := joinSextets (sextets units)

theorem sextets_cons {unit value : Nat} (known : sextet unit = some value) (rest : Text) :
    sextets (unit :: rest) = value :: sextets rest := by
  have letter : unit ≠ 61 := by
    rintro rfl
    cases known
  rw [sextets, List.takeWhile_cons_of_pos (by simpa using letter), List.filterMap_cons, known]
  rfl

theorem sextets_padding (rest : Text) : sextets (61 :: rest) = [] := rfl

-- Code points beyond the basic plane are two units.
def utf16 (code : Nat) : Text :=
  if code < 0x10000 then [code]
  else [0xd800 + (code - 0x10000) / 0x400, 0xdc00 + (code - 0x10000) % 0x400]

-- The continuation bytes still needed, the first of them between two bounds. A byte that does
-- not continue the sequence is left for the next one.
def continued : Nat → Nat → Nat → Nat → Bytes → Nat × Bytes
  | 0, _, _, code, rest => (code, rest)
  | _ + 1, _, _, _, [] => (0xfffd, [])
  | needed + 1, low, high, code, byte :: rest =>
    if low ≤ byte.toNat ∧ byte.toNat ≤ high then
      continued needed 0x80 0xbf (code * 64 + byte.toNat % 64) rest
    else (0xfffd, byte :: rest)

def codePoint (byte : Nat) (rest : Bytes) : Nat × Bytes :=
  if byte < 0x80 then (byte, rest)
  else if 0xc2 ≤ byte ∧ byte ≤ 0xdf then continued 1 0x80 0xbf (byte - 0xc0) rest
  else if 0xe0 ≤ byte ∧ byte ≤ 0xef then
    continued 2 (if byte = 0xe0 then 0xa0 else 0x80) (if byte = 0xed then 0x9f else 0xbf)
      (byte - 0xe0) rest
  else if 0xf0 ≤ byte ∧ byte ≤ 0xf4 then
    continued 3 (if byte = 0xf0 then 0x90 else 0x80) (if byte = 0xf4 then 0x8f else 0xbf)
      (byte - 0xf0) rest
  else (0xfffd, rest)

theorem length_continued (needed low high code : Nat) (rest : Bytes) :
    (continued needed low high code rest).2.length ≤ rest.length := by
  induction rest generalizing needed low high code with
  | nil => cases needed <;> simp [continued]
  | cons byte rest ih =>
    cases needed with
    | zero => simp [continued]
    | succ needed =>
      rw [continued]
      split_ifs
      · exact (ih ..).trans (Nat.le_succ _)
      · exact le_rfl

theorem length_codePoint (byte : Nat) (rest : Bytes) :
    (codePoint byte rest).2.length ≤ rest.length := by
  unfold codePoint
  split_ifs <;> first | exact le_rfl | exact length_continued ..

def toUtf8 : Bytes → Text
  | [] => []
  | byte :: rest =>
    let read := codePoint byte.toNat rest
    utf16 read.1 ++ toUtf8 read.2
termination_by bytes => bytes.length
decreasing_by exact Nat.lt_succ_of_le (length_codePoint ..)

theorem toUtf8_ascii {bytes : Bytes} (ascii : ∀ byte ∈ bytes, byte.toNat < 128) :
    toUtf8 bytes = bytes.text := by
  induction bytes with
  | nil => rw [toUtf8]; rfl
  | cons byte rest ih =>
    rw [List.forall_mem_cons] at ascii
    have read : codePoint byte.toNat rest = (byte.toNat, rest) := if_pos ascii.1
    have small : byte.toNat < 0x10000 := ascii.1.trans (by decide)
    rw [toUtf8, read, utf16, if_pos small, ih ascii.2]
    rfl

end FlareStudio.Buffer
