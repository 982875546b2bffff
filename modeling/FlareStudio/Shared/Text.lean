import FlareStudio.Shared.Bytes

set_option autoImplicit false

namespace FlareStudio

abbrev Text := List Nat

instance : LawfulBEq Text := inferInstance

def text (literal : String) : Text := literal.toList.map Char.toNat

def Bytes.text (bytes : Bytes) : Text := bytes.map UInt8.toNat

-- The white space and line terminators that String.prototype.trim removes and
-- Number.parseInt skips.
def isSpace (unit : Nat) : Bool :=
  (9 ≤ unit && unit ≤ 13) || (0x2000 ≤ unit && unit ≤ 0x200a) ||
    unit ∈ [0x20, 0xa0, 0x1680, 0x2028, 0x2029, 0x202f, 0x205f, 0x3000, 0xfeff]

namespace Hex

def digit (value : Nat) : Nat := if value < 10 then 48 + value else 87 + value

def value? (code : Nat) : Option Nat :=
  if 48 ≤ code ∧ code ≤ 57 then some (code - 48)
  else if 97 ≤ code ∧ code ≤ 102 then some (code - 87)
  else if 65 ≤ code ∧ code ≤ 70 then some (code - 55)
  else none

theorem value?_digit (value : Nat) (small : value < 16) : value? (digit value) = some value := by
  unfold digit value?
  by_cases decimal : value < 10
  · rw [if_pos decimal, if_pos (by omega)]
    congr 1
    omega
  · rw [if_neg decimal, if_neg (by omega), if_pos (by omega)]
    congr 1
    omega

def decode : Text → Option Bytes
  | [] => some []
  | [_] => none
  | high :: low :: rest => do
    let h ← value? high
    let l ← value? low
    let bytes ← decode rest
    some (UInt8.ofNat (h * 16 + l) :: bytes)

def encode (bytes : Bytes) : Text :=
  bytes.flatMap fun byte => [digit (byte.toNat / 16), digit (byte.toNat % 16)]

@[simp]
theorem decode_encode (bytes : Bytes) : decode (encode bytes) = some bytes := by
  induction bytes with
  | nil => rfl
  | cons byte rest ih =>
    have small := byte.toNat_lt
    have high := value?_digit (byte.toNat / 16) (by omega)
    have low := value?_digit (byte.toNat % 16) (by omega)
    have whole : UInt8.ofNat (byte.toNat / 16 * 16 + byte.toNat % 16) = byte := by
      rw [Nat.div_add_mod', UInt8.ofNat_toNat]
    have split : encode (byte :: rest) =
        digit (byte.toNat / 16) :: digit (byte.toNat % 16) :: encode rest := rfl
    rw [split, decode, high, low, ih]
    simp only [Option.bind_eq_bind, Option.bind_some, whole]

theorem decode_length {digits : Text} {bytes : Bytes} (decoded : decode digits = some bytes) :
    digits.length = 2 * bytes.length := by
  induction digits using decode.induct generalizing bytes with
  | case1 =>
    cases decoded
    rfl
  | case2 => cases decoded
  | case3 high low rest ih =>
    simp only [decode, Option.bind_eq_bind, Option.bind_eq_some_iff, Option.some.injEq] at decoded
    obtain ⟨_, -, _, -, tail, decodedTail, rfl⟩ := decoded
    rw [List.length_cons, List.length_cons, ih decodedTail, List.length_cons]
    ring

-- hexutil accepts either case of the letter in the marker.
def fixed? (n : Nat) : Text → Option (FixedBytes n)
  | 48 :: marker :: digits =>
    if marker = 120 ∨ marker = 88 then (decode digits).bind (FixedBytes.ofBytes? n) else none
  | _ => none

def prefixed (bytes : Bytes) : Text := 48 :: 120 :: encode bytes

@[simp]
theorem fixed?_prefixed {n : Nat} (a : FixedBytes n) : fixed? n (prefixed a.bytes) = some a := by
  simp [fixed?, prefixed]

end Hex

def decimal (value : Nat) : Text :=
  if value = 0 then [48] else ((Nat.digits 10 value).map (48 + ·)).reverse

def ofDecimal (digits : Text) : Nat := digits.foldl (fun value code => value * 10 + (code - 48)) 0

theorem ofDecimal_decimal (value : Nat) : ofDecimal (decimal value) = value := by
  have fold (digits : List Nat) :
      ofDecimal ((digits.map (48 + ·)).reverse) = Nat.ofDigits 10 digits := by
    rw [ofDecimal, List.foldl_reverse]
    induction digits with
    | nil => rfl
    | cons digit rest ih =>
      rw [List.map_cons, List.foldr_cons, ih, Nat.ofDigits_cons]
      simp
      ring
  by_cases zero : value = 0
  · subst zero
    rfl
  · rw [decimal, if_neg zero, fold, Nat.ofDigits_digits]

theorem decimal_digit {value code : Nat} (member : code ∈ decimal value) :
    48 ≤ code ∧ code ≤ 57 := by
  unfold decimal at member
  by_cases zero : value = 0
  · simp only [zero, if_true, List.mem_singleton] at member
    omega
  · simp only [zero, if_false, List.mem_reverse, List.mem_map] at member
    obtain ⟨digit, inside, rfl⟩ := member
    have small : digit < 10 := Nat.digits_lt_base (by decide) inside
    omega

-- No leading zero.
theorem decimal_head {value : Nat} (positive : value ≠ 0) :
    ∃ code more, decimal value = code :: more ∧ code ≠ 48 := by
  have nonempty : Nat.digits 10 value ≠ [] := Nat.digits_ne_nil_iff_ne_zero.mpr positive
  have last := Nat.getLast_digit_ne_zero 10 positive
  obtain ⟨front, top, split⟩ : ∃ front top, Nat.digits 10 value = front ++ [top] :=
    ⟨_, _, (List.dropLast_append_getLast nonempty).symm⟩
  refine ⟨48 + top, ((front.map (48 + ·)).reverse), ?_, ?_⟩
  · rw [decimal, if_neg positive, split]
    simp
  · simp only [split, List.getLast_append_singleton] at last
    omega

end FlareStudio
