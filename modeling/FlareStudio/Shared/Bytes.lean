import Mathlib

set_option autoImplicit false

namespace FlareStudio

abbrev Bytes := List UInt8

structure FixedBytes (n : Nat) where
  bytes : Bytes
  length_eq : bytes.length = n
deriving DecidableEq

namespace FixedBytes

variable {n : Nat}

@[ext]
theorem ext {a b : FixedBytes n} (same : a.bytes = b.bytes) : a = b := by
  cases a
  cases b
  simpa using same

@[simp]
theorem length_bytes (a : FixedBytes n) : a.bytes.length = n := a.length_eq

def replicate (n : Nat) (byte : UInt8) : FixedBytes n :=
  ⟨List.replicate n byte, List.length_replicate⟩

def zero (n : Nat) : FixedBytes n := replicate n 0

def ofBytes? (n : Nat) (bytes : Bytes) : Option (FixedBytes n) :=
  if sized : bytes.length = n then some ⟨bytes, sized⟩ else none

@[simp]
theorem ofBytes?_bytes (a : FixedBytes n) : ofBytes? n a.bytes = some a := by
  simp [ofBytes?]

end FixedBytes

abbrev Address := FixedBytes 20

instance : LawfulBEq Address := inferInstance

abbrev Bytes32 := FixedBytes 32

def ascii (text : String) : Bytes := text.toUTF8.toList

def ofBigEndian (bytes : Bytes) : Nat :=
  bytes.foldl (fun value byte => value * 256 + byte.toNat) 0

-- The shortest big-endian byte string, so the empty one for zero.
def bigEndian (value : Nat) : Bytes :=
  ((Nat.digits 256 value).map UInt8.ofNat).reverse

theorem ofBigEndian_reverse (bytes : Bytes) :
    ofBigEndian bytes.reverse = Nat.ofDigits 256 (bytes.map UInt8.toNat) := by
  rw [ofBigEndian, List.foldl_reverse]
  induction bytes with
  | nil => rfl
  | cons byte rest ih =>
    rw [List.foldr_cons, ih, List.map_cons, Nat.ofDigits_cons]
    ring

theorem digits_bytes (value : Nat) :
    ((Nat.digits 256 value).map UInt8.ofNat).map UInt8.toNat = Nat.digits 256 value := by
  rw [List.map_map]
  apply (List.map_congr_left ?_).trans (List.map_id _)
  intro digit member
  have small : digit < 256 := Nat.digits_lt_base (by decide) member
  simp only [Function.comp_apply, UInt8.toNat_ofNat', id_eq]
  omega

@[simp]
theorem ofBigEndian_bigEndian (value : Nat) : ofBigEndian (bigEndian value) = value := by
  rw [bigEndian, ofBigEndian_reverse, digits_bytes, Nat.ofDigits_digits]

theorem ofBigEndian_zeros (count : Nat) (bytes : Bytes) :
    ofBigEndian (List.replicate count 0 ++ bytes) = ofBigEndian bytes := by
  induction count with
  | zero => rfl
  | succ count ih => simpa [List.replicate_succ, ofBigEndian] using ih

theorem bigEndian_length_le {value width : Nat} (bound : value < 256 ^ width) :
    (bigEndian value).length ≤ width := by
  rw [bigEndian, List.length_reverse, List.length_map]
  exact (Nat.digits_length_le_iff (by decide) value).mpr bound

def padUint (value : Nat) : Bytes := (bigEndian value).leftpad 32 0

theorem padUint_length {value : Nat} (bound : value < 2 ^ 256) : (padUint value).length = 32 := by
  have short : (bigEndian value).length ≤ 32 :=
    bigEndian_length_le (lt_of_lt_of_eq bound (by norm_num))
  rw [padUint, List.length_leftpad]
  omega

@[simp]
theorem ofBigEndian_padUint (value : Nat) : ofBigEndian (padUint value) = value := by
  rw [padUint, List.leftpad, ofBigEndian_zeros, ofBigEndian_bigEndian]

theorem padUint_length_eq (value : Nat) :
    (padUint value).length = max 32 (bigEndian value).length := by
  rw [padUint, List.length_leftpad]

theorem bigEndian_length_mono {a b : Nat} (le : a ≤ b) :
    (bigEndian a).length ≤ (bigEndian b).length := by
  simp only [bigEndian, List.length_reverse, List.length_map]
  exact Nat.le_length_digits_le 256 a b le

theorem padUint_injective {a b : Nat} (same : padUint a = padUint b) : a = b := by
  rw [← ofBigEndian_padUint a, same, ofBigEndian_padUint]

def FixedBytes.word {n : Nat} (a : FixedBytes n) : Bytes := a.bytes.leftpad 32 0

theorem FixedBytes.word_length {n : Nat} (a : FixedBytes n) (short : n ≤ 32) :
    a.word.length = 32 := by
  rw [word, List.length_leftpad, a.length_bytes]
  omega

theorem FixedBytes.word_injective {n : Nat} {a b : FixedBytes n} (same : a.word = b.word) :
    a = b := by
  unfold word List.leftpad at same
  rw [a.length_bytes, b.length_bytes] at same
  exact FixedBytes.ext (List.append_cancel_left same)

section FixedWidth

variable {α : Type} {encode : α → Bytes} {width : Nat}

theorem flatMap_length (fixed : ∀ a, (encode a).length = width) (items : List α) :
    (items.flatMap encode).length = width * items.length := by
  induction items with
  | nil => rfl
  | cons item rest ih =>
    rw [List.flatMap_cons, List.length_append, fixed, ih, List.length_cons]
    ring

theorem flatMap_injective (fixed : ∀ a, (encode a).length = width) (positive : 0 < width)
    (injective : Function.Injective encode) :
    Function.Injective fun items : List α => items.flatMap encode := by
  intro xs ys same
  have lengths : width * xs.length = width * ys.length := by
    rw [← flatMap_length fixed, ← flatMap_length fixed]
    exact congrArg List.length same
  have count : xs.length = ys.length := Nat.eq_of_mul_eq_mul_left positive lengths
  clear lengths
  induction xs generalizing ys with
  | nil => exact (List.length_eq_zero_iff.mp count.symm).symm
  | cons x rest ih =>
    obtain ⟨y, others, rfl⟩ := List.exists_cons_of_length_eq_add_one count.symm
    simp only [List.flatMap_cons] at same
    have parts := List.append_inj same (by rw [fixed, fixed])
    rw [injective parts.1, ih parts.2 (by simpa using count)]

end FixedWidth

end FlareStudio
