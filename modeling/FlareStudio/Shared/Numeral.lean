import FlareStudio.Shared.Double
import FlareStudio.Shared.FixedPoint
import FlareStudio.Shared.Json

set_option autoImplicit false

namespace FlareStudio

open FixedPoint (ofDecimal_append)

structure Numeral where
  negative : Bool
  integer : Text
  fraction : Text
  exponent : Option ℤ
deriving DecidableEq

namespace Numeral

def sign (numeral : Numeral) : Text := if numeral.negative then [45] else []

def point (numeral : Numeral) : Text :=
  if numeral.fraction = [] then [] else 46 :: numeral.fraction

def scale (numeral : Numeral) : Text :=
  match numeral.exponent with
  | none => []
  | some exponent => 101 :: (if exponent < 0 then 45 else 43) :: decimal exponent.natAbs

def spell (numeral : Numeral) : Text :=
  numeral.sign ++ numeral.integer ++ numeral.point ++ numeral.scale

def magnitude (numeral : Numeral) : ℚ :=
  ofDecimal (numeral.integer ++ numeral.fraction) *
    10 ^ (numeral.exponent.getD 0 - numeral.fraction.length)

def readFraction : Text → Text × Text
  | 46 :: rest => rest.span Json.isDigit
  | rest => ([], rest)

def readExponent : Text → Option ℤ
  | [] => none
  | _ :: 45 :: digits => some (-ofDecimal digits)
  | _ :: 43 :: digits => some (ofDecimal digits)
  | _ :: digits => some (ofDecimal digits)

-- The parts of a number that JSON's grammar has let through.
def read (lexeme : Text) : Numeral :=
  let (sign, rest) := Json.scanSign lexeme
  let (integer, rest) := rest.span Json.isDigit
  let (fraction, rest) := readFraction rest
  ⟨sign ≠ [], integer, fraction, readExponent rest⟩

structure Formed (numeral : Numeral) : Prop where
  nonempty : numeral.integer ≠ []
  integer : ∀ code ∈ numeral.integer, Json.isDigit code = true
  fraction : ∀ code ∈ numeral.fraction, Json.isDigit code = true
  leading : numeral.integer = [48] ∨ ∀ code ∈ numeral.integer.head?, code ≠ 48

section Spelling

variable {numeral : Numeral}

theorem Formed.head (formed : numeral.Formed) :
    ∃ code more, numeral.integer = code :: more ∧ Json.isDigit code = true := by
  obtain ⟨code, more, split⟩ := List.exists_cons_of_ne_nil formed.nonempty
  exact ⟨code, more, split, formed.integer code (split ▸ List.mem_cons_self)⟩

theorem Formed.scanSign (formed : numeral.Formed) (rest : Text) :
    Json.scanSign (numeral.sign ++ (numeral.integer ++ rest)) =
      (numeral.sign, numeral.integer ++ rest) := by
  obtain ⟨code, more, split, digit⟩ := formed.head
  unfold sign
  cases numeral.negative with
  | true => rfl
  | false =>
    rw [split, if_neg Bool.false_ne_true, List.nil_append, List.cons_append, Json.scanSign]
    rintro tail ⟨⟩
    exact absurd digit (by decide)

theorem isDigit_decimal (value : ℕ) : ∀ code ∈ decimal value, Json.isDigit code = true := by
  intro code member
  have range := decimal_digit member
  simpa [Json.isDigit] using range

theorem decimal_ne_nil (value : ℕ) : decimal value ≠ [] := by
  by_cases zero : value = 0
  · rw [zero]
    exact List.cons_ne_nil _ _
  · obtain ⟨code, more, split, -⟩ := decimal_head zero
    rw [split]
    exact List.cons_ne_nil _ _

-- What follows the fraction or the integer is no digit.
theorem scale_ends (numeral : Numeral) {rest : Text} (delimited : Json.Delimited rest) :
    ∀ code ∈ (numeral.scale ++ rest).head?, Json.isDigit code = false := by
  unfold scale
  cases numeral.exponent with
  | none => exact fun code member => (delimited code member).1
  | some exponent =>
    intro code member
    cases Option.mem_some.mp member
    decide

theorem point_ends (numeral : Numeral) {rest : Text} (delimited : Json.Delimited rest) :
    ∀ code ∈ (numeral.point ++ (numeral.scale ++ rest)).head?, Json.isDigit code = false := by
  unfold point
  split_ifs with empty
  · exact scale_ends numeral delimited
  · intro code member
    cases Option.mem_some.mp member
    decide

theorem Formed.scanInteger (formed : numeral.Formed) {rest : Text}
    (delimited : Json.Delimited rest) :
    Json.scanInteger (numeral.integer ++ (numeral.point ++ (numeral.scale ++ rest))) =
      some (numeral.integer, numeral.point ++ (numeral.scale ++ rest)) := by
  rcases formed.leading with zero | nonzero
  · rw [zero]
    rfl
  · obtain ⟨code, more, split, -⟩ := formed.head
    have spanned := Json.span_digits formed.integer (point_ends numeral delimited)
    rw [split, List.cons_append] at spanned ⊢
    rw [Json.scanInteger, spanned]
    · simp
    · rintro tail ⟨⟩
      exact nonzero 48 (by rw [split]; rfl) rfl

theorem scanFraction_of_ne {rest : Text} (other : ∀ code ∈ rest.head?, code ≠ 46) :
    Json.scanFraction rest = some ([], rest) := by
  cases rest with
  | nil => rfl
  | cons code more =>
    rw [Json.scanFraction]
    rintro rest ⟨⟩
    exact other 46 rfl rfl

theorem scale_ne_point (numeral : Numeral) {rest : Text} (delimited : Json.Delimited rest) :
    ∀ code ∈ (numeral.scale ++ rest).head?, code ≠ 46 := by
  unfold scale
  cases numeral.exponent with
  | none => exact fun code member => (delimited code member).2.1
  | some exponent =>
    intro code member
    cases Option.mem_some.mp member
    decide

theorem Formed.scanFraction (formed : numeral.Formed) {rest : Text}
    (delimited : Json.Delimited rest) :
    Json.scanFraction (numeral.point ++ (numeral.scale ++ rest)) =
      some (numeral.point, numeral.scale ++ rest) := by
  have spanned := Json.span_digits formed.fraction (scale_ends numeral delimited)
  unfold point
  split_ifs with empty
  · exact scanFraction_of_ne (scale_ne_point numeral delimited)
  · rw [List.cons_append, Json.scanFraction, spanned, if_neg empty]

theorem scanExponent_scale (numeral : Numeral) {rest : Text} (delimited : Json.Delimited rest) :
    Json.scanExponent (numeral.scale ++ rest) = some (numeral.scale, rest) := by
  unfold scale
  cases numeral.exponent with
  | none =>
    cases rest with
    | nil => rfl
    | cons code more =>
      obtain ⟨-, -, lower, upper⟩ := delimited code rfl
      simp [Json.scanExponent, lower, upper]
  | some exponent =>
    have spanned := Json.span_digits (isDigit_decimal exponent.natAbs)
      fun code member => (delimited code member).1
    have nonempty := decimal_ne_nil exponent.natAbs
    by_cases negative : exponent < 0
    · simp only [negative, if_true, List.cons_append, Json.scanExponent, Json.scanSign, spanned,
        nonempty, if_false]
      rfl
    · simp only [negative, if_false, List.cons_append, Json.scanExponent, spanned, nonempty]
      rfl

theorem Formed.rawNumber (formed : numeral.Formed) : Json.RawNumber numeral.spell := by
  constructor
  · obtain ⟨code, more, split, digit⟩ := formed.head
    unfold spell sign
    cases numeral.negative with
    | true => exact ⟨45, _, rfl, .inl rfl⟩
    | false => exact ⟨code, _, by rw [split]; rfl, .inr digit⟩
  · intro rest delimited
    have whole : numeral.spell ++ rest = numeral.sign ++ (numeral.integer ++
        (numeral.point ++ (numeral.scale ++ rest))) := by
      simp only [spell, List.append_assoc]
    rw [whole, Json.scanNumber, formed.scanSign]
    simp only [formed.scanInteger delimited, formed.scanFraction delimited,
      scanExponent_scale numeral delimited, Option.bind_eq_bind, Option.bind_some, spell]

theorem Formed.readFraction (formed : numeral.Formed) :
    readFraction (numeral.point ++ (numeral.scale ++ [])) =
      (numeral.fraction, numeral.scale ++ []) := by
  have delimited : Json.Delimited [] := nofun
  unfold point
  split_ifs with empty
  · have other := scale_ne_point numeral delimited
    rw [empty, List.nil_append, Numeral.readFraction]
    rintro rest same
    rw [same] at other
    exact other 46 rfl rfl
  · rw [List.cons_append, Numeral.readFraction]
    exact Json.span_digits formed.fraction (scale_ends numeral delimited)

theorem readExponent_scale (numeral : Numeral) :
    readExponent (numeral.scale ++ []) = numeral.exponent := by
  rw [List.append_nil, scale]
  cases numeral.exponent with
  | none => rfl
  | some exponent =>
    by_cases negative : exponent < 0
    · simp only [negative, if_true, readExponent, ofDecimal_decimal]
      congr 1
      omega
    · simp only [negative, if_false, readExponent, ofDecimal_decimal]
      congr 1
      omega

theorem read_spell (formed : numeral.Formed) : read numeral.spell = numeral := by
  have whole : numeral.spell = numeral.sign ++ (numeral.integer ++
      (numeral.point ++ (numeral.scale ++ []))) := by
    simp only [spell, List.append_assoc, List.append_nil]
  have integer := Json.span_digits formed.integer
    (@point_ends numeral [] nofun)
  have negative : decide (numeral.sign ≠ []) = numeral.negative := by
    unfold sign
    cases numeral.negative <;> rfl
  simp only [whole, read, formed.scanSign, integer, formed.readFraction, readExponent_scale,
    negative]

end Spelling

end Numeral

namespace Double

open Numeral (isDigit_decimal decimal_ne_nil)

def Digits.numeral (digits : Digits) : Numeral :=
  let text := decimal digits.significand
  let point : ℤ := text.length + digits.exponent
  if 0 ≤ digits.exponent ∧ point ≤ 21 then
    ⟨false, text ++ List.replicate digits.exponent.toNat 48, [], none⟩
  else if 0 < point ∧ point ≤ 21 then ⟨false, text.take point.toNat, text.drop point.toNat, none⟩
  else if -6 < point ∧ point ≤ 0 then
    ⟨false, [48], List.replicate (-point).toNat 48 ++ text, none⟩
  else ⟨false, text.take 1, text.drop 1, some (point - 1)⟩

theorem isDigit_zeros (count : ℕ) : ∀ code ∈ List.replicate count 48, Json.isDigit code = true := by
  intro code member
  rw [(List.mem_replicate.mp member).2]
  decide

theorem ofDecimal_zeros (count : ℕ) : ofDecimal (List.replicate count 48) = 0 := by
  apply (FixedPoint.ofDecimal_eq_zero ?_).mpr
  · exact fun code member => (List.mem_replicate.mp member).2
  · intro code member
    rw [(List.mem_replicate.mp member).2]
    decide

theorem Digits.numeral_formed {digits : Digits} (positive : 0 < digits.significand) :
    digits.numeral.Formed := by
  obtain ⟨code, more, split, nonzero⟩ := decimal_head positive.ne'
  have all := isDigit_decimal digits.significand
  have taken {count : ℕ} (some : 0 < count) (fraction : Text) (exponent : Option ℤ)
      (rest : ∀ code ∈ fraction, Json.isDigit code = true) :
      Numeral.Formed ⟨false, (decimal digits.significand).take count, fraction, exponent⟩ := by
    obtain ⟨less, rfl⟩ := Nat.exists_eq_add_of_lt some
    refine ⟨?_, fun code member => all code (List.mem_of_mem_take member), rest, .inr ?_⟩
    · simp [split]
    · simp [split, nonzero]
  unfold Digits.numeral
  dsimp only
  split_ifs with whole pointed small
  · refine ⟨?_, ?_, nofun, .inr ?_⟩
    · simp [split]
    · intro code member
      rcases List.mem_append.mp member with member | member
      · exact all code member
      · exact isDigit_zeros _ code member
    · simp [split, nonzero]
  · exact taken (by omega) _ _ fun code member => all code (List.mem_of_mem_drop member)
  · refine ⟨List.cons_ne_nil _ _, by simp [Json.isDigit], ?_, .inl rfl⟩
    intro code member
    rcases List.mem_append.mp member with member | member
    · exact isDigit_zeros _ code member
    · exact all code member
  · exact taken (by decide) _ _ fun code member => all code (List.mem_of_mem_drop member)

theorem Digits.numeral_magnitude (digits : Digits) :
    digits.numeral.magnitude = digits.value := by
  have nonempty : 0 < (decimal digits.significand).length :=
    List.length_pos_of_ne_nil (decimal_ne_nil _)
  have value := ofDecimal_decimal digits.significand
  unfold Digits.numeral
  dsimp only
  split_ifs with whole pointed small
  · obtain ⟨count, exponent⟩ := Int.eq_ofNat_of_zero_le whole.1
    simp only [Numeral.magnitude, Digits.value, exponent, Int.toNat_natCast, List.append_nil,
      ofDecimal_append, ofDecimal_zeros, value, List.length_replicate]
    simp
  · have length : ((decimal digits.significand).drop
        ((decimal digits.significand).length + digits.exponent).toNat).length =
          (-digits.exponent).toNat := by
      rw [List.length_drop]
      omega
    simp only [Numeral.magnitude, Digits.value, List.take_append_drop, value, length]
    congr 2
    simp
    omega
  · have zeros : ofDecimal ([48] ++ (List.replicate (-((decimal digits.significand).length +
        digits.exponent)).toNat 48 ++ decimal digits.significand)) = digits.significand := by
      have zero : ofDecimal [48] = 0 := rfl
      rw [ofDecimal_append, ofDecimal_append, zero, ofDecimal_zeros, value]
      ring
    simp only [Numeral.magnitude, Digits.value, zeros, List.length_append, List.length_replicate]
    congr 2
    simp
    omega
  · simp only [Numeral.magnitude, Digits.value, List.take_append_drop, value, List.length_drop]
    congr 2
    simp
    omega

end Double

-- The finite ones by sign and magnitude, so that zero has two signs.
inductive Number where
  | finite (negative : Bool) (magnitude : {value : ℚ // Representable value})
  | infinite (negative : Bool)
deriving DecidableEq

namespace Number

def toText : Number → Text
  | .finite negative magnitude =>
    if magnitude.val = 0 then [48]
    else { (Double.shortest magnitude.val).numeral with negative }.spell
  | .infinite negative => (if negative then [45] else []) ++ text "Infinity"

-- The two zeros are strictly equal.
def StrictEq : Number → Number → Prop
  | .finite negative magnitude, .finite negative' magnitude' =>
    magnitude = magnitude' ∧ (magnitude.val = 0 ∨ negative = negative')
  | .infinite negative, .infinite negative' => negative = negative'
  | _, _ => False

def positiveZero : Number → Number
  | .finite negative magnitude => .finite (negative && decide (magnitude.val ≠ 0)) magnitude
  | .infinite negative => .infinite negative

theorem strictEq_iff (a b : Number) : a.StrictEq b ↔ a.positiveZero = b.positiveZero := by
  cases a with
  | infinite negative => cases b <;> simp [StrictEq, positiveZero]
  | finite negative magnitude =>
    cases b with
    | infinite negative' => simp [StrictEq, positiveZero]
    | finite negative' magnitude' =>
      simp only [StrictEq, positiveZero, finite.injEq]
      rw [and_comm]
      refine and_congr_left fun same => ?_
      subst same
      by_cases zero : magnitude.val = 0 <;> simp [zero]

theorem toText_positiveZero (number : Number) : number.positiveZero.toText = number.toText := by
  cases number with
  | infinite negative => rfl
  | finite negative magnitude =>
    by_cases zero : magnitude.val = 0 <;> simp [positiveZero, toText, zero]

end Number

theorem Numeral.magnitude_nonneg (numeral : Numeral) : 0 ≤ numeral.magnitude := by
  unfold magnitude
  positivity

def Numeral.toNumber (numeral : Numeral) : Number :=
  if finite : Double.nearest numeral.magnitude < 2 ^ (1024 : ℤ) then
    .finite numeral.negative ⟨Double.nearest numeral.magnitude,
      Double.representable_nearest numeral.magnitude_nonneg finite⟩
  else .infinite numeral.negative

namespace Number

theorem shortest_positive {magnitude : {value : ℚ // Representable value}}
    (nonzero : magnitude.val ≠ 0) :
    0 < (Double.shortest magnitude.val).significand := by
  by_contra none
  have rounds := Double.shortest_rounds magnitude.property
  have zero : (Double.shortest magnitude.val).value = 0 := by
    rw [Double.Digits.value, show (Double.shortest magnitude.val).significand = 0 by omega]
    simp
  rw [zero, Double.nearest_zero] at rounds
  exact nonzero rounds.symm

-- What is written is a numeral of JSON's, of this number.
theorem toText_finite (negative : Bool) (magnitude : {value : ℚ // Representable value}) :
    ∃ numeral : Numeral, numeral.Formed ∧ toText (.finite negative magnitude) = numeral.spell ∧
      numeral.toNumber = positiveZero (.finite negative magnitude) := by
  have finite := Double.lt_of_representable magnitude.property
  by_cases zero : magnitude.val = 0
  · refine ⟨⟨false, [48], [], none⟩, ⟨by simp, by simp [Json.isDigit], nofun, .inl rfl⟩, ?_, ?_⟩
    · rw [toText, if_pos zero]
      rfl
    · have value : Numeral.magnitude ⟨false, [48], [], none⟩ = magnitude.val := by
        simp [Numeral.magnitude, ofDecimal, zero]
      have same : magnitude = ⟨0, Double.representable_zero⟩ := Subtype.ext zero
      simp [Numeral.toNumber, value, positiveZero, same]
  · have positive := shortest_positive zero
    have formed := Double.Digits.numeral_formed positive
    refine ⟨{ (Double.shortest magnitude.val).numeral with negative },
      ⟨formed.nonempty, formed.integer, formed.fraction, formed.leading⟩, ?_, ?_⟩
    · rw [toText, if_neg zero]
    · have value : Numeral.magnitude { (Double.shortest magnitude.val).numeral with negative } =
          (Double.shortest magnitude.val).value := Double.Digits.numeral_magnitude _
      have nearest := Double.shortest_rounds magnitude.property
      rw [Numeral.toNumber, dif_pos (by rw [value, nearest]; exact finite)]
      simp [value, nearest, positiveZero, zero]

theorem rawNumber_toText (negative : Bool) (magnitude : {value : ℚ // Representable value}) :
    Json.RawNumber (toText (.finite negative magnitude)) := by
  obtain ⟨numeral, formed, spelled, -⟩ := toText_finite negative magnitude
  rw [spelled]
  exact formed.rawNumber

theorem toNumber_toText (negative : Bool) (magnitude : {value : ℚ // Representable value}) :
    (Numeral.read (toText (.finite negative magnitude))).toNumber =
      positiveZero (.finite negative magnitude) := by
  obtain ⟨numeral, formed, spelled, value⟩ := toText_finite negative magnitude
  rw [spelled, Numeral.read_spell formed, value]

theorem decimal_mul_pow {value : ℕ} (positive : 0 < value) (zeros : ℕ) :
    decimal (value * 10 ^ zeros) = decimal value ++ List.replicate zeros 48 := by
  have digits := Nat.digits_base_pow_mul (k := zeros) (show 1 < 10 by decide) positive
  rw [decimal, decimal, if_neg (by positivity), if_neg positive.ne', mul_comm, digits]
  simp

theorem toText_natCast {value : ℕ} (small : value < 2 ^ 53) :
    toText (.finite false ⟨value, Double.representable_natCast small.le⟩) = decimal value := by
  rcases Nat.eq_zero_or_pos value with rfl | positive
  · simp [toText, decimal]
  · obtain ⟨zeros, exponent, product⟩ := Double.shortest_natCast positive small
    have nonzero : (value : ℚ) ≠ 0 := by exact_mod_cast positive.ne'
    have significant : 0 < (Double.shortest (value : ℚ)).significand := by
      by_contra none
      rw [show (Double.shortest (value : ℚ)).significand = 0 by omega] at product
      omega
    have spelled : decimal value =
        decimal (Double.shortest (value : ℚ)).significand ++ List.replicate zeros 48 := by
      rw [← decimal_mul_pow significant, product]
    have short : (decimal value).length ≤ 16 := by
      rw [decimal, if_neg positive.ne', List.length_reverse, List.length_map]
      exact (Nat.digits_length_le_iff (by decide) value).mpr (small.trans (by norm_num))
    rw [spelled, List.length_append, List.length_replicate] at short
    have plain : (Double.shortest (value : ℚ)).numeral =
        ⟨false, decimal (Double.shortest (value : ℚ)).significand ++ List.replicate zeros 48, [],
          none⟩ := by
      unfold Double.Digits.numeral
      dsimp only
      rw [exponent, if_pos ⟨by omega, by omega⟩, Int.toNat_natCast]
    rw [toText, if_neg nonzero, plain, spelled]
    simp [Numeral.spell, Numeral.sign, Numeral.point, Numeral.scale]

def ofNat (value : ℕ) : Number := Numeral.toNumber ⟨false, decimal value, [], none⟩

theorem ofNat_eq {value : ℕ} (small : value < 2 ^ 53) :
    ofNat value = .finite false ⟨value, Double.representable_natCast small.le⟩ := by
  have double := Double.representable_natCast small.le
  have magnitude : Numeral.magnitude ⟨false, decimal value, [], none⟩ = value := by
    simp [Numeral.magnitude, ofDecimal_decimal]
  have nearest := Double.nearest_of_representable double
  rw [ofNat, Numeral.toNumber, dif_pos (by
    rw [magnitude, nearest]
    exact Double.lt_of_representable double)]
  simp only [magnitude, nearest]

end Number

end FlareStudio
