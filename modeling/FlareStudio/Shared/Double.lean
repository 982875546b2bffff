import Mathlib

set_option autoImplicit false

namespace FlareStudio

def Representable (value : ℚ) : Prop :=
  ∃ (significand : ℕ) (exponent : ℤ), significand < 2 ^ 53 ∧ -1074 ≤ exponent ∧ exponent ≤ 971 ∧
    value = significand * 2 ^ exponent

namespace Double

-- The exponent of the last bit at this size.
def lastPlace (value : ℚ) : ℤ := max (-1074) (Int.log 2 value - 52)

def roundHalfEven (value : ℚ) : ℤ :=
  let rest := value - ⌊value⌋
  if rest < 1 / 2 then ⌊value⌋
  else if 1 / 2 < rest then ⌊value⌋ + 1
  else if ⌊value⌋ % 2 = 0 then ⌊value⌋
  else ⌊value⌋ + 1

-- Round to nearest, ties to even, without a largest number.
def nearest (value : ℚ) : ℚ :=
  roundHalfEven (value / 2 ^ lastPlace value) * 2 ^ lastPlace value

@[simp]
theorem roundHalfEven_intCast (value : ℤ) : roundHalfEven value = value := by
  simp [roundHalfEven]

theorem roundHalfEven_bounds (value : ℚ) :
    ⌊value⌋ ≤ roundHalfEven value ∧ roundHalfEven value ≤ ⌊value⌋ + 1 := by
  unfold roundHalfEven
  dsimp only
  split_ifs <;> omega

theorem representable_zero : Representable 0 :=
  ⟨0, 0, by norm_num, by norm_num, by norm_num, by norm_num⟩

theorem lt_of_representable {value : ℚ} (double : Representable value) :
    value < 2 ^ (1024 : ℤ) := by
  obtain ⟨significand, exponent, small, -, high, rfl⟩ := double
  have bound : (significand : ℚ) < 2 ^ (53 : ℤ) := by exact_mod_cast small
  calc (significand * 2 ^ exponent : ℚ) < 2 ^ (53 : ℤ) * 2 ^ exponent :=
        mul_lt_mul_of_pos_right bound (by positivity)
    _ = 2 ^ (53 + exponent) := (zpow_add₀ two_ne_zero _ _).symm
    _ ≤ 2 ^ (1024 : ℤ) := zpow_le_zpow_right₀ (by norm_num) (by omega)

theorem nonneg_of_representable {value : ℚ} (double : Representable value) : 0 ≤ value := by
  obtain ⟨significand, exponent, -, -, -, rfl⟩ := double
  positivity

@[simp]
theorem nearest_zero : nearest 0 = 0 := by
  have zero : roundHalfEven 0 = 0 := roundHalfEven_intCast 0
  simp [nearest, zero]

theorem scaled_lt (value : ℚ) : value / 2 ^ lastPlace value < 2 ^ (53 : ℤ) := by
  rw [div_lt_iff₀ (by positivity), ← zpow_add₀ two_ne_zero]
  have bound := Int.lt_zpow_succ_log_self (show 1 < 2 by decide) value
  refine lt_of_lt_of_le bound ?_
  rw [Nat.cast_ofNat]
  exact zpow_le_zpow_right₀ (by norm_num) (by unfold lastPlace; omega)

theorem lastPlace_le {significand : ℕ} {exponent : ℤ} (small : significand < 2 ^ 53)
    (low : -1074 ≤ exponent) (positive : 0 < significand) :
    lastPlace (significand * 2 ^ exponent) ≤ exponent := by
  have size : (0 : ℚ) < significand * 2 ^ exponent := by positivity
  have below : (significand * 2 ^ exponent : ℚ) < ((2 : ℕ) : ℚ) ^ (53 + exponent) := by
    rw [Nat.cast_ofNat, zpow_add₀ two_ne_zero]
    have bound : (significand : ℚ) < 2 ^ (53 : ℤ) := by exact_mod_cast small
    exact mul_lt_mul_of_pos_right bound (by positivity)
  have log := (Int.lt_zpow_iff_log_lt (by decide) size).mp below
  unfold lastPlace
  omega

theorem nearest_of_representable {value : ℚ} (double : Representable value) :
    nearest value = value := by
  obtain ⟨significand, exponent, small, low, -, rfl⟩ := double
  rcases Nat.eq_zero_or_pos significand with rfl | positive
  · simp
  · have within := lastPlace_le small low positive
    unfold nearest
    generalize lastPlace (significand * 2 ^ exponent : ℚ) = place at within ⊢
    obtain ⟨more, rfl⟩ : ∃ more : ℕ, exponent = place + more := ⟨(exponent - place).toNat, by omega⟩
    have whole : (significand * 2 ^ (place + more : ℤ) / 2 ^ place : ℚ) =
        ((significand * 2 ^ more : ℤ) : ℚ) := by
      rw [zpow_add₀ two_ne_zero, zpow_natCast]
      push_cast
      field_simp
    rw [whole, roundHalfEven_intCast, zpow_add₀ two_ne_zero, zpow_natCast]
    push_cast
    ring

theorem roundHalfEven_nonneg {value : ℚ} (nonnegative : 0 ≤ value) : 0 ≤ roundHalfEven value :=
  (Int.floor_nonneg.mpr nonnegative).trans (roundHalfEven_bounds value).1

theorem le_scaled {value : ℚ} (positive : 0 < value) (normal : -1074 < lastPlace value) :
    2 ^ (52 : ℤ) ≤ value / 2 ^ lastPlace value := by
  rw [le_div_iff₀ (by positivity), ← zpow_add₀ two_ne_zero]
  have bound := Int.zpow_log_le_self (show 1 < 2 by decide) positive
  rw [Nat.cast_ofNat] at bound
  refine le_trans ?_ bound
  exact zpow_le_zpow_right₀ (by norm_num) (by unfold lastPlace at *; omega)

theorem representable_nearest {value : ℚ} (nonnegative : 0 ≤ value)
    (finite : nearest value < 2 ^ (1024 : ℤ)) : Representable (nearest value) := by
  rcases nonnegative.eq_or_lt with rfl | positive
  · rw [nearest_zero]
    exact representable_zero
  have scaled : ⌊value / 2 ^ lastPlace value⌋ < 2 ^ 53 :=
    Int.floor_lt.mpr (by exact_mod_cast scaled_lt value)
  have bounds := roundHalfEven_bounds (value / 2 ^ lastPlace value)
  obtain ⟨significand, rounded⟩ := Int.eq_ofNat_of_zero_le
    (roundHalfEven_nonneg (show 0 ≤ value / 2 ^ lastPlace value by positivity))
  have low : -1074 ≤ lastPlace value := le_max_left _ _
  have large (normal : -1074 < lastPlace value) : 2 ^ 52 ≤ significand := by
    have least : 2 ^ 52 ≤ ⌊value / 2 ^ lastPlace value⌋ :=
      Int.le_floor.mpr (by exact_mod_cast le_scaled positive normal)
    omega
  have result : nearest value = significand * 2 ^ lastPlace value := by
    rw [nearest, rounded]
    norm_cast
  rw [result] at finite ⊢
  have high {bits : ℕ} (atLeast : 2 ^ bits ≤ significand) : lastPlace value + bits < 1024 := by
    have power : (2 : ℚ) ^ (lastPlace value + bits) < 2 ^ (1024 : ℤ) := by
      refine lt_of_le_of_lt ?_ finite
      rw [zpow_add₀ two_ne_zero, zpow_natCast, mul_comm]
      exact mul_le_mul_of_nonneg_right (by exact_mod_cast atLeast) (by positivity)
    exact (zpow_lt_zpow_iff_right₀ (by norm_num)).mp power
  by_cases carried : significand = 2 ^ 53
  · -- the carry into the next power of two
    have room := @high 53 carried.ge
    refine ⟨2 ^ 52, lastPlace value + 1, by norm_num, by omega, by omega, ?_⟩
    rw [carried, zpow_add₀ two_ne_zero]
    norm_num
    ring
  · refine ⟨significand, lastPlace value, by omega, low, ?_, rfl⟩
    rcases low.eq_or_lt with least | normal
    · omega
    · have room := @high 52 (large normal)
      omega

structure Digits where
  significand : ℕ
  exponent : ℤ
deriving DecidableEq

def Digits.value (digits : Digits) : ℚ := digits.significand * 10 ^ digits.exponent

-- With so many digits, the largest number that is not above.
def floorDigits (value : ℚ) (count : ℕ) : Digits :=
  ⟨⌊value / 10 ^ (Int.log 10 value + 1 - count)⌋₊, Int.log 10 value + 1 - count⟩

def ceilDigits (value : ℚ) (count : ℕ) : Digits :=
  let low := floorDigits value count
  if low.significand + 1 = 10 ^ count then ⟨10 ^ (count - 1), low.exponent + 1⟩
  else ⟨low.significand + 1, low.exponent⟩

-- Of the two, the one that rounds to the value: the closer, or the even one, if both do.
def closest? (value : ℚ) (count : ℕ) : Option Digits :=
  let low := floorDigits value count
  let high := ceilDigits value count
  if nearest low.value = value then
    if nearest high.value = value ∧ (high.value - value < value - low.value ∨
        high.value - value = value - low.value ∧ low.significand % 2 = 1) then some high
    else some low
  else if nearest high.value = value then some high
  else none

-- All the digits there are.
def exactDigits (value : ℚ) : Digits :=
  ⟨value.num.natAbs * 5 ^ Nat.log 2 value.den, -Nat.log 2 value.den⟩

-- Seventeen digits are always enough.
def shortest (value : ℚ) : Digits :=
  ((List.range 17).findSome? fun index => closest? value (index + 1)).getD (exactDigits value)

theorem closest?_rounds {value : ℚ} {count : ℕ} {digits : Digits}
    (found : closest? value count = some digits) : nearest digits.value = value := by
  unfold closest? at found
  dsimp only at found
  split_ifs at found with low high high
  · cases found
    exact high.1
  · cases found
    exact low
  · cases found
    exact high

theorem den_of_representable {value : ℚ} (double : Representable value) :
    ∃ bits, value.den = 2 ^ bits := by
  obtain ⟨significand, exponent, -, -, -, rfl⟩ := double
  rcases le_total 0 exponent with whole | fraction
  · obtain ⟨bits, rfl⟩ := Int.eq_ofNat_of_zero_le whole
    have integer : (significand * 2 ^ ((bits : ℕ) : ℤ) : ℚ) =
        ((significand * 2 ^ bits : ℕ) : ℚ) := by
      push_cast
      rfl
    exact ⟨0, by rw [integer]; rfl⟩
  · obtain ⟨bits, bits_eq⟩ := Int.eq_ofNat_of_zero_le (Int.neg_nonneg.mpr fraction)
    have quotient : (significand * 2 ^ exponent : ℚ) =
        ((significand : ℤ) : ℚ) / ((2 ^ bits : ℤ) : ℚ) := by
      rw [show exponent = -(bits : ℤ) by omega, zpow_neg, zpow_natCast]
      push_cast
      rfl
    have divides := Rat.den_dvd (significand : ℤ) (2 ^ bits)
    rw [Rat.divInt_eq_div, ← quotient] at divides
    obtain ⟨count, -, den⟩ := (Nat.dvd_prime_pow Nat.prime_two).mp (by exact_mod_cast divides)
    exact ⟨count, den⟩

theorem exactDigits_value {value : ℚ} (double : Representable value) :
    (exactDigits value).value = value := by
  obtain ⟨bits, den⟩ := den_of_representable double
  have nonnegative := nonneg_of_representable double
  have num : (value.num.natAbs : ℚ) = value * 2 ^ bits := by
    have parts := Rat.mul_den_eq_num value
    rw [den] at parts
    rw [Nat.cast_natAbs, abs_of_nonneg (Rat.num_nonneg.mpr nonnegative), ← parts]
    norm_cast
  have ten : (10 : ℚ) ^ bits = 2 ^ bits * 5 ^ bits := by
    rw [← mul_pow]
    norm_num
  rw [exactDigits, den, Nat.log_pow (by decide), Digits.value, zpow_neg, zpow_natCast, ten]
  push_cast
  rw [num]
  field_simp

theorem shortest_rounds {value : ℚ} (double : Representable value) :
    nearest (shortest value).value = value := by
  unfold shortest
  rcases found : (List.range 17).findSome? fun index => closest? value (index + 1) with _ | digits
  · rw [Option.getD_none, exactDigits_value double, nearest_of_representable double]
  · obtain ⟨index, -, here⟩ := List.exists_of_findSome?_eq_some found
    exact closest?_rounds here

theorem representable_natCast {value : ℕ} (small : value ≤ 2 ^ 53) : Representable value := by
  rcases small.eq_or_lt with rfl | less
  · exact ⟨2 ^ 52, 1, by norm_num, by norm_num, by norm_num, by norm_num⟩
  · exact ⟨value, 0, less, by norm_num, by norm_num, by simp⟩

theorem le_nearest {value : ℚ} (large : 2 ^ (53 : ℤ) ≤ value) : 2 ^ (53 : ℤ) ≤ nearest value := by
  have positive : 0 < value := lt_of_lt_of_le (by positivity) large
  have log : 53 ≤ Int.log 2 value :=
    (Int.zpow_le_iff_le_log (by decide) positive).mp (by exact_mod_cast large)
  have place : 1 ≤ lastPlace value := by
    unfold lastPlace
    omega
  have scaled : 2 ^ 52 ≤ ⌊value / 2 ^ lastPlace value⌋ :=
    Int.le_floor.mpr (by exact_mod_cast le_scaled positive (by omega))
  have rounded := scaled.trans (roundHalfEven_bounds _).1
  calc (2 : ℚ) ^ (53 : ℤ) = 2 ^ (52 : ℤ) * 2 ^ (1 : ℤ) := (zpow_add₀ two_ne_zero 52 1)
    _ ≤ roundHalfEven (value / 2 ^ lastPlace value) * 2 ^ lastPlace value := by
      have power : (2 : ℚ) ^ (1 : ℤ) ≤ 2 ^ lastPlace value :=
        zpow_le_zpow_right₀ (by norm_num) place
      have size : (2 : ℚ) ^ (52 : ℤ) ≤ roundHalfEven (value / 2 ^ lastPlace value) := by
        exact_mod_cast rounded
      exact mul_le_mul size power (by positivity) (le_trans (by positivity) size)

theorem eq_of_nearest {value whole : ℕ} (small : value < 2 ^ 53)
    (rounds : nearest (whole : ℚ) = value) : whole = value := by
  rcases le_total whole (2 ^ 53) with low | high
  · rw [nearest_of_representable (representable_natCast low)] at rounds
    exact_mod_cast rounds
  · have large := le_nearest (show (2 : ℚ) ^ (53 : ℤ) ≤ whole by exact_mod_cast high)
    rw [rounds] at large
    have : 2 ^ 53 ≤ value := by exact_mod_cast large
    omega

theorem closest?_natCast {value count : ℕ} {digits : Digits}
    (small : value < 2 ^ 53) (within : count ≤ Nat.log 10 value + 1)
    (found : closest? value count = some digits) :
    ∃ zeros : ℕ, digits.exponent = zeros ∧ digits.significand * 10 ^ zeros = value := by
  have rounds := closest?_rounds found
  have whole : ∃ zeros : ℕ, digits.exponent = zeros := by
    have low : ∃ zeros : ℕ, (floorDigits value count).exponent = zeros := by
      refine ⟨Nat.log 10 value + 1 - count, ?_⟩
      simp only [floorDigits, Int.log_natCast]
      omega
    obtain ⟨zeros, low⟩ := low
    unfold closest? at found
    dsimp only at found
    have high : ∃ zeros : ℕ, (ceilDigits value count).exponent = zeros := by
      unfold ceilDigits
      dsimp only
      split_ifs
      · exact ⟨zeros + 1, by simp [low]⟩
      · exact ⟨zeros, low⟩
    split_ifs at found
    · cases found
      exact high
    · cases found
      exact ⟨zeros, low⟩
    · cases found
      exact high
  obtain ⟨zeros, exponent⟩ := whole
  refine ⟨zeros, exponent, eq_of_nearest small ?_⟩
  rw [← rounds, Digits.value, exponent]
  push_cast
  simp

theorem shortest_natCast {value : ℕ} (positive : 0 < value) (small : value < 2 ^ 53) :
    ∃ zeros : ℕ, (shortest value).exponent = zeros ∧
      (shortest value).significand * 10 ^ zeros = value := by
  have few : Nat.log 10 value < 16 := Nat.log_lt_of_lt_pow positive.ne' (small.trans (by norm_num))
  have full : ∃ digits, closest? (value : ℚ) (Nat.log 10 value + 1) = some digits := by
    have low : (floorDigits value (Nat.log 10 value + 1)).value = value := by
      simp [floorDigits, Digits.value]
    have rounds := nearest_of_representable (representable_natCast small.le)
    unfold closest?
    dsimp only
    rw [low, if_pos rounds]
    split_ifs <;> exact ⟨_, rfl⟩
  obtain ⟨digits, full⟩ := full
  rcases found : (List.range 17).findSome? fun index => closest? value (index + 1) with _ | chosen
  · have none := List.findSome?_eq_none_iff.mp found (Nat.log 10 value) (by simp; omega)
    rw [full] at none
    cases none
  · obtain ⟨before, index, after, split, here, earlier⟩ := List.findSome?_eq_some_iff.mp found
    have first : index ≤ Nat.log 10 value := by
      by_contra late
      have place : before.length = index := by
        have entry := congrArg (fun list => list[before.length]?) split
        simp only [List.getElem?_append_right le_rfl, Nat.sub_self, List.getElem?_cons_zero,
          List.getElem?_eq_some_iff, List.getElem_range] at entry
        exact entry.2
      have front : before = (List.range 17).take index := by
        rw [split, ← place, List.take_left]
      have known : Nat.log 10 value ∈ before := by
        rw [front, List.take_range, List.mem_range]
        omega
      have none := earlier _ known
      rw [full] at none
      cases none
    rw [shortest, found, Option.getD_some]
    exact closest?_natCast small (by omega) here

end Double

end FlareStudio
