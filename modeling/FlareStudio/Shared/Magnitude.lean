import FlareStudio.Shared.Numeral

set_option autoImplicit false

namespace FlareStudio

namespace Double

theorem representable_natCast_iff {value : ℕ} : Representable (value : ℚ) ↔
    ∃ significand exponent : ℕ, significand < 2 ^ 53 ∧ exponent ≤ 971 ∧
      value = significand * 2 ^ exponent := by
  constructor
  · rintro ⟨significand, exponent, small, -, high, same⟩
    rcases le_total 0 exponent with whole | fraction
    · obtain ⟨bits, rfl⟩ := Int.eq_ofNat_of_zero_le whole
      exact ⟨significand, bits, small, by omega, by exact_mod_cast same⟩
    · have power : (2 : ℚ) ^ exponent ≤ 1 := zpow_le_one_of_nonpos₀ (by norm_num) fraction
      have below : (value : ℚ) ≤ significand := by
        rw [same]
        exact mul_le_of_le_one_right (Nat.cast_nonneg _) power
      have le : value ≤ significand := by exact_mod_cast below
      exact ⟨value, 0, le.trans_lt small, by norm_num, by simp⟩
  · intro ⟨significand, exponent, small, high, same⟩
    refine ⟨significand, exponent, small, by omega, by omega, ?_⟩
    rw [same]
    push_cast
    rfl

-- The twos beyond the largest exponent stay in the significand.
theorem split_of_dvd {divisor significand exponent largest bound : ℕ} (positive : 0 < significand)
    (small : significand < bound) (high : exponent ≤ largest)
    (divides : divisor ∣ significand * 2 ^ exponent) :
    ∃ significand' exponent' : ℕ, significand' < bound ∧ exponent' ≤ largest ∧
      divisor = significand' * 2 ^ exponent' := by
  have whole : 0 < significand * 2 ^ exponent := Nat.mul_pos positive (by positivity)
  obtain ⟨twos, odd, isOdd, rfl⟩ :=
    Nat.exists_eq_two_pow_mul_odd (Nat.pos_of_dvd_of_pos divides whole).ne'
  have oddDivides : odd ∣ significand :=
    (Nat.Coprime.pow_right exponent isOdd.coprime_two_right).dvd_of_dvd_mul_right
      ((Nat.dvd_mul_left odd _).trans divides)
  by_cases within : twos ≤ largest
  · have oddSmall := (Nat.le_of_dvd positive oddDivides).trans_lt small
    exact ⟨odd, twos, oddSmall, within, mul_comm _ _⟩
  · obtain ⟨more, rfl⟩ : ∃ more, twos = largest + more := ⟨twos - largest, by omega⟩
    have moved : 2 ^ (largest + more) * odd = odd * 2 ^ more * 2 ^ largest := by
      rw [Nat.pow_add]
      ring
    refine ⟨odd * 2 ^ more, largest, ?_, le_rfl, moved⟩
    have le := Nat.le_of_dvd whole divides
    have lt : significand * 2 ^ exponent < bound * 2 ^ largest :=
      lt_of_lt_of_le (Nat.mul_lt_mul_of_pos_right small (by positivity))
        (Nat.mul_le_mul_left _ (Nat.pow_le_pow_right (by norm_num) high))
    rw [moved] at le
    exact lt_of_mul_lt_mul_right (le.trans_lt lt) (by positivity)

theorem representable_of_dvd {divisor value : ℕ} (divides : divisor ∣ value) (positive : 0 < value)
    (double : Representable (value : ℚ)) : Representable (divisor : ℚ) := by
  obtain ⟨significand, exponent, small, high, rfl⟩ := representable_natCast_iff.mp double
  apply representable_natCast_iff.mpr
  exact split_of_dvd (Nat.pos_of_mul_pos_right positive) small high divides

theorem representable_floor {value : ℚ} (double : Representable value) :
    Representable (⌊value + 1 / 2⌋ : ℚ) := by
  obtain ⟨significand, exponent, small, low, high, same⟩ := double
  rcases le_or_gt 0 exponent with whole | fraction
  · obtain ⟨bits, rfl⟩ := Int.eq_ofNat_of_zero_le whole
    have integer : value = ((significand * 2 ^ bits : ℤ) : ℚ) := by
      rw [same]
      push_cast
      rfl
    have floor : ⌊value + 1 / 2⌋ = significand * 2 ^ bits := by
      rw [integer, Int.floor_intCast_add]
      norm_num
    rw [floor, ← integer]
    exact ⟨significand, bits, small, low, high, same⟩
  · have nonnegative : 0 ≤ value := by
      rw [same]
      positivity
    have power : (2 : ℚ) ^ exponent ≤ 1 := zpow_le_one_of_nonpos₀ (by norm_num) fraction.le
    have below : value < 2 ^ 53 := by
      calc value ≤ significand := by
            rw [same]
            exact mul_le_of_le_one_right (Nat.cast_nonneg _) power
        _ < 2 ^ 53 := by exact_mod_cast small
    obtain ⟨rounded, floor⟩ := Int.eq_ofNat_of_zero_le
      (Int.floor_nonneg.mpr (show 0 ≤ value + 1 / 2 by linarith))
    have bound : rounded ≤ 2 ^ 53 := by
      have lt : ⌊value + 1 / 2⌋ < 2 ^ 53 + 1 := by
        apply Int.floor_lt.mpr
        push_cast
        linarith
      omega
    rw [floor]
    exact representable_natCast bound

theorem two_mul_roundHalfEven (value : ℚ) : |2 * (roundHalfEven value - value)| ≤ 1 := by
  have low := Int.floor_le value
  have high := Int.lt_floor_add_one value
  unfold roundHalfEven
  dsimp only
  rw [abs_le]
  split_ifs <;> push_cast <;> constructor <;> linarith

theorem nearest_error (value : ℚ) :
    |2 * (nearest value - value)| ≤ 2 ^ lastPlace value := by
  have scaled : 2 * (nearest value - value) =
      2 * (roundHalfEven (value / 2 ^ lastPlace value) - value / 2 ^ lastPlace value) *
        2 ^ lastPlace value := by
    rw [nearest]
    field_simp
  have power : (0 : ℚ) < 2 ^ lastPlace value := by positivity
  rw [scaled, abs_mul, abs_of_pos power]
  exact mul_le_of_le_one_left power.le (two_mul_roundHalfEven _)

theorem nearest_of_le_bits {significand bits : ℕ}
    (place : lastPlace (significand * 2 ^ bits : ℚ) ≤ bits) :
    nearest (significand * 2 ^ bits : ℚ) = significand * 2 ^ bits := by
  unfold nearest
  generalize lastPlace (significand * 2 ^ bits : ℚ) = last at place ⊢
  obtain ⟨more, split⟩ : ∃ more : ℕ, (bits : ℤ) = last + more := ⟨(bits - last).toNat, by omega⟩
  have whole : (significand * 2 ^ bits / 2 ^ last : ℚ) = ((significand * 2 ^ more : ℤ) : ℚ) := by
    rw [← zpow_natCast 2 bits, split, zpow_add₀ two_ne_zero, zpow_natCast]
    push_cast
    field_simp
  rw [whole, roundHalfEven_intCast, ← zpow_natCast 2 bits, split, zpow_add₀ two_ne_zero,
    zpow_natCast]
  push_cast
  ring

theorem lastPlace_le_of_lt {value : ℚ} {place : ℤ} (positive : 0 < value) (low : -1074 ≤ place)
    (below : value < 2 ^ (53 + place)) : lastPlace value ≤ place := by
  have log := (Int.lt_zpow_iff_log_lt (b := 2) (by decide) positive).mp (by exact_mod_cast below)
  unfold lastPlace
  omega

theorem dvd_of_odd_mul {odd twos exponent other : ℕ} {rest : ℤ} (isOdd : Odd odd)
    (same : rest * 2 ^ (twos + exponent) = ((odd * 2 ^ twos * other : ℕ) : ℤ)) :
    2 ^ exponent ∣ other := by
  have cancelled : rest * 2 ^ exponent = ((odd * other : ℕ) : ℤ) := by
    apply mul_right_cancel₀ (pow_ne_zero twos two_ne_zero)
    rw [mul_assoc, ← pow_add, add_comm exponent, same]
    push_cast
    ring
  have divides : 2 ^ exponent ∣ odd * other := by
    apply Int.natCast_dvd_natCast.mp
    rw [← cancelled]
    push_cast
    exact Dvd.intro_left _ rfl
  exact (Nat.Coprime.pow_left exponent isOdd.coprime_two_left).dvd_of_dvd_mul_left divides

theorem eq_of_close {odd width a b : ℕ} (wide : 2 ^ width < 2 * odd)
    (close : |2 * ((odd : ℤ) * (a - b))| ≤ 2 ^ width) : a = b := by
  by_contra apart
  have far : (1 : ℤ) ≤ |(a : ℤ) - b| := by
    apply Int.one_le_abs
    omega
  have size : |2 * ((odd : ℤ) * (a - b))| = 2 * odd * |(a : ℤ) - b| := by
    rw [← mul_assoc, abs_mul, abs_of_nonneg (by positivity)]
  have least : 2 * (odd : ℤ) ≤ 2 * odd * |(a : ℤ) - b| := le_mul_of_one_le_right (by positivity) far
  have most : ((2 ^ width : ℕ) : ℤ) < 2 * odd := by exact_mod_cast wide
  push_cast at most
  omega

theorem roundHalfEven_le {value : ℚ} {bound : ℤ} (le : value ≤ bound) :
    roundHalfEven value ≤ bound := by
  rcases le.eq_or_lt with rfl | less
  · rw [roundHalfEven_intCast]
  · have floor := Int.floor_lt.mpr less
    have above := (roundHalfEven_bounds value).2
    omega

theorem nearest_le {value : ℚ} {bound : ℕ} (small : bound < 2 ^ 53) (positive : 0 < value)
    (le : value ≤ bound) : nearest value ≤ bound := by
  have place : lastPlace value ≤ 0 := by
    apply lastPlace_le_of_lt positive (by norm_num)
    have below : (bound : ℚ) < 2 ^ (53 + 0 : ℤ) := by exact_mod_cast small
    exact le.trans_lt below
  unfold nearest
  generalize lastPlace value = last at place ⊢
  obtain ⟨bits, rfl⟩ : ∃ bits : ℕ, last = -bits := ⟨(-last).toNat, by omega⟩
  have scaled : value / 2 ^ (-(bits : ℤ)) ≤ ((bound * 2 ^ bits : ℤ) : ℚ) := by
    rw [zpow_neg, zpow_natCast, div_inv_eq_mul]
    push_cast
    exact mul_le_mul_of_nonneg_right le (by positivity)
  have rounded : (roundHalfEven (value / 2 ^ (-(bits : ℤ))) : ℚ) ≤ (bound * 2 ^ bits : ℤ) := by
    exact_mod_cast roundHalfEven_le scaled
  rw [zpow_neg, zpow_natCast, ← div_eq_mul_inv, div_le_iff₀ (by positivity)]
  rw [zpow_neg, zpow_natCast] at rounded
  push_cast at rounded
  exact rounded

theorem eq_of_nearest_mul {odd twos width count other : ℕ} (isOdd : Odd odd)
    (wide : 2 ^ width < 2 * odd) (narrow : odd < 2 ^ width) (double : Representable (count : ℚ))
    (rounds : nearest ((odd * 2 ^ twos * count : ℕ) : ℚ) = ((odd * 2 ^ twos * other : ℕ) : ℚ)) :
    other = count := by
  obtain ⟨significand, exponent, small, -, rfl⟩ := representable_natCast_iff.mp double
  have product : ((odd * 2 ^ twos * (significand * 2 ^ exponent) : ℕ) : ℚ) =
      ((odd * significand : ℕ) : ℚ) * 2 ^ (twos + exponent) := by
    push_cast
    ring
  have oddPositive := isOdd.pos
  rcases le_or_gt (lastPlace (((odd * significand : ℕ) : ℚ) * 2 ^ (twos + exponent)))
    ((twos + exponent : ℕ) : ℤ) with exact | rounded
  · rw [product, nearest_of_le_bits exact, ← product] at rounds
    have same : odd * 2 ^ twos * (significand * 2 ^ exponent) = odd * 2 ^ twos * other := by
      exact_mod_cast rounds
    exact (Nat.eq_of_mul_eq_mul_left (by positivity) same).symm
  · have positive : 0 < significand := by
      rcases Nat.eq_zero_or_pos significand with rfl | some
      · simp [lastPlace] at rounded
        omega
      · exact some
    -- at most as many bits are lost as the factor is wide
    have lost : lastPlace (((odd * significand : ℕ) : ℚ) * 2 ^ (twos + exponent)) ≤
        (twos + exponent + width : ℕ) := by
      apply lastPlace_le_of_lt (by positivity) (by omega)
      have scaled : odd * significand * 2 ^ (twos + exponent) <
          2 ^ (53 + (twos + exponent + width)) := by
        calc odd * significand * 2 ^ (twos + exponent)
            < 2 ^ width * 2 ^ 53 * 2 ^ (twos + exponent) :=
              Nat.mul_lt_mul_of_pos_right (Nat.mul_lt_mul'' narrow small) (by positivity)
          _ = 2 ^ (53 + (twos + exponent + width)) := by
              rw [← Nat.pow_add, ← Nat.pow_add]
              congr 1
              omega
      exact_mod_cast scaled
    have error := nearest_error (((odd * significand : ℕ) : ℚ) * 2 ^ (twos + exponent))
    have multiple := rounds
    rw [product] at multiple
    rw [multiple] at error
    rw [nearest] at multiple
    generalize lastPlace (((odd * significand : ℕ) : ℚ) * 2 ^ (twos + exponent)) = last
      at rounded lost error multiple
    obtain ⟨more, rfl⟩ : ∃ more : ℕ, last = ((twos + exponent : ℕ) : ℤ) + more :=
      ⟨(last - (twos + exponent : ℕ)).toNat, by omega⟩
    generalize roundHalfEven _ = rest at multiple
    have divides : 2 ^ exponent ∣ other := by
      apply @dvd_of_odd_mul odd twos exponent other (rest * 2 ^ more) isOdd
      rw [mul_assoc, ← pow_add, add_comm more]
      exact_mod_cast multiple
    obtain ⟨kept, rfl⟩ := divides
    have near : |2 * ((odd : ℤ) * (kept - significand))| ≤ 2 ^ width := by
      have scaled : |2 * ((odd : ℚ) * (kept - significand))| * 2 ^ (twos + exponent) ≤
          2 ^ width * 2 ^ (twos + exponent) := by
        calc |2 * ((odd : ℚ) * (kept - significand))| * 2 ^ (twos + exponent)
            = |2 * ((odd : ℚ) * (kept - significand)) * 2 ^ (twos + exponent)| := by
              have power : (0 : ℚ) ≤ 2 ^ (twos + exponent) := by positivity
              rw [abs_mul (2 * _), abs_of_nonneg power]
          _ = |2 * (((odd * 2 ^ twos * (2 ^ exponent * kept) : ℕ) : ℚ) -
                ((odd * significand : ℕ) : ℚ) * 2 ^ (twos + exponent))| := by
              push_cast
              congr 1
              ring
          _ ≤ 2 ^ (((twos + exponent : ℕ) : ℤ) + more) := error
          _ ≤ 2 ^ ((width + (twos + exponent) : ℕ) : ℤ) :=
              zpow_le_zpow_right₀ one_le_two (by push_cast at lost ⊢; omega)
          _ = 2 ^ width * 2 ^ (twos + exponent) := by rw [zpow_natCast, pow_add]
      exact_mod_cast le_of_mul_le_mul_right scaled (by positivity)
    rw [eq_of_close wide near, mul_comm]

end Double

-- The numbers from zero up. NaN is not among them.
inductive Magnitude where
  | finite (value : {value : ℚ // Representable value})
  | infinity
deriving DecidableEq

namespace Magnitude

theorem nonneg (value : {value : ℚ // Representable value}) : 0 ≤ value.val :=
  Double.nonneg_of_representable value.property

def round (value : ℚ) (nonnegative : 0 ≤ value) : Magnitude :=
  if finite : Double.nearest value < 2 ^ (1024 : ℤ) then
    .finite ⟨Double.nearest value, Double.representable_nearest nonnegative finite⟩
  else .infinity

def times : Magnitude → ℕ → Magnitude
  | .finite value, factor => round (value.val * factor) (mul_nonneg (nonneg value) (by positivity))
  | .infinity, _ => .infinity

def dividedBy : Magnitude → ℕ → Magnitude
  | .finite value, divisor =>
    round (value.val / divisor) (div_nonneg (nonneg value) (by positivity))
  | .infinity, _ => .infinity

-- Math.round
def rounded : Magnitude → Magnitude
  | .finite value => .finite ⟨⌊value.val + 1 / 2⌋, Double.representable_floor value.property⟩
  | .infinity => .infinity

def one : Magnitude := .finite ⟨1, by exact_mod_cast @Double.representable_natCast 1 (by norm_num)⟩

-- Math.max(1, …)
def atLeastOne : Magnitude → Magnitude
  | .finite value => if 1 ≤ value.val then .finite value else one
  | .infinity => .infinity

-- none is NaN. The remainder of doubles is exact.
def remainder? : Magnitude → ℕ → Option ℚ
  | .finite value, divisor => some (value.val - divisor * ⌊value.val / divisor⌋)
  | .infinity, _ => none

def AtLeast (least : ℕ) : Magnitude → Prop
  | .finite value => least ≤ value.val
  | .infinity => True

instance (least : ℕ) : DecidablePred (AtLeast least)
  | .finite _ => inferInstanceAs (Decidable (_ ≤ _))
  | .infinity => isTrue trivial

def toText : Magnitude → Text
  | .finite value => Number.toText (.finite false value)
  | .infinity => Number.toText (.infinite false)

def value? : Magnitude → Option ℚ
  | .finite value => some value.val
  | .infinity => none

def whole (value : ℕ) (double : Representable (value : ℚ)) : Magnitude := .finite ⟨value, double⟩

@[simp]
theorem value?_whole {value : ℕ} (double : Representable (value : ℚ)) :
    (whole value double).value? = some (value : ℚ) := rfl

theorem eq_whole {number : Magnitude} {value : ℕ} (known : number.value? = some (value : ℚ)) :
    ∃ double, number = whole value double := by
  cases number with
  | infinity => cases known
  | finite found =>
    obtain ⟨found, double⟩ := found
    cases Option.some.inj known
    exact ⟨double, rfl⟩

theorem round_finite {value : ℚ} (nonnegative : 0 ≤ value)
    (finite : Double.nearest value < 2 ^ (1024 : ℤ)) :
    ∃ double, round value nonnegative = .finite ⟨Double.nearest value, double⟩ :=
  ⟨_, dif_pos finite⟩

theorem round_of_representable {value : ℚ} (double : Representable value)
    (nonnegative : 0 ≤ value) : round value nonnegative = .finite ⟨value, double⟩ := by
  have same := Double.nearest_of_representable double
  rw [round, dif_pos (by rw [same]; exact Double.lt_of_representable double)]
  simp only [same]

theorem times_one {value : {value : ℚ // Representable value}} :
    times (.finite value) 1 = .finite value := by
  have same : value.val * (1 : ℕ) = value.val := by simp
  simp only [times, same]
  exact round_of_representable value.property _

theorem times_whole {value factor : ℕ} (double : Representable (value : ℚ))
    (product : Representable ((factor * value : ℕ) : ℚ)) :
    (whole value double).times factor = whole (factor * value) product := by
  have same : (value : ℚ) * factor = ((factor * value : ℕ) : ℚ) := by
    push_cast
    ring
  simp only [whole, times, same]
  exact round_of_representable product _

theorem product_exact {odd twos width value other : ℕ} {double : Representable (value : ℚ)}
    (isOdd : Odd odd) (wide : 2 ^ width < 2 * odd) (narrow : odd < 2 ^ width)
    (known : ((whole value double).times (odd * 2 ^ twos)).value? =
      some ((odd * 2 ^ twos * other : ℕ) : ℚ)) :
    Representable ((odd * 2 ^ twos * value : ℕ) : ℚ) := by
  have same : (value : ℚ) * (odd * 2 ^ twos : ℕ) = ((odd * 2 ^ twos * value : ℕ) : ℚ) := by
    push_cast
    ring
  simp only [whole, times, same] at known
  unfold round at known
  split_ifs at known with finite
  · have rounds : Double.nearest ((odd * 2 ^ twos * value : ℕ) : ℚ) =
        ((odd * 2 ^ twos * other : ℕ) : ℚ) := Option.some.inj known
    have exact := Double.eq_of_nearest_mul isOdd wide narrow double rounds
    have result := Double.representable_nearest (Nat.cast_nonneg _) finite
    rwa [rounds, exact] at result
  · cases known

theorem dividedBy_whole {value divisor : ℕ} (positive : 0 < divisor)
    (product : Representable ((divisor * value : ℕ) : ℚ)) (double : Representable (value : ℚ)) :
    (whole (divisor * value) product).dividedBy divisor = whole value double := by
  have same : ((divisor * value : ℕ) : ℚ) / divisor = value := by
    push_cast
    field_simp
  simp only [whole, dividedBy, same]
  exact round_of_representable double _

theorem dividedBy_of_dvd {value divisor : ℕ} (positive : 0 < value) (divides : divisor ∣ value)
    (double : Representable (value : ℚ)) :
    ∃ double', (whole value double).dividedBy divisor = whole (value / divisor) double' := by
  obtain ⟨quotient, rfl⟩ := divides
  have divisorPositive := Nat.pos_of_mul_pos_right positive
  have quotientDouble := Double.representable_of_dvd (Nat.dvd_mul_left quotient _) positive double
  rw [Nat.mul_div_cancel_left quotient divisorPositive]
  exact ⟨quotientDouble, dividedBy_whole divisorPositive double quotientDouble⟩

theorem rounded_finite (value : {value : ℚ // Representable value}) :
    ∃ double, rounded (.finite value) = whole ⌊value.val + 1 / 2⌋.toNat double := by
  have nonnegative : 0 ≤ ⌊value.val + 1 / 2⌋ :=
    Int.floor_nonneg.mpr (by linarith [nonneg value])
  have same : ((⌊value.val + 1 / 2⌋ : ℤ) : ℚ) = (⌊value.val + 1 / 2⌋.toNat : ℕ) := by
    exact_mod_cast (Int.toNat_of_nonneg nonnegative).symm
  have double := Double.representable_floor value.property
  rw [same] at double
  refine ⟨double, ?_⟩
  simp only [rounded, whole, same]

@[simp]
theorem rounded_whole {value : ℕ} (double : Representable (value : ℚ)) :
    (whole value double).rounded = whole value double := by
  have floor : ⌊(value : ℚ) + 1 / 2⌋ = value := by
    rw [Int.floor_natCast_add]
    norm_num
  simp only [whole, rounded, floor, Int.cast_natCast]

theorem atLeastOne_of_pos {value : ℕ} (positive : 0 < value) (double : Representable (value : ℚ)) :
    (whole value double).atLeastOne = whole value double := by
  have above : (1 : ℚ) ≤ value := by exact_mod_cast positive
  simp only [whole, atLeastOne, above, if_true]

theorem atLeastOne_whole {value : ℕ} (double : Representable (value : ℚ)) :
    ∃ double', (whole value double).atLeastOne = whole (max 1 value) double' := by
  rcases Nat.eq_zero_or_pos value with rfl | positive
  · refine ⟨Double.representable_natCast (by norm_num), ?_⟩
    simp [whole, atLeastOne, one]
  · rw [max_eq_right positive]
    exact ⟨double, atLeastOne_of_pos positive double⟩

theorem remainder?_whole {value divisor : ℕ} (double : Representable (value : ℚ)) :
    (whole value double).remainder? divisor = some 0 ↔ divisor ∣ value := by
  have floor : ⌊(value : ℚ) / divisor⌋ = (value / divisor : ℕ) := Rat.floor_natCast_div_natCast _ _
  simp only [whole, remainder?, floor, Option.some.injEq, Int.cast_natCast, sub_eq_zero]
  constructor
  · intro same
    exact ⟨value / divisor, by exact_mod_cast same⟩
  · intro divides
    exact_mod_cast (Nat.mul_div_cancel' divides).symm

@[simp]
theorem atLeast_whole {least value : ℕ} (double : Representable (value : ℚ)) :
    AtLeast least (whole value double) ↔ least ≤ value := by
  simp [whole, AtLeast]

-- Digits, signs, points and the e of an exponent.
theorem spell_codes {numeral : Numeral} (formed : numeral.Formed) :
    ∀ code ∈ numeral.spell, 43 ≤ code ∧ code ≤ 57 ∨ code = 101 := by
  have digit {code : ℕ} (isDigit : Json.isDigit code = true) : 43 ≤ code ∧ code ≤ 57 := by
    simp only [Json.isDigit, Bool.and_eq_true, decide_eq_true_eq] at isDigit
    omega
  intro code member
  simp only [Numeral.spell, List.mem_append] at member
  rcases member with ((sign | integer) | point) | scale
  · unfold Numeral.sign at sign
    split_ifs at sign
    · cases List.mem_singleton.mp sign
      decide
    · cases sign
  · exact .inl (digit (formed.integer code integer))
  · unfold Numeral.point at point
    split_ifs at point
    · cases point
    · rcases List.mem_cons.mp point with rfl | fraction
      · decide
      · exact .inl (digit (formed.fraction code fraction))
  · unfold Numeral.scale at scale
    cases exponent : numeral.exponent with
    | none =>
      rw [exponent] at scale
      cases scale
    | some power =>
      rw [exponent] at scale
      rcases List.mem_cons.mp scale with rfl | signed
      · decide
      · rcases List.mem_cons.mp signed with rfl | digits
        · split_ifs <;> decide
        · exact .inl (digit (Numeral.isDigit_decimal _ code digits))

theorem toText_whole {value : ℕ} (positive : 0 < value) (double : Representable (value : ℚ)) :
    ∃ numeral : Numeral, numeral.Formed ∧ (whole value double).toText = numeral.spell ∧
      numeral.magnitude = (Double.shortest (value : ℚ)).value := by
  have nonzero : (value : ℚ) ≠ 0 := by exact_mod_cast positive.ne'
  have formed := Double.Digits.numeral_formed
    (@Number.shortest_positive ⟨value, double⟩ nonzero)
  refine ⟨{ (Double.shortest (value : ℚ)).numeral with negative := false },
    ⟨formed.nonempty, formed.integer, formed.fraction, formed.leading⟩, ?_, ?_⟩
  · rw [whole, toText, Number.toText, if_neg nonzero]
  · exact Double.Digits.numeral_magnitude _

theorem shortest_exact {value : ℕ} (positive : 0 < value) (small : value < 2 ^ 53) :
    (Double.shortest (value : ℚ)).value = value := by
  obtain ⟨zeros, exponent, product⟩ := Double.shortest_natCast positive small
  have cast : ((Double.shortest (value : ℚ)).significand : ℚ) * 10 ^ zeros = value := by
    exact_mod_cast product
  rw [Double.Digits.value, exponent, zpow_natCast, cast]

end Magnitude

end FlareStudio
