import FlareStudio.Shared.Conversion

set_option autoImplicit false

namespace FlareStudio

namespace Double

theorem le_roundHalfEven {value : ℚ} {bound : ℤ} (le : bound ≤ value) :
    bound ≤ roundHalfEven value :=
  (Int.le_floor.mpr le).trans (roundHalfEven_bounds value).1

theorem natCast_le_nearest {value : ℚ} {bound : ℕ} (small : bound < 2 ^ 53) (le : bound ≤ value) :
    bound ≤ nearest value := by
  by_cases large : 2 ^ (53 : ℤ) ≤ value
  · have below : (bound : ℚ) ≤ 2 ^ (53 : ℤ) := by exact_mod_cast small.le
    exact below.trans (le_nearest large)
  · by_cases zero : value = 0
    · simpa [zero] using le
    · have positive : 0 < value := lt_of_le_of_ne ((Nat.cast_nonneg _).trans le) (Ne.symm zero)
      have place : lastPlace value ≤ 0 :=
        lastPlace_le_of_lt positive (by norm_num) (by simpa using large)
      unfold nearest
      generalize lastPlace value = last at place ⊢
      obtain ⟨bits, rfl⟩ : ∃ bits : ℕ, last = -bits := ⟨(-last).toNat, by omega⟩
      have scaled : ((bound * 2 ^ bits : ℤ) : ℚ) ≤ value / 2 ^ (-(bits : ℤ)) := by
        rw [zpow_neg, zpow_natCast, div_inv_eq_mul]
        push_cast
        exact mul_le_mul_of_nonneg_right le (by positivity)
      have rounded : ((bound * 2 ^ bits : ℤ) : ℚ) ≤
          roundHalfEven (value / 2 ^ (-(bits : ℤ))) := by
        exact_mod_cast le_roundHalfEven scaled
      rw [zpow_neg, zpow_natCast, ← div_eq_mul_inv, le_div_iff₀ (by positivity)]
      rw [zpow_neg, zpow_natCast] at rounded
      push_cast at rounded
      exact rounded

theorem representable_next {value : ℚ} {whole : ℤ} (double : Representable value)
    (nonnegative : 0 ≤ whole) (near : whole < value + 1)
    (keeps : ∀ integer : ℤ, value = integer → whole = integer) : Representable (whole : ℚ) := by
  obtain ⟨significand, exponent, small, low, high, same⟩ := double
  rcases le_or_gt 0 exponent with large | fraction
  · obtain ⟨bits, rfl⟩ := Int.eq_ofNat_of_zero_le large
    have integer : value = ((significand * 2 ^ bits : ℤ) : ℚ) := by
      rw [same]
      push_cast
      rfl
    rw [keeps _ integer, ← integer]
    exact ⟨significand, bits, small, low, high, same⟩
  · have power : (2 : ℚ) ^ exponent ≤ 1 := zpow_le_one_of_nonpos₀ (by norm_num) fraction.le
    have below : value < 2 ^ 53 := by
      calc value ≤ significand := by
            rw [same]
            exact mul_le_of_le_one_right (Nat.cast_nonneg _) power
        _ < 2 ^ 53 := by exact_mod_cast small
    have bound : (whole : ℚ) < ((2 ^ 53 + 1 : ℤ) : ℚ) := by
      push_cast
      linarith
    obtain ⟨count, rfl⟩ := Int.eq_ofNat_of_zero_le nonnegative
    apply representable_natCast
    have less : (count : ℤ) < 2 ^ 53 + 1 := by exact_mod_cast bound
    omega

theorem representable_ceil {value : ℚ} (double : Representable value) :
    Representable (⌈value - 1 / 2⌉ : ℚ) := by
  have nonnegative := nonneg_of_representable double
  apply representable_next double
  · have above : -1 < ⌈value - 1 / 2⌉ := by
      apply Int.lt_ceil.mpr
      push_cast
      linarith
    omega
  · linarith [Int.ceil_lt_add_one (value - 1 / 2)]
  · rintro integer rfl
    rw [Int.ceil_eq_iff]
    constructor <;> linarith

theorem representable_truncated {value : ℚ} (double : Representable value) :
    Representable (⌊value⌋ : ℚ) := by
  apply representable_next double (Int.floor_nonneg.mpr (nonneg_of_representable double))
  · linarith [Int.floor_le value]
  · rintro integer rfl
    exact Int.floor_intCast integer

theorem floor_nearest_div {dividend divisor : ℕ} (positive : 0 < divisor)
    (small : dividend < 2 ^ 20) :
    ⌊nearest (dividend / divisor : ℚ)⌋ = (dividend / divisor : ℕ) := by
  have exact : ⌊(dividend : ℚ) / divisor⌋ = (dividend / divisor : ℕ) :=
    Rat.floor_natCast_div_natCast _ _
  obtain ⟨below, above⟩ := Int.floor_eq_iff.mp exact
  have quotient := Nat.div_le_self dividend divisor
  rw [Int.floor_eq_iff]
  constructor
  · exact_mod_cast natCast_le_nearest (by omega) (by exact_mod_cast below)
  · by_cases zero : (dividend : ℚ) / divisor = 0
    · rw [zero, nearest_zero]
      positivity
    · have size : (dividend : ℚ) < 1048576 := by exact_mod_cast small
      have least : (1 : ℚ) ≤ divisor := by exact_mod_cast positive
      have some : 0 < (dividend : ℚ) / divisor := lt_of_le_of_ne (by positivity) (Ne.symm zero)
      have within : (dividend : ℚ) / divisor ≤ dividend := div_le_self (by positivity) least
      have place : lastPlace (dividend / divisor : ℚ) ≤ -33 := by
        apply lastPlace_le_of_lt some (by norm_num)
        norm_num
        linarith
      have power : (2 : ℚ) ^ lastPlace (dividend / divisor : ℚ) ≤ 2 ^ (-33 : ℤ) :=
        zpow_le_zpow_right₀ one_le_two place
      have error := (abs_le.mp ((nearest_error (dividend / divisor : ℚ)).trans power)).2
      norm_num at error
      -- the next whole number is a part of the divisor away
      by_cases few : divisor ≤ 2 ^ 21
      · have apart : (dividend : ℚ) + 1 ≤ ((dividend / divisor : ℕ) + 1) * divisor := by
          have step : dividend + 1 ≤ (dividend / divisor + 1) * divisor := by
            have split := Nat.div_add_mod dividend divisor
            have rest := Nat.mod_lt dividend positive
            calc dividend + 1 ≤ divisor * (dividend / divisor) + divisor := by omega
              _ = (dividend / divisor + 1) * divisor := by ring
          exact_mod_cast step
        have bounded : (divisor : ℚ) ≤ 2097152 := by exact_mod_cast few
        have part : 1 / 2097152 ≤ 1 / (divisor : ℚ) :=
          one_div_le_one_div_of_le (by linarith) bounded
        have gap : (dividend : ℚ) / divisor + 1 / divisor ≤ (dividend / divisor : ℕ) + 1 := by
          rw [← add_div, div_le_iff₀ (by linarith)]
          exact apart
        rw [Int.cast_natCast]
        linarith
      · have many : (2097152 : ℚ) ≤ divisor := by
          exact_mod_cast (not_le.mp few).le
        have half : (dividend : ℚ) / divisor ≤ 1 / 2 := by
          rw [div_le_iff₀ (by linarith)]
          linarith
        have nonnegative : (0 : ℚ) ≤ ((dividend / divisor : ℕ) : ℤ) := by positivity
        linarith

end Double

-- Math.floor
def Magnitude.truncated : Magnitude → Magnitude
  | .finite value => .finite ⟨⌊value.val⌋, Double.representable_truncated value.property⟩
  | .infinity => .infinity

namespace Number

def value? : Number → Option ℚ
  | .finite negative magnitude => some (if negative then -magnitude.val else magnitude.val)
  | .infinite _ => none

def ofRat (value : ℚ) : Number := (JsNumber.finite value).toNumber

def negated : Number → Number
  | .finite negative magnitude => .finite (!negative) magnitude
  | .infinite negative => .infinite (!negative)

-- Only two negative zeros add up to one.
def plusFinite (negative : Bool) (magnitude : {value : ℚ // Representable value}) :
    Number → Number
  | .finite negative' magnitude' =>
    let sum := (if negative then -magnitude.val else magnitude.val) +
      (if negative' then -magnitude'.val else magnitude'.val)
    if sum = 0 then .finite (negative && negative') ⟨0, Double.representable_zero⟩
    else ofRat sum
  | .infinite negative' => .infinite negative'

def plus : Number → Number → Option Number
  | .finite negative magnitude, number => some (plusFinite negative magnitude number)
  | .infinite negative, .infinite negative' =>
    if negative = negative' then some (.infinite negative) else none
  | .infinite negative, .finite _ _ => some (.infinite negative)

-- Math.round: halves up, so away from zero only above it.
def rounded : Number → Number
  | .finite false ⟨value, double⟩ =>
    .finite false ⟨⌊value + 1 / 2⌋, Double.representable_floor double⟩
  | .finite true ⟨value, double⟩ =>
    .finite true ⟨⌈value - 1 / 2⌉, Double.representable_ceil double⟩
  | .infinite negative => .infinite negative

def isFinite : Number → Bool
  | .finite _ _ => true
  | .infinite _ => false

def toJs : Number → JsNumber
  | .finite negative magnitude => .finite (if negative then -magnitude.val else magnitude.val)
  | .infinite negative => .infinity negative

theorem isFinite_of_value? {number : Number} {value : ℚ} (known : number.value? = some value) :
    number.isFinite = true := by
  cases number with
  | infinite negative => cases known
  | finite negative magnitude => rfl

def Tracks (bound total : ℕ) (sum : Option Number) : Prop :=
  ∃ number, sum = some number ∧
    (total ≤ bound ∧ number.value? = some (total : ℚ) ∨
      bound < total ∧ (number = .infinite false ∨
        ∃ value, number.value? = some value ∧ ((bound + 1 : ℕ) : ℚ) ≤ value))

theorem value?_ofNat {value : ℕ} (small : value < 2 ^ 53) :
    (ofNat value).value? = some (value : ℚ) := by
  simp [ofNat_eq small, value?]

structure Rounds (number : Number) (value : ℚ) : Prop where
  finite : Double.nearest value < 2 ^ (1024 : ℤ) → number.value? = some (Double.nearest value)
  infinite : ¬ Double.nearest value < 2 ^ (1024 : ℤ) → number = .infinite false

theorem ofRat_nonneg {value : ℚ} (nonnegative : 0 ≤ value) : Rounds (ofRat value) value := by
  have positive : decide (value < 0) = false := by simpa using nonnegative
  constructor
  · intro finite
    rw [← abs_of_nonneg nonnegative] at finite
    rw [ofRat, JsNumber.toNumber, dif_pos finite, positive]
    simp [value?, abs_of_nonneg nonnegative]
  · intro infinite
    rw [← abs_of_nonneg nonnegative] at infinite
    rw [ofRat, JsNumber.toNumber, dif_neg infinite, positive]

theorem rounds_zero {number : Number} (zero : number.value? = some 0) : Rounds number 0 := by
  constructor
  · intro _
    rw [zero, Double.nearest_zero]
  · intro large
    rw [Double.nearest_zero] at large
    exact absurd (by positivity) large

theorem plusFinite_nonneg {negative : Bool} {magnitude : {value : ℚ // Representable value}}
    {number : Number} {x y : ℚ} (left : (Number.finite negative magnitude).value? = some x)
    (right : number.value? = some y) (nonnegative : 0 ≤ x + y) :
    Rounds (plusFinite negative magnitude number) (x + y) := by
  cases number with
  | infinite negative' => cases right
  | finite negative' magnitude' =>
    have known := Option.some.inj left
    have known' := Option.some.inj right
    simp only [plusFinite, known, known']
    by_cases zero : x + y = 0
    · rw [if_pos zero, zero]
      exact rounds_zero (by simp [value?])
    · rw [if_neg zero]
      exact ofRat_nonneg nonnegative

theorem plus_nonneg {a b : Number} {x y : ℚ} (left : a.value? = some x) (right : b.value? = some y)
    (nonnegative : 0 ≤ x + y) : ∃ number, a.plus b = some number ∧ Rounds number (x + y) := by
  cases a with
  | infinite negative => cases left
  | finite negative magnitude =>
    exact ⟨_, rfl, plusFinite_nonneg left right nonnegative⟩

theorem rounds_natCast {number : Number} {value : ℕ} (small : value ≤ 2 ^ 53)
    (rounds : Rounds number (value : ℚ)) : number.value? = some (value : ℚ) := by
  have double := Double.representable_natCast small
  have same := Double.nearest_of_representable double
  have finite := rounds.finite
  rw [same] at finite
  exact finite (Double.lt_of_representable double)

theorem rounds_beyond {number : Number} {value : ℚ} {bound : ℕ} (small : bound < 2 ^ 53)
    (beyond : bound ≤ value) (rounds : Rounds number value) :
    number = .infinite false ∨ ∃ value, number.value? = some value ∧ (bound : ℚ) ≤ value := by
  by_cases finite : Double.nearest value < 2 ^ (1024 : ℤ)
  · exact .inr ⟨_, rounds.finite finite, Double.natCast_le_nearest small beyond⟩
  · exact .inl (rounds.infinite finite)

theorem tracks_zero (bound : ℕ) : Tracks bound 0 (some (ofNat 0)) :=
  ⟨_, rfl, .inl ⟨Nat.zero_le _, value?_ofNat (by norm_num)⟩⟩

theorem tracks_plus {bound total count : ℕ} {sum : Option Number} {number : Number}
    (small : bound + 1 < 2 ^ 53) (tracks : Tracks bound total sum)
    (value : number.value? = some (count : ℚ)) :
    Tracks bound (total + count) (sum.bind fun sum => sum.plus number) := by
  obtain ⟨sum, rfl, ⟨within, known⟩ | ⟨beyond, rfl | ⟨large, known, above⟩⟩⟩ := tracks
  · have whole : (total : ℚ) + count = ((total + count : ℕ) : ℚ) := by push_cast; rfl
    obtain ⟨next, added, rounds⟩ := plus_nonneg known value (by positivity)
    rw [whole] at rounds
    refine ⟨next, added, ?_⟩
    by_cases still : total + count ≤ bound
    · exact .inl ⟨still, rounds_natCast (by omega) rounds⟩
    · have apart : bound + 1 ≤ total + count := by omega
      have reached : ((bound + 1 : ℕ) : ℚ) ≤ ((total + count : ℕ) : ℚ) := by exact_mod_cast apart
      exact .inr ⟨by omega, rounds_beyond small reached rounds⟩
  · cases number with
    | infinite negative => cases value
    | finite negative magnitude => exact ⟨.infinite false, rfl, .inr ⟨by omega, .inl rfl⟩⟩
  · have reached : ((bound + 1 : ℕ) : ℚ) ≤ large + count := by
      have nonnegative : (0 : ℚ) ≤ count := by positivity
      linarith
    have positive : 0 ≤ large + count := (Nat.cast_nonneg _).trans reached
    obtain ⟨next, added, rounds⟩ := plus_nonneg known value positive
    exact ⟨next, added, .inr ⟨by omega, rounds_beyond small reached rounds⟩⟩

theorem tracks_foldl {α : Type} {bound : ℕ} {number : α → Number} {count : α → ℕ}
    (small : bound + 1 < 2 ^ 53) (list : List α)
    (values : ∀ item ∈ list, (number item).value? = some (count item : ℚ)) :
    ∀ (sum : Option Number) (total : ℕ), Tracks bound total sum →
      Tracks bound (total + (list.map count).sum)
        (list.foldl (fun sum item => sum.bind fun sum => sum.plus (number item)) sum) := by
  induction list with
  | nil =>
    intro sum total tracks
    simpa using tracks
  | cons first rest ih =>
    intro sum total tracks
    have next := tracks_plus small tracks (values first (by simp))
    have later := ih (fun item member => values item (by simp [member])) _ _ next
    simpa [Nat.add_assoc] using later

theorem eq_ofNat_of_value? {number : Number} {value : ℕ} (positive : 0 < value)
    (small : value < 2 ^ 53) (known : number.value? = some (value : ℚ)) :
    number = ofNat value := by
  cases number with
  | infinite negative => cases known
  | finite negative magnitude =>
    have known := Option.some.inj known
    have some : (0 : ℚ) < value := by exact_mod_cast positive
    have nonnegative := Double.nonneg_of_representable magnitude.property
    cases negative with
    | true =>
      rw [if_pos rfl] at known
      linarith
    | false =>
      rw [if_neg (by simp)] at known
      rw [ofNat_eq small]
      congr
      exact Subtype.ext known

theorem tracks_eq_iff {bound total : ℕ} {sum : Option Number} (positive : 0 < bound)
    (small : bound < 2 ^ 53) (tracks : Tracks bound total sum) :
    sum = some (ofNat bound) ↔ total = bound := by
  constructor
  · rintro rfl
    obtain ⟨number, same, exact⟩ := tracks
    cases same
    rw [value?_ofNat small] at exact
    rcases exact with ⟨-, known⟩ | ⟨-, infinite | ⟨value, known, above⟩⟩
    · exact (Nat.cast_injective (Option.some.inj known)).symm
    · rw [ofNat_eq small] at infinite
      cases infinite
    · cases Option.some.inj known
      have above : bound + 1 ≤ bound := by exact_mod_cast above
      omega
  · rintro rfl
    obtain ⟨number, rfl, ⟨-, known⟩ | ⟨beyond, -⟩⟩ := tracks
    · rw [eq_ofNat_of_value? positive small known]
    · omega

def dividedBy (number : Number) (divisor : ℕ) : Number :=
  ofMagnitude number.isNegative (number.magnitude.dividedBy divisor)

theorem hundredth_error {value : ℕ} (small : value < 2 ^ 51) :
    |Double.nearest (value / 100 : ℚ) - value / 100| ≤ 1 / 512 := by
  by_cases zero : value = 0
  · rw [zero]
    simp
  · have positive : (0 : ℚ) < value / 100 := by positivity
    have size : (value : ℚ) < 2 ^ 51 := by exact_mod_cast small
    have place : Double.lastPlace (value / 100 : ℚ) ≤ -8 := by
      apply Double.lastPlace_le_of_lt positive (by norm_num)
      norm_num
      linarith
    have power : (2 : ℚ) ^ Double.lastPlace (value / 100 : ℚ) ≤ 2 ^ (-8 : ℤ) :=
      zpow_le_zpow_right₀ one_le_two place
    have error := (Double.nearest_error (value / 100 : ℚ)).trans power
    rw [abs_mul] at error
    norm_num at error ⊢
    linarith

theorem times_hundred_error {value : ℚ} {count : ℕ} (nonnegative : 0 ≤ value)
    (small : count < 2 ^ 51) (near : |value - count / 100| ≤ 1 / 512) :
    |Double.nearest (value * 100) - count| < 1 / 2 := by
  obtain ⟨low, high⟩ := abs_le.mp near
  have size : (count : ℚ) < 2 ^ 51 := by exact_mod_cast small
  by_cases zero : value = 0
  · rw [zero] at low high ⊢
    rw [zero_mul, Double.nearest_zero, abs_lt]
    constructor <;> linarith
  · have positive : 0 < value * 100 := by positivity
    have place : Double.lastPlace (value * 100) ≤ -1 := by
      apply Double.lastPlace_le_of_lt positive (by norm_num)
      norm_num
      linarith
    have power : (2 : ℚ) ^ Double.lastPlace (value * 100) ≤ 2 ^ (-1 : ℤ) :=
      zpow_le_zpow_right₀ one_le_two place
    obtain ⟨below, above⟩ := abs_le.mp ((Double.nearest_error (value * 100)).trans power)
    norm_num at below above
    rw [abs_lt]
    constructor <;> linarith

theorem times_finite {negative : Bool} {magnitude : {value : ℚ // Representable value}} {factor : ℕ}
    (finite : Double.nearest (magnitude.val * factor) < 2 ^ (1024 : ℤ)) :
    ∃ double, (Number.finite negative magnitude).times factor =
      .finite negative ⟨Double.nearest (magnitude.val * factor), double⟩ := by
  have nonnegative : 0 ≤ magnitude.val * factor :=
    mul_nonneg (Magnitude.nonneg magnitude) (Nat.cast_nonneg _)
  obtain ⟨double, product⟩ := Magnitude.round_finite nonnegative finite
  exact ⟨double, by simp only [times, Number.magnitude, Magnitude.times, product, isNegative,
    ofMagnitude]⟩

theorem dividedBy_finite {negative : Bool} {magnitude : {value : ℚ // Representable value}}
    {divisor : ℕ} (finite : Double.nearest (magnitude.val / divisor) < 2 ^ (1024 : ℤ)) :
    ∃ double, (Number.finite negative magnitude).dividedBy divisor =
      .finite negative ⟨Double.nearest (magnitude.val / divisor), double⟩ := by
  have nonnegative : 0 ≤ magnitude.val / divisor :=
    div_nonneg (Magnitude.nonneg magnitude) (Nat.cast_nonneg _)
  obtain ⟨double, quotient⟩ := Magnitude.round_finite nonnegative finite
  exact ⟨double, by simp only [dividedBy, Number.magnitude, Magnitude.dividedBy, quotient,
    isNegative, ofMagnitude]⟩

theorem nearest_hundredth_nonneg (value : ℕ) : 0 ≤ Double.nearest (value / 100 : ℚ) := by
  have least := @Double.natCast_le_nearest (value / 100 : ℚ) 0 (by norm_num)
    (by rw [Nat.cast_zero]; positivity)
  rwa [Nat.cast_zero] at least

theorem nearest_hundredth_lt {value : ℕ} (small : value < 2 ^ 51) :
    Double.nearest (value / 100 : ℚ) < 2 ^ (1024 : ℤ) := by
  have error := (abs_le.mp (hundredth_error small)).2
  have size : (value : ℚ) < 2 ^ 51 := by exact_mod_cast small
  calc Double.nearest (value / 100 : ℚ) < 2 ^ (52 : ℤ) := by norm_num; linarith
    _ ≤ 2 ^ (1024 : ℤ) := zpow_le_zpow_right₀ one_le_two (by norm_num)

theorem rounded_times_hundred {number : Number} {value : ℚ} {count : ℕ}
    (known : number.value? = some value) (nonnegative : 0 ≤ value) (small : count < 2 ^ 51)
    (near : |value - count / 100| ≤ 1 / 512) :
    (number.times 100).rounded.value? = some (count : ℚ) := by
  cases number with
  | infinite negative => cases known
  | finite negative magnitude =>
    have known := Option.some.inj known
    have same : magnitude.val = value := by
      have positive := Double.nonneg_of_representable magnitude.property
      split_ifs at known <;> linarith
    obtain ⟨low, high⟩ := abs_lt.mp (times_hundred_error nonnegative small near)
    have size : (count : ℚ) < 2 ^ 51 := by exact_mod_cast small
    have finite : Double.nearest (magnitude.val * (100 : ℕ)) < 2 ^ (1024 : ℤ) := by
      rw [same]
      calc Double.nearest (value * (100 : ℕ)) < 2 ^ (52 : ℤ) := by norm_num; linarith
        _ ≤ 2 ^ (1024 : ℤ) := zpow_le_zpow_right₀ one_le_two (by norm_num)
    obtain ⟨double, product⟩ := @times_finite negative magnitude 100 finite
    rw [product]
    simp only [same, Nat.cast_ofNat]
    cases negative with
    | false =>
      have floor : ⌊Double.nearest (value * 100) + 1 / 2⌋ = count := by
        rw [Int.floor_eq_iff]
        push_cast
        constructor <;> linarith
      simp only [rounded, value?, floor, Int.cast_natCast, if_neg Bool.false_ne_true]
    | true =>
      -- the only number below zero that is not negative
      have zero : value = 0 := by
        rw [if_pos rfl] at known
        linarith [Double.nonneg_of_representable magnitude.property]
      have none : count = 0 := by
        rw [zero] at high
        have below : (count : ℚ) < 1 := by
          obtain ⟨least, most⟩ := abs_le.mp near
          linarith
        exact_mod_cast Nat.lt_one_iff.mp (by exact_mod_cast below)
      have ceil : ⌈(0 : ℚ) - 1 / 2⌉ = 0 := by norm_num
      simp only [rounded, value?, zero, none, zero_mul, Double.nearest_zero, ceil]
      simp

-- Zero is the only magnitude with a sign that does not matter.
theorem signed_nearest {negative : Bool} {magnitude value : ℚ} (nonnegative : 0 ≤ value)
    (size : 0 ≤ magnitude) (same : (if negative then -magnitude else magnitude) = value) :
    magnitude = value ∧ (if negative then -Double.nearest magnitude else Double.nearest magnitude) =
      Double.nearest value := by
  cases negative with
  | false =>
    rw [if_neg Bool.false_ne_true] at same ⊢
    exact ⟨same, by rw [same]⟩
  | true =>
    rw [if_pos rfl] at same
    have zero : magnitude = 0 := by linarith
    have none : value = 0 := by linarith
    simp [zero, none]

theorem toNumber_value? {numeral : Numeral} {value : ℚ} (nonnegative : 0 ≤ value)
    (finite : Double.nearest value < 2 ^ (1024 : ℤ))
    (same : (if numeral.negative then -numeral.magnitude else numeral.magnitude) = value) :
    numeral.toNumber.value? = some (Double.nearest value) := by
  obtain ⟨size, rounded⟩ := signed_nearest nonnegative numeral.magnitude_nonneg same
  rw [Numeral.toNumber, dif_pos (by rwa [size]), value?]
  exact congrArg some rounded

theorem hundredth_value? {number : Number} {count : ℕ} (known : number.value? = some (count : ℚ))
    (small : count < 2 ^ 51) :
    (number.dividedBy 100).value? = some (Double.nearest (count / 100 : ℚ)) := by
  cases number with
  | infinite negative => cases known
  | finite negative magnitude =>
    have nonnegative := Magnitude.nonneg magnitude
    have same : (if negative then -(magnitude.val / 100) else magnitude.val / 100) =
        (count / 100 : ℚ) := by
      rw [← Option.some.inj known]
      split_ifs <;> ring
    obtain ⟨size, rounded⟩ := signed_nearest (by positivity) (by positivity) same
    have finite : Double.nearest (magnitude.val / (100 : ℕ)) < 2 ^ (1024 : ℤ) := by
      rw [Nat.cast_ofNat, size]
      exact nearest_hundredth_lt small
    obtain ⟨double, quotient⟩ := @dividedBy_finite negative magnitude 100 finite
    rw [quotient, value?]
    simpa using rounded

theorem positiveZero_value? (number : Number) : number.positiveZero.value? = number.value? := by
  cases number with
  | infinite negative => rfl
  | finite negative magnitude =>
    by_cases zero : magnitude.val = 0 <;> simp [positiveZero, value?, zero]

def leadingExponent? : Text → Option ℤ
  | [] => none
  | mark :: rest =>
    let (negative, rest) := signed rest
    let digits := rest.takeWhile Json.isDigit
    if (mark = 101 ∨ mark = 69) ∧ digits ≠ [] then
      some (if negative then -ofDecimal digits else ofDecimal digits)
    else none

-- The longest prefix that is a numeral, whatever follows.
def leadingNumeral? (units : Text) : Option Numeral :=
  let (negative, rest) := signed (units.dropWhile isSpace)
  let (integer, rest) := rest.span Json.isDigit
  let (fraction, rest) := Numeral.readFraction rest
  if integer = [] ∧ fraction = [] then none
  else some ⟨negative, integer, fraction, leadingExponent? rest⟩

def parseFloat (units : Text) : Option Number :=
  let (negative, rest) := signed (units.dropWhile isSpace)
  if (text "Infinity").isPrefixOf rest then some (.infinite negative)
  else (leadingNumeral? units).map Numeral.toNumber

theorem leadingExponent?_scale (numeral : Numeral) :
    leadingExponent? numeral.scale = numeral.exponent := by
  unfold Numeral.scale
  cases numeral.exponent with
  | none => rfl
  | some exponent =>
    have all : (decimal exponent.natAbs).takeWhile Json.isDigit = decimal exponent.natAbs :=
      List.takeWhile_eq_self_iff.mpr (Numeral.isDigit_decimal _)
    have nonempty := Numeral.decimal_ne_nil exponent.natAbs
    by_cases negative : exponent < 0
    · have same : -(exponent.natAbs : ℤ) = exponent := by omega
      simp only [leadingExponent?, negative, if_true, signed, all, ofDecimal_decimal, true_or,
        ne_eq, nonempty, not_false_eq_true, and_self, same]
    · have same : (exponent.natAbs : ℤ) = exponent := by omega
      simp only [leadingExponent?, negative, if_false, signed, all, ofDecimal_decimal, true_or,
        ne_eq, nonempty, not_false_eq_true, and_self, if_true, Bool.false_eq_true, same]

theorem signed_of_digit {code : ℕ} {rest : Text} (digit : Json.isDigit code = true) :
    signed (code :: rest) = (false, code :: rest) := by
  rw [signed]
  · rintro _ ⟨⟩
    exact absurd digit (by decide)
  · rintro _ ⟨⟩
    exact absurd digit (by decide)

theorem signed_spell {numeral : Numeral} (formed : numeral.Formed) :
    signed (numeral.spell.dropWhile isSpace) = (numeral.negative, numeral.integer ++
      (numeral.point ++ (numeral.scale ++ []))) := by
  obtain ⟨code, more, split, digit⟩ := formed.head
  simp only [Numeral.spell, Numeral.sign, List.append_assoc, List.append_nil, split]
  cases numeral.negative with
  | true => simp [show isSpace 45 = false by decide, signed]
  | false =>
    have space := not_isSpace_of_isDigit digit
    have plain := @signed_of_digit code (more ++ (numeral.point ++ numeral.scale)) digit
    simpa [space] using plain

theorem leadingNumeral?_spell {numeral : Numeral} (formed : numeral.Formed) :
    leadingNumeral? numeral.spell = some numeral := by
  have integer := Json.span_digits formed.integer (@Numeral.point_ends numeral [] nofun)
  have scale : leadingExponent? (numeral.scale ++ []) = numeral.exponent := by
    rw [List.append_nil, leadingExponent?_scale]
  simp only [leadingNumeral?, signed_spell formed, integer, formed.readFraction, formed.nonempty,
    false_and, if_false, scale]

theorem parseFloat_toText (negative : Bool) (magnitude : {value : ℚ // Representable value}) :
    parseFloat (toText (.finite negative magnitude)) =
      some (positiveZero (.finite negative magnitude)) := by
  obtain ⟨numeral, formed, spelled, value⟩ := toText_finite negative magnitude
  obtain ⟨code, more, split, digit⟩ := formed.head
  have letter : code ≠ 73 := by
    rintro rfl
    exact absurd digit (by decide)
  have finite : (text "Infinity").isPrefixOf (numeral.integer ++
      (numeral.point ++ (numeral.scale ++ []))) = false := by
    rw [split, show text "Infinity" = 73 :: text "nfinity" by rfl, List.cons_append,
      List.isPrefixOf_cons_cons]
    simp [letter.symm]
  simp only [parseFloat, spelled, signed_spell formed, finite, leadingNumeral?_spell formed,
    Bool.false_eq_true, if_false, Option.map_some, value]

end Number

end FlareStudio
