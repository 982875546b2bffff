import FlareStudio.Shared.Magnitude

set_option autoImplicit false

namespace FlareStudio.Web

open Magnitude

inductive DurationUnit where
  | days
  | months
  | years
deriving DecidableEq

def DurationUnit.inDays : DurationUnit → ℕ
  | .days => 1
  | .months => 30
  | .years => 365

structure Duration where
  value : Magnitude
  unit : DurationUnit
deriving DecidableEq

def splitDuration (seconds : Magnitude) : Duration :=
  let days := (seconds.dividedBy 86400).rounded.atLeastOne
  if days.remainder? 365 = some 0 then ⟨days.dividedBy 365, .years⟩
  else if days.remainder? 30 = some 0 then ⟨days.dividedBy 30, .months⟩
  else ⟨days, .days⟩

def joinDuration (value : Magnitude) (unit : DurationUnit) : Magnitude :=
  let days := match unit with
    | .years => value.times 365
    | .months => value.times 30
    | .days => value
  days.rounded.atLeastOne.times 86400

structure Duration.Shows (shown : Duration) (days count : ℕ) : Prop where
  value : shown.value.value? = some (count : ℚ)
  exact : shown.unit.inDays * count = days
  coarsest : ∀ unit : DurationUnit, unit.inDays ∣ days → unit.inDays ≤ shown.unit.inDays

theorem shows_of_dvd {unit : DurationUnit} {days : ℕ} (positive : 0 < days)
    (double : Representable (days : ℚ)) (divides : unit.inDays ∣ days)
    (coarsest : ∀ other : DurationUnit, other.inDays ∣ days → other.inDays ≤ unit.inDays) :
    ∃ count, Duration.Shows ⟨(whole days double).dividedBy unit.inDays, unit⟩ days count := by
  obtain ⟨count, rfl⟩ := divides
  have unitPositive : 0 < unit.inDays := by cases unit <;> decide
  have countDouble := Double.representable_of_dvd (Nat.dvd_mul_left count _) positive double
  refine ⟨count, ?_, rfl, coarsest⟩
  rw [dividedBy_whole unitPositive double countDouble, value?_whole]

theorem splitDuration_shows {seconds : Magnitude} {days : ℕ} {double : Representable (days : ℚ)}
    (positive : 0 < days)
    (same : (seconds.dividedBy 86400).rounded.atLeastOne = whole days double) :
    ∃ count, (splitDuration seconds).Shows days count := by
  unfold splitDuration
  dsimp only
  rw [same]
  simp only [remainder?_whole]
  split_ifs with years months
  · apply @shows_of_dvd .years days positive double years
    intro other _
    cases other <;> decide
  · apply @shows_of_dvd .months days positive double months
    intro other divides
    cases other with
    | years => exact absurd divides years
    | months => exact le_rfl
    | days => decide
  · refine ⟨days, rfl, Nat.one_mul days, fun other divides => ?_⟩
    cases other with
    | years => exact absurd divides years
    | months => exact absurd divides months
    | days => exact le_rfl

theorem days_of_multiple {days : ℕ} (positive : 0 < days)
    (double : Representable ((86400 * days : ℕ) : ℚ)) :
    ∃ double', ((whole (86400 * days) double).dividedBy 86400).rounded.atLeastOne =
      whole days double' := by
  have daysDouble := Double.representable_of_dvd (Nat.dvd_mul_left days 86400)
    (Nat.mul_pos (by decide) positive) double
  refine ⟨daysDouble, ?_⟩
  rw [dividedBy_whole (by decide) double daysDouble, rounded_whole,
    atLeastOne_of_pos positive daysDouble]

-- The whole number of days for an amount of a unit, as doubles multiply.
def askedDays (value : ℚ) (unit : DurationUnit) : ℕ :=
  max 1 ⌊Double.nearest (value * unit.inDays) + 1 / 2⌋.toNat

theorem joinDuration_eq (value : {value : ℚ // Representable value}) (unit : DurationUnit) :
    joinDuration (.finite value) unit =
      (((Magnitude.finite value).times unit.inDays).rounded.atLeastOne).times 86400 := by
  cases unit with
  | days => rw [DurationUnit.inDays, times_one, joinDuration]
  | months => rfl
  | years => rfl

theorem asked_finite {value : {value : ℚ // Representable value}} {unit : DurationUnit}
    (finite : Double.nearest (value.val * unit.inDays) < 2 ^ (1024 : ℤ)) :
    ∃ double, ((Magnitude.finite value).times unit.inDays).rounded.atLeastOne =
      whole (askedDays value.val unit) double := by
  obtain ⟨product, times⟩ := round_finite
    (mul_nonneg (Magnitude.nonneg value) (Nat.cast_nonneg unit.inDays)) finite
  obtain ⟨floor, rounded⟩ := rounded_finite ⟨_, product⟩
  rw [Magnitude.times, times, rounded]
  exact atLeastOne_whole floor

theorem product_lt {value : ℚ} {unit : DurationUnit} {bits : ℕ}
    (small : (askedDays value unit : ℚ) < 2 ^ (bits : ℤ)) :
    Double.nearest (value * unit.inDays) < 2 ^ (bits : ℤ) := by
  rw [zpow_natCast] at small ⊢
  have least : askedDays value unit < 2 ^ bits := by exact_mod_cast small
  by_contra large
  have floor : (2 ^ bits : ℤ) ≤ ⌊Double.nearest (value * unit.inDays) + 1 / 2⌋ := by
    apply Int.le_floor.mpr
    push_cast
    linarith
  have power : ((2 ^ bits : ℕ) : ℤ) = 2 ^ bits := by norm_cast
  unfold askedDays at least
  omega

theorem askedDays_pos (value : ℚ) (unit : DurationUnit) : 0 < askedDays value unit :=
  lt_of_lt_of_le Nat.one_pos (Nat.le_max_left _ _)

theorem joined_iff {value : {value : ℚ // Representable value}} {unit : DurationUnit} :
    (∃ days : ℕ, 0 < days ∧
        (joinDuration (.finite value) unit).value? = some ((86400 * days : ℕ) : ℚ)) ↔
      Representable ((86400 * askedDays value.val unit : ℕ) : ℚ) := by
  rw [joinDuration_eq]
  constructor
  · intro ⟨days, _, multiple⟩
    by_cases finite : Double.nearest (value.val * unit.inDays) < 2 ^ (1024 : ℤ)
    · obtain ⟨double, asked⟩ := asked_finite finite
      rw [asked] at multiple
      exact @product_exact 675 7 10 _ days _ (by decide) (by decide) (by decide) multiple
    · have infinite : (Magnitude.finite value).times unit.inDays = .infinity := dif_neg finite
      rw [infinite] at multiple
      cases multiple
  · intro double
    have positive := askedDays_pos value.val unit
    have askedDouble := Double.representable_of_dvd (Nat.dvd_mul_left _ 86400)
      (Nat.mul_pos (by decide) positive) double
    have finite := @product_lt value.val unit 1024 (Double.lt_of_representable askedDouble)
    obtain ⟨asked, same⟩ := asked_finite finite
    rw [same, times_whole asked double, value?_whole]
    exact ⟨_, positive, rfl⟩

theorem representable_askedDays {value : ℚ} {unit : DurationUnit} (positive : 0 < value)
    (few : value * unit.inDays ≤ 104249991374) :
    Representable ((86400 * askedDays value unit : ℕ) : ℚ) := by
  have unitPositive : (0 : ℚ) < unit.inDays := by cases unit <;> norm_num [DurationUnit.inDays]
  have product := @Double.nearest_le (value * unit.inDays) 104249991374 (by norm_num)
    (mul_pos positive unitPositive) (by exact_mod_cast few)
  have floor : ⌊Double.nearest (value * unit.inDays) + 1 / 2⌋ < 104249991374 + 1 := by
    apply Int.floor_lt.mpr
    push_cast at product ⊢
    linarith
  apply Double.representable_natCast
  unfold askedDays
  omega

namespace DurationInput

/-- So many days, which the editor shows in the coarsest unit and gives back. -/
structure Stable (interval : Magnitude) (days count : ℕ) : Prop where
  positive : 0 < days
  multiple : interval.value? = some ((86400 * days : ℕ) : ℚ)
  shown : (splitDuration interval).Shows days count
  joined : joinDuration (splitDuration interval).value (splitDuration interval).unit = interval

def Lossless (interval : Magnitude) : Prop := ∃ days count, Stable interval days count

theorem lossless_iff {interval : Magnitude} : Lossless interval ↔
    ∃ days : ℕ, 0 < days ∧ interval.value? = some ((86400 * days : ℕ) : ℚ) := by
  constructor
  · intro ⟨days, _, stable⟩
    exact ⟨days, stable.positive, stable.multiple⟩
  · intro ⟨days, positive, multiple⟩
    obtain ⟨double, rfl⟩ := eq_whole multiple
    obtain ⟨daysDouble, same⟩ := days_of_multiple positive double
    obtain ⟨count, shown⟩ := splitDuration_shows positive same
    refine ⟨days, count, positive, multiple, shown, ?_⟩
    obtain ⟨countDouble, value⟩ := eq_whole shown.value
    have product : Representable (((splitDuration (whole (86400 * days) double)).unit.inDays *
        count : ℕ) : ℚ) := shown.exact.symm ▸ daysDouble
    have restored : (whole count countDouble).times
        (splitDuration (whole (86400 * days) double)).unit.inDays = whole days daysDouble := by
      rw [times_whole countDouble product]
      congr 1
      exact shown.exact
    have joined := joinDuration_eq ⟨count, countDouble⟩
      (splitDuration (whole (86400 * days) double)).unit
    rw [value]
    refine joined.trans ?_
    rw [← whole, restored, rounded_whole, atLeastOne_of_pos positive daysDouble,
      times_whole daysDouble double]

-- Number(e.target.value), where none is NaN, or what was selected.
inductive Edit where
  | value (typed : Option Number)
  | unit (chosen : DurationUnit)

-- Whether onChange is called, and with what.
def onChange? (seconds : Magnitude) : Edit → Option Magnitude
  | .value (some (.finite false typed)) =>
    if 1 ≤ typed.val then some (joinDuration (.finite typed) (splitDuration seconds).unit)
    else none
  | .value _ => none
  | .unit chosen => some (joinDuration (splitDuration seconds).value chosen)

def edit (seconds : Magnitude) (made : Edit) : Magnitude :=
  (onChange? seconds made).getD seconds

def edits (seconds : Magnitude) (made : List Edit) : Magnitude := made.foldl edit seconds

/-- The seconds of the days an edit asks for are a double. -/
def Edit.Fits (seconds : Magnitude) : Edit → Prop
  | .value (some (.finite false typed)) => 1 ≤ typed.val →
    Representable ((86400 * askedDays typed.val (splitDuration seconds).unit : ℕ) : ℚ)
  | .value _ => True
  | .unit chosen => ∀ shown, (splitDuration seconds).value.value? = some shown →
    Representable ((86400 * askedDays shown chosen : ℕ) : ℚ)

def AllFit : Magnitude → List Edit → Prop
  | _, [] => True
  | seconds, made :: rest => made.Fits seconds ∧ AllFit (edit seconds made) rest

theorem lossless_edit {seconds : Magnitude} (lossless : Lossless seconds) (made : Edit) :
    Lossless (edit seconds made) ↔ made.Fits seconds := by
  cases made with
  | value typed =>
    match typed with
    | none => exact iff_of_true lossless trivial
    | some (.infinite _) => exact iff_of_true lossless trivial
    | some (.finite true _) => exact iff_of_true lossless trivial
    | some (.finite false typed) =>
      by_cases large : 1 ≤ typed.val
      · simp only [edit, onChange?, large, if_true, Option.getD_some, Edit.Fits,
          forall_true_left, lossless_iff, joined_iff]
      · simpa only [edit, onChange?, large, if_false, Option.getD_none, Edit.Fits,
          false_implies, iff_true] using lossless
  | unit chosen =>
    obtain ⟨days, count, stable⟩ := lossless
    obtain ⟨double, value⟩ := eq_whole stable.shown.value
    simp only [edit, onChange?, Option.getD_some, Edit.Fits, value, value?_whole,
      Option.some.injEq, forall_eq', lossless_iff]
    exact joined_iff

theorem lossless_edits {seconds : Magnitude} (lossless : Lossless seconds) (made : List Edit) :
    (∀ first, first <+: made → Lossless (edits seconds first)) ↔ AllFit seconds made := by
  induction made generalizing seconds with
  | nil => simp [AllFit, List.prefix_nil, edits, lossless]
  | cons next rest ih =>
    constructor
    · intro every
      have stepped : Lossless (edit seconds next) :=
        every [next] (List.prefix_cons_inj next |>.mpr List.nil_prefix)
      refine ⟨(lossless_edit lossless next).mp stepped, (ih stepped).mp ?_⟩
      intro first within
      exact every (next :: first) ((List.prefix_cons_inj next).mpr within)
    · intro ⟨fits, later⟩ first within
      have stepped := (lossless_edit lossless next).mpr fits
      rcases List.prefix_cons_iff.mp within with rfl | ⟨tail, rfl, inside⟩
      · exact lossless
      · exact (ih stepped).mpr later tail inside

abbrev WholeDays : Type := {days : ℕ // 0 < days ∧ Representable ((86400 * days : ℕ) : ℚ)}

def WholeDays.interval (days : WholeDays) : Magnitude := whole (86400 * days.val) days.property.2

theorem WholeDays.lossless (days : WholeDays) : Lossless days.interval :=
  lossless_iff.mpr ⟨days.val, days.property.1, rfl⟩

/-- Every interval of a run is lossless if and only if every edit of it fits. -/
theorem durationEditing_lossless (start : WholeDays) (made : List Edit) :
    (∀ first, first <+: made → Lossless (edits start.interval first)) ↔
      AllFit start.interval made :=
  lossless_edits start.lossless made

-- The largest number below 2 ^ 53 of days: the product with 86400 is rounded.
theorem unrepresentable_seconds : ¬ Representable ((86400 * 9007199254740991 : ℕ) : ℚ) := by
  intro double
  obtain ⟨significand, exponent, small, -, same⟩ := Double.representable_natCast_iff.mp double
  have divides : 675 * 9007199254740991 ∣ significand * 2 ^ exponent := by
    rw [← same]
    norm_num
  have odd : Nat.Coprime (675 * 9007199254740991) (2 ^ exponent) :=
    Nat.Coprime.pow_right exponent (by decide)
  have positive : 0 < significand := by
    rcases Nat.eq_zero_or_pos significand with rfl | some
    · rw [Nat.zero_mul] at same
      cases same
    · exact some
  have le := Nat.le_of_dvd positive (odd.dvd_of_dvd_mul_right divides)
  omega

theorem representable_typedDays : Representable ((9007199254740991 : ℕ) : ℚ) :=
  Double.representable_natCast (by norm_num)

def oneDay : WholeDays := ⟨1, by decide, Double.representable_natCast (by norm_num)⟩

def typedDays : Edit :=
  .value (some (.finite false ⟨(9007199254740991 : ℕ), representable_typedDays⟩))

theorem durationEditing_loses : ¬ Lossless (edits oneDay.interval [typedDays]) := by
  intro lossless
  have fits : typedDays.Fits oneDay.interval :=
    (lossless_edit oneDay.lossless typedDays).mp lossless
  obtain ⟨days, count, stable⟩ := oneDay.lossless
  have single : days = 1 := by
    have same : ((86400 * 1 : ℕ) : ℚ) = ((86400 * days : ℕ) : ℚ) :=
      Option.some.inj stable.multiple
    have : 86400 * 1 = 86400 * days := by exact_mod_cast same
    omega
  have inDays : (splitDuration oneDay.interval).unit = .days := by
    have exact := stable.shown.exact
    rw [single] at exact
    cases unit : (splitDuration oneDay.interval).unit with
    | days => rfl
    | months =>
      rw [unit, DurationUnit.inDays] at exact
      omega
    | years =>
      rw [unit, DurationUnit.inDays] at exact
      omega
  have asked : askedDays ((9007199254740991 : ℕ) : ℚ) .days = 9007199254740991 := by
    have floor : ⌊((9007199254740991 : ℕ) : ℚ) + 1 / 2⌋ = 9007199254740991 := by
      rw [Int.floor_natCast_add]
      norm_num
    rw [askedDays, DurationUnit.inDays, Nat.cast_one, mul_one,
      Double.nearest_of_representable representable_typedDays, floor]
    rfl
  have large := fits (by norm_num)
  rw [inDays, asked] at large
  exact unrepresentable_seconds large

end DurationInput

end FlareStudio.Web
