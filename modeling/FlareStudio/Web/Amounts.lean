import FlareStudio.Shared.FixedPoint

set_option autoImplicit false

namespace FlareStudio.Web

open FixedPoint

def trim (input : Text) : Text := (input.dropWhile isSpace).rdropWhile isSpace

def isDigit (unit : Nat) : Bool := 48 ≤ unit && unit ≤ 57

def integerPart (units : Text) : Text := units.takeWhile isDigit

def fractionPart (units : Text) : Text := (units.dropWhile isDigit).drop 1

-- /^\d*\.?\d*$/
def IsDecimal (units : Text) : Prop :=
  units.dropWhile isDigit = [] ∨
    (units.dropWhile isDigit).head? = some 46 ∧ (fractionPart units).all isDigit = true

instance : DecidablePred IsDecimal := fun _ => inferInstanceAs (Decidable (_ ∨ _ ∧ _))

def decimalValue (units : Text) : Rat := value (integerPart units) (fractionPart units)

-- viem's parseUnits is not part of the repository: it reads every text of this form that has a
-- digit, and rounds a fraction that is longer than the decimals. On a lone point it throws.
structure UnitParser where
  parseUnits : Text → Nat → Except Text Int
  parseUnits_rounds : ∀ units decimals, IsDecimal units → units.any isDigit = true → ∃ rounded,
    parseUnits units decimals = .ok rounded ∧
      |(rounded : Rat) - decimalValue units * 10 ^ decimals| < 1
  parseUnits_point : ∀ decimals, ∃ error, parseUnits (text ".") decimals = .error error

theorem IsDecimal.any_isDigit {units : Text} (decimal : IsDecimal units) (some : units ≠ [])
    (digits : units ≠ text ".") : units.any isDigit = true := by
  cases units with
  | nil => exact absurd rfl some
  | cons first rest =>
    by_cases digit : isDigit first = true
    · simp [digit]
    · simp only [IsDecimal, fractionPart, List.dropWhile_cons_of_neg digit] at decimal
      rcases decimal with impossible | ⟨point, fraction⟩
      · cases impossible
      · cases rest with
        | nil =>
          simp only [List.head?_cons, Option.some.injEq] at point
          exact absurd (congrArg (fun unit => [unit]) point) digits
        | cons second later =>
          simp only [List.drop_succ_cons, List.drop_zero, List.all_cons, Bool.and_eq_true]
            at fraction
          simp [fraction.1]

section Parsers

variable (viem : UnitParser) (input : Text) (decimals : Nat)

def parseAmountOr (blank : Option Int) : Option Int :=
  let trimmed := trim input
  if trimmed = [] then blank
  else if ¬ IsDecimal trimmed ∨ trimmed = text "." then none
  else
    match viem.parseUnits trimmed decimals with
    | .ok value => if value < 0 then none else some value
    | .error _ => none

-- In the deploy dialog.
def DeployDialog.parseAmount : Option Int := parseAmountOr viem input decimals (some 0)

-- On the policy page.
def PolicyPage.parseAmount : Option Int := parseAmountOr viem input decimals none

-- BigInt.prototype.toString
def bigintText (value : Int) : Text :=
  if value < 0 then 45 :: decimal value.natAbs else decimal value.natAbs

-- In the trigger editor, which leaves the lone point to parseUnits.
def safeParse : Option Text :=
  let trimmed := trim input
  if trimmed = [] then some (text "0")
  else if ¬ IsDecimal trimmed then none
  else
    match viem.parseUnits trimmed decimals with
    | .ok value => some (bigintText value)
    | .error _ => none

end Parsers

-- An empty field shows zero; a point without digits is no number.
def onScreen (input : Text) : Option Rat :=
  let shown := trim input
  if shown = [] then some 0
  else if IsDecimal shown ∧ shown ≠ text "." then some (decimalValue shown)
  else none

/-- What is accepted is the number on screen, and what is no multiple of a unit is not accepted. -/
structure ReadsExactly {β : Type} (parsed : Option β) (shows : Int → β) (input : Text)
    (decimals : Nat) : Prop where
  exactly : ∀ result, parsed = some result →
    ∃ value, result = shows value ∧ onScreen input = some ((value : Rat) / 10 ^ decimals)
  rejects : (∀ number, onScreen input = some number → ¬ IsMultiple number decimals) →
    parsed = none

/-- Beyond the decimals there are only zeros, if it is a number at all. -/
def Fits (input : Text) (decimals : Nat) : Prop :=
  IsDecimal (trim input) → ∀ unit ∈ (fractionPart (trim input)).drop decimals, unit = 48

section Reading

variable {β : Type} {parsed : Option β} {shows : Int → β} {input : Text} {decimals : Nat}

theorem readsExactly_rejected (rejected : parsed = none) :
    ReadsExactly parsed shows input decimals := by
  subst rejected
  constructor
  · intro result accepted
    cases accepted
  · intro _
    rfl

theorem readsExactly_rounded {rounded : Int} {number : Rat}
    (accepted : parsed = some (shows rounded)) (shown : onScreen input = some number)
    (near : |(rounded : Rat) - number * 10 ^ decimals| < 1) :
    ReadsExactly parsed shows input decimals ↔ IsMultiple number decimals := by
  constructor
  · intro reads
    obtain ⟨value, -, same⟩ := reads.exactly _ accepted
    rw [shown, Option.some.injEq] at same
    exact ⟨value, same⟩
  · intro multiple
    constructor
    · intro result found
      rw [accepted, Option.some.injEq] at found
      refine ⟨rounded, found.symm, ?_⟩
      rw [shown, (exact_iff_isMultiple near).mpr multiple]
    · intro none
      exact absurd multiple (none number shown)

theorem IsDecimal.digits {units : Text} (decimal : IsDecimal units) :
    Digits (fractionPart units) := by
  intro unit member
  rcases decimal with whole | ⟨-, digits⟩
  · simp [fractionPart, whole] at member
  · have digit := List.all_eq_true.mp digits unit member
    simpa [isDigit] using digit

theorem decimalValue_nonneg (units : Text) : 0 ≤ decimalValue units := by
  unfold decimalValue value
  positivity

theorem fits_iff (decimal : IsDecimal (trim input)) :
    Fits input decimals ↔ IsMultiple (decimalValue (trim input)) decimals := by
  rw [decimalValue, isMultiple_iff decimal.digits, Fits]
  exact ⟨fun fits => fits decimal, fun zeros _ => zeros⟩

theorem onScreen_decimal (some : trim input ≠ []) (decimal : IsDecimal (trim input))
    (digits : trim input ≠ text ".") : onScreen input = .some (decimalValue (trim input)) := by
  simp only [onScreen, if_neg some, if_pos (And.intro decimal digits)]

-- The check for a negative value never fires.
theorem rounded_nonneg {units : Text} {rounded : Int}
    (near : |(rounded : Rat) - decimalValue units * 10 ^ decimals| < 1) : ¬ rounded < 0 := by
  intro negative
  have below : (rounded : Rat) ≤ -1 := by exact_mod_cast Int.le_sub_one_of_lt negative
  have above : 0 ≤ decimalValue units * 10 ^ decimals :=
    mul_nonneg (decimalValue_nonneg units) (by positivity)
  linarith [(abs_lt.mp near).1]

end Reading

section Exactly

variable (viem : UnitParser) (input : Text) (decimals : Nat)

theorem fits_blank (blank : trim input = []) : Fits input decimals := by
  intro _ unit member
  simp [blank, fractionPart] at member

theorem fits_point (point : trim input = text ".") : Fits input decimals := by
  intro _ unit member
  rw [point] at member
  simp [fractionPart, text, isDigit] at member

theorem onScreen_blank (blank : trim input = []) : onScreen input = some 0 := by
  simp only [onScreen, if_pos blank]

theorem zero_near : |((0 : Int) : Rat) - 0 * 10 ^ decimals| < 1 := by simp

theorem zero_isMultiple : IsMultiple 0 decimals := ⟨0, by simp⟩

theorem parseAmountOr_exact_iff {blank : Option Int} (empty : blank = some 0 ∨ blank = none) :
    ReadsExactly (parseAmountOr viem input decimals blank) id input decimals ↔
      Fits input decimals := by
  by_cases none : trim input = []
  · have parsed : parseAmountOr viem input decimals blank = blank := by
      simp only [parseAmountOr, if_pos none]
    refine iff_of_true ?_ (fits_blank input decimals none)
    rw [parsed]
    rcases empty with zero | rejected
    · exact (readsExactly_rounded zero (onScreen_blank input none) (zero_near decimals)).mpr
        (zero_isMultiple decimals)
    · exact readsExactly_rejected rejected
  by_cases accepted : IsDecimal (trim input) ∧ trim input ≠ text "."
  · obtain ⟨decimal, digits⟩ := accepted
    obtain ⟨rounded, read, near⟩ := viem.parseUnits_rounds (trim input) decimals decimal
      (decimal.any_isDigit none digits)
    have parsed : parseAmountOr viem input decimals blank = some rounded := by
      simp [parseAmountOr, none, decimal, digits, read, rounded_nonneg near]
    rw [fits_iff decimal]
    exact readsExactly_rounded parsed (onScreen_decimal none decimal digits) near
  · have refused : ¬ IsDecimal (trim input) ∨ trim input = text "." := by tauto
    have parsed : parseAmountOr viem input decimals blank = .none := by
      simp only [parseAmountOr, if_neg none, if_pos refused]
    refine iff_of_true (readsExactly_rejected parsed) ?_
    rcases refused with other | point
    · exact fun decimal => absurd decimal other
    · exact fits_point input decimals point

theorem safeParse_exact_iff : ReadsExactly (safeParse viem input decimals) bigintText input
    decimals ↔ Fits input decimals := by
  by_cases none : trim input = []
  · have parsed : safeParse viem input decimals = some (bigintText 0) := by
      simp only [safeParse, if_pos none]
      rfl
    refine iff_of_true ?_ (fits_blank input decimals none)
    exact (readsExactly_rounded parsed (onScreen_blank input none) (zero_near decimals)).mpr
      (zero_isMultiple decimals)
  by_cases decimal : IsDecimal (trim input)
  swap
  · have parsed : safeParse viem input decimals = .none := by
      simp only [safeParse, if_neg none, if_pos decimal]
    exact iff_of_true (readsExactly_rejected parsed) fun found => absurd found decimal
  by_cases point : trim input = text "."
  · obtain ⟨error, thrown⟩ := viem.parseUnits_point decimals
    rw [← point] at thrown
    have parsed : safeParse viem input decimals = .none := by
      simp [safeParse, none, decimal, thrown]
    exact iff_of_true (readsExactly_rejected parsed) (fits_point input decimals point)
  · obtain ⟨rounded, read, near⟩ := viem.parseUnits_rounds (trim input) decimals decimal
      (decimal.any_isDigit none point)
    have parsed : safeParse viem input decimals = some (bigintText rounded) := by
      simp [safeParse, none, decimal, read]
    rw [fits_iff decimal]
    exact readsExactly_rounded parsed (onScreen_decimal none decimal point) near

/-- Each parser reads the number on screen exactly where it has no digit to round away. -/
theorem amounts_exact_iff :
    (ReadsExactly (DeployDialog.parseAmount viem input decimals) id input decimals ↔
      Fits input decimals) ∧
    (ReadsExactly (PolicyPage.parseAmount viem input decimals) id input decimals ↔
      Fits input decimals) ∧
    (ReadsExactly (safeParse viem input decimals) bigintText input decimals ↔
      Fits input decimals) :=
  ⟨parseAmountOr_exact_iff viem input decimals (.inl rfl),
    parseAmountOr_exact_iff viem input decimals (.inr rfl), safeParse_exact_iff viem input decimals⟩

end Exactly

-- The nearest number of units, half a unit going up.
def nearest (units : Text) (decimals : Nat) : Nat :=
  let places := 10 ^ (fractionPart units).length
  (2 * (ofDecimal (integerPart units ++ fractionPart units) * 10 ^ decimals) + places) /
    (2 * places)

theorem nearest_near (units : Text) (decimals : Nat) :
    |((nearest units decimals : Int) : Rat) - decimalValue units * 10 ^ decimals| < 1 := by
  have positive : 0 < 10 ^ (fractionPart units).length := by positivity
  have near := @quotient_near
    (ofDecimal (integerPart units ++ fractionPart units) * 10 ^ decimals) _ positive
  have number : decimalValue units * 10 ^ decimals =
      (ofDecimal (integerPart units ++ fractionPart units) * 10 ^ decimals : Nat) /
        (10 ^ (fractionPart units).length : Nat) := by
    rw [decimalValue, value]
    push_cast
    ring
  rw [number]
  exact_mod_cast near

def UnitParser.nearest : UnitParser where
  parseUnits units decimals :=
    if IsDecimal units ∧ units.any isDigit = true then .ok (Web.nearest units decimals)
    else .error (text "Number is not a valid decimal number.")
  parseUnits_rounds units decimals decimal digits :=
    ⟨Web.nearest units decimals, if_pos ⟨decimal, digits⟩, nearest_near units decimals⟩
  parseUnits_point _ := ⟨_, if_neg (by decide)⟩

/-- A seventh place is rounded into the sixth. -/
theorem seventh_place_rounded :
    DeployDialog.parseAmount .nearest (text "0.1234567") 6 = some 123457 ∧
      PolicyPage.parseAmount .nearest (text "0.1234567") 6 = some 123457 ∧
      safeParse .nearest (text "0.1234567") 6 = some (text "123457") ∧
      ¬ ReadsExactly (DeployDialog.parseAmount .nearest (text "0.1234567") 6) id
        (text "0.1234567") 6 ∧
      ¬ ReadsExactly (PolicyPage.parseAmount .nearest (text "0.1234567") 6) id
        (text "0.1234567") 6 ∧
      ¬ ReadsExactly (safeParse .nearest (text "0.1234567") 6) bigintText (text "0.1234567") 6 := by
  have overlong : ¬ Fits (text "0.1234567") 6 := fun fits =>
    absurd (fits (by decide) 55 (by decide)) (by decide)
  refine ⟨by decide, by decide, by decide, ?_, ?_, ?_⟩
  · rw [DeployDialog.parseAmount, parseAmountOr_exact_iff _ _ _ (.inl rfl)]
    exact overlong
  · rw [PolicyPage.parseAmount, parseAmountOr_exact_iff _ _ _ (.inr rfl)]
    exact overlong
  · rw [safeParse_exact_iff]
    exact overlong

end FlareStudio.Web
