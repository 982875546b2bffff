import FlareStudio.Shared.Text

set_option autoImplicit false

namespace FlareStudio.FixedPoint

def Digits (digits : Text) : Prop := ∀ code ∈ digits, 48 ≤ code ∧ code ≤ 57

theorem ofDecimal_append (front back : Text) :
    ofDecimal (front ++ back) = ofDecimal front * 10 ^ back.length + ofDecimal back := by
  induction back using List.reverseRecOn with
  | nil => simp [ofDecimal]
  | append_singleton back code ih =>
    have step (digits : Text) :
        ofDecimal (digits ++ [code]) = ofDecimal digits * 10 + (code - 48) := by
      simp [ofDecimal]
    rw [← List.append_assoc, step, step, ih, List.length_append, List.length_singleton]
    ring

theorem ofDecimal_lt {digits : Text} (numeric : Digits digits) :
    ofDecimal digits < 10 ^ digits.length := by
  induction digits with
  | nil => simp [ofDecimal]
  | cons code rest ih =>
    have bounds := numeric code List.mem_cons_self
    have later := ih fun other member => numeric other (List.mem_cons_of_mem _ member)
    have first : ofDecimal [code] = code - 48 := by simp [ofDecimal]
    rw [← List.singleton_append, ofDecimal_append, first, List.length_append, pow_add,
      List.length_singleton]
    have small : code - 48 + 1 ≤ 10 := by omega
    nlinarith [Nat.mul_le_mul_right (10 ^ rest.length) small]

theorem ofDecimal_eq_zero {digits : Text} (numeric : Digits digits) :
    ofDecimal digits = 0 ↔ ∀ code ∈ digits, code = 48 := by
  induction digits with
  | nil => simp [ofDecimal]
  | cons code rest ih =>
    have bounds := numeric code List.mem_cons_self
    have later := ih fun other member => numeric other (List.mem_cons_of_mem _ member)
    have first : ofDecimal [code] = code - 48 := by simp [ofDecimal]
    rw [← List.singleton_append, ofDecimal_append, first, Nat.add_eq_zero_iff, later,
      Nat.mul_eq_zero, List.singleton_append, List.forall_mem_cons]
    have positive : 10 ^ rest.length ≠ 0 := by positivity
    simp only [positive, or_false]
    exact and_congr_left' ⟨fun zero => by omega, fun zero => by omega⟩

def value (integer fraction : Text) : Rat :=
  ofDecimal (integer ++ fraction) / 10 ^ fraction.length

def IsMultiple (number : Rat) (decimals : Nat) : Prop :=
  ∃ count : Int, number = count / 10 ^ decimals

theorem value_split (integer fraction rest : Text) :
    value integer (fraction ++ rest) =
      (ofDecimal (integer ++ fraction) * 10 ^ rest.length + ofDecimal rest) /
        (10 ^ fraction.length * 10 ^ rest.length) := by
  rw [value, ← List.append_assoc, ofDecimal_append, List.length_append, pow_add]
  push_cast
  rfl

theorem isMultiple_iff {integer fraction : Text} (numeric : Digits fraction) (decimals : Nat) :
    IsMultiple (value integer fraction) decimals ↔ ∀ code ∈ fraction.drop decimals, code = 48 := by
  rcases Nat.le_total fraction.length decimals with short | long
  · rw [List.drop_eq_nil_of_le short]
    refine iff_of_true ?_ (by simp)
    refine ⟨ofDecimal (integer ++ fraction) * 10 ^ (decimals - fraction.length), ?_⟩
    have places : (10 : Rat) ^ decimals =
        10 ^ fraction.length * 10 ^ (decimals - fraction.length) := by
      rw [← pow_add, Nat.add_sub_cancel' short]
    rw [value, places]
    push_cast
    field_simp
  · have tail : Digits (fraction.drop decimals) := fun code member =>
      numeric code (List.mem_of_mem_drop member)
    rw [← ofDecimal_eq_zero tail]
    have below := ofDecimal_lt tail
    have counted : (fraction.take decimals).length = decimals := by
      rw [List.length_take, Nat.min_eq_left long]
    conv_lhs => rw [← List.take_append_drop decimals fraction, IsMultiple, value_split, counted]
    generalize ofDecimal (integer ++ fraction.take decimals) = whole
    generalize ofDecimal (fraction.drop decimals) = left at below ⊢
    generalize (fraction.drop decimals).length = places at below ⊢
    constructor
    · intro ⟨count, same⟩
      have scaled : (whole : Int) * 10 ^ places + left = 10 ^ places * count := by
        field_simp at same
        exact_mod_cast same
      have divides : (10 : Int) ^ places ∣ left := ⟨count - whole, by linear_combination scaled⟩
      exact Nat.eq_zero_of_dvd_of_lt (by exact_mod_cast divides) below
    · intro zero
      subst zero
      refine ⟨whole, ?_⟩
      push_cast
      field_simp
      ring

theorem exact_iff_isMultiple {number : Rat} {rounded : Int} {decimals : Nat}
    (near : |(rounded : Rat) - number * 10 ^ decimals| < 1) :
    number = rounded / 10 ^ decimals ↔ IsMultiple number decimals := by
  constructor
  · intro exact
    exact ⟨rounded, exact⟩
  · intro ⟨count, multiple⟩
    have scaled : number * 10 ^ decimals = count := by
      rw [multiple]
      field_simp
    rw [scaled] at near
    have close : |rounded - count| < 1 := by exact_mod_cast near
    rw [multiple, sub_eq_zero.mp (Int.abs_lt_one_iff.mp close)]

-- A quotient rounded to the nearest, half a unit going up.
theorem quotient_near {amount places : Nat} (positive : 0 < places) :
    |(((2 * amount + places) / (2 * places) : Nat) : Rat) - amount / places| < 1 := by
  have above := @Nat.lt_div_mul_add (2 * amount + places) _ (Nat.mul_pos two_pos positive)
  have below := Nat.div_mul_le_self (2 * amount + places) (2 * places)
  generalize (2 * amount + places) / (2 * places) = units at above below ⊢
  have above : 2 * (amount : Rat) + places < units * (2 * places) + 2 * places := by
    exact_mod_cast above
  have below : (units : Rat) * (2 * places) ≤ 2 * amount + places := by exact_mod_cast below
  have positive : 0 < (places : Rat) := by exact_mod_cast positive
  rw [abs_lt]
  constructor
  · have upper : (amount : Rat) / places < units + 1 := by
      rw [div_lt_iff₀ positive]
      linarith
    linarith
  · have lower : (units : Rat) - 1 < amount / places := by
      rw [lt_div_iff₀ positive]
      linarith
    linarith

end FlareStudio.FixedPoint
