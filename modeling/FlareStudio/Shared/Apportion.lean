import Mathlib

set_option autoImplicit false

-- Every share but the last is rounded down; the last one takes what is left. When the weights
-- add up to the whole, rounding costs less than one unit a share, so the last share is short of
-- nothing and over by less than the number of shares.

namespace FlareStudio.Apportion

variable (whole amount : Nat)

def floors (weights : List Nat) : List Nat := weights.map fun weight => amount * weight / whole

def apportion : Nat → List Nat → List Nat
  | _, [] => []
  | allocated, weight :: rest =>
    let part := if rest = [] then amount - allocated else amount * weight / whole
    part :: apportion (allocated + part) rest

theorem floors_sum_le (weights : List Nat) :
    whole * (floors whole amount weights).sum ≤ amount * weights.sum := by
  induction weights with
  | nil => simp [floors]
  | cons weight rest ih =>
    have here := Nat.mul_div_le (amount * weight) whole
    simp only [floors, List.map_cons, List.sum_cons, Nat.mul_add] at ih ⊢
    omega

variable {whole}

theorem le_floors_sum (positive : 0 < whole) (weights : List Nat) :
    amount * weights.sum + weights.length ≤
      whole * (floors whole amount weights).sum + whole * weights.length := by
  induction weights with
  | nil => simp [floors]
  | cons weight rest ih =>
    have here := Nat.div_add_mod (amount * weight) whole
    have small := Nat.mod_lt (amount * weight) positive
    simp only [floors, List.map_cons, List.sum_cons, List.length_cons, Nat.mul_add,
      Nat.mul_one] at ih ⊢
    omega

section Whole

variable {amount} {weights : List Nat} (total : weights.sum = whole) (positive : 0 < whole)
include total positive

theorem floors_le_amount : (floors whole amount weights).sum ≤ amount := by
  have bound := floors_sum_le whole amount weights
  rw [total, Nat.mul_comm amount] at bound
  exact Nat.le_of_mul_le_mul_left bound positive

theorem amount_lt_floors : amount < (floors whole amount weights).sum + weights.length := by
  have bound := le_floors_sum amount positive weights
  have some : 0 < weights.length := by
    rcases weights with _ | ⟨weight, rest⟩
    · simp only [List.sum_nil] at total
      omega
    · exact Nat.succ_pos _
  rw [total, Nat.mul_comm amount, ← Nat.mul_add] at bound
  apply Nat.lt_of_mul_lt_mul_left (a := whole)
  omega

end Whole

theorem apportion_append (initial : List Nat) (last allocated : Nat) :
    apportion whole amount allocated (initial ++ [last]) =
      floors whole amount initial ++
        [amount - (allocated + (floors whole amount initial).sum)] := by
  induction initial generalizing allocated with
  | nil => simp [apportion, floors]
  | cons weight rest ih =>
    have more : rest ++ [last] ≠ [] := by simp
    simp only [List.cons_append, apportion, if_neg more, ih, floors, List.map_cons, List.sum_cons,
      Nat.add_assoc]

theorem length_apportion (weights : List Nat) (allocated : Nat) :
    (apportion whole amount allocated weights).length = weights.length := by
  induction weights generalizing allocated with
  | nil => rfl
  | cons weight rest ih => rw [apportion, List.length_cons, ih, List.length_cons]

variable (whole) in
structure Apportioned (weights parts : List Nat) : Prop where
  rounded : parts = floors whole amount weights.dropLast ++
    [amount - (floors whole amount weights.dropLast).sum]
  within : (floors whole amount weights.dropLast).sum ≤ amount
  sum : parts.sum = amount
  last : ∀ weight part, weights.getLast? = some weight → parts.getLast? = some part →
    amount * weight / whole ≤ part ∧ part ≤ amount * weight / whole + (weights.length - 1)

theorem apportion_apportioned {weights : List Nat} (total : weights.sum = whole)
    (positive : 0 < whole) :
    Apportioned whole amount weights (apportion whole amount 0 weights) := by
  have least : (floors whole amount weights).sum ≤ amount := floors_le_amount total positive
  have most : amount < (floors whole amount weights).sum + weights.length :=
    amount_lt_floors total positive
  rcases List.eq_nil_or_concat weights with rfl | ⟨initial, last, concat⟩
  · simp only [List.sum_nil] at total
    omega
  · rw [List.concat_eq_append] at concat
    subst concat
    have split : (floors whole amount (initial ++ [last])).sum =
        (floors whole amount initial).sum + amount * last / whole := by simp [floors]
    rw [List.length_append, List.length_singleton] at most
    rw [apportion_append, Nat.zero_add]
    constructor
    · rw [List.dropLast_concat]
    · rw [List.dropLast_concat]
      generalize amount * last / whole = quota at split
      omega
    · rw [List.sum_append, List.sum_singleton]
      generalize amount * last / whole = quota at split
      omega
    · intro weight part isLast isPart
      rw [List.getLast?_concat, Option.some.injEq] at isLast isPart
      subst isLast isPart
      rw [List.length_append, List.length_singleton]
      generalize amount * last / whole = quota at split ⊢
      omega

end FlareStudio.Apportion
