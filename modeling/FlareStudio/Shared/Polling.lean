import Mathlib.Data.List.Chain
import Mathlib.Logic.Function.Iterate
import Mathlib.Tactic.Linarith

set_option autoImplicit false

namespace FlareStudio.Polling

variable {A : Type}

inductive Outcome (A : Type) where
  | accepted (answer : A)
  | expired (last : Option A)
deriving DecidableEq

/-- How it ends, and when the questions were asked. A question asked at `now` is asked again at
`again now`. -/
def poll (answer : Nat → A) (again : Nat → Nat) (accepts : A → Bool) (deadline : Nat) :
    Nat → Nat → Option A → Option (Outcome A × List Nat)
  | 0, _, _ => none
  | fuel + 1, now, last =>
    if now < deadline then
      if accepts (answer now) then some (.accepted (answer now), [now])
      else (poll answer again accepts deadline fuel (again now) (some (answer now))).map
        fun ended => (ended.1, now :: ended.2)
    else some (.expired last, [])

variable {answer : Nat → A} {again : Nat → Nat} {accepts : A → Bool} {deadline now fuel : Nat}
  {last : Option A}

def times (again : Nat → Nat) (now : Nat) : Nat → List Nat
  | 0 => []
  | count + 1 => now :: times again (again now) count

def Unanswered (answer : Nat → A) (again : Nat → Nat) (accepts : A → Bool) (deadline now : Nat)
    (count : Nat) : Prop :=
  ∀ index < count, again^[index] now < deadline ∧ accepts (answer (again^[index] now)) = false

theorem unanswered_succ {count : Nat} :
    Unanswered answer again accepts deadline now (count + 1) ↔
      (now < deadline ∧ accepts (answer now) = false) ∧
        Unanswered answer again accepts deadline (again now) count := by
  constructor
  · intro all
    exact ⟨all 0 (by omega), fun index small => all (index + 1) (by omega)⟩
  · rintro ⟨first, rest⟩ index small
    cases index with
    | zero => exact first
    | succ index => exact rest index (by omega)

theorem poll_accepted {count : Nat} (before : Unanswered answer again accepts deadline now count)
    (inTime : again^[count] now < deadline) (answered : accepts (answer (again^[count] now)) = true)
    (enough : count < fuel) :
    poll answer again accepts deadline fuel now last =
      some (.accepted (answer (again^[count] now)), times again now (count + 1)) := by
  induction count generalizing now fuel last with
  | zero =>
    obtain ⟨fuel, rfl⟩ := Nat.exists_eq_add_of_lt enough
    have here : now < deadline := inTime
    have hit : accepts (answer now) = true := answered
    simp [poll, here, hit, times]
  | succ count ih =>
    obtain ⟨fuel, rfl⟩ : ∃ less, fuel = less + 1 := ⟨fuel - 1, by omega⟩
    obtain ⟨⟨here, miss⟩, rest⟩ := unanswered_succ.mp before
    rw [poll, if_pos here, miss, if_neg Bool.false_ne_true, ih rest inTime answered (by omega)]
    rfl

def lastAnswer (answer : Nat → A) (again : Nat → Nat) (now : Nat) (last : Option A) :
    Nat → Option A
  | 0 => last
  | count + 1 => some (answer (again^[count] now))

theorem poll_expired {count : Nat} (before : Unanswered answer again accepts deadline now count)
    (late : deadline ≤ again^[count] now) (enough : count < fuel) :
    poll answer again accepts deadline fuel now last =
      some (.expired (lastAnswer answer again now last count), times again now count) := by
  induction count generalizing now fuel last with
  | zero =>
    obtain ⟨fuel, rfl⟩ := Nat.exists_eq_add_of_lt enough
    have here : ¬ now < deadline := not_lt.mpr late
    simp [poll, here, times, lastAnswer]
  | succ count ih =>
    obtain ⟨fuel, rfl⟩ : ∃ less, fuel = less + 1 := ⟨fuel - 1, by omega⟩
    obtain ⟨⟨here, miss⟩, rest⟩ := unanswered_succ.mp before
    rw [poll, if_pos here, miss, if_neg Bool.false_ne_true, ih rest late (by omega)]
    cases count <;> rfl

section Advancing

variable {interval : Nat} (advances : ∀ now, now + interval ≤ again now)

include advances

theorem iterate_advances (count : Nat) : now + count * interval ≤ again^[count] now := by
  induction count generalizing now with
  | zero => simp
  | succ count ih =>
    have step := advances now
    have later := @ih (again now)
    rw [Function.iterate_succ_apply]
    linarith

/-- Polling comes to an end after no more questions than there are intervals. -/
theorem poll_ends (positive : 0 < interval) :
    ∃ count ≤ (deadline - now + interval - 1) / interval,
      Unanswered answer again accepts deadline now count ∧
      (deadline ≤ again^[count] now ∨ again^[count] now < deadline ∧
        accepts (answer (again^[count] now)) = true) := by
  let stops (count : Nat) : Prop :=
    deadline ≤ again^[count] now ∨ accepts (answer (again^[count] now)) = true
  let bound := (deadline - now + interval - 1) / interval
  have late : stops bound := by
    have whole : interval * bound + (deadline - now + interval - 1) % interval =
        deadline - now + interval - 1 := Nat.div_add_mod _ _
    have rest : (deadline - now + interval - 1) % interval < interval := Nat.mod_lt _ positive
    have reached : now + bound * interval ≤ again^[bound] now := iterate_advances advances bound
    rw [Nat.mul_comm] at reached
    left
    omega
  have some : ∃ count, stops count := ⟨bound, late⟩
  classical
  refine ⟨Nat.find some, Nat.find_min' some late, ?_, ?_⟩
  · intro index small
    have goes := Nat.find_min some small
    simpa [stops] using goes
  · by_cases inTime : again^[Nat.find some] now < deadline
    · have stopped : stops (Nat.find some) := Nat.find_spec some
      exact .inr ⟨inTime, stopped.resolve_left (by omega)⟩
    · exact .inl (by omega)

end Advancing

end FlareStudio.Polling
