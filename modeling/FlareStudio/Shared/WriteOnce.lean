import Mathlib

set_option autoImplicit false

-- A store from keys to values where a value that counts as held is never written over. A history
-- lists the events that were accepted, of which some write a key.

namespace FlareStudio.WriteOnce

variable {K V T : Type} [DecidableEq K]

structure Register (K V T : Type) where
  writes : T → Option (K × V)
  held : V → Bool

def Register.sets (register : Register K V T) (key : K) (event : T) : Bool :=
  match register.writes event with
  | some (target, value) => decide (target = key) && register.held value
  | none => false

def Register.first (register : Register K V T) (log : List T) (key : K) : Option T :=
  log.find? (register.sets key)

def Register.written (register : Register K V T) (log : List T) (key : K) : List V :=
  log.filterMap fun event =>
    match register.writes event with
    | some (target, value) => if target = key then some value else none
    | none => none

inductive Run (register : Register K V T) (initial : K → V) : List T → (K → V) → Prop
  | start : Run register initial [] initial
  | write {log : List T} {store : K → V} {event : T} {key : K} {value : V}
      (run : Run register initial log store) (free : register.held (store key) = false)
      (writes : register.writes event = some (key, value)) :
      Run register initial (log ++ [event]) (Function.update store key value)
  | other {log : List T} {store : K → V} {event : T}
      (run : Run register initial log store) (writes : register.writes event = none) :
      Run register initial (log ++ [event]) store

variable {register : Register K V T} {initial store : K → V} {log : List T}

theorem Register.first_append (register : Register K V T) (log : List T) (event : T) (key : K) :
    register.first (log ++ [event]) key =
      (register.first log key).or (if register.sets key event then some event else none) := by
  by_cases sets : register.sets key event <;> simp [Register.first, sets]

/-- Whatever the order of the writes, the value held for a key is the first one to be accepted
for it, and no value is held while none was. -/
theorem Run.first_holds (run : Run register initial log store) (key : K)
    (empty : register.held (initial key) = false) :
    match register.first log key with
    | some event => register.writes event = some (key, store key)
    | none => register.held (store key) = false := by
  induction run with
  | start => exact empty
  | @write log store event target value _ free writes ih =>
    rw [Register.first_append]
    by_cases here : key = target
    · subst here
      have none : register.first log key = none := by
        cases found : register.first log key with
        | none => rfl
        | some earlier =>
          rw [found] at ih
          have sets : register.sets key earlier = true := List.find?_some found
          have held : register.held (store key) = true := by
            simpa [Register.sets, ih] using sets
          rw [held] at free
          cases free
      have sets : register.sets key event = register.held value := by
        simp [Register.sets, writes]
      rw [none, Option.none_or, sets, Function.update_self]
      by_cases holds : register.held value = true
      · simpa [holds] using writes
      · simp [holds]
    · have sets : register.sets key event = false := by
        simp [Register.sets, writes, Ne.symm here]
      rw [sets, Function.update_of_ne here]
      simpa using ih
  | @other log store event _ writes ih =>
    have sets : register.sets key event = false := by simp [Register.sets, writes]
    rw [Register.first_append, sets]
    simpa using ih

theorem Run.written_once (run : Run register initial log store) (key : K)
    (each : ∀ value ∈ register.written log key, register.held value = true) :
    (register.written log key = [] ∧ store key = initial key) ∨
      register.written log key = [store key] := by
  induction run with
  | start => exact .inl ⟨rfl, rfl⟩
  | @write log store event target value _ free writes ih =>
    by_cases here : target = key
    · subst here
      have last : register.written (log ++ [event]) target =
          register.written log target ++ [value] := by
        simp [Register.written, writes]
      rw [last] at each ⊢
      rcases ih fun value member => each value (List.mem_append_left _ member) with
        ⟨none, -⟩ | once
      · right
        rw [none, Function.update_self, List.nil_append]
      · have held : register.held (store target) = true := by
          apply each
          rw [once]
          simp
        rw [held] at free
        cases free
    · have same : register.written (log ++ [event]) key = register.written log key := by
        simp [Register.written, writes, here]
      rw [same] at each ⊢
      rw [Function.update_of_ne (Ne.symm here)]
      exact ih each
  | @other log store event _ writes ih =>
    have same : register.written (log ++ [event]) key = register.written log key := by
      simp [Register.written, writes]
    rw [same] at each ⊢
    exact ih each

end FlareStudio.WriteOnce
