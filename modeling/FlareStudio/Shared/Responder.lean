import Mathlib.Data.List.Basic
import Mathlib.Logic.Function.Basic

set_option autoImplicit false

namespace FlareStudio.Responder

variable {S I O : Type}

def outputs (step : S → I → O × S) : S → List I → List O
  | _, [] => []
  | s, i :: rest => (step s i).1 :: outputs step (step s i).2 rest

def final (step : S → I → O × S) : S → List I → S
  | s, [] => s
  | s, i :: rest => final step (step s i).2 rest

@[simp]
theorem final_append (step : S → I → O × S) (s : S) (first second : List I) :
    final step s (first ++ second) = final step (final step s first) second := by
  induction first generalizing s with
  | nil => rfl
  | cons i rest ih => exact ih _

theorem outputs_append (step : S → I → O × S) (s : S) (first second : List I) :
    outputs step s (first ++ second) =
      outputs step s first ++ outputs step (final step s first) second := by
  induction first generalizing s with
  | nil => rfl
  | cons i rest ih => exact congrArg _ (ih _)

@[simp]
theorem length_outputs (step : S → I → O × S) (s : S) (is : List I) :
    (outputs step s is).length = is.length := by
  induction is generalizing s with
  | nil => rfl
  | cons i rest ih => simp [outputs, ih]

section Pair

variable {K : Type} {step : S → I → O × S} {left right : K → I} {allowed : S → S → K → Prop}
  {related : S → S → Prop}

/-- Every step of the two runs is one that is allowed where the runs then are. -/
def Lockstep (step : S → I → O × S) (left right : K → I) (allowed : S → S → K → Prop) :
    S → S → List K → Prop
  | _, _, [] => True
  | s, s', k :: rest =>
    allowed s s' k ∧ Lockstep step left right allowed (step s (left k)).2 (step s' (right k)).2 rest

theorem Lockstep.takeWhile {s s' : S} {ks : List K} (keep : K → Bool)
    (lockstep : Lockstep step left right allowed s s' ks) :
    Lockstep step left right allowed s s' (ks.takeWhile keep) := by
  induction ks generalizing s s' with
  | nil => trivial
  | cons k rest ih =>
    cases kept : keep k with
    | false => simp [kept, Lockstep]
    | true =>
      rw [List.takeWhile_cons_of_pos kept]
      exact ⟨lockstep.1, ih lockstep.2⟩

theorem Lockstep.imp {other : S → S → K → Prop} {s s' : S} {ks : List K}
    (lockstep : Lockstep step left right allowed s s' ks)
    (implies : ∀ k ∈ ks, ∀ s s', allowed s s' k → other s s' k) :
    Lockstep step left right other s s' ks := by
  induction ks generalizing s s' with
  | nil => trivial
  | cons k rest ih =>
    have later := ih lockstep.2 fun k member => implies k (List.mem_cons_of_mem _ member)
    exact ⟨implies k List.mem_cons_self s s' lockstep.1, later⟩

theorem Lockstep.outputs_eq
    (preserved : ∀ s s' k, related s s' → allowed s s' k →
      (step s (left k)).1 = (step s' (right k)).1 ∧
        related (step s (left k)).2 (step s' (right k)).2)
    {s s' : S} {ks : List K} (start : related s s')
    (lockstep : Lockstep step left right allowed s s' ks) :
    outputs step s (ks.map left) = outputs step s' (ks.map right) := by
  induction ks generalizing s s' with
  | nil => rfl
  | cons k rest ih =>
    obtain ⟨answer, next⟩ := preserved s s' k start lockstep.1
    rw [List.map_cons, List.map_cons, outputs, outputs, answer, ih next lockstep.2]

end Pair

section Store

variable {V : Type} {step : S → I → O × S} {writes : I → Option V}

theorem read_final (read : S → Option V)
    (overwrites : ∀ s i, read (step s i).2 = (writes i).or (read s)) (s : S) (is : List I) :
    read (final step s is) = ((is.filterMap writes).getLast?).or (read s) := by
  induction is generalizing s with
  | nil => rfl
  | cons i rest ih =>
    rw [final, ih, overwrites, List.filterMap_cons]
    cases written : writes i with
    | none => rfl
    | some value =>
      simp only [List.getLast?_cons]
      cases (rest.filterMap writes).getLast? <;> rfl

theorem read_final_log {step : S → I → O × S} {writes : I × O → Option V} (read : S → V)
    (overwrites : ∀ s i, read (step s i).2 = (writes (i, (step s i).1)).getD (read s)) (s : S)
    (is : List I) : read (final step s is) =
      (((is.zip (outputs step s is)).filterMap writes).getLast?).getD (read s) := by
  induction is generalizing s with
  | nil => rfl
  | cons i rest ih =>
    rw [final, ih, overwrites, outputs, List.zip_cons_cons, List.filterMap_cons]
    cases written : writes (i, (step s i).1) with
    | none => rfl
    | some value =>
      simp only [List.getLast?_cons]
      cases ((rest.zip (outputs step (step s i).2 rest)).filterMap writes).getLast? <;> rfl

theorem count_final_log {step : S → I → O × S} {counts : I × O → Bool} (read : S → Nat)
    (adds : ∀ s i, read (step s i).2 = read s + if counts (i, (step s i).1) then 1 else 0) (s : S)
    (is : List I) : read (final step s is) =
      read s + (is.zip (outputs step s is)).countP counts := by
  induction is generalizing s with
  | nil => rfl
  | cons i rest ih =>
    rw [final, ih, adds, outputs, List.zip_cons_cons, List.countP_cons]
    omega

theorem read_final_foldl {step : S → I → O × S} {act : V → I → V} (read : S → V)
    (acts : ∀ s i, read (step s i).2 = act (read s) i) (s : S) (is : List I) :
    read (final step s is) = is.foldl act (read s) := by
  induction is generalizing s with
  | nil => rfl
  | cons i rest ih => rw [final, ih, acts, List.foldl_cons]

end Store

section Bank

variable {M : Type} [DecidableEq M]

/-- One machine of a bank handles an input that is addressed to it; the others stay as they are. -/
def handed (step : M → S → I → O × S) (states : M → S) (sent : M × I) : M → S :=
  Function.update states sent.1 (step sent.1 (states sent.1) sent.2).2

def addressedTo (machine : M) (sent : M × I) : Option I :=
  if sent.1 = machine then some sent.2 else none

theorem bank_final (step : M → S → I → O × S) (states : M → S) (sent : List (M × I))
    (machine : M) : sent.foldl (handed step) states machine =
      final (step machine) (states machine) (sent.filterMap (addressedTo machine)) := by
  induction sent generalizing states with
  | nil => rfl
  | cons first rest ih =>
    obtain ⟨target, input⟩ := first
    rw [List.foldl_cons, ih]
    by_cases same : target = machine
    · subst same
      have here : addressedTo target (target, input) = some input := if_pos rfl
      rw [List.filterMap_cons_some here, final, handed, Function.update_self]
    · have other : addressedTo machine (target, input) = none := if_neg same
      rw [List.filterMap_cons_none other, handed, Function.update_of_ne (Ne.symm same)]

end Bank

end FlareStudio.Responder
