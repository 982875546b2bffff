import Mathlib.Data.List.Basic
import Mathlib.Data.List.Nodup

set_option autoImplicit false

-- A list of steps is tried again after a failure. What is done is written down, and a step that
-- is written down is not taken again, so any number of attempts are one attempt that had the
-- answers of the steps that succeeded.

namespace FlareStudio.Journal

variable {K E A S : Type} [DecidableEq K]

/-- Tries the steps in order, the done ones left out, up to the first that fails. -/
def attempt (done : S → List K) (ask : K → S → Except E A) (perform : K → A → S → S) :
    List K → S → Except E Unit × S
  | [], s => (.ok (), s)
  | k :: rest, s =>
    if k ∈ done s then attempt done ask perform rest s
    else match ask k s with
      | .error e => (.error e, s)
      | .ok a => attempt done ask perform rest (perform k a s)

variable {done : S → List K} {ask first second : K → S → Except E A} {perform : K → A → S → S}
  {k : K} {s : S}

section Cases

theorem attempt_skip (taken : k ∈ done s) (rest : List K) :
    attempt done ask perform (k :: rest) s = attempt done ask perform rest s := by
  rw [attempt, if_pos taken]

theorem attempt_fail {e : E} (fresh : k ∉ done s) (asked : ask k s = .error e)
    (rest : List K) : attempt done ask perform (k :: rest) s = (.error e, s) := by
  rw [attempt, if_neg fresh, asked]

theorem attempt_take {a : A} (fresh : k ∉ done s) (asked : ask k s = .ok a)
    (rest : List K) : attempt done ask perform (k :: rest) s =
      attempt done ask perform rest (perform k a s) := by
  rw [attempt, if_neg fresh, asked]

end Cases

theorem attempt_append (before after : List K) :
    attempt done ask perform (before ++ after) s =
      match attempt done ask perform before s with
      | (.ok (), later) => attempt done ask perform after later
      | (.error e, later) => (.error e, later) := by
  induction before generalizing s with
  | nil => rfl
  | cons k rest ih =>
    rw [List.cons_append]
    by_cases taken : k ∈ done s
    · rw [attempt_skip taken, attempt_skip taken, ih]
    · cases asked : ask k s with
      | error e => rw [attempt_fail taken asked, attempt_fail taken asked]
      | ok a => rw [attempt_take taken asked, attempt_take taken asked, ih]

theorem attempt_invariant (holds : S → Prop) {steps : List K}
    (kept : ∀ k ∈ steps, ∀ s a, holds s → k ∉ done s → ask k s = .ok a → holds (perform k a s))
    (start : holds s) : holds (attempt done ask perform steps s).2 := by
  induction steps generalizing s with
  | nil => exact start
  | cons k rest ih =>
    rw [List.forall_mem_cons] at kept
    by_cases taken : k ∈ done s
    · rw [attempt_skip taken]
      exact ih kept.2 start
    · cases asked : ask k s with
      | error e =>
        rw [attempt_fail taken asked]
        exact start
      | ok a =>
        rw [attempt_take taken asked]
        exact ih kept.2 (kept.1 s a start taken asked)

section Written

variable (writes : ∀ k a s, done (perform k a s) = done s ++ [k])

include writes

theorem attempt_extends (steps : List K) :
    done s <+: done (attempt done ask perform steps s).2 := by
  refine attempt_invariant (fun later => done s <+: done later) ?_ (List.prefix_refl _)
  intro k member later a longer fresh asked
  rw [writes]
  exact longer.trans (List.prefix_append _ _)

theorem attempt_congr {steps : List K} (same : ∀ k ∉ done s, first k = second k) :
    attempt done first perform steps s = attempt done second perform steps s := by
  induction steps generalizing s with
  | nil => rfl
  | cons k rest ih =>
    by_cases taken : k ∈ done s
    · rw [attempt_skip taken, attempt_skip taken, ih same]
    · cases asked : second k s with
      | error e => rw [attempt_fail taken (same k taken ▸ asked), attempt_fail taken asked]
      | ok a =>
        rw [attempt_take taken (same k taken ▸ asked), attempt_take taken asked]
        refine ih fun other fresh => same other fun old => ?_
        rw [writes] at fresh
        exact fresh (List.mem_append_left _ old)

end Written

section Programs

variable {α β : Type}

/-- The program takes the steps and, if none fails, returns the value of the state they leave. -/
def Attempts (done : S → List K) (ask : K → S → Except E A) (perform : K → A → S → S)
    (program : EStateM E S α) (steps : List K) (value : S → α) (s : S) : Prop :=
  program.run s =
    match attempt done ask perform steps s with
    | (.ok (), later) => .ok (value later) later
    | (.error e, later) => .error e later

theorem Attempts.bind {program : EStateM E S α} {next : α → EStateM E S β} {before after : List K}
    {value : S → α} {value' : S → β} (first : Attempts done ask perform program before value s)
    (second : ∀ later, Attempts done ask perform (next (value later)) after value' later) :
    Attempts done ask perform (program >>= next) (before ++ after) value' s := by
  unfold Attempts at first second ⊢
  change EStateM.bind program next s = _
  change program s = _ at first
  rw [EStateM.bind, first, attempt_append]
  match attempt done ask perform before s with
  | (.ok (), later) => exact second later
  | (.error e, later) => rfl

end Programs

/-- The answers of the first attempt to the steps it did, and else those of the second. -/
def merge (taken : List K) (first second : K → S → Except E A) (k : K) : S → Except E A :=
  if k ∈ taken then first k else second k

theorem attempt_again (writes : ∀ k a s, done (perform k a s) = done s ++ [k]) (steps : List K) :
    attempt done second perform steps (attempt done first perform steps s).2 =
      attempt done (merge (done (attempt done first perform steps s).2) first second) perform steps
        s := by
  induction steps generalizing s with
  | nil => rfl
  | cons k rest ih =>
    by_cases taken : k ∈ done s
    · rw [attempt_skip taken, attempt_skip taken,
        attempt_skip ((attempt_extends writes rest).subset taken)]
      exact ih
    · cases asked : first k s with
      | error e =>
        rw [attempt_fail taken asked]
        apply attempt_congr writes
        intro other fresh
        rw [merge, if_neg fresh]
      | ok a =>
        have here : k ∈ done (attempt done first perform rest (perform k a s)).2 := by
          apply (attempt_extends writes rest).subset
          simp [writes]
        have merged : merge (done (attempt done first perform rest (perform k a s)).2) first second
            k s = .ok a := by
          rw [merge, if_pos here, asked]
        rw [attempt_take taken asked, attempt_skip here, attempt_take taken merged]
        exact ih

end FlareStudio.Journal
