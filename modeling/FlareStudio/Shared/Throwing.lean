import Mathlib

set_option autoImplicit false

namespace FlareStudio.Throwing

variable {ε σ α β : Type}

def Ends (program : EStateM ε σ α) (state : σ) (returns : α → σ → Prop) (throws : ε → σ → Prop) :
    Prop :=
  match program.run state with
  | .ok value final => returns value final
  | .error error final => throws error final

-- The same of the state that is left, whichever way.
def Leaves (program : EStateM ε σ α) (state : σ) (final : σ → Prop) : Prop :=
  Ends program state (fun _ => final) (fun _ => final)

def left : EStateM.Result ε σ α → σ
  | .ok _ final => final
  | .error _ final => final

variable {state : σ} {returns : α → σ → Prop} {throws : ε → σ → Prop}

@[simp]
theorem ends_pure {value : α} :
    Ends (pure value : EStateM ε σ α) state returns throws ↔ returns value state := Iff.rfl

@[simp]
theorem ends_throw {error : ε} :
    Ends (throw error : EStateM ε σ α) state returns throws ↔ throws error state := Iff.rfl

@[simp]
theorem ends_modify {change : σ → σ} {returns : Unit → σ → Prop} :
    Ends (modify change : EStateM ε σ Unit) state returns throws ↔ returns () (change state) :=
  Iff.rfl

@[simp]
theorem ends_get {returns : σ → σ → Prop} :
    Ends (get : EStateM ε σ σ) state returns throws ↔ returns state state := Iff.rfl

@[simp]
theorem ends_set {final : σ} {returns : PUnit → σ → Prop} :
    Ends (set final : EStateM ε σ PUnit) state returns throws ↔ returns ⟨⟩ final := Iff.rfl

@[simp]
theorem ends_ofExcept {result : Except ε α} :
    Ends (MonadExcept.ofExcept result : EStateM ε σ α) state returns throws ↔
      (∀ value, result = .ok value → returns value state) ∧
        ∀ error, result = .error error → throws error state := by
  cases result <;> simp [MonadExcept.ofExcept]

@[simp]
theorem ends_ofExcept_ok {value : α} :
    Ends (MonadExcept.ofExcept (.ok value) : EStateM ε σ α) state returns throws ↔
      returns value state := Iff.rfl

@[simp]
theorem ends_ofExcept_error {error : ε} :
    Ends (MonadExcept.ofExcept (.error error) : EStateM ε σ α) state returns throws ↔
      throws error state := Iff.rfl

@[simp]
theorem ends_bind {program : EStateM ε σ α} {next : α → EStateM ε σ β}
    {returns : β → σ → Prop} :
    Ends (program >>= next) state returns throws ↔
      Ends program state (fun value => (Ends (next value) · returns throws)) throws := by
  unfold Ends
  change (match EStateM.bind program next state with | .ok .. => _ | .error .. => _) ↔ _
  rw [EStateM.bind]
  simp only [EStateM.run]
  cases program state <;> rfl

theorem run_tryCatch {program : EStateM ε σ α} {handler : ε → EStateM ε σ α} :
    (tryCatch program handler).run state =
      match program.run state with
      | .ok value final => .ok value final
      | .error error final => (handler error).run final := by
  change EStateM.tryCatch program handler state = _
  rw [EStateM.tryCatch]
  simp only [EStateM.run]
  cases program state <;> rfl

@[simp]
theorem ends_tryCatch {program : EStateM ε σ α} {handler : ε → EStateM ε σ α} :
    Ends (tryCatch program handler) state returns throws ↔
      Ends program state returns (fun error => (Ends (handler error) · returns throws)) := by
  unfold Ends
  change (match EStateM.tryCatch program handler state with | .ok .. => _ | .error .. => _) ↔ _
  rw [EStateM.tryCatch]
  simp only [EStateM.run]
  cases program state <;> rfl

theorem Ends.mono {program : EStateM ε σ α} (ends : Ends program state returns throws)
    {returns' : α → σ → Prop} {throws' : ε → σ → Prop}
    (returned : ∀ value final, returns value final → returns' value final)
    (thrown : ∀ error final, throws error final → throws' error final) :
    Ends program state returns' throws' := by
  unfold Ends at ends ⊢
  cases ran : program.run state with
  | ok value final => exact returned value final (by simpa [ran] using ends)
  | error error final => exact thrown error final (by simpa [ran] using ends)

theorem Ends.bind {program : EStateM ε σ α} (ends : Ends program state returns throws)
    {next : α → EStateM ε σ β} {returns' : β → σ → Prop}
    (then_ends : ∀ value final, returns value final → Ends (next value) final returns' throws) :
    Ends (program >>= next) state returns' throws :=
  ends_bind.mpr (ends.mono then_ends fun _ _ thrown => thrown)

theorem Ends.and {program : EStateM ε σ α} (first : Ends program state returns throws)
    {returns' : α → σ → Prop} {throws' : ε → σ → Prop}
    (second : Ends program state returns' throws') :
    Ends program state (fun value final => returns value final ∧ returns' value final)
      (fun error final => throws error final ∧ throws' error final) := by
  unfold Ends at first second ⊢
  cases ran : program.run state with
  | ok value final =>
    rw [ran] at first second
    exact ⟨first, second⟩
  | error error final =>
    rw [ran] at first second
    exact ⟨first, second⟩

theorem run_eq_ok {program : EStateM ε σ α} {value : α} {final : σ} :
    program.run state = .ok value final ↔
      Ends program state (fun value' final' => value' = value ∧ final' = final)
        (fun _ _ => False) := by
  unfold Ends
  cases program.run state <;> simp

theorem leaves_iff {program : EStateM ε σ α} {holds : σ → Prop} :
    Leaves program state holds ↔ holds (left (program.run state)) := by
  unfold Leaves Ends left
  cases program.run state <;> rfl

end FlareStudio.Throwing
