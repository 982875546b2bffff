import FlareStudio.Shared.Bytes

set_option autoImplicit false

namespace FlareStudio.Checked

variable {ε α β : Type}

def require (condition : Prop) [Decidable condition] (error : ε) : Except ε Unit :=
  if condition then .ok () else .error error

def ofOption (error : ε) : Option α → Except ε α
  | some value => .ok value
  | none => .error error

theorem bind_reaches {first : Except ε α} {next : α → Except ε β} {result : β} :
    (first >>= next) = .ok result ↔ ∃ value, first = .ok value ∧ next value = .ok result := by
  rcases first with error | value <;> simp [bind, Except.bind]

@[simp]
theorem require_reaches {condition : Prop} [Decidable condition] {error : ε}
    {next : Unit → Except ε β} {result : β} :
    (require condition error >>= next) = .ok result ↔ condition ∧ next () = .ok result := by
  by_cases holds : condition <;> simp [require, holds, bind, Except.bind]

@[simp]
theorem ofOption_reaches {error : ε} {found : Option α} {next : α → Except ε β} {result : β} :
    (ofOption error found >>= next) = .ok result ↔
      ∃ value, found = some value ∧ next value = .ok result := by
  cases found <;> simp [bind_reaches, ofOption]

theorem map_eq_ok {first : Except ε α} {change : α → β} {result : β}
    (mapped : first.map change = .ok result) : ∃ value, first = .ok value ∧ change value = result := by
  cases first with
  | ok value => exact ⟨value, rfl, Except.ok.inj mapped⟩
  | error error => cases mapped

section Failure

-- What a computation that fails fails with.
def Refuses (result : Except ε α) (reason : ε → Prop) : Prop :=
  ∀ error, result = .error error → reason error

variable {reason : ε → Prop} {error : ε}

@[simp]
theorem refuses_ok {value : α} : Refuses (.ok value : Except ε α) reason := by
  intro error failed
  cases failed

@[simp]
theorem refuses_require {condition : Prop} [Decidable condition] {next : Unit → Except ε β} :
    Refuses (require condition error >>= next) reason ↔
      (¬ condition → reason error) ∧ (condition → Refuses (next ()) reason) := by
  by_cases holds : condition <;> simp [Refuses, require, holds, bind, Except.bind]

@[simp]
theorem refuses_ofOption {found : Option α} {next : α → Except ε β} :
    Refuses (ofOption error found >>= next) reason ↔
      (found = none → reason error) ∧
        ∀ value, found = some value → Refuses (next value) reason := by
  cases found <;> simp [Refuses, ofOption, bind, Except.bind]

end Failure

-- The panic code of an arithmetic overflow or underflow is 0x11, that of a division by zero 0x12.
def add64 (panic : Nat → ε) (a b : UInt64) : Except ε UInt64 := do
  require (a.toNat + b.toNat < 2 ^ 64) (panic 0x11)
  .ok (a + b)

def sub64 (panic : Nat → ε) (a b : UInt64) : Except ε UInt64 := do
  require (b ≤ a) (panic 0x11)
  .ok (a - b)

def mod64 (panic : Nat → ε) (a b : UInt64) : Except ε UInt64 := do
  require (b ≠ 0) (panic 0x12)
  .ok (a % b)

section Arithmetic

variable {panic : Nat → ε} {a b : UInt64} {next : UInt64 → Except ε β} {result : β}

@[simp]
theorem add64_reaches : (add64 panic a b >>= next) = .ok result ↔
    a.toNat + b.toNat < 2 ^ 64 ∧ next (a + b) = .ok result := by
  by_cases fits : a.toNat + b.toNat < 2 ^ 64 <;>
    simp [-Nat.reducePow, add64, require, fits, bind, Except.bind]

@[simp]
theorem sub64_reaches : (sub64 panic a b >>= next) = .ok result ↔
    b ≤ a ∧ next (a - b) = .ok result := by
  by_cases fits : b ≤ a <;> simp [sub64, require, fits, bind, Except.bind]

@[simp]
theorem mod64_reaches : (mod64 panic a b >>= next) = .ok result ↔
    b ≠ 0 ∧ next (a % b) = .ok result := by
  by_cases fits : b ≠ 0 <;> simp [mod64, require, fits, bind, Except.bind]

theorem toNat_add_of_fits (fits : a.toNat + b.toNat < 2 ^ 64) :
    (a + b).toNat = a.toNat + b.toNat := by
  rw [UInt64.toNat_add, Nat.mod_eq_of_lt fits]

@[simp]
theorem refuses_add64 {reason : ε → Prop} : Refuses (add64 panic a b >>= next) reason ↔
    (¬ a.toNat + b.toNat < 2 ^ 64 → reason (panic 0x11)) ∧
      (a.toNat + b.toNat < 2 ^ 64 → Refuses (next (a + b)) reason) := by
  by_cases fits : a.toNat + b.toNat < 2 ^ 64 <;>
    simp [-Nat.reducePow, Refuses, add64, require, fits, bind, Except.bind]

@[simp]
theorem refuses_sub64 {reason : ε → Prop} : Refuses (sub64 panic a b >>= next) reason ↔
    (¬ b ≤ a → reason (panic 0x11)) ∧ (b ≤ a → Refuses (next (a - b)) reason) := by
  by_cases fits : b ≤ a <;> simp [Refuses, sub64, require, fits, bind, Except.bind]

@[simp]
theorem refuses_mod64 {reason : ε → Prop} : Refuses (mod64 panic a b >>= next) reason ↔
    (¬ b ≠ 0 → reason (panic 0x12)) ∧ (b ≠ 0 → Refuses (next (a % b)) reason) := by
  by_cases fits : b ≠ 0 <;> simp [Refuses, mod64, require, fits, bind, Except.bind]

end Arithmetic

end FlareStudio.Checked
