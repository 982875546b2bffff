import FlareStudio.Shared.Bytes

set_option autoImplicit false

-- What Solidity makes of the ways a call can end. A try statement catches a revert of the
-- callee. That there is no code to call, or that the return data do not decode, is found by the
-- caller itself and reverts there, with no data.

namespace FlareStudio.ExternalCall

variable {α β : Type}

inductive Callee where
  | noCode
  | reverts (data : Bytes)
  | returns (data : Bytes)
deriving DecidableEq

-- try callee.f() returns (value) { success } catch { caught }, failing with the revert data.
def tryCall (decode : Bytes → Option α) (callee : Callee) (success : α → Except Bytes β)
    (caught : Except Bytes β) : Except Bytes β :=
  match callee with
  | .noCode => .error []
  | .reverts _ => caught
  | .returns data =>
    match decode data with
    | some value => success value
    | none => .error []

def Callee.Settles (decode : Bytes → Option α) : Callee → Prop
  | .noCode => False
  | .reverts _ => True
  | .returns data => (decode data).isSome

def Callee.Gives (decode : Bytes → Option α) (callee : Callee) (value : α) : Prop :=
  ∃ data, callee = .returns data ∧ decode data = some value

theorem tryCall_ok_iff {decode : Bytes → Option α} {callee : Callee} {success : α → β}
    {caught : β} : (∃ result, tryCall decode callee (fun value => .ok (success value))
      (.ok caught) = .ok result) ↔ callee.Settles decode := by
  cases callee with
  | noCode => simp [tryCall, Callee.Settles]
  | reverts data => simp [tryCall, Callee.Settles]
  | returns data =>
    cases decoded : decode data <;> simp [tryCall, Callee.Settles, decoded]

theorem tryCall_test {decode : Bytes → Option α} {callee : Callee} {test : α → Bool}
    {result : Bool} (settled : tryCall decode callee (fun value => .ok (test value)) (.ok false) =
      .ok result) : result = true ↔ ∃ value, callee.Gives decode value ∧ test value = true := by
  cases callee with
  | noCode => cases settled
  | reverts data =>
    cases settled
    simp [Callee.Gives]
  | returns data =>
    cases decoded : decode data with
    | none => simp [tryCall, decoded] at settled
    | some value =>
      have same : test value = result := by simpa [tryCall, decoded] using settled
      simp [Callee.Gives, decoded, same]

end FlareStudio.ExternalCall
