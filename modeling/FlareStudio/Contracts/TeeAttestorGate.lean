import FlareStudio.Contracts.PolicyFactory
import FlareStudio.Shared.ExternalCall

set_option autoImplicit false

namespace FlareStudio

open ExternalCall

def STATUS_PRODUCTION : Nat := 2

-- The constructor rejects a zero address with ManagerNotSet.
structure TeeAttestorGate where
  teeManager : Address
  managerSet : teeManager ≠ .zero 20

namespace TeeAttestorGate

-- The return data of getTeeMachineStatus, read as a uint8.
def decodeStatus (data : Bytes) : Option Nat :=
  match Abi.decode [.uint 8] data with
  | some [.uint status] => some status
  | _ => none

-- What the contract at an address does when it is asked for a machine's status.
abbrev Managers := Address → Address → Callee

variable (gate : TeeAttestorGate) (getTeeMachineStatus : Managers) (teeId : Address)

def isAttested : Except Bytes Bool :=
  tryCall decodeStatus (getTeeMachineStatus gate.teeManager teeId)
    (fun status => .ok (decide (status = STATUS_PRODUCTION))) (.ok false)

-- The answer as the policy that asks gets it.
def answer : ConfidentialPolicy.Answer :=
  match gate.isAttested getTeeMachineStatus teeId with
  | .ok attested => .bool attested
  | .error _ => .failure

def InProduction : Prop :=
  (getTeeMachineStatus gate.teeManager teeId).Gives decodeStatus STATUS_PRODUCTION

/-- What the manager does is not lost on the gate: it reverts, or returns a word that is a uint8. -/
def Answerable : Callee → Prop
  | .noCode => False
  | .reverts _ => True
  | .returns data => 32 ≤ data.length ∧ ofBigEndian (data.take 32) < 256

open ConfidentialPolicy Reentrant in
/-- Everything but the production status is "not attested", here and in execute. -/
structure FailsClosed : Prop where
  answers : ∃ attested, gate.isAttested getTeeMachineStatus teeId = .ok attested ∧
    (attested = true ↔ gate.InProduction getTeeMachineStatus teeId)
  refused : ¬ gate.InProduction getTeeMachineStatus teeId →
    ∀ (oz : OpenZeppelin) (ctx : Context) (state : State) (shares : List Share) (salt : Bytes32)
      (sig : Bytes) (answers : Query → Answer), Accepts oz ctx state shares salt sig teeId →
      answers ⟨state.storage.attestorGate, .isAttested teeId⟩ =
        gate.answer getTeeMachineStatus teeId →
      Program.run answers (execute oz ctx shares salt sig) state =
        .error (.signerNotAttested teeId)

theorem decodeStatus_eq (data : Bytes) : decodeStatus data =
    if 32 ≤ data.length ∧ ofBigEndian (data.take 32) < 256 then some (ofBigEndian (data.take 32))
    else none := by
  by_cases sized : 32 ≤ data.length
  · by_cases small : ofBigEndian (data.take 32) < 256 <;>
      simp [decodeStatus, Abi.decode, Abi.decodeComponents, Abi.component, Abi.Ty.isDynamic,
        Abi.decodeValue, Abi.readUint, Abi.readWord, FixedBytes.ofBytes?, sized, small]
  · simp [decodeStatus, Abi.decode, Abi.decodeComponents, Abi.component, Abi.Ty.isDynamic,
      Abi.decodeValue, Abi.readUint, Abi.readWord, FixedBytes.ofBytes?, sized]

theorem settles_iff_answerable (callee : Callee) :
    callee.Settles decodeStatus ↔ Answerable callee := by
  cases callee with
  | noCode => rfl
  | reverts data => rfl
  | returns data =>
    simp only [Callee.Settles, Answerable, decodeStatus_eq]
    split_ifs with reads <;> simp [reads]

variable {gate getTeeMachineStatus teeId}

section Execute

open ConfidentialPolicy Reentrant

variable {oz : OpenZeppelin} {ctx : Context} {state : State} {shares : List Share}
  {salt : Bytes32} {sig : Bytes} {signer : Address} {answers : Query → Answer}

theorem execute_not_attested (accepts : Accepts oz ctx state shares salt sig signer)
    (unattested : answers ⟨state.storage.attestorGate, .isAttested signer⟩ = .bool false) :
    Program.run answers (execute oz ctx shares salt sig) state =
      .error (.signerNotAttested signer) := by
  obtain ⟨status, commitment, recovered⟩ := accepts_iff.mp accepts
  simp [execute, inStatus, readStorage, require, recoverSigner, callBool, status, commitment,
    recovered, unattested, Except.bind]

-- A gate that fails itself leaves the policy with the gate's failure instead of its own error.
theorem execute_gate_failed (accepts : Accepts oz ctx state shares salt sig signer)
    (failed : answers ⟨state.storage.attestorGate, .isAttested signer⟩ = .failure) :
    Program.run answers (execute oz ctx shares salt sig) state = .error .callee := by
  obtain ⟨status, commitment, recovered⟩ := accepts_iff.mp accepts
  simp [execute, inStatus, readStorage, require, recoverSigner, callBool, status, commitment,
    recovered, failed, Except.bind]

end Execute

/-- The gate fails closed exactly on managers that revert or return a uint8. -/
theorem failsClosed_iff (gate : TeeAttestorGate) (getTeeMachineStatus : Managers)
    (teeId : Address) : gate.FailsClosed getTeeMachineStatus teeId ↔
      Answerable (getTeeMachineStatus gate.teeManager teeId) := by
  rw [← settles_iff_answerable, ← tryCall_ok_iff]
  constructor
  · intro closed
    obtain ⟨attested, answered, -⟩ := closed.answers
    exact ⟨attested, answered⟩
  · intro ⟨attested, answered⟩
    have decides : attested = true ↔ gate.InProduction getTeeMachineStatus teeId := by
      rw [tryCall_test answered]
      simp [InProduction]
    refine ⟨⟨attested, answered, decides⟩, ?_⟩
    intro idle oz ctx state shares salt sig answers accepts asked
    have unattested : attested = false := by simpa [← decides] using idle
    apply execute_not_attested accepts
    have same : gate.isAttested getTeeMachineStatus teeId = .ok attested := answered
    rw [asked, answer, same, unattested]

def deployedGate : TeeAttestorGate := ⟨.replicate 20 1, by decide⟩

open ConfidentialPolicy Reentrant in
/-- With no contract at the manager's address the gate reverts without data, and so does execute
with any split it was revealed. -/
theorem missing_manager_bubbles :
    deployedGate.isAttested (fun _ _ => .noCode) (.replicate 20 2) = .error [] ∧
      ¬ deployedGate.FailsClosed (fun _ _ => .noCode) (.replicate 20 2) ∧
      ∀ (oz : OpenZeppelin) (ctx : Context) (state : State) (shares : List Share) (salt : Bytes32)
        (sig : Bytes) (answers : Query → Answer),
        Accepts oz ctx state shares salt sig (.replicate 20 2) →
        answers ⟨state.storage.attestorGate, .isAttested (.replicate 20 2)⟩ =
          deployedGate.answer (fun _ _ => .noCode) (.replicate 20 2) →
        Program.run answers (execute oz ctx shares salt sig) state = .error .callee := by
  refine ⟨rfl, ?_, ?_⟩
  · intro closed
    obtain ⟨attested, answered, -⟩ := closed.answers
    cases answered
  · intro oz ctx state shares salt sig answers accepts asked
    exact execute_gate_failed accepts asked

/-- So does a manager that answers with a word above 255, here one whose low byte is PRODUCTION. -/
example : deployedGate.isAttested (fun _ _ => .returns (padUint 258)) (.replicate 20 2) =
    .error [] := by
  have whole : (padUint 258).take 32 = padUint 258 :=
    List.take_of_length_le (padUint_length (by decide)).le
  simp [isAttested, tryCall, decodeStatus_eq, whole]

end TeeAttestorGate

end FlareStudio
