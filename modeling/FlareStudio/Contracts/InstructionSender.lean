import FlareStudio.Extension.Wire
import FlareStudio.Shared.Responder

set_option autoImplicit false

namespace FlareStudio.PolicyInstructionSender

open Extension (TeeInstructionParams)

def FIRST_PUBLIC_EXTENSION_ID : Nat := 0x10000

-- What the two registries answer in one transaction; a call that reverts is none.
structure Registries where
  nextPublicExtensionId : Option Nat
  getTeeExtensionInstructionsSender : Nat → Option Address
  getRandomTeeIds : Nat → Nat → Option (List Address)
  sendInstructions : List Address → TeeInstructionParams → Nat → Option Bytes32

inductive Action where
  | setExtensionId
  | sendStorePolicy (policy : Address) (ciphertext : Bytes)
  | sendEvaluatePolicy (policy : Address) (triggeredAt : Nat)

structure Transaction where
  sender : Address
  value : Nat
  registries : Registries
  action : Action

structure Instruction where
  teeIds : List Address
  params : TeeInstructionParams
  value : Nat

inductive Revert where
  | reason (text : Text)
  | callee
deriving DecidableEq

-- for (uint256 i = FIRST_PUBLIC_EXTENSION_ID; i < c; ++i), with what is left of the range.
def search (self : Address) (registries : Registries) : Nat → Nat → Except Revert Nat
  | _, 0 => .error (.reason (text "Extension ID not found."))
  | i, left + 1 =>
    match registries.getTeeExtensionInstructionsSender i with
    | none => .error .callee
    | some sender => if sender = self then .ok i else search self registries (i + 1) left

def setExtensionId (self : Address) (registries : Registries) (extensionId : Nat) :
    Except Revert Nat :=
  if extensionId = 0 then
    match registries.nextPublicExtensionId with
    | none => .error .callee
    | some c => search self registries FIRST_PUBLIC_EXTENSION_ID (c - FIRST_PUBLIC_EXTENSION_ID)
  else .error (.reason (text "Extension ID already set."))

def getExtensionId (extensionId : Nat) : Except Revert Nat :=
  if extensionId ≠ 0 then .ok extensionId else .error (.reason (text "Extension ID is not set."))

-- What both send functions do with their parameters.
def sendInstruction (tx : Transaction) (params : TeeInstructionParams) (extensionId : Nat) :
    Except Revert Instruction := do
  let extensionId ← getExtensionId extensionId
  match tx.registries.getRandomTeeIds extensionId 1 with
  | none => .error .callee
  | some teeIds =>
    match tx.registries.sendInstructions teeIds params tx.value with
    | none => .error .callee
    | some _ => .ok ⟨teeIds, params, tx.value⟩

def sendStorePolicy (tx : Transaction) (policy : Address) (ciphertext : Bytes)
    (extensionId : Nat) : Except Revert Instruction :=
  sendInstruction tx (Extension.sendStorePolicy tx.sender policy ciphertext) extensionId

def sendEvaluatePolicy (tx : Transaction) (policy : Address) (triggeredAt : Nat)
    (extensionId : Nat) : Except Revert Instruction :=
  sendInstruction tx (Extension.sendEvaluatePolicy tx.sender policy triggeredAt) extensionId

-- setExtensionId is not payable.
def apply (self : Address) (tx : Transaction) (extensionId : Nat) :
    Except Revert (Option Instruction × Nat) :=
  match tx.action with
  | .setExtensionId =>
    if tx.value = 0 then
      (setExtensionId self tx.registries extensionId).map fun found => (none, found)
    else .error .callee
  | .sendStorePolicy policy ciphertext =>
    (sendStorePolicy tx policy ciphertext extensionId).map fun sent => (some sent, extensionId)
  | .sendEvaluatePolicy policy triggeredAt =>
    (sendEvaluatePolicy tx policy triggeredAt extensionId).map fun sent => (some sent, extensionId)

def step (self : Address) (extensionId : Nat) (tx : Transaction) : Option Instruction × Nat :=
  match apply self tx extensionId with
  | .ok result => result
  | .error _ => (none, extensionId)

section Search

variable {self : Address} {registries : Registries}

structure Registers (address : Address) (registries : Registries) (id : Nat) : Prop where
  isPublic : FIRST_PUBLIC_EXTENSION_ID ≤ id
  assigned : ∃ c, registries.nextPublicExtensionId = some c ∧ id < c
  ours : registries.getTeeExtensionInstructionsSender id = some address
  lowest : ∀ i, FIRST_PUBLIC_EXTENSION_ID ≤ i → i < id →
    ∃ other, registries.getTeeExtensionInstructionsSender i = some other ∧ other ≠ address

theorem search_eq_ok {i left id : Nat} :
    search self registries i left = .ok id ↔ i ≤ id ∧ id < i + left ∧
      registries.getTeeExtensionInstructionsSender id = some self ∧
      ∀ j, i ≤ j → j < id →
        ∃ other, registries.getTeeExtensionInstructionsSender j = some other ∧ other ≠ self := by
  induction left generalizing i with
  | zero =>
    simp only [search]
    constructor
    · nofun
    · rintro ⟨low, high, -⟩
      omega
  | succ left ih =>
    cases answered : registries.getTeeExtensionInstructionsSender i with
    | none =>
      simp only [search, answered]
      constructor
      · nofun
      · rintro ⟨low, high, ours, lowest⟩
        by_cases here : i = id
        · rw [here, ours] at answered
          cases answered
        · obtain ⟨other, found, -⟩ := lowest i le_rfl (by omega)
          rw [answered] at found
          cases found
    | some sender =>
      by_cases same : sender = self
      · simp only [search, answered, same, if_true, Except.ok.injEq]
        constructor
        · rintro rfl
          exact ⟨le_rfl, by omega, by rw [answered, same], fun j low high => by omega⟩
        · rintro ⟨low, high, ours, lowest⟩
          by_cases here : i = id
          · exact here
          · obtain ⟨other, found, different⟩ := lowest i le_rfl (by omega)
            rw [answered, same] at found
            exact absurd (Option.some.inj found).symm different
      · simp only [search, answered, same, if_false, ih]
        constructor
        · rintro ⟨low, high, ours, lowest⟩
          refine ⟨by omega, by omega, ours, fun j above below => ?_⟩
          by_cases here : i = j
          · exact ⟨sender, here ▸ answered, same⟩
          · exact lowest j (by omega) below
        · rintro ⟨low, high, ours, lowest⟩
          have past : i ≠ id := by
            rintro rfl
            rw [answered] at ours
            exact same (Option.some.inj ours)
          exact ⟨by omega, by omega, ours, fun j above below => lowest j (by omega) below⟩

theorem setExtensionId_eq_ok {extensionId id : Nat} :
    setExtensionId self registries extensionId = .ok id ↔
      extensionId = 0 ∧ Registers self registries id := by
  by_cases unset : extensionId = 0
  · cases answered : registries.nextPublicExtensionId with
    | none =>
      simp only [setExtensionId, unset, if_true, answered, true_and]
      constructor
      · nofun
      · intro registered
        obtain ⟨c, next, -⟩ := registered.assigned
        rw [answered] at next
        cases next
    | some c =>
      simp only [setExtensionId, unset, if_true, answered, true_and, search_eq_ok]
      constructor
      · rintro ⟨low, high, ours, lowest⟩
        exact ⟨low, ⟨c, answered, by omega⟩, ours, lowest⟩
      · intro registered
        obtain ⟨c', next, high⟩ := registered.assigned
        rw [answered, Option.some.injEq] at next
        subst next
        have low := registered.isPublic
        exact ⟨low, by omega, registered.ours, registered.lowest⟩
  · simp [setExtensionId, unset]

end Search

section Runs

variable {self : Address}

def sentFor (extensionId : Nat) (tx : Transaction) : Option Instruction :=
  match tx.action with
  | .setExtensionId => none
  | .sendStorePolicy policy ciphertext =>
    (sendStorePolicy tx policy ciphertext extensionId).toOption
  | .sendEvaluatePolicy policy triggeredAt =>
    (sendEvaluatePolicy tx policy triggeredAt extensionId).toOption

theorem sendInstruction_unset (tx : Transaction) (params : TeeInstructionParams) :
    sendInstruction tx params 0 = .error (.reason (text "Extension ID is not set.")) := rfl

theorem step_set {extensionId : Nat} (set : extensionId ≠ 0) (tx : Transaction) :
    step self extensionId tx = (sentFor extensionId tx, extensionId) := by
  cases action : tx.action with
  | setExtensionId =>
    by_cases free : tx.value = 0 <;>
      simp [step, apply, action, free, setExtensionId, set, sentFor, Except.map]
  | sendStorePolicy policy ciphertext =>
    cases sent : sendStorePolicy tx policy ciphertext extensionId <;>
      simp [step, apply, action, sent, sentFor, Except.map, Except.toOption]
  | sendEvaluatePolicy policy triggeredAt =>
    cases sent : sendEvaluatePolicy tx policy triggeredAt extensionId <;>
      simp [step, apply, action, sent, sentFor, Except.map, Except.toOption]

theorem step_unset (tx : Transaction) :
    step self 0 tx = (none, 0) ∨ ∃ id, step self 0 tx = (none, id) ∧
      tx.action = .setExtensionId ∧ Registers self tx.registries id := by
  cases action : tx.action with
  | setExtensionId =>
    by_cases free : tx.value = 0
    · cases found : setExtensionId self tx.registries 0 with
      | error e =>
        left
        simp [step, apply, action, free, found, Except.map]
      | ok id =>
        right
        refine ⟨id, ?_, rfl, (setExtensionId_eq_ok.mp found).2⟩
        simp [step, apply, action, free, found, Except.map]
    · left
      simp [step, apply, action, free]
  | sendStorePolicy policy ciphertext =>
    left
    simp [step, apply, action, sendStorePolicy, sendInstruction_unset, Except.map]
  | sendEvaluatePolicy policy triggeredAt =>
    left
    simp [step, apply, action, sendEvaluatePolicy, sendInstruction_unset, Except.map]

theorem run_set {extensionId : Nat} (set : extensionId ≠ 0) (log : List Transaction) :
    Responder.final (step self) extensionId log = extensionId ∧
      Responder.outputs (step self) extensionId log = log.map (sentFor extensionId) := by
  induction log with
  | nil => exact ⟨rfl, rfl⟩
  | cons tx rest ih => simp [Responder.final, Responder.outputs, step_set set, ih]

/-- Whoever calls in whatever order, the id is set at most once, to the lowest public id that the
registry then holds for the contract, and every instruction, which comes after that, is for machines
of that extension. -/
theorem run_extension (self : Address) (log : List Transaction) :
    (Responder.final (step self) 0 log = 0 ∧
      Responder.outputs (step self) 0 log = List.replicate log.length none) ∨
    ∃ before tx after id, log = before ++ tx :: after ∧ tx.action = .setExtensionId ∧
      Registers self tx.registries id ∧ Responder.final (step self) 0 before = 0 ∧
      Responder.final (step self) 0 log = id ∧ Responder.outputs (step self) 0 log =
        List.replicate (before.length + 1) none ++ after.map (sentFor id) := by
  induction log with
  | nil => exact .inl ⟨rfl, rfl⟩
  | cons tx rest ih =>
    obtain stays | ⟨id, sets, action, registers⟩ := @step_unset self tx
    · obtain ⟨unset, silent⟩ | ⟨before, setter, after, id, split, action, registers, unset, last,
        sent⟩ := ih
      · left
        simp [Responder.final, Responder.outputs, stays, unset, silent, List.replicate_succ]
      · right
        refine ⟨tx :: before, setter, after, id, by simp [split], action, registers, ?_, ?_, ?_⟩
        · simpa [Responder.final, stays] using unset
        · simpa [Responder.final, stays] using last
        · simp [Responder.outputs, stays, sent, List.replicate_succ]
    · right
      have set : id ≠ 0 := by
        have low := registers.isPublic
        unfold FIRST_PUBLIC_EXTENSION_ID at low
        omega
      obtain ⟨last, sent⟩ := @run_set self id set rest
      refine ⟨[], tx, rest, id, rfl, action, registers, rfl, ?_, ?_⟩
      · simpa [Responder.final, sets] using last
      · simp [Responder.outputs, sets, sent]

end Runs

end FlareStudio.PolicyInstructionSender
