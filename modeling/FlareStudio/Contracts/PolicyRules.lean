import FlareStudio.Contracts.ConfidentialPolicy

set_option autoImplicit false

namespace FlareStudio.ConfidentialPolicy

open Reentrant Program

section WeakestPrecondition

variable {E : Type} (rules : Rules State E Query Answer) (world : World State E)

@[simp]
theorem wp_readStorage (post : Storage → World State E → Prop) :
    wp rules readStorage post world ↔ post world.state.storage world := by
  simp [readStorage]

@[simp]
theorem wp_setStatus (status : Status) (post : Unit → World State E → Prop) :
    wp rules (setStatus status) post world ↔
      post () ⟨world.state.withStatus status, world.log⟩ := Iff.rfl

@[simp]
theorem wp_setTriggeredAt (value : Nat) (post : Unit → World State E → Prop) :
    wp rules (setTriggeredAt value) post world ↔
      post () ⟨world.state.withTriggeredAt value, world.log⟩ := Iff.rfl

@[simp]
theorem wp_emit (event : Event) (post : Unit → World State E → Prop) :
    wp rules (emit event) post world ↔
      post () ⟨world.state.withEvent event, world.log⟩ := Iff.rfl

@[simp]
theorem wp_require (condition : Prop) [Decidable condition] (error : PolicyError)
    (post : Unit → World State E → Prop) :
    wp rules (require condition error) post world ↔ (condition → post () world) := by
  by_cases holds : condition <;> simp [require, holds]

-- Only the answer a callee's interface allows continues the call.
@[simp]
theorem wp_callBool (query : Query) (post : Bool → World State E → Prop) :
    wp rules (callBool query) post world ↔
      rules.guarantee ⟨world.state, world.log ++ [rules.record query]⟩ ∧
        ∀ value found,
          rules.rely query (.bool value) ⟨world.state, world.log ++ [rules.record query]⟩ found →
            post value found := by
  simp only [callBool, wp_bind, wp_ask]
  refine and_congr_right fun _ => ⟨fun all value found => all (.bool value) found, ?_⟩
  intro all answer found relied
  cases answer with
  | bool value => exact all value found relied
  | uint | success | failure => exact wp_revert _ _ _ _

@[simp]
theorem wp_callUint (query : Query) (post : Nat → World State E → Prop) :
    wp rules (callUint query) post world ↔
      rules.guarantee ⟨world.state, world.log ++ [rules.record query]⟩ ∧
        ∀ value found,
          rules.rely query (.uint value) ⟨world.state, world.log ++ [rules.record query]⟩ found →
            post value found := by
  simp only [callUint, wp_bind, wp_ask]
  refine and_congr_right fun _ => ⟨fun all value found => all (.uint value) found, ?_⟩
  intro all answer found relied
  cases answer with
  | uint value => exact all value found relied
  | bool | success | failure => exact wp_revert _ _ _ _

@[simp]
theorem wp_callSuccess (query : Query) (post : Unit → World State E → Prop) :
    wp rules (callSuccess query) post world ↔
      rules.guarantee ⟨world.state, world.log ++ [rules.record query]⟩ ∧
        ∀ found,
          rules.rely query .success ⟨world.state, world.log ++ [rules.record query]⟩ found →
            post () found := by
  simp only [callSuccess, wp_bind, wp_ask]
  refine and_congr_right fun _ => ⟨fun all found => all .success found, ?_⟩
  intro all answer found relied
  cases answer with
  | success => exact all found relied
  | bool | uint | failure => exact wp_revert _ _ _ _

@[simp]
theorem wp_checkedAdd (a b : Nat) (post : Nat → World State E → Prop) :
    wp rules (checkedAdd a b) post world ↔ (a + b < 2 ^ 256 → post (a + b) world) := by
  simp [checkedAdd]

@[simp]
theorem wp_checkedSub (a b : Nat) (post : Nat → World State E → Prop) :
    wp rules (checkedSub a b) post world ↔ (b ≤ a → post (a - b) world) := by
  simp [checkedSub]

@[simp]
theorem wp_checkedMul (a b : Nat) (post : Nat → World State E → Prop) :
    wp rules (checkedMul a b) post world ↔ (a * b < 2 ^ 256 → post (a * b) world) := by
  simp [checkedMul]

@[simp]
theorem wp_onlyOwner (ctx : Context) (post : Unit → World State E → Prop) :
    wp rules (onlyOwner ctx) post world ↔
      (ctx.sender = world.state.storage.owner → post () world) := by
  simp [onlyOwner]

@[simp]
theorem wp_inStatus (expected : Status) (post : Unit → World State E → Prop) :
    wp rules (inStatus expected) post world ↔
      (world.state.storage.status = expected → post () world) := by
  simp [inStatus]

theorem wp_recoverSigner (oz : OpenZeppelin) (hash : Bytes32) (sig : Bytes)
    (post : Address → World State E → Prop) :
    wp rules (recoverSigner oz hash sig) post world ↔
      ∀ signer, oz.recover hash sig = .ok signer → post signer world := by
  unfold recoverSigner
  cases oz.recover hash sig <;> simp

-- The sum of the shares calls nothing, so it only hands on the world it started in.
theorem wp_sumShares (shares : List Share) (totalBps : Nat) (post : Nat → World State E → Prop)
    (holds : ∀ total, post total world) : wp rules (sumShares totalBps shares) post world := by
  induction shares generalizing totalBps with
  | nil => simpa [sumShares] using holds totalBps
  | cons share rest ih => simpa [sumShares] using fun _ => ih _

-- Conditions are asked by static calls, so the loop hands on the state it started in and a log
-- that only its own queries extended, once each of them has said yes.
theorem wp_checkConditions (ctx : Context) (conditions : List Address) (index : Nat)
    (post : Unit → World State E → Prop) (logged : List E → Prop) (satisfied : Address → Prop)
    (static : ∀ target answer asked found,
      rules.rely ⟨target, .isSatisfied ctx.self⟩ answer asked found → found = asked)
    (relied : ∀ target asked found,
      rules.rely ⟨target, .isSatisfied ctx.self⟩ (.bool true) asked found →
        found.state = world.state → satisfied target)
    (start : logged world.log)
    (records : ∀ target log, logged log →
      logged (log ++ [rules.record ⟨target, .isSatisfied ctx.self⟩]))
    (guarantee : ∀ log, logged log → rules.guarantee ⟨world.state, log⟩)
    (holds : ∀ log, logged log → (∀ target ∈ conditions, satisfied target) →
      post () ⟨world.state, log⟩) :
    wp rules (checkConditions ctx index conditions) post world := by
  obtain ⟨state, log⟩ := world
  induction conditions generalizing index log with
  | nil => exact holds log start nofun
  | cons condition rest ih =>
    simp only [checkConditions, wp_bind, wp_callBool, wp_require]
    have recorded := records condition log start
    refine ⟨guarantee _ recorded, ?_⟩
    rintro value found answered rfl
    have unchanged := static _ _ _ _ answered
    subst unchanged
    have here : satisfied condition := relied _ _ _ answered rfl
    exact ih (index + 1) _ relied recorded guarantee fun log written others =>
      holds log written (List.forall_mem_cons.mpr ⟨here, others⟩)

end WeakestPrecondition

section Run

variable (answers : Query → Answer) {state found : State}

theorem run_bind_eq_ok {α β : Type} {program : Exec α} {next : α → Exec β} {result : β} :
    run answers (program >>= next) state = .ok (result, found) ↔
      ∃ value middle, run answers program state = .ok (value, middle) ∧
        run answers (next value) middle = .ok (result, found) := by
  rw [run_bind]
  cases ran : run answers program state with
  | error reason => simp [Except.bind]
  | ok reached =>
    obtain ⟨value, middle⟩ := reached
    simp [Except.bind]

theorem run_readStorage_eq_ok {storage : Storage} :
    run answers readStorage state = .ok (storage, found) ↔
      state.storage = storage ∧ state = found := by
  simp [readStorage, Except.bind]

theorem run_setStatus_eq_ok {status : Status} {result : Unit} :
    run answers (setStatus status) state = .ok (result, found) ↔
      state.withStatus status = found := by
  simp [setStatus]

theorem run_emit_eq_ok {event : Event} {result : Unit} :
    run answers (emit event) state = .ok (result, found) ↔ state.withEvent event = found := by
  simp [emit]

theorem run_require_eq_ok {condition : Prop} [Decidable condition] {error : PolicyError}
    {result : Unit} : run answers (require condition error) state = .ok (result, found) ↔
      condition ∧ state = found := by
  by_cases holds : condition <;> simp [require, holds]

theorem run_callBool_eq_ok {query : Query} {value : Bool} :
    run answers (callBool query) state = .ok (value, found) ↔
      answers query = .bool value ∧ state = found := by
  simp only [callBool, run_bind, run_ask, Except.bind]
  cases answers query <;> simp

theorem run_callUint_eq_ok {query : Query} {value : Nat} :
    run answers (callUint query) state = .ok (value, found) ↔
      answers query = .uint value ∧ state = found := by
  simp only [callUint, run_bind, run_ask, Except.bind]
  cases answers query <;> simp

theorem run_callSuccess_eq_ok {query : Query} {result : Unit} :
    run answers (callSuccess query) state = .ok (result, found) ↔
      answers query = .success ∧ state = found := by
  simp only [callSuccess, run_bind, run_ask, Except.bind]
  cases answers query <;> simp

theorem run_inStatus_eq_ok {expected : Status} {result : Unit} :
    run answers (inStatus expected) state = .ok (result, found) ↔
      state.storage.status = expected ∧ state = found := by
  simp only [inStatus, run_bind_eq_ok, run_readStorage_eq_ok, run_require_eq_ok]
  constructor
  · intro ⟨storage, middle, ⟨same, here⟩, status, there⟩
    subst same here
    exact ⟨status, there⟩
  · intro ⟨status, there⟩
    exact ⟨_, _, ⟨rfl, rfl⟩, status, there⟩

theorem run_checkedAdd_eq_ok {a b result : Nat} :
    run answers (checkedAdd a b) state = .ok (result, found) ↔
      a + b < 2 ^ 256 ∧ a + b = result ∧ state = found := by
  by_cases fits : a + b < 2 ^ 256 <;>
    simp [-Nat.reducePow, checkedAdd, require, fits, Except.bind]

theorem run_checkedSub_eq_ok {a b result : Nat} :
    run answers (checkedSub a b) state = .ok (result, found) ↔
      b ≤ a ∧ a - b = result ∧ state = found := by
  by_cases fits : b ≤ a <;> simp [checkedSub, require, fits, Except.bind]

theorem run_checkedMul_eq_ok {a b result : Nat} :
    run answers (checkedMul a b) state = .ok (result, found) ↔
      a * b < 2 ^ 256 ∧ a * b = result ∧ state = found := by
  by_cases fits : a * b < 2 ^ 256 <;>
    simp [-Nat.reducePow, checkedMul, require, fits, Except.bind]

theorem run_recoverSigner_eq_ok {oz : OpenZeppelin} {hash : Bytes32} {sig : Bytes}
    {signer : Address} : run answers (recoverSigner oz hash sig) state = .ok (signer, found) ↔
      oz.recover hash sig = .ok signer ∧ state = found := by
  unfold recoverSigner
  cases oz.recover hash sig <;> simp

end Run

section Returns

variable {state final : State} {exchanges : List (Query × Answer)}

theorem returns_readStorage {storage : Storage} :
    Program.Returns readStorage state exchanges storage final ↔
      exchanges = [] ∧ storage = state.storage ∧ final = state := returns_pure

theorem returns_setStatus {status : Status} {result : Unit} :
    Program.Returns (setStatus status) state exchanges result final ↔
      exchanges = [] ∧ final = state.withStatus status := returns_modify

theorem returns_emit {event : Event} {result : Unit} :
    Program.Returns (emit event) state exchanges result final ↔
      exchanges = [] ∧ final = state.withEvent event := returns_modify

theorem returns_require {condition : Prop} [Decidable condition] {error : PolicyError}
    {result : Unit} : Program.Returns (require condition error) state exchanges result final ↔
      condition ∧ exchanges = [] ∧ final = state := by
  by_cases holds : condition <;> simp [require, holds, returns_pure, returns_revert]

theorem returns_callBool {query : Query} {value : Bool} :
    Program.Returns (callBool query) state exchanges value final ↔
      exchanges = [(query, .bool value)] := by
  simp only [callBool, returns_bind, returns_ask]
  constructor
  · intro ⟨_, answer, _, _, asked, later, split⟩
    subst asked split
    cases answer with
    | bool found =>
      obtain ⟨rfl, rfl, -⟩ := returns_pure.mp later
      rfl
    | uint | success | failure => exact absurd later returns_revert
  · intro asked
    exact ⟨_, .bool value, final, [], rfl, returns_pure.mpr ⟨rfl, rfl, rfl⟩, by simpa using asked⟩

theorem returns_callUint {query : Query} {value : Nat} :
    Program.Returns (callUint query) state exchanges value final ↔
      exchanges = [(query, .uint value)] := by
  simp only [callUint, returns_bind, returns_ask]
  constructor
  · intro ⟨_, answer, _, _, asked, later, split⟩
    subst asked split
    cases answer with
    | uint found =>
      obtain ⟨rfl, rfl, -⟩ := returns_pure.mp later
      rfl
    | bool | success | failure => exact absurd later returns_revert
  · intro asked
    exact ⟨_, .uint value, final, [], rfl, returns_pure.mpr ⟨rfl, rfl, rfl⟩, by simpa using asked⟩

theorem returns_callSuccess {query : Query} {result : Unit} :
    Program.Returns (callSuccess query) state exchanges result final ↔
      exchanges = [(query, .success)] := by
  simp only [callSuccess, returns_bind, returns_ask]
  constructor
  · intro ⟨_, answer, _, _, asked, later, split⟩
    subst asked split
    cases answer with
    | success =>
      obtain ⟨rfl, -, -⟩ := returns_pure.mp later
      rfl
    | uint | bool | failure => exact absurd later returns_revert
  · intro asked
    exact ⟨_, .success, final, [], rfl, returns_pure.mpr ⟨rfl, rfl, rfl⟩, by simpa using asked⟩

theorem returns_recoverSigner {oz : OpenZeppelin} {hash : Bytes32} {sig : Bytes}
    {signer : Address} : Program.Returns (recoverSigner oz hash sig) state exchanges signer final ↔
      oz.recover hash sig = .ok signer ∧ exchanges = [] ∧ final = state := by
  unfold recoverSigner
  cases oz.recover hash sig with
  | ok found => simp [returns_pure, eq_comm, and_left_comm]
  | error error => simp [returns_revert]

section Chained

variable {α : Type} {value : α}

theorem returns_readStorage_bind {next : Storage → Exec α} :
    Program.Returns (readStorage >>= next) state exchanges value final ↔
      Program.Returns (next state.storage) state exchanges value final := by
  simp [returns_bind, returns_readStorage]

theorem returns_require_bind {condition : Prop} [Decidable condition] {error : PolicyError}
    {next : Unit → Exec α} :
    Program.Returns (require condition error >>= next) state exchanges value final ↔
      condition ∧ Program.Returns (next ()) state exchanges value final := by
  constructor
  · intro returns
    obtain ⟨_, ⟨⟩, _, _, first, second, rfl⟩ := returns_bind.mp returns
    obtain ⟨holds, rfl, rfl⟩ := returns_require.mp first
    exact ⟨holds, second⟩
  · intro ⟨holds, later⟩
    exact returns_bind.mpr ⟨[], (), state, exchanges, returns_require.mpr ⟨holds, rfl, rfl⟩, later,
      rfl⟩

end Chained

theorem returns_checkedAdd {a b result : Nat} :
    Program.Returns (checkedAdd a b) state exchanges result final ↔
      a + b < 2 ^ 256 ∧ exchanges = [] ∧ result = a + b ∧ final = state := by
  rw [checkedAdd, returns_require_bind, returns_pure]

theorem returns_checkedSub {a b result : Nat} :
    Program.Returns (checkedSub a b) state exchanges result final ↔
      b ≤ a ∧ exchanges = [] ∧ result = a - b ∧ final = state := by
  rw [checkedSub, returns_require_bind, returns_pure]

theorem returns_checkedMul {a b result : Nat} :
    Program.Returns (checkedMul a b) state exchanges result final ↔
      a * b < 2 ^ 256 ∧ exchanges = [] ∧ result = a * b ∧ final = state := by
  rw [checkedMul, returns_require_bind, returns_pure]

theorem returns_inStatus {expected : Status} {result : Unit} :
    Program.Returns (inStatus expected) state exchanges result final ↔
      state.storage.status = expected ∧ exchanges = [] ∧ final = state := by
  rw [inStatus, returns_readStorage_bind, returns_require]

end Returns

section UpToACall

variable {α : Type} (state : State)

theorem readStorage_bind_apply (next : Storage → Exec α) :
    (readStorage >>= next) state = next state.storage state := rfl

theorem require_bind_apply (condition : Prop) [Decidable condition] (error : PolicyError)
    (next : Unit → Exec α) :
    (require condition error >>= next) state =
      if condition then next () state else .revert error := by
  by_cases holds : condition
  · rw [require, if_pos holds, if_pos holds]
    rfl
  · rw [require, if_neg holds, if_neg holds]
    rfl

theorem inStatus_bind_apply (expected : Status) (next : Unit → Exec α) :
    (inStatus expected >>= next) state =
      if state.storage.status = expected then next () state
      else .revert (.wrongStatus expected state.storage.status) :=
  require_bind_apply state _ _ next

theorem recoverSigner_bind_apply (oz : OpenZeppelin) (hash : Bytes32) (sig : Bytes)
    (next : Address → Exec α) :
    (recoverSigner oz hash sig >>= next) state =
      match oz.recover hash sig with
      | .ok signer => next signer state
      | .error error => .revert (.ecdsa error) := by
  unfold recoverSigner
  cases oz.recover hash sig <;> rfl

theorem callBool_bind_apply (query : Query) (next : Bool → Exec α) :
    ∃ resume, (callBool query >>= next) state = .call query state resume := ⟨_, rfl⟩

end UpToACall

def Accepts (oz : OpenZeppelin) (ctx : Context) (state : State) (shares : List Share)
    (salt : Bytes32) (sig : Bytes) (signer : Address) : Prop :=
  ∃ resume, execute oz ctx shares salt sig state =
    .call ⟨state.storage.attestorGate, .isAttested signer⟩ state resume

theorem accepts_iff {oz : OpenZeppelin} {ctx : Context} {state : State} {shares : List Share}
    {salt : Bytes32} {sig : Bytes} {signer : Address} :
    Accepts oz ctx state shares salt sig signer ↔
      state.storage.status = .triggered ∧
        keccak256 (encodeShares shares salt) = state.storage.commitment ∧
        oz.recover (oz.toEthSignedMessageHash (digest oz ctx (executionStructHash
          state.storage.commitment shares state.storage.triggeredAt))) sig = .ok signer := by
  simp only [Accepts, execute, inStatus_bind_apply, readStorage_bind_apply, require_bind_apply,
    recoverSigner_bind_apply]
  constructor
  · intro ⟨resume, asked⟩
    split_ifs at asked with status commitment
    split at asked
    · rename_i found recovered
      obtain ⟨other, called⟩ :=
        callBool_bind_apply state ⟨state.storage.attestorGate, .isAttested found⟩ _
      rw [called] at asked
      cases asked
      exact ⟨status, commitment, recovered⟩
    · cases asked
  · intro ⟨status, commitment, recovered⟩
    rw [if_pos status, if_pos commitment, recovered]
    exact callBool_bind_apply state _ _

end FlareStudio.ConfidentialPolicy
