import FlareStudio.Extension.Wire

set_option autoImplicit false

namespace FlareStudio.Extension

def stored (lib : Library) (policy : Address) (input : Input) : Option PrivateConfig :=
  match input.2 with
  | .state => none
  | .action action =>
    match lib.parse action.message with
    | .error _ => none
    | .ok df =>
      if df.opType = lib.toHash OPTypePolicy ∧ df.opCommand = lib.toHash OPCommandStore then
        match openStore lib input.1 df.originalMessage with
        | .ok (target, cfg) => if target = policy then some cfg else none
        | .error _ => none
      else none

def evaluated (lib : Library) (chainID : Int) (e : State) (input : Input) :
    Option EvaluatePolicyResponse :=
  match input.2 with
  | .state => none
  | .action action =>
    match lib.parse action.message with
    | .error _ => none
    | .ok df =>
      if df.opType = lib.toHash OPTypePolicy ∧ df.opCommand ≠ lib.toHash OPCommandStore ∧
          df.opCommand = lib.toHash OPCommandEvaluate then
        (openEvaluate lib chainID input.1 e df.originalMessage).toOption
      else none

variable {lib : Library} {chainID : Int} {policy : Address}

theorem lookup_answer (lib : Library) (chainID : Int) (policy : Address) (e : State)
    (input : Input) :
    (answer lib chainID e input).2.policies.lookup policy =
      (stored lib policy input).or (e.policies.lookup policy) := by
  obtain ⟨node, request⟩ := input
  cases request with
  | state => rfl
  | action action =>
    simp only [answer, handle, processAction, processPolicy, stored]
    cases dispatched lib action with
    | malformed err parsed => simp [parsed]
    | foreign df parsed type => simp [parsed, type]
    | store df parsed type command =>
      simp only [parsed, type, command, and_self, if_true, processStore]
      rcases openStore lib node df.originalMessage with err | ⟨target, cfg⟩
      · rfl
      · by_cases same : target = policy
        · subst same
          simp [AList.lookup_insert]
        · simp [same, AList.lookup_insert_ne (Ne.symm same)]
    | evaluate df parsed type other command =>
      simp only [parsed, if_pos type, if_pos command, other, and_false, if_false, processEvaluate]
      cases openEvaluate lib chainID node e df.originalMessage <;> rfl
    | unsupported df parsed type other unknown => simp [parsed, type, other, unknown]

theorem lookup_after (policy : Address) (e : State) (inputs : List Input) :
    (after lib chainID e inputs).policies.lookup policy =
      ((inputs.filterMap (stored lib policy)).getLast?).or (e.policies.lookup policy) := by
  have overwrites := lookup_answer lib chainID policy
  exact Responder.read_final (fun e => e.policies.lookup policy) overwrites e inputs

theorem stored_eq_some {input : Input} {cfg : PrivateConfig}
    (holds : stored lib policy input = some cfg) :
    ∃ action df, input.2 = .action action ∧ lib.parse action.message = .ok df ∧
      df.opType = lib.toHash OPTypePolicy ∧ df.opCommand = lib.toHash OPCommandStore ∧
      openStore lib input.1 df.originalMessage = .ok (policy, cfg) := by
  obtain ⟨node, request⟩ := input
  cases request with
  | state => cases holds
  | action action =>
    cases dispatched lib action with
    | store df parsed type command =>
      simp only [stored, parsed, type, command, and_self, if_true] at holds
      refine ⟨action, df, rfl, parsed, type, command, ?_⟩
      split at holds
      · rename_i target found opened
        split_ifs at holds with same
        obtain rfl := Option.some.inj holds
        exact same ▸ opened
      · cases holds
    | malformed err parsed => simp [stored, parsed] at holds
    | foreign df parsed type => simp [stored, parsed, type] at holds
    | evaluate df parsed _ other => simp [stored, parsed, other] at holds
    | unsupported df parsed _ other => simp [stored, parsed, other] at holds

theorem evaluated_eq_some {e : State} {input : Input} {resp : EvaluatePolicyResponse}
    (success : evaluated lib chainID e input = some resp) :
    ∃ action df, input.2 = .action action ∧ lib.parse action.message = .ok df ∧
      openEvaluate lib chainID input.1 e df.originalMessage = .ok resp ∧
      (answer lib chainID e input).1 =
        .reply ⟨200, .result (buildResult action df (marshal resp.json) 1 "")⟩ := by
  obtain ⟨node, request⟩ := input
  cases request with
  | state => cases success
  | action action =>
    cases dispatched lib action with
    | evaluate df parsed type other command =>
      simp only [evaluated, parsed, if_pos (And.intro type (And.intro other command))] at success
      have opened : openEvaluate lib chainID node e df.originalMessage = .ok resp := by
        cases found : openEvaluate lib chainID node e df.originalMessage with
        | error err =>
          rw [found] at success
          cases success
        | ok other =>
          rw [found] at success
          exact congrArg _ (Option.some.inj success)
      refine ⟨action, df, rfl, parsed, opened, ?_⟩
      simp only [answer, handle, processAction, parsed, if_pos type, processPolicy, if_neg other,
        if_pos command, processEvaluate, opened]
    | malformed err parsed => simp [evaluated, parsed] at success
    | foreign df parsed type => simp [evaluated, parsed, type] at success
    | store df parsed type command => simp [evaluated, parsed, command] at success
    | unsupported df parsed _ _ unknown => simp [evaluated, parsed, unknown] at success

theorem evaluated_held {e : State} {input : Input} {resp : EvaluatePolicyResponse}
    (success : evaluated lib chainID e input = some resp) :
    ∃ cfg, e.policies.lookup resp.policy = some cfg ∧ resp.shares = cfg.shares ∧
      resp.salt = cfg.salt := by
  obtain ⟨_, df, -, -, opened, -⟩ := evaluated_eq_some success
  obtain ⟨req, _, cfg, -, -, -, -, held, policy, shares, salt, -⟩ := openEvaluate_eq_ok opened
  exact ⟨cfg, policy ▸ held, shares, salt⟩

theorem sendStorePolicy_stored (reads : lib.Reads) {node : Node} {sender : Address}
    {ciphertext : Bytes} {request : Request} {cfg : PrivateConfig}
    (carries : Carries lib request (sendStorePolicy sender policy ciphertext))
    (opened : openStore lib node (storeMessage policy ciphertext) = .ok (policy, cfg)) :
    stored lib policy (node, request) = some cfg := by
  obtain ⟨action, rfl, parsed⟩ := carries
  have kind : (sendStorePolicy sender policy ciphertext).dataFixed.opType =
        lib.toHash OPTypePolicy ∧
      (sendStorePolicy sender policy ciphertext).dataFixed.opCommand =
        lib.toHash OPCommandStore := ⟨reads.opType.symm, reads.storeCommand.symm⟩
  have message : (sendStorePolicy sender policy ciphertext).dataFixed.originalMessage =
      storeMessage policy ciphertext := rfl
  simp only [stored, parsed, if_pos kind, message, opened, if_true]

theorem sendEvaluatePolicy_evaluated (reads : lib.Reads) {node : Node} {e : State}
    {sender : Address} {triggeredAt : Nat} {request : Request} {resp : EvaluatePolicyResponse}
    (carries : Carries lib request (sendEvaluatePolicy sender policy triggeredAt))
    (produced : openEvaluate lib chainID node e (evaluateMessage policy triggeredAt) = .ok resp) :
    evaluated lib chainID e (node, request) = some resp := by
  obtain ⟨action, rfl, parsed⟩ := carries
  have other : OP_COMMAND_EVALUATE ≠ OP_COMMAND_STORE := by decide +kernel
  have kind : (sendEvaluatePolicy sender policy triggeredAt).dataFixed.opType =
        lib.toHash OPTypePolicy ∧
      (sendEvaluatePolicy sender policy triggeredAt).dataFixed.opCommand ≠
        lib.toHash OPCommandStore ∧
      (sendEvaluatePolicy sender policy triggeredAt).dataFixed.opCommand =
        lib.toHash OPCommandEvaluate :=
    ⟨reads.opType.symm, reads.storeCommand.symm ▸ other, reads.evaluateCommand.symm⟩
  have message : (sendEvaluatePolicy sender policy triggeredAt).dataFixed.originalMessage =
      evaluateMessage policy triggeredAt := rfl
  simp only [evaluated, parsed, if_pos kind, message, produced]
  rfl

/-- An evaluation returns the configuration of the last STORE for the policy that went through,
so what it returns hashes to the policy's commitment for as long as every STORE does. -/
theorem evaluate_returns_last_store {commitment : Bytes32} {before between : List Input}
    {store evaluate : Input} {cfg : PrivateConfig} {resp : EvaluatePolicyResponse}
    (accepted : stored lib policy store = some cfg)
    (commits : computeCommitment cfg.shares cfg.salt = commitment)
    (success : evaluated lib chainID
      (after lib chainID new (before ++ store :: between)) evaluate = some resp)
    (about : resp.policy = policy) :
    (∃ last, ((store :: between).filterMap (stored lib policy)).getLast? = some last ∧
      resp.shares = last.shares ∧ resp.salt = last.salt) ∧
    ((∀ input ∈ between, ∀ other, stored lib policy input = some other →
        computeCommitment other.shares other.salt = commitment) →
      computeCommitment resp.shares resp.salt = commitment) := by
  obtain ⟨held, holds, shares, salt⟩ := evaluated_held success
  have last : ((store :: between).filterMap (stored lib policy)).getLast? = some held := by
    rw [about, lookup_after, List.filterMap_append, List.getLast?_append] at holds
    rw [List.filterMap_cons_some accepted] at holds ⊢
    simpa [List.getLast?_cons] using holds
  constructor
  · exact ⟨held, last, shares, salt⟩
  · intro others
    have member := List.mem_of_getLast? last
    rw [List.filterMap_cons_some accepted, List.mem_cons, List.mem_filterMap] at member
    rw [shares, salt]
    rcases member with rfl | ⟨input, later, wrote⟩
    · exact commits
    · exact others input later held wrote

def ownersStore : Input :=
  (machine, (sendStorePolicy ownerAccount samplePolicy (ascii "sealed family")).request)

def strangersStore : Input :=
  (machine, (sendStorePolicy strangerAccount samplePolicy (ascii "sealed charity")).request)

def lateEvaluation : Input :=
  (machine, (sendEvaluatePolicy ownerAccount samplePolicy sampleTime).request)

theorem ownersStore_stored : stored wire samplePolicy ownersStore = some familyConfig := by
  decide +kernel

theorem strangersStore_stored : stored wire samplePolicy strangersStore = some charityConfig := by
  decide +kernel

theorem lateEvaluation_evaluated :
    evaluated wire 114 (after wire 114 new ([] ++ ownersStore :: [strangersStore]))
      lateEvaluation = some charityResponse := by
  have held : (after wire 114 new ([] ++ ownersStore :: [strangersStore])).policies.lookup
      samplePolicy = some charityConfig := by
    rw [lookup_after]
    simp [ownersStore_stored, strangersStore_stored]
  exact sendEvaluatePolicy_evaluated wire_reads (wire_carries _) (charityResponse_produced held)

/-- The owner's STORE of the committed configuration went through, and the evaluation after a
stranger's answers with shares and a salt of another commitment. -/
theorem strangers_store_displaces :
    stored wire samplePolicy ownersStore = some familyConfig ∧
      evaluated wire 114 (after wire 114 new ([] ++ ownersStore :: [strangersStore]))
        lateEvaluation = some charityResponse ∧
      charityResponse.policy = samplePolicy ∧
      computeCommitment charityResponse.shares charityResponse.salt ≠
        computeCommitment familyConfig.shares familyConfig.salt :=
  ⟨ownersStore_stored, lateEvaluation_evaluated, rfl, by decide +kernel⟩

theorem lateEvaluation_returns_last_store :
    (∃ last, ((ownersStore :: [strangersStore]).filterMap (stored wire samplePolicy)).getLast? =
        some last ∧ charityResponse.shares = last.shares ∧
        charityResponse.salt = last.salt) ∧
    ((∀ input ∈ [strangersStore], ∀ other, stored wire samplePolicy input = some other →
        computeCommitment other.shares other.salt =
          computeCommitment familyConfig.shares familyConfig.salt) →
      computeCommitment charityResponse.shares charityResponse.salt =
        computeCommitment familyConfig.shares familyConfig.salt) :=
  evaluate_returns_last_store ownersStore_stored rfl lateEvaluation_evaluated rfl

end FlareStudio.Extension
