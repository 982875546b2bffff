import FlareStudio.Extension.Wire

set_option autoImplicit false

-- Two runs of one machine over the same requests, but for the owner's ciphertext: it opens to
-- one configuration in the first and to another in the second, wherever it is sent.

namespace FlareStudio.Extension

open Checked

structure Secrets where
  left : PrivateConfig
  right : PrivateConfig
  leftValid : validateShares left.shares = .ok ()
  rightValid : validateShares right.shares = .ok ()
  sameCount : left.shares.length = right.shares.length

def Opens (node : Node) (ciphertext : Bytes) (cfg : PrivateConfig) : Prop :=
  ∃ plaintext, node.decrypt ciphertext = .ok plaintext ∧ unmarshal plaintext = some cfg

structure Sealed (secrets : Secrets) (node : Node) (left right : Bytes) : Prop where
  leftNonempty : left ≠ []
  rightNonempty : right ≠ []
  -- The node can also fail, and then it does in both runs.
  opened : (Opens node left secrets.left ∧ Opens node right secrets.right) ∨
    ∃ err, node.decrypt left = .error err ∧ node.decrypt right = .error err

inductive Paired (secrets : Secrets) (lib : Library) (node : Node) : Request → Request → Prop
  | same (request : Request) : Paired secrets lib node request request
  | secret {id opType : Bytes32} {tag : String} {message message' original original' : Bytes}
      {policy : Address} {ciphertext ciphertext' : Bytes}
      (parsed : lib.parse message = .ok ⟨opType, lib.toHash OPCommandStore, original⟩)
      (parsed' : lib.parse message' = .ok ⟨opType, lib.toHash OPCommandStore, original'⟩)
      (decoded : lib.decodeStore original = .ok ⟨policy, ciphertext⟩)
      (decoded' : lib.decodeStore original' = .ok ⟨policy, ciphertext'⟩)
      (secret : Sealed secrets node ciphertext ciphertext') :
      Paired secrets lib node (.action ⟨id, tag, message⟩) (.action ⟨id, tag, message'⟩)

structure Alike (left right : State) : Prop where
  keys : left.policies.keys = right.policies.keys
  evaluationCount : left.evaluationCount = right.evaluationCount
  lastPolicy : left.lastPolicy = right.lastPolicy

-- An evaluation answers differently only if the runs hold different configurations for the policy
-- and the node signs one of them.
def Indifferent (chainID : Int) (node : Node) (left right : State) (policy : Address)
    (triggeredAt : Int) : Prop :=
  left.policies.lookup policy = right.policies.lookup policy ∨
    ∃ err, ∀ cfg, left.policies.lookup policy = some cfg ∨ right.policies.lookup policy = some cfg →
      signViaNode node (eip712Preimage policy chainID (computeCommitment cfg.shares cfg.salt)
        cfg.shares triggeredAt) = .error err

/-- No evaluation that names an arming time reaches a policy the secret is held for. -/
def Unarmed (lib : Library) (chainID : Int) (node : Node) (left right : State) : Request → Prop
  | .state => True
  | .action action => ∀ df req triggeredAt, lib.parse action.message = .ok df →
      df.opType = lib.toHash OPTypePolicy → df.opCommand = lib.toHash OPCommandEvaluate →
      lib.decodeEvaluate df.originalMessage = .ok req → chainID ≠ 0 →
      req.triggeredAt = some triggeredAt → triggeredAt ≠ 0 →
      Indifferent chainID node left right req.policy triggeredAt

-- One step of the two runs, with the status that the policy has on chain at the time.
structure Moment where
  status : ConfidentialPolicy.Status
  node : Node
  left : Request
  right : Request

def Moment.leftInput (moment : Moment) : Input := (moment.node, moment.left)

def Moment.rightInput (moment : Moment) : Input := (moment.node, moment.right)

def beforeArming (moments : List Moment) : List Moment :=
  moments.takeWhile fun moment => moment.status ≠ .triggered

/-- Nothing that needs the policy armed is asked before it is. -/
def Discreet (lib : Library) (chainID : Int) : State → State → List Moment → Prop :=
  Responder.Lockstep (answer lib chainID) Moment.leftInput Moment.rightInput
    fun left right moment => moment.status ≠ .triggered →
      Unarmed lib chainID moment.node left right moment.left

-- A STORE answers alike: the count is the most that leaves the enclave.
theorem openStore_sealed {secrets : Secrets} {lib : Library} {node : Node} {policy : Address}
    {message message' ciphertext ciphertext' : Bytes}
    (decoded : lib.decodeStore message = .ok ⟨policy, ciphertext⟩)
    (decoded' : lib.decodeStore message' = .ok ⟨policy, ciphertext'⟩)
    (secret : Sealed secrets node ciphertext ciphertext') :
    (∃ err, openStore lib node message = .error err ∧ openStore lib node message' = .error err) ∨
      openStore lib node message = .ok (policy, secrets.left) ∧
        openStore lib node message' = .ok (policy, secrets.right) := by
  by_cases zero : policy = .zero 20
  · left
    simp [openStore, decoded, decoded', wrapped, Except.mapError, bind, Except.bind, require, zero]
  rcases secret.opened with
    ⟨⟨plaintext, decrypted, parsed⟩, plaintext', decrypted', parsed'⟩ | ⟨err, failed, failed'⟩
  · right
    simp [openStore, decoded, decoded', wrapped, Except.mapError, bind, Except.bind, require, zero,
      secret.leftNonempty, secret.rightNonempty, decrypted, decrypted', ofOption, parsed, parsed',
      secrets.leftValid, secrets.rightValid]
  · left
    simp [openStore, decoded, decoded', wrapped, Except.mapError, bind, Except.bind, require, zero,
      secret.leftNonempty, secret.rightNonempty, failed, failed']

theorem Alike.lookup {left right : State} (alike : Alike left right) (policy : Address) :
    (left.policies.lookup policy).isSome = (right.policies.lookup policy).isSome := by
  rw [Bool.eq_iff_iff, AList.lookup_isSome, AList.lookup_isSome, AList.mem_keys, AList.mem_keys,
    alike.keys]

theorem openEvaluate_alike {lib : Library} {chainID : Int} {node : Node} {e e' : State}
    {message : Bytes} (alike : Alike e e')
    (indifferent : ∀ req triggeredAt, lib.decodeEvaluate message = .ok req → chainID ≠ 0 →
      req.triggeredAt = some triggeredAt → triggeredAt ≠ 0 →
      Indifferent chainID node e e' req.policy triggeredAt) :
    openEvaluate lib chainID node e message = openEvaluate lib chainID node e' message := by
  unfold openEvaluate
  cases decoded : lib.decodeEvaluate message with
  | error err => rfl
  | ok req =>
    by_cases chain : chainID = 0
    · simp [chain, require, wrapped, Except.mapError, bind, Except.bind]
    cases set : req.triggeredAt with
    | none => simp [chain, require, set, ofOption, wrapped, Except.mapError, bind, Except.bind]
    | some triggeredAt =>
      by_cases zero : triggeredAt = 0
      · simp [chain, require, set, ofOption, zero, wrapped, Except.mapError, bind, Except.bind]
      rcases indifferent req triggeredAt decoded chain set zero with same | ⟨err, refused⟩
      · simp only [wrapped, Except.mapError, bind, Except.bind, same]
      have both := alike.lookup req.policy
      cases held : e.policies.lookup req.policy with
      | none =>
        rw [held, Option.isSome_none] at both
        have held' := Option.isSome_eq_false_iff.mp both.symm
        rw [Option.isNone_iff_eq_none] at held'
        simp only [wrapped, Except.mapError, bind, Except.bind, held, held']
      | some cfg =>
        rw [held, Option.isSome_some] at both
        obtain ⟨cfg', held'⟩ := Option.isSome_iff_exists.mp both.symm
        have first := refused cfg (.inl held)
        have second := refused cfg' (.inr held')
        simp [chain, require, set, ofOption, zero, held, held', first, second, wrapped,
          Except.mapError, bind, Except.bind]

section Step

variable {secrets : Secrets} {lib : Library} {chainID : Int} {node : Node} {left right : State}

theorem answer_same {request : Request} (alike : Alike left right)
    (unarmed : Unarmed lib chainID node left right request) :
    (answer lib chainID left (node, request)).1 = (answer lib chainID right (node, request)).1 ∧
      Alike (answer lib chainID left (node, request)).2
        (answer lib chainID right (node, request)).2 := by
  cases request with
  | state =>
    simp [answer, handle, stateHandler, alike.keys, alike.evaluationCount, alike.lastPolicy, alike]
  | action action =>
    simp only [answer, handle, processAction, processPolicy]
    cases dispatched lib action with
    | malformed err parsed =>
      simp only [parsed]
      exact ⟨trivial, alike⟩
    | foreign df parsed type => simp [parsed, type, alike]
    | store df parsed type command =>
      simp only [parsed, if_pos type, if_pos command, processStore]
      rcases openStore lib node df.originalMessage with err | ⟨policy, cfg⟩
      · exact ⟨rfl, alike⟩
      · constructor
        · rfl
        constructor
        · simp only [AList.keys_insert, alike.keys]
        · exact alike.evaluationCount
        · rfl
    | evaluate df parsed type other command =>
      have same := openEvaluate_alike alike fun req triggeredAt =>
        unarmed df req triggeredAt parsed type command
      simp only [parsed, if_pos type, if_neg other, if_pos command, processEvaluate, same]
      cases openEvaluate lib chainID node right df.originalMessage with
      | error err => exact ⟨rfl, alike⟩
      | ok resp =>
        constructor
        · rfl
        constructor
        · exact alike.keys
        · exact congrArg (· + 1) alike.evaluationCount
        · rfl
    | unsupported df parsed type other unknown =>
      simp only [parsed, if_pos type, if_neg other, if_neg unknown]
      exact ⟨trivial, alike⟩

theorem answer_paired {request request' : Request}
    (paired : Paired secrets lib node request request')
    (alike : Alike left right) (unarmed : Unarmed lib chainID node left right request) :
    (answer lib chainID left (node, request)).1 = (answer lib chainID right (node, request')).1 ∧
      Alike (answer lib chainID left (node, request)).2
        (answer lib chainID right (node, request')).2 := by
  cases paired with
  | same => exact answer_same alike unarmed
  | @secret id opType _ _ _ _ _ _ _ _ parsed parsed' decoded decoded' secret =>
    simp only [answer, handle, processAction, parsed, parsed']
    by_cases type : opType = lib.toHash OPTypePolicy
    swap
    · simp [type, alike]
    simp only [if_pos type, processPolicy, if_true, processStore]
    rcases openStore_sealed decoded decoded' secret with ⟨err, first, second⟩ | ⟨first, second⟩
    · simp only [first, second]
      exact ⟨rfl, alike⟩
    · simp only [first, second, secrets.sameCount]
      constructor
      · rfl
      constructor
      · simp only [AList.keys_insert, alike.keys]
      · exact alike.evaluationCount
      · rfl

end Step

/-- The extension's answers up to the arming do not tell which configuration the owner stored, in
every run in which no evaluation with an arming time is asked for a policy that holds it. -/
theorem responses_before_arming {secrets : Secrets} {lib : Library} {chainID : Int}
    {moments : List Moment}
    (paired : ∀ moment ∈ moments, Paired secrets lib moment.node moment.left moment.right)
    (discreet : Discreet lib chainID new new moments) :
    responses lib chainID new ((beforeArming moments).map Moment.leftInput) =
      responses lib chainID new ((beforeArming moments).map Moment.rightInput) := by
  have start : Alike new new := ⟨rfl, rfl, rfl⟩
  have allowed : Responder.Lockstep (answer lib chainID) Moment.leftInput Moment.rightInput
      (fun left right moment => Paired secrets lib moment.node moment.left moment.right ∧
        Unarmed lib chainID moment.node left right moment.left) new new (beforeArming moments) := by
    apply (discreet.takeWhile _).imp
    intro moment early left right unarmed
    have kept := List.mem_takeWhile_imp early
    have status := of_decide_eq_true kept
    exact ⟨paired moment (List.takeWhile_subset _ early), unarmed status⟩
  exact allowed.outputs_eq (fun left right moment alike here =>
    answer_paired here.1 alike here.2) start

def sampleSecrets : Secrets := ⟨familyConfig, charityConfig, by decide, by decide, by decide⟩

def ownerStores : Moment where
  status := .active
  node := machine
  left := (sendStorePolicy ownerAccount samplePolicy (ascii "sealed family")).request
  right := (sendStorePolicy ownerAccount samplePolicy (ascii "sealed charity")).request

def strangerEvaluates (status : ConfidentialPolicy.Status) (triggeredAt : Nat) : Moment where
  status
  node := machine
  left := (sendEvaluatePolicy strangerAccount samplePolicy triggeredAt).request
  right := (sendEvaluatePolicy strangerAccount samplePolicy triggeredAt).request

def earlyEvaluation : List Moment := [ownerStores, strangerEvaluates .active sampleTime]

-- A STORE, an EVALUATE that names no arming time, the state, and an EVALUATE once armed.
def evaluationOnceArmed : List Moment :=
  [ownerStores, strangerEvaluates .active 0, ⟨.active, machine, .state, .state⟩,
    strangerEvaluates .triggered sampleTime]

theorem sample_sealed :
    Sealed sampleSecrets machine (ascii "sealed family") (ascii "sealed charity") where
  leftNonempty := by decide +kernel
  rightNonempty := by decide +kernel
  opened := by
    left
    constructor
    · exact ⟨marshal familyConfig.json, by decide +kernel, by decide +kernel⟩
    · exact ⟨marshal charityConfig.json, by decide +kernel, by decide +kernel⟩

theorem ownerStores_paired : Paired sampleSecrets wire machine ownerStores.left ownerStores.right :=
  .secret (parseDataFixed_json _) (parseDataFixed_json _)
    (decodeStore_storeMessage samplePolicy (by decide +kernel))
    (decodeStore_storeMessage samplePolicy (by decide +kernel)) sample_sealed

theorem evaluated_after_store {ciphertext : Bytes} {cfg : PrivateConfig}
    {resp : EvaluatePolicyResponse}
    (opened : openStore wire machine (storeMessage samplePolicy ciphertext) =
      .ok (samplePolicy, cfg))
    (produced : ∀ e : State, e.policies.lookup samplePolicy = some cfg →
      openEvaluate wire 114 machine e (evaluateMessage samplePolicy sampleTime) = .ok resp) :
    ∃ action df,
      (responses wire 114 new
          [(machine, (sendStorePolicy ownerAccount samplePolicy ciphertext).request),
            (machine, (sendEvaluatePolicy strangerAccount samplePolicy sampleTime).request)])[1]? =
        some (.reply ⟨200, .result (buildResult action df (marshal resp.json) 1 "")⟩) := by
  have held : (answer wire 114 new (machine, (sendStorePolicy ownerAccount samplePolicy
      ciphertext).request)).2.policies.lookup samplePolicy = some cfg :=
    sendStorePolicy_held ownerAccount opened
  obtain ⟨action, df, answered⟩ := sendEvaluatePolicy_answered strangerAccount (produced _ held)
  exact ⟨action, df, congrArg some answered⟩

/-- The policy has not armed in either step, and the second answer carries the split. -/
theorem evaluation_before_arming_reveals :
    (∀ moment ∈ earlyEvaluation,
      Paired sampleSecrets wire moment.node moment.left moment.right) ∧
      (∀ moment ∈ earlyEvaluation, moment.status = .active) ∧
      responses wire 114 new ((beforeArming earlyEvaluation).map Moment.leftInput) ≠
        responses wire 114 new ((beforeArming earlyEvaluation).map Moment.rightInput) := by
  constructor
  · intro moment member
    rcases List.mem_pair.mp member with rfl | rfl
    · exact ownerStores_paired
    · exact .same _
  constructor
  · decide +kernel
  · obtain ⟨_, _, left⟩ := evaluated_after_store family_opened fun _ => familyResponse_produced
    obtain ⟨_, _, right⟩ := evaluated_after_store charity_opened fun _ => charityResponse_produced
    have differ : marshal familyResponse.json ≠ marshal charityResponse.json := by decide +kernel
    intro same
    have answers := left.symm.trans ((congrArg (·[1]?) same).trans right)
    simp only [Option.some.injEq, Response.reply.injEq, Reply.mk.injEq, Body.result.injEq,
      buildResult, ActionResult.mk.injEq] at answers
    exact differ answers.2.2.2.2.2.2.1

theorem store_before_arming_hides :
    responses wire 114 new ((beforeArming evaluationOnceArmed).map Moment.leftInput) =
      responses wire 114 new ((beforeArming evaluationOnceArmed).map Moment.rightInput) := by
  have evaluated (triggeredAt : Nat) (fits : triggeredAt < 2 ^ 256) :=
    decodeEvaluate_evaluateMessage samplePolicy fits
  have paired : ∀ moment ∈ evaluationOnceArmed,
      Paired sampleSecrets wire moment.node moment.left moment.right := by
    intro moment member
    simp only [evaluationOnceArmed, List.mem_cons, List.not_mem_nil, or_false] at member
    rcases member with rfl | rfl | rfl | rfl
    · exact ownerStores_paired
    all_goals exact .same _
  have store : Unarmed wire 114 machine new new ownerStores.left := by
    intro df req triggeredAt parsed type evaluate
    cases (parseDataFixed_json _).symm.trans parsed
    exact absurd evaluate (by decide +kernel)
  have evaluate (left right : State) :
      Unarmed wire 114 machine left right
        (sendEvaluatePolicy strangerAccount samplePolicy 0).request := by
    intro df req triggeredAt parsed type evaluate decoded chain set armed
    cases (parseDataFixed_json _).symm.trans parsed
    cases (evaluated 0 (by decide)).symm.trans decoded
    cases set
    exact absurd rfl armed
  have discreet : Discreet wire 114 new new evaluationOnceArmed :=
    ⟨fun _ => store, fun _ => evaluate _ _, fun _ => trivial, fun early => absurd rfl early,
      trivial⟩
  exact responses_before_arming paired discreet

end FlareStudio.Extension
