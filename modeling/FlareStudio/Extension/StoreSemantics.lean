import FlareStudio.Extension.Holdings

set_option autoImplicit false

namespace FlareStudio.Extension

inductive Operation where
  | store
  | evaluate
deriving DecidableEq

-- The operation a request asks for, with its message.
def operation (lib : Library) (input : Input) : Option (Operation × Bytes) :=
  match input.2 with
  | .state => none
  | .action action =>
    match lib.parse action.message with
    | .error _ => none
    | .ok df =>
      if df.opType = lib.toHash OPTypePolicy then
        if df.opCommand = lib.toHash OPCommandStore then some (.store, df.originalMessage)
        else if df.opCommand = lib.toHash OPCommandEvaluate then
          some (.evaluate, df.originalMessage)
        else none
      else none

def isStore (lib : Library) (input : Input) : Bool :=
  (operation lib input).any fun asked => asked.1 = .store

def isEvaluate (lib : Library) (input : Input) : Bool :=
  (operation lib input).any fun asked => asked.1 = .evaluate

def succeeded : Response → Bool
  | .reply ⟨200, .result ar⟩ => ar.status = 1
  | _ => false

-- The policy a request names.
def addressed (lib : Library) (input : Input) : Option Address :=
  match operation lib input with
  | some (.store, message) => (lib.decodeStore message).toOption.map StorePolicyRequest.policy
  | some (.evaluate, message) =>
    (lib.decodeEvaluate message).toOption.map EvaluatePolicyRequest.policy
  | none => none

inductive Effect where
  | nothing
  | stored (policy : Address) (cfg : PrivateConfig)
  | evaluated (resp : EvaluatePolicyResponse)

def effect (lib : Library) (chainID : Int) (e : State) (input : Input) : Effect :=
  match operation lib input with
  | some (.store, message) =>
    match openStore lib input.1 message with
    | .ok (policy, cfg) => .stored policy cfg
    | .error _ => .nothing
  | some (.evaluate, message) =>
    match openEvaluate lib chainID input.1 e message with
    | .ok resp => .evaluated resp
    | .error _ => .nothing
  | none => .nothing

def Effect.apply (lib : Library) (e : State) : Effect → State
  | .nothing => e
  | .stored policy cfg =>
    { e with policies := e.policies.insert policy cfg, lastPolicy := lib.addressHex policy }
  | .evaluated resp =>
    { e with evaluationCount := e.evaluationCount + 1, lastPolicy := lib.addressHex resp.policy }

def Effect.succeeds : Effect → Bool
  | .nothing => false
  | _ => true

variable {lib : Library} {chainID : Int}

variable (lib chainID) in
theorem answer_effect (e : State) (input : Input) :
    (answer lib chainID e input).2 = (effect lib chainID e input).apply lib e ∧
      succeeded (answer lib chainID e input).1 = (effect lib chainID e input).succeeds := by
  obtain ⟨node, request⟩ := input
  cases request with
  | state => exact ⟨rfl, rfl⟩
  | action action =>
    simp only [answer, handle, processAction, processPolicy, effect, operation]
    cases dispatched lib action with
    | malformed err parsed =>
      simp only [parsed]
      exact ⟨rfl, rfl⟩
    | foreign df parsed type =>
      simp only [parsed, if_neg type]
      exact ⟨rfl, rfl⟩
    | store df parsed type command =>
      simp only [parsed, if_pos type, if_pos command, processStore]
      rcases openStore lib node df.originalMessage with err | ⟨policy, cfg⟩
      · exact ⟨rfl, rfl⟩
      · exact ⟨rfl, rfl⟩
    | evaluate df parsed type other command =>
      simp only [parsed, if_pos type, if_neg other, if_pos command, processEvaluate]
      cases openEvaluate lib chainID node e df.originalMessage with
      | error err => exact ⟨rfl, rfl⟩
      | ok resp => exact ⟨rfl, rfl⟩
    | unsupported df parsed type other unknown =>
      simp only [parsed, if_pos type, if_neg other, if_neg unknown]
      exact ⟨rfl, rfl⟩

theorem stored_iff_effect {e : State} {input : Input} {policy : Address} {cfg : PrivateConfig} :
    stored lib policy input = some cfg ↔ effect lib chainID e input = .stored policy cfg := by
  obtain ⟨node, request⟩ := input
  cases request with
  | state => simp [stored, effect, operation]
  | action action =>
    simp only [stored, effect, operation]
    cases dispatched lib action with
    | malformed err parsed => simp [parsed]
    | foreign df parsed type => simp [parsed, type]
    | store df parsed type command =>
      simp only [parsed, type, command, and_self, if_true]
      rcases openStore lib node df.originalMessage with err | ⟨target, found⟩
      · simp
      · by_cases same : target = policy <;> simp [same]
    | evaluate df parsed type other command =>
      simp only [parsed, if_pos type, if_pos command, other, and_false, if_false]
      cases openEvaluate lib chainID node e df.originalMessage <;> simp
    | unsupported df parsed type other unknown => simp [parsed, type, other, unknown]

/-- The request is a STORE for the policy, and the node decrypts the ciphertext in its message to
the configuration, whose shares are in order. -/
def OpensTo (lib : Library) (input : Input) (policy : Address) (cfg : PrivateConfig) : Prop :=
  ∃ message req plaintext, operation lib input = some (.store, message) ∧
    lib.decodeStore message = .ok req ∧ req.policy = policy ∧ policy ≠ .zero 20 ∧
    req.ciphertext ≠ [] ∧ input.1.decrypt req.ciphertext = .ok plaintext ∧
    unmarshal plaintext = some cfg ∧ validateShares cfg.shares = .ok ()

theorem effect_stored {e : State} {input : Input} {policy : Address} {cfg : PrivateConfig} :
    effect lib chainID e input = .stored policy cfg ↔ OpensTo lib input policy cfg := by
  constructor
  · intro effected
    unfold effect at effected
    split at effected
    · rename_i message asked
      split at effected
      · rename_i opened
        cases effected
        obtain ⟨req, plaintext, decoded, named, nonzero, nonempty, decrypted, parsed, valid⟩ :=
          openStore_eq_ok opened
        exact ⟨message, req, plaintext, asked, decoded, named, nonzero, nonempty, decrypted, parsed,
          valid⟩
      · cases effected
    · split at effected <;> cases effected
    · cases effected
  · rintro ⟨message, ⟨_, ciphertext⟩, plaintext, asked, decoded, rfl, nonzero, nonempty, decrypted,
      parsed, valid⟩
    have opened := openStore_of_decrypt decoded nonzero nonempty decrypted parsed valid
    simp only [effect, asked, opened]

theorem stored_iff_opensTo {input : Input} {policy : Address} {cfg : PrivateConfig} :
    stored lib policy input = some cfg ↔ OpensTo lib input policy cfg :=
  (@stored_iff_effect lib 0 new input policy cfg).trans effect_stored

theorem OpensTo.addressed {input : Input} {policy : Address} {cfg : PrivateConfig}
    (opens : OpensTo lib input policy cfg) :
    isStore lib input = true ∧ isEvaluate lib input = false ∧
      Extension.addressed lib input = some policy := by
  obtain ⟨message, req, plaintext, asked, decoded, named, -⟩ := opens
  simp only [isStore, isEvaluate, Extension.addressed, asked, decoded]
  exact ⟨rfl, rfl, congrArg some named⟩

theorem OpensTo.valid {input : Input} {policy : Address} {cfg : PrivateConfig}
    (opens : OpensTo lib input policy cfg) : validateShares cfg.shares = .ok () := by
  obtain ⟨_, _, _, -, -, -, -, -, -, -, valid⟩ := opens
  exact valid

theorem evaluated_iff_effect {e : State} {input : Input} {resp : EvaluatePolicyResponse} :
    evaluated lib chainID e input = some resp ↔
      effect lib chainID e input = .evaluated resp := by
  obtain ⟨node, request⟩ := input
  cases request with
  | state => simp [evaluated, effect, operation]
  | action action =>
    simp only [evaluated, effect, operation]
    cases dispatched lib action with
    | malformed err parsed => simp [parsed]
    | foreign df parsed type => simp [parsed, type]
    | store df parsed type command =>
      simp only [parsed, if_pos type, command, ne_eq, not_true, false_and, and_false, if_false,
        if_true]
      rcases openStore lib node df.originalMessage with err | ⟨target, found⟩ <;> simp
    | evaluate df parsed type other command =>
      simp only [parsed, if_pos type, if_neg other, if_pos command,
        if_pos (And.intro type (And.intro other command))]
      cases openEvaluate lib chainID node e df.originalMessage <;> simp [Except.toOption]
    | unsupported df parsed type other unknown => simp [parsed, type, other, unknown]

/-- The answer to an evaluation stands for the configuration held, and the node has signed it. -/
structure Stands (lib : Library) (chainID : Int) (e : State) (input : Input)
    (resp : EvaluatePolicyResponse) : Prop where
  asked : ∃ message triggeredAt cfg, operation lib input = some (.evaluate, message) ∧
    lib.decodeEvaluate message = .ok ⟨resp.policy, some triggeredAt⟩ ∧
    e.policies.lookup resp.policy = some cfg ∧ resp.shares = cfg.shares ∧ resp.salt = cfg.salt ∧
    signViaNode input.1 (eip712Preimage resp.policy chainID
      (computeCommitment cfg.shares cfg.salt) cfg.shares triggeredAt) = .ok resp.signature

theorem effect_evaluated {e : State} {input : Input} {resp : EvaluatePolicyResponse}
    (effected : effect lib chainID e input = .evaluated resp) :
    isEvaluate lib input = true ∧ addressed lib input = some resp.policy ∧
      Stands lib chainID e input resp := by
  unfold effect at effected
  split at effected
  · split at effected <;> cases effected
  · rename_i message asked
    split at effected
    · rename_i opened
      cases effected
      obtain ⟨⟨policy, armed⟩, triggeredAt, cfg, decoded, -, set, -, held, named, shares, salt,
        signed⟩ := openEvaluate_eq_ok opened
      simp only at named set
      subst named set
      simp only [isEvaluate, addressed, asked, decoded]
      exact ⟨rfl, rfl, message, triggeredAt, cfg, asked, decoded, held, shares, salt, signed⟩
    · cases effected
  · cases effected

/-- What any request, at any state, is answered and leaves behind. -/
structure Answered (lib : Library) (chainID : Int) (e : State) (input : Input) : Prop where
  refused : succeeded (answer lib chainID e input).1 = false →
    (answer lib chainID e input).2 = e
  stores : isStore lib input = true → succeeded (answer lib chainID e input).1 = true →
    ∃ policy cfg, addressed lib input = some policy ∧ stored lib policy input = some cfg
  storedOnly : ∀ policy cfg, stored lib policy input = some cfg ↔ OpensTo lib input policy cfg
  opened : ∀ policy cfg, OpensTo lib input policy cfg →
    isStore lib input = true ∧ succeeded (answer lib chainID e input).1 = true ∧
      addressed lib input = some policy
  evaluates : isEvaluate lib input = true →
    (answer lib chainID e input).2.policies = e.policies ∧
      (succeeded (answer lib chainID e input).1 = true → ∃ resp action df,
        Stands lib chainID e input resp ∧ (answer lib chainID e input).1 =
          .reply ⟨200, .result (buildResult action df (marshal resp.json) 1 "")⟩)

theorem isStore_ne_isEvaluate {input : Input} (store : isStore lib input = true) :
    isEvaluate lib input = false := by
  cases asked : operation lib input with
  | none => simp [isEvaluate, asked]
  | some found =>
    obtain ⟨operation, message⟩ := found
    cases operation with
    | store => simp [isEvaluate, asked]
    | evaluate => simp [isStore, asked] at store

theorem answered (e : State) (input : Input) : Answered lib chainID e input := by
  obtain ⟨state, success⟩ := answer_effect lib chainID e input
  constructor
  · intro refused
    rw [success] at refused
    rw [state]
    cases effected : effect lib chainID e input <;> rw [effected] at refused
    · rfl
    · cases refused
    · cases refused
  · intro store succeeds
    rw [success] at succeeds
    cases effected : effect lib chainID e input with
    | nothing =>
      rw [effected] at succeeds
      cases succeeds
    | stored policy cfg =>
      have opens := effect_stored.mp effected
      exact ⟨policy, cfg, opens.addressed.2.2, stored_iff_opensTo.mpr opens⟩
    | evaluated resp =>
      have evaluate := (effect_evaluated effected).1
      rw [isStore_ne_isEvaluate store] at evaluate
      cases evaluate
  · exact fun policy cfg => stored_iff_opensTo
  · intro policy cfg opens
    obtain ⟨store, -, named⟩ := opens.addressed
    rw [success, effect_stored.mpr opens]
    exact ⟨store, rfl, named⟩
  · intro evaluate
    cases effected : effect lib chainID e input with
    | nothing =>
      rw [state, success, effected]
      exact ⟨rfl, fun impossible => nomatch impossible⟩
    | stored policy cfg =>
      have other := (effect_stored.mp effected).addressed.2.1
      rw [evaluate] at other
      cases other
    | evaluated resp =>
      obtain ⟨action, df, -, -, -, reply⟩ :=
        evaluated_eq_some (evaluated_iff_effect.mpr effected)
      rw [state, effected]
      exact ⟨rfl, fun _ => ⟨resp, action, df, (effect_evaluated effected).2.2, reply⟩⟩

-- A request and what it was answered.
abbrev Entry := Input × Response

def Entry.evaluation (lib : Library) (entry : Entry) : Bool :=
  isEvaluate lib entry.1 && succeeded entry.2

def Entry.addressed (lib : Library) (entry : Entry) : Option Address :=
  if succeeded entry.2 then Extension.addressed lib entry.1 else none

/-- The state after a run, as a function of its requests and answers. -/
structure Leaves (lib : Library) (inputs : List Input) (log : List Entry) (e : State) : Prop where
  held : ∀ policy, e.policies.lookup policy = (inputs.filterMap (stored lib policy)).getLast?
  valid : ∀ policy cfg, e.policies.lookup policy = some cfg → validateShares cfg.shares = .ok ()
  evaluationCount : e.evaluationCount = log.countP (Entry.evaluation lib)
  lastPolicy : e.lastPolicy =
    ((log.filterMap (Entry.addressed lib)).getLast?.map lib.addressHex).getD ""

variable (lib chainID) in
theorem evaluationCount_answer (e : State) (input : Input) :
    (answer lib chainID e input).2.evaluationCount = e.evaluationCount +
      if Entry.evaluation lib (input, (answer lib chainID e input).1) then 1 else 0 := by
  obtain ⟨state, success⟩ := answer_effect lib chainID e input
  rw [state, Entry.evaluation, success]
  cases effected : effect lib chainID e input with
  | nothing => simp [Effect.apply, Effect.succeeds]
  | stored policy cfg => simp [Effect.apply, (effect_stored.mp effected).addressed.2.1]
  | evaluated resp => simp [Effect.apply, Effect.succeeds, (effect_evaluated effected).1]

theorem lastPolicy_answer (e : State) (input : Input) :
    (answer lib chainID e input).2.lastPolicy =
      ((Entry.addressed lib (input, (answer lib chainID e input).1)).map lib.addressHex).getD
        e.lastPolicy := by
  obtain ⟨state, success⟩ := answer_effect lib chainID e input
  rw [state, Entry.addressed, success]
  cases effected : effect lib chainID e input with
  | nothing => rfl
  | stored policy cfg => simp [Effect.apply, Effect.succeeds,
      (effect_stored.mp effected).addressed.2.2]
  | evaluated resp => simp [Effect.apply, Effect.succeeds, (effect_evaluated effected).2.1]

theorem after_leaves (inputs : List Input) :
    Leaves lib inputs (inputs.zip (responses lib chainID new inputs))
      (after lib chainID new inputs) := by
  have held (policy : Address) : (after lib chainID new inputs).policies.lookup policy =
      (inputs.filterMap (stored lib policy)).getLast? := by
    rw [lookup_after]
    exact Option.or_none
  constructor
  · exact held
  · intro policy cfg holds
    rw [held] at holds
    obtain ⟨input, -, wrote⟩ := List.mem_filterMap.mp (List.mem_of_getLast? holds)
    exact (stored_iff_opensTo.mp wrote).valid
  · have counted := Responder.count_final_log State.evaluationCount
      (evaluationCount_answer lib chainID) new inputs
    rw [after, counted]
    exact Nat.zero_add _
  · have last : (Responder.final (answer lib chainID) new inputs).lastPolicy =
        (((inputs.zip (Responder.outputs (answer lib chainID) new inputs)).filterMap fun entry =>
          (Entry.addressed lib entry).map lib.addressHex).getLast?).getD new.lastPolicy :=
      Responder.read_final_log State.lastPolicy lastPolicy_answer new inputs
    rw [after, last, ← List.map_filterMap, List.getLast?_map]
    rfl

def storeInto (lib : Library) (policies : AList fun _ : Address => PrivateConfig)
    (input : Input) : AList fun _ : Address => PrivateConfig :=
  match operation lib input with
  | some (.store, message) =>
    match openStore lib input.1 message with
    | .ok (policy, cfg) => policies.insert policy cfg
    | .error _ => policies
  | _ => policies

theorem policies_answer (e : State) (input : Input) :
    (answer lib chainID e input).2.policies = storeInto lib e.policies input := by
  rw [(answer_effect lib chainID e input).1, effect, storeInto]
  cases operation lib input with
  | none => rfl
  | some found =>
    obtain ⟨operation, message⟩ := found
    cases operation with
    | store =>
      simp only
      rcases openStore lib input.1 message with err | ⟨policy, cfg⟩ <;> rfl
    | evaluate =>
      simp only
      cases openEvaluate lib chainID input.1 e message <;> rfl

-- Only the STOREs write to the map.
theorem storeInto_other {policies : AList fun _ : Address => PrivateConfig} {input : Input}
    (other : isStore lib input = false) : storeInto lib policies input = policies := by
  unfold storeInto
  cases asked : operation lib input with
  | none => rfl
  | some found =>
    obtain ⟨operation, message⟩ := found
    cases operation with
    | store => simp [isStore, asked] at other
    | evaluate => rfl

-- The same request, with the same answers from decrypt; what the node signs may differ.
structure SameStore (input other : Input) : Prop where
  request : input.2 = other.2
  decrypt : input.1.decrypt = other.1.decrypt

theorem storeInto_same {input other : Input} (same : SameStore input other)
    (policies : AList fun _ : Address => PrivateConfig) :
    storeInto lib policies input = storeInto lib policies other := by
  simp only [storeInto, operation, openStore, same.request, same.decrypt]

theorem replay_rebuilds {inputs replayed : List Input}
    (same : List.Forall₂ SameStore (inputs.filter (isStore lib)) replayed) :
    (after lib chainID new replayed).policies = (after lib chainID new inputs).policies := by
  have folded (inputs : List Input) : (after lib chainID new inputs).policies =
      inputs.foldl (storeInto lib) new.policies :=
    Responder.read_final_foldl State.policies policies_answer new inputs
  have skipped : storeInto lib = fun policies input =>
      if isStore lib input then storeInto lib policies input else policies := by
    funext policies input
    by_cases store : isStore lib input = true
    · rw [if_pos store]
    · rw [if_neg store, storeInto_other (by simpa using store)]
  have matched {first second : List Input} (same : List.Forall₂ SameStore first second)
      (policies : AList fun _ : Address => PrivateConfig) :
      second.foldl (storeInto lib) policies = first.foldl (storeInto lib) policies := by
    induction same generalizing policies with
    | nil => rfl
    | cons here _ ih => rw [List.foldl_cons, List.foldl_cons, ih, storeInto_same here]
  calc (after lib chainID new replayed).policies
      = replayed.foldl (storeInto lib) new.policies := folded replayed
    _ = (inputs.filter (isStore lib)).foldl (storeInto lib) new.policies := matched same _
    _ = inputs.foldl (storeInto lib) new.policies := by
      rw [List.foldl_filter, ← skipped]
    _ = (after lib chainID new inputs).policies := (folded inputs).symm

end FlareStudio.Extension
