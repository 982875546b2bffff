import FlareStudio.Extension.StoreSemantics
import FlareStudio.Shared.Interleaving

set_option autoImplicit false

-- Requests are handled at once, each in its own goroutine; the lock is held only while the state
-- is read or written, not across the calls to the node.

namespace FlareStudio.Extension

open Checked Interleaving

-- What the lock protects: one map lookup, the two writes, and the snapshot of GET /state.
inductive Critical where
  | lookup (policy : Address)
  | store (policy : Address) (cfg : PrivateConfig)
  | evaluate (policy : Address)
  | snapshot

abbrev Critical.Seen : Critical → Type
  | .lookup _ => Option PrivateConfig
  | .store _ _ => Unit
  | .evaluate _ => Unit
  | .snapshot => StateResponse

def Critical.act (lib : Library) : (critical : Critical) → State → critical.Seen × State
  | .lookup policy, e => (e.policies.lookup policy, e)
  | .store policy cfg, e =>
    ((), { e with policies := e.policies.insert policy cfg, lastPolicy := lib.addressHex policy })
  | .evaluate policy, e =>
    ((), { e with evaluationCount := e.evaluationCount + 1, lastPolicy := lib.addressHex policy })
  | .snapshot, e => (stateHandler lib e, e)

abbrev Handler : Type := Thread Critical Critical.Seen Response

def finish (ar : ActionResult) : Handler := .done (.reply ⟨200, .result ar⟩)

-- processStore up to the call to decrypt, and from there to the lock.
def storeRequest (lib : Library) (message : Bytes) : Except String StorePolicyRequest := do
  let req ← wrapped "decoding request" (lib.decodeStore message)
  require (req.policy ≠ .zero 20) "policy address must not be zero"
  require (req.ciphertext ≠ []) "ciphertext must not be empty"
  .ok req

def storeConfig (lib : Library) (decrypted : Except String Bytes) :
    Except String PrivateConfig := do
  let plaintext ← wrapped "decrypting policy" decrypted
  let cfg ← ofOption ("parsing decrypted policy: " ++ lib.unmarshalError plaintext)
    (unmarshal plaintext)
  validateShares cfg.shares
  .ok cfg

def storeHandler (lib : Library) (node : Node) (action : Action) (df : DataFixed) : Handler :=
  match storeRequest lib df.originalMessage with
  | .error err => finish (buildResult action df [] 0 err)
  | .ok req => .remote <|
    match storeConfig lib (node.decrypt req.ciphertext) with
    | .error err => finish (buildResult action df [] 0 err)
    | .ok cfg => .access (.store req.policy cfg) fun _ =>
      finish (buildResult action df
        (marshal (StorePolicyResponse.json ⟨req.policy, true, cfg.shares.length⟩)) 1 "")

-- processEvaluate up to the read lock, and from the call to sign to the write lock.
def evaluateRequest (lib : Library) (chainID : Int) (message : Bytes) :
    Except String (Address × Int) := do
  let req ← wrapped "decoding request" (lib.decodeEvaluate message)
  require (chainID ≠ 0) "CHAIN_ID is unset; refusing to sign"
  let triggeredAt ← ofOption "triggeredAt must be set; the policy is not armed" req.triggeredAt
  require (triggeredAt ≠ 0) "triggeredAt must be set; the policy is not armed"
  .ok (req.policy, triggeredAt)

def evaluateResponse (chainID : Int) (node : Node) (policy : Address) (triggeredAt : Int)
    (cfg : PrivateConfig) : Except String EvaluatePolicyResponse := do
  let commitment := computeCommitment cfg.shares cfg.salt
  let preimage := eip712Preimage policy chainID commitment cfg.shares triggeredAt
  let signature ← wrapped "signing distribution" (signViaNode node preimage)
  .ok ⟨policy, cfg.shares, cfg.salt, signature⟩

def evaluateHandler (lib : Library) (chainID : Int) (node : Node) (action : Action)
    (df : DataFixed) : Handler :=
  match evaluateRequest lib chainID df.originalMessage with
  | .error err => finish (buildResult action df [] 0 err)
  | .ok (policy, triggeredAt) => .access (.lookup policy) fun held =>
    match (held : Option PrivateConfig) with
    | none => finish (buildResult action df [] 0
        s!"no stored policy for {lib.addressHex policy}; send STORE first")
    | some cfg => .remote <|
      match evaluateResponse chainID node policy triggeredAt cfg with
      | .error err => finish (buildResult action df [] 0 err)
      | .ok resp => .access (.evaluate resp.policy) fun _ =>
        finish (buildResult action df (marshal resp.json) 1 "")

-- The refusals read nothing of the state.
def policyHandler (lib : Library) (chainID : Int) (node : Node) (action : Action)
    (df : DataFixed) : Handler :=
  if df.opCommand = lib.toHash OPCommandStore then storeHandler lib node action df
  else if df.opCommand = lib.toHash OPCommandEvaluate then
    evaluateHandler lib chainID node action df
  else .done (.reply (processPolicy lib chainID node new action df).1)

def handler (lib : Library) (chainID : Int) (input : Input) : Handler :=
  match input.2 with
  | .state => .access .snapshot fun response => .done (.state response)
  | .action action =>
    match lib.parse action.message with
    | .error _ => .done (.reply (processAction lib chainID input.1 new action).1)
    | .ok df =>
      if df.opType = lib.toHash OPTypePolicy then policyHandler lib chainID input.1 action df
      else .done (.reply (processAction lib chainID input.1 new action).1)

section Alone

variable {lib : Library} {chainID : Int} {node : Node} {message : Bytes}

theorem openStore_eq : openStore lib node message = (do
    let req ← storeRequest lib message
    let cfg ← storeConfig lib (node.decrypt req.ciphertext)
    .ok (req.policy, cfg)) := by
  unfold openStore storeRequest storeConfig
  simp only [bind_assoc]
  rfl

theorem openEvaluate_eq (e : State) : openEvaluate lib chainID node e message = (do
    let (policy, triggeredAt) ← evaluateRequest lib chainID message
    let cfg ← ofOption s!"no stored policy for {lib.addressHex policy}; send STORE first"
      (e.policies.lookup policy)
    evaluateResponse chainID node policy triggeredAt cfg) := by
  unfold openEvaluate evaluateRequest evaluateResponse
  simp only [bind_assoc]
  rfl

theorem storeHandler_run (action : Action) (df : DataFixed) (e : State) :
    (storeHandler lib node action df).run (Critical.act lib) e =
      (.reply ⟨200, .result (processStore lib node e action df).1⟩,
        (processStore lib node e action df).2) := by
  unfold processStore storeHandler
  rw [openStore_eq]
  cases storeRequest lib df.originalMessage with
  | error err => rfl
  | ok req =>
    simp only [Thread.run, bind, Except.bind]
    cases storeConfig lib (node.decrypt req.ciphertext) with
    | error err => rfl
    | ok cfg => rfl

theorem evaluateHandler_run (action : Action) (df : DataFixed) (e : State) :
    (evaluateHandler lib chainID node action df).run (Critical.act lib) e =
      (.reply ⟨200, .result (processEvaluate lib chainID node e action df).1⟩,
        (processEvaluate lib chainID node e action df).2) := by
  unfold processEvaluate evaluateHandler
  rw [openEvaluate_eq]
  cases evaluateRequest lib chainID df.originalMessage with
  | error err => rfl
  | ok asked =>
    obtain ⟨policy, triggeredAt⟩ := asked
    simp only [Thread.run, Critical.act, bind, Except.bind]
    cases e.policies.lookup policy with
    | none => rfl
    | some cfg =>
      simp only [Thread.run, ofOption]
      cases evaluateResponse chainID node policy triggeredAt cfg with
      | error err => rfl
      | ok resp => rfl

theorem handler_run (input : Input) (e : State) :
    (handler lib chainID input).run (Critical.act lib) e = answer lib chainID e input := by
  obtain ⟨node, request⟩ := input
  cases request with
  | state => rfl
  | action action =>
    simp only [handler, answer, handle, processAction, policyHandler, processPolicy]
    cases dispatched lib action with
    | malformed err parsed =>
      simp only [parsed]
      rfl
    | foreign df parsed type =>
      simp only [parsed, if_neg type]
      rfl
    | store df parsed type command =>
      simp only [parsed, if_pos type, if_pos command]
      exact storeHandler_run action df e
    | evaluate df parsed type other command =>
      simp only [parsed, if_pos type, if_neg other, if_pos command]
      exact evaluateHandler_run action df e
    | unsupported df parsed type other unknown =>
      simp only [parsed, if_pos type, if_neg other, if_neg unknown]
      rfl

end Alone

def Conflict : Critical → Critical → Prop
  | .lookup policy, .store other _ => policy = other
  | .store policy _, .lookup other => policy = other
  | .store policy cfg, .store other found => ¬ (policy = other ∧ cfg = found)
  | .store policy _, .evaluate other => policy ≠ other
  | .evaluate policy, .store other _ => policy ≠ other
  | .evaluate policy, .evaluate other => policy ≠ other
  | .snapshot, .store _ _ => True
  | .snapshot, .evaluate _ => True
  | .store _ _, .snapshot => True
  | .evaluate _, .snapshot => True
  | _, _ => False

section Overtaking

variable {lib : Library} {first second : Critical}

theorem lookup_commutes_store {policy other : Address} {cfg : PrivateConfig}
    (apart : policy ≠ other) :
    Commutes (Critical.act lib) (.lookup policy) (.store other cfg) :=
  ⟨fun _ => rfl, fun _ => AList.lookup_insert_ne apart, fun _ => rfl⟩

theorem commutes_of_no_conflict (free : ¬ Conflict first second) :
    Commutes (Critical.act lib) first second := by
  cases first with
  | lookup policy =>
    cases second with
    | store other cfg => exact lookup_commutes_store free
    | _ => exact ⟨fun _ => rfl, fun _ => rfl, fun _ => rfl⟩
  | store policy cfg =>
    cases second with
    | lookup other => exact (lookup_commutes_store (Ne.symm free)).symm
    | store other found =>
      obtain ⟨rfl, rfl⟩ := not_not.mp free
      exact .refl fun _ => rfl
    | evaluate other =>
      obtain rfl := not_not.mp free
      exact ⟨fun _ => rfl, fun _ => rfl, fun _ => rfl⟩
    | snapshot => exact absurd trivial free
  | evaluate policy =>
    cases second with
    | lookup other => exact ⟨fun _ => rfl, fun _ => rfl, fun _ => rfl⟩
    | store other found =>
      obtain rfl := not_not.mp free
      exact ⟨fun _ => rfl, fun _ => rfl, fun _ => rfl⟩
    | evaluate other =>
      obtain rfl := not_not.mp free
      exact .refl fun _ => rfl
    | snapshot => exact absurd trivial free
  | snapshot =>
    cases second with
    | lookup other => exact ⟨fun _ => rfl, fun _ => rfl, fun _ => rfl⟩
    | snapshot => exact .refl fun _ => rfl
    | _ => exact absurd trivial free

theorem lookup_tells_store {policy : Address} {cfg : PrivateConfig} :
    ¬ Commutes (Critical.act lib) (.lookup policy) (.store policy cfg) := by
  intro commutes
  have seen : (new.policies.insert policy cfg).lookup policy = new.policies.lookup policy :=
    commutes.first_seen new
  rw [AList.lookup_insert] at seen
  cases seen

theorem snapshot_tells_store {policy : Address} {cfg : PrivateConfig} :
    ¬ Commutes (Critical.act lib) .snapshot (.store policy cfg) := by
  intro commutes
  have seen : 1 = 0 := congrArg StateResponse.policiesStored (commutes.first_seen new)
  cases seen

theorem snapshot_tells_evaluate {policy : Address} :
    ¬ Commutes (Critical.act lib) .snapshot (.evaluate policy) := by
  intro commutes
  have seen : 1 = 0 := congrArg StateResponse.evaluationCount (commutes.first_seen new)
  cases seen

theorem conflict_iff (named : Function.Injective lib.addressHex) :
    Conflict first second ↔ ¬ Commutes (Critical.act lib) first second := by
  constructor
  swap
  · intro different
    by_contra free
    exact different (commutes_of_no_conflict free)
  intro conflict commutes
  have last {policy other : Address} (left : lib.addressHex other = lib.addressHex policy) :
      policy = other := (named left).symm
  cases first with
  | lookup policy =>
    cases second with
    | store other cfg =>
      obtain rfl : policy = other := conflict
      exact lookup_tells_store commutes
    | _ => exact conflict
  | store policy cfg =>
    cases second with
    | lookup other =>
      obtain rfl : policy = other := conflict
      exact lookup_tells_store commutes.symm
    | store other found =>
      obtain rfl := last (congrArg State.lastPolicy (commutes.state new))
      have left := congrArg (fun e => e.policies.lookup policy) (commutes.state new)
      simp only [Critical.act, AList.lookup_insert, Option.some.injEq] at left
      exact conflict ⟨rfl, left.symm⟩
    | evaluate other => exact conflict (last (congrArg State.lastPolicy (commutes.state new)))
    | snapshot => exact snapshot_tells_store commutes.symm
  | evaluate policy =>
    cases second with
    | lookup other => exact conflict
    | snapshot => exact snapshot_tells_evaluate commutes.symm
    | _ => exact conflict (last (congrArg State.lastPolicy (commutes.state new)))
  | snapshot =>
    cases second with
    | store other cfg => exact snapshot_tells_store commutes
    | evaluate other => exact snapshot_tells_evaluate commutes
    | _ => exact conflict

end Overtaking

def started : System Critical Critical.Seen State Response := ⟨new, []⟩

def arrivals (events : List (Event Input)) : List Input := events.filterMap Event.arrived

def dispatch (lib : Library) (chainID : Int) (events : List (Event Input)) :
    System Critical Critical.Seen State Response :=
  started.run (Critical.act lib) (handler lib chainID) events

/-- No handler enters a section before a conflicting one of a request that arrived earlier. -/
def InOrder (lib : Library) (chainID : Int) (events : List (Event Input)) : Prop :=
  started.Ordered (Critical.act lib) (handler lib chainID) Conflict events

/-- What is answered and left is what the requests would have been answered and would have left, had
they been handled one at a time in order of arrival. -/
structure Serialized (lib : Library) (chainID : Int) (inputs : List Input)
    (system : System Critical Critical.Seen State Response) : Prop where
  answered : ∀ (index : Nat) (response : Response), system.threads[index]? = some (.done response) →
    (responses lib chainID new inputs)[index]? = some response
  finished : ∀ answers : List Response, system.threads = answers.map Thread.done →
    answers = responses lib chainID new inputs ∧ system.state = after lib chainID new inputs
  held : ∀ answers : List Response, system.threads = answers.map Thread.done → ∀ policy,
    system.state.policies.lookup policy = (inputs.filterMap (stored lib policy)).getLast?

theorem in_order_serialized {lib : Library} {chainID : Int} {events : List (Event Input)}
    (ordered : InOrder lib chainID events) :
    Serialized lib chainID (arrivals events) (dispatch lib chainID events) := by
  have start : started.Serial (Critical.act lib) (answer lib chainID) new [] := ⟨rfl, rfl⟩
  have serial : (dispatch lib chainID events).Serial (Critical.act lib) (answer lib chainID) new
      (arrivals events) :=
    System.run_serial handler_run (fun _ _ => commutes_of_no_conflict) start ordered
  constructor
  · intro index response finished
    exact serial.answered finished
  · intro answers finished
    exact serial.finished finished
  · intro answers finished policy
    rw [(serial.finished finished).2]
    exact (after_leaves (arrivals events)).held policy

section Overtaken

variable {lib : Library} {chainID : Int} {policy : Address} {earlier later : Input}
  {first second : PrivateConfig}

variable (chainID) in
-- A STORE that goes through calls decrypt, and writes once that has answered.
theorem handler_stored {input : Input} {cfg : PrivateConfig}
    (holds : stored lib policy input = some cfg) :
    ∃ response, handler lib chainID input =
      .remote (.access (.store policy cfg) fun _ => .done response) := by
  obtain ⟨action, df, asked, parsed, type, store, opened⟩ := stored_eq_some holds
  rw [openStore_eq, bind_reaches] at opened
  obtain ⟨req, requested, rest⟩ := opened
  rw [bind_reaches] at rest
  obtain ⟨found, configured, rest⟩ := rest
  cases rest
  simp only [handler, asked, parsed, if_pos type, policyHandler, if_pos store, storeHandler,
    requested, configured]
  exact ⟨_, rfl⟩

def overtaking (earlier later : Input) : List (Event Input) :=
  [.arrive earlier, .arrive later, .step 0, .step 1, .step 1, .step 0]

theorem overtaking_arrivals : arrivals (overtaking earlier later) = [earlier, later] := rfl

-- The later one is decrypted first, and writes last.
def waiting (earlier later : Input) : List (Event Input) :=
  [.arrive earlier, .arrive later, .step 1, .step 0, .step 0, .step 1]

variable (chainID) in
theorem overtaking_keeps_earlier (holds : stored lib policy earlier = some first)
    (holds' : stored lib policy later = some second) :
    (∃ answers : List Response, (dispatch lib chainID (overtaking earlier later)).threads =
        answers.map Thread.done) ∧
      (dispatch lib chainID (overtaking earlier later)).state.policies.lookup policy =
        some first := by
  obtain ⟨response, begins⟩ := handler_stored chainID holds
  obtain ⟨response', begins'⟩ := handler_stored chainID holds'
  constructor
  · exact ⟨[response, response'], by
      simp [dispatch, started, System.run, overtaking, System.next, begins, begins', Thread.step]⟩
  · simp [dispatch, started, System.run, overtaking, System.next, begins, begins', Thread.step,
      Critical.act]

theorem waiting_in_order (holds : stored lib policy earlier = some first)
    (holds' : stored lib policy later = some second) :
    InOrder lib chainID (waiting earlier later) := by
  obtain ⟨response, begins⟩ := handler_stored chainID holds
  obtain ⟨response', begins'⟩ := handler_stored chainID holds'
  simp [InOrder, started, System.Ordered, System.InOrder, waiting, System.next, begins, begins',
    Thread.step, Critical.act, Thread.All]

end Overtaken

/-- Both are answered, and the configuration held at the end is the one that arrived first. -/
theorem stores_overtake :
    (dispatch wire 114 (overtaking ownersStore strangersStore)).state.policies.lookup
        samplePolicy = some familyConfig ∧
      (after wire 114 new (arrivals (overtaking ownersStore strangersStore))).policies.lookup
        samplePolicy = some charityConfig ∧
      ¬ Serialized wire 114 (arrivals (overtaking ownersStore strangersStore))
        (dispatch wire 114 (overtaking ownersStore strangersStore)) := by
  obtain ⟨⟨answers, done⟩, held⟩ :=
    overtaking_keeps_earlier 114 ownersStore_stored strangersStore_stored
  have last : ((arrivals (overtaking ownersStore strangersStore)).filterMap
      (stored wire samplePolicy)).getLast? = some charityConfig := by
    simp [overtaking_arrivals, ownersStore_stored, strangersStore_stored]
  constructor
  · exact held
  constructor
  · rw [(after_leaves _).held, last]
  · intro serialized
    have same := (serialized.held answers done samplePolicy).symm.trans held
    rw [last] at same
    exact absurd same (by decide)

theorem stores_waiting :
    Serialized wire 114 (arrivals (waiting ownersStore strangersStore))
      (dispatch wire 114 (waiting ownersStore strangersStore)) :=
  in_order_serialized (waiting_in_order ownersStore_stored strangersStore_stored)

end FlareStudio.Extension
