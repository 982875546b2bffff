import FlareStudio.Extension.Policy
import FlareStudio.Shared.Checked
import FlareStudio.Shared.Responder

set_option autoImplicit false

namespace FlareStudio.Extension

open Checked

def Version : String := "0.1.0"

def OPTypePolicy : String := "POLICY"

def OPCommandStore : String := "STORE"

def OPCommandEvaluate : String := "EVALUATE"

structure DataFixed where
  opType : Bytes32
  opCommand : Bytes32
  originalMessage : Bytes
deriving DecidableEq

structure Action where
  id : Bytes32
  submissionTag : String
  message : Bytes

structure ActionResult where
  id : Bytes32
  submissionTag : String
  version : String
  opType : Bytes32
  opCommand : Bytes32
  data : Bytes
  status : Nat
  log : String
deriving DecidableEq

-- What the handlers call in the node's, Flare's and go-ethereum's packages, and the texts of
-- encoding/json's errors.
structure Library where
  parse : Bytes → Except String DataFixed
  decodeStore : Bytes → Except String StorePolicyRequest
  decodeEvaluate : Bytes → Except String EvaluatePolicyRequest
  toHash : String → Bytes32
  hashHex : Bytes32 → String
  addressHex : Address → String
  unmarshalError : Bytes → String

-- The node's answers while one action is handled.
structure Node where
  decrypt : Bytes → Except String Bytes
  sign : Bytes → Except String Bytes

structure State where
  policies : AList fun _ : Address => PrivateConfig
  evaluationCount : Nat
  lastPolicy : String

def new : State := ⟨∅, 0, ""⟩

-- fmt.Errorf with %w.
def wrapped {α : Type} (label : String) : Except String α → Except String α :=
  Except.mapError fun err => label ++ ": " ++ err

theorem wrapped_reaches {α β : Type} {label : String} {first : Except String α}
    {next : α → Except String β} {result : β} :
    (wrapped label first >>= next) = .ok result ↔
      ∃ value, first = .ok value ∧ next value = .ok result := by
  rcases first with err | value <;> simp [wrapped, Except.mapError, bind, Except.bind]

def buildResult (a : Action) (df : DataFixed) (data : Bytes) (status : Nat) (err : String) :
    ActionResult where
  id := a.id
  submissionTag := a.submissionTag
  version := Version
  opType := df.opType
  opCommand := df.opCommand
  data
  status
  log := if status = 0 then "error: " ++ err else if status = 1 then "ok" else "pending"

-- The total is a uint32, and the message names it where it means the index.
def sumShares : UInt32 → List Share → Except String UInt32
  | total, [] => .ok total
  | total, s :: rest =>
    if s.recipient = .zero 20 then .error s!"share {total.toNat} has a zero recipient"
    else sumShares (total + s.shareBps.toUInt32) rest

def validateShares (shares : List Share) : Except String Unit := do
  require (shares ≠ []) "policy has no shares"
  let total ← sumShares 0 shares
  require (total = 10000) s!"shares sum to {total.toNat} bps, expected 10000"

theorem sumShares_error {shares : List Share} {share : Share} (member : share ∈ shares)
    (zero : share.recipient = .zero 20) (total : UInt32) :
    ∃ err, sumShares total shares = .error err := by
  induction shares generalizing total with
  | nil => cases member
  | cons first rest ih =>
    rw [sumShares]
    by_cases here : first.recipient = .zero 20
    · exact ⟨_, if_pos here⟩
    · rw [if_neg here]
      rcases List.mem_cons.mp member with rfl | later
      · exact absurd zero here
      · exact ih later _

theorem sumShares_ok {shares : List Share} (nonzero : ∀ share ∈ shares, share.recipient ≠ .zero 20)
    (total : UInt32) : ∃ sum, sumShares total shares = .ok sum ∧
      sum.toNat = (total.toNat + (shares.map fun share => share.shareBps.toNat).sum) % 2 ^ 32 := by
  induction shares generalizing total with
  | nil => exact ⟨total, rfl, (Nat.mod_eq_of_lt total.toNat_lt).symm⟩
  | cons first rest ih =>
    have later := ih (fun share member => nonzero share (List.mem_cons_of_mem _ member))
      (total + first.shareBps.toUInt32)
    obtain ⟨sum, summed, value⟩ := later
    rw [sumShares, if_neg (nonzero first List.mem_cons_self)]
    refine ⟨sum, summed, ?_⟩
    rw [value, List.map_cons, List.sum_cons, UInt32.toNat_add, UInt16.toNat_toUInt32]
    omega

theorem validateShares_eq_ok {shares : List Share} : validateShares shares = .ok () ↔
    shares ≠ [] ∧ (∀ share ∈ shares, share.recipient ≠ .zero 20) ∧
      (shares.map fun share => share.shareBps.toNat).sum % 2 ^ 32 = 10000 := by
  unfold validateShares
  rw [require_reaches]
  apply and_congr_right
  intro _
  by_cases nonzero : ∀ share ∈ shares, share.recipient ≠ .zero 20
  · obtain ⟨sum, summed, value⟩ := sumShares_ok nonzero 0
    have whole : sum = 10000 ↔
        (shares.map fun share => share.shareBps.toNat).sum % 2 ^ 32 = 10000 := by
      rw [← UInt32.toNat_inj, value]
      simp
    rw [summed, ← whole, and_iff_right nonzero]
    by_cases reached : sum = 10000 <;> simp [require, reached, bind, Except.bind]
  · obtain ⟨share, member, zero⟩ : ∃ share ∈ shares, share.recipient = .zero 20 := by
      simpa using nonzero
    obtain ⟨err, failed⟩ := sumShares_error member zero 0
    rw [failed]
    constructor
    · intro accepted
      cases accepted
    · intro accepted
      exact absurd zero (accepted.1 share member)

theorem validateShares_reaches {α : Type} {shares : List Share} {next : Unit → Except String α}
    {result : α} : (validateShares shares >>= next) = .ok result ↔
      validateShares shares = .ok () ∧ next () = .ok result := by
  rw [bind_reaches]
  exact ⟨fun ⟨_, valid, done⟩ => ⟨valid, done⟩, fun ⟨valid, done⟩ => ⟨(), valid, done⟩⟩

-- The fallible part of a STORE: what it is about to hold, and for which policy.
def openStore (lib : Library) (node : Node) (message : Bytes) :
    Except String (Address × PrivateConfig) := do
  let req ← wrapped "decoding request" (lib.decodeStore message)
  require (req.policy ≠ .zero 20) "policy address must not be zero"
  require (req.ciphertext ≠ []) "ciphertext must not be empty"
  let plaintext ← wrapped "decrypting policy" (node.decrypt req.ciphertext)
  let cfg ← ofOption ("parsing decrypted policy: " ++ lib.unmarshalError plaintext)
    (unmarshal plaintext)
  validateShares cfg.shares
  .ok (req.policy, cfg)

def processStore (lib : Library) (node : Node) (e : State) (action : Action) (df : DataFixed) :
    ActionResult × State :=
  match openStore lib node df.originalMessage with
  | .error err => (buildResult action df [] 0 err, e)
  | .ok (policy, cfg) =>
    (buildResult action df (marshal (StorePolicyResponse.json ⟨policy, true, cfg.shares.length⟩)) 1
        "",
      { e with policies := e.policies.insert policy cfg, lastPolicy := lib.addressHex policy })

def normalizeV (sig : Bytes) : Bytes :=
  sig.take 64 ++ [if sig.getD 64 0 < 27 then sig.getD 64 0 + 27 else sig.getD 64 0]

def signViaNode (node : Node) (message : Bytes) : Except String Bytes := do
  let signature ← node.sign message
  require (signature.length = 65) s!"expected a 65-byte signature, got {signature.length}"
  .ok (normalizeV signature)

-- The fallible part of an EVALUATE.
def openEvaluate (lib : Library) (chainID : Int) (node : Node) (e : State) (message : Bytes) :
    Except String EvaluatePolicyResponse := do
  let req ← wrapped "decoding request" (lib.decodeEvaluate message)
  require (chainID ≠ 0) "CHAIN_ID is unset; refusing to sign"
  let triggeredAt ← ofOption "triggeredAt must be set; the policy is not armed" req.triggeredAt
  require (triggeredAt ≠ 0) "triggeredAt must be set; the policy is not armed"
  let cfg ← ofOption s!"no stored policy for {lib.addressHex req.policy}; send STORE first"
    (e.policies.lookup req.policy)
  let commitment := computeCommitment cfg.shares cfg.salt
  let preimage := eip712Preimage req.policy chainID commitment cfg.shares triggeredAt
  let signature ← wrapped "signing distribution" (signViaNode node preimage)
  .ok ⟨req.policy, cfg.shares, cfg.salt, signature⟩

def processEvaluate (lib : Library) (chainID : Int) (node : Node) (e : State) (action : Action)
    (df : DataFixed) : ActionResult × State :=
  match openEvaluate lib chainID node e df.originalMessage with
  | .error err => (buildResult action df [] 0 err, e)
  | .ok resp =>
    (buildResult action df (marshal resp.json) 1 "",
      { e with
        evaluationCount := e.evaluationCount + 1, lastPolicy := lib.addressHex resp.policy })

-- A result goes out as JSON, an unsupported action as plain text.
inductive Body where
  | result (result : ActionResult)
  | text (message : String)
deriving DecidableEq

structure Reply where
  status : Nat
  body : Body
deriving DecidableEq

def processPolicy (lib : Library) (chainID : Int) (node : Node) (e : State) (action : Action)
    (df : DataFixed) : Reply × State :=
  if df.opCommand = lib.toHash OPCommandStore then
    let (ar, e) := processStore lib node e action df
    (⟨200, .result ar⟩, e)
  else if df.opCommand = lib.toHash OPCommandEvaluate then
    let (ar, e) := processEvaluate lib chainID node e action df
    (⟨200, .result ar⟩, e)
  else
    (⟨501, .text ("unsupported op command: received " ++ lib.hashHex df.opCommand ++
      ", expected one of [" ++ lib.hashHex (lib.toHash OPCommandStore) ++ " (" ++ OPCommandStore ++
      "), " ++ lib.hashHex (lib.toHash OPCommandEvaluate) ++ " (" ++ OPCommandEvaluate ++ ")]")⟩, e)

def processAction (lib : Library) (chainID : Int) (node : Node) (e : State) (action : Action) :
    Reply × State :=
  match lib.parse action.message with
  | .error err => (⟨400, .text ("decoding fixed data: " ++ err)⟩, e)
  | .ok dataFixed =>
    if dataFixed.opType = lib.toHash OPTypePolicy then
      processPolicy lib chainID node e action dataFixed
    else
      (⟨501, .text ("unsupported op type: received " ++ lib.hashHex dataFixed.opType ++
        ", expected " ++ lib.hashHex (lib.toHash OPTypePolicy) ++ " (" ++ OPTypePolicy ++ ")")⟩, e)

def stateHandler (lib : Library) (e : State) : StateResponse where
  stateVersion := lib.toHash Version
  policiesStored := e.policies.keys.length
  evaluationCount := e.evaluationCount
  lastPolicy := e.lastPolicy

inductive Request where
  | action (action : Action)
  | state

inductive Response where
  | reply (reply : Reply)
  | state (response : StateResponse)
deriving DecidableEq

def handle (lib : Library) (chainID : Int) (node : Node) (e : State) : Request → Response × State
  | .action action =>
    let (reply, e) := processAction lib chainID node e action
    (.reply reply, e)
  | .state => (.state (stateHandler lib e), e)

-- A request with what the node answers while it is handled.
abbrev Input := Node × Request

def answer (lib : Library) (chainID : Int) (e : State) (input : Input) : Response × State :=
  handle lib chainID input.1 e input.2

def responses (lib : Library) (chainID : Int) : State → List Input → List Response :=
  Responder.outputs (answer lib chainID)

def after (lib : Library) (chainID : Int) : State → List Input → State :=
  Responder.final (answer lib chainID)

inductive Dispatched (lib : Library) (action : Action) : Prop where
  | malformed (err : String) (parsed : lib.parse action.message = .error err)
  | foreign (df : DataFixed) (parsed : lib.parse action.message = .ok df)
      (type : df.opType ≠ lib.toHash OPTypePolicy)
  | store (df : DataFixed) (parsed : lib.parse action.message = .ok df)
      (type : df.opType = lib.toHash OPTypePolicy)
      (command : df.opCommand = lib.toHash OPCommandStore)
  | evaluate (df : DataFixed) (parsed : lib.parse action.message = .ok df)
      (type : df.opType = lib.toHash OPTypePolicy)
      (other : df.opCommand ≠ lib.toHash OPCommandStore)
      (command : df.opCommand = lib.toHash OPCommandEvaluate)
  | unsupported (df : DataFixed) (parsed : lib.parse action.message = .ok df)
      (type : df.opType = lib.toHash OPTypePolicy)
      (other : df.opCommand ≠ lib.toHash OPCommandStore)
      (unknown : df.opCommand ≠ lib.toHash OPCommandEvaluate)

theorem dispatched (lib : Library) (action : Action) : Dispatched lib action := by
  cases parsed : lib.parse action.message with
  | error err => exact .malformed err parsed
  | ok df =>
    by_cases type : df.opType = lib.toHash OPTypePolicy
    swap
    · exact .foreign df parsed type
    by_cases store : df.opCommand = lib.toHash OPCommandStore
    · exact .store df parsed type store
    by_cases evaluate : df.opCommand = lib.toHash OPCommandEvaluate
    · exact .evaluate df parsed type store evaluate
    · exact .unsupported df parsed type store evaluate

theorem openStore_eq_ok {lib : Library} {node : Node} {message : Bytes} {policy : Address}
    {cfg : PrivateConfig} (opened : openStore lib node message = .ok (policy, cfg)) :
    ∃ req plaintext, lib.decodeStore message = .ok req ∧ req.policy = policy ∧
      policy ≠ .zero 20 ∧ req.ciphertext ≠ [] ∧ node.decrypt req.ciphertext = .ok plaintext ∧
      unmarshal plaintext = some cfg ∧ validateShares cfg.shares = .ok () := by
  simp only [openStore, wrapped_reaches, require_reaches, ofOption_reaches, validateShares_reaches,
    Except.ok.injEq, Prod.mk.injEq] at opened
  obtain ⟨req, decoded, nonzero, nonempty, plaintext, decrypted, _, parsed, valid, rfl, rfl⟩ :=
    opened
  exact ⟨req, plaintext, decoded, rfl, nonzero, nonempty, decrypted, parsed, valid⟩

theorem openStore_of_decrypt {lib : Library} {node : Node} {message : Bytes} {policy : Address}
    {ciphertext plaintext : Bytes} {cfg : PrivateConfig}
    (decoded : lib.decodeStore message = .ok ⟨policy, ciphertext⟩) (nonzero : policy ≠ .zero 20)
    (nonempty : ciphertext ≠ []) (decrypted : node.decrypt ciphertext = .ok plaintext)
    (parsed : unmarshal plaintext = some cfg) (valid : validateShares cfg.shares = .ok ()) :
    openStore lib node message = .ok (policy, cfg) := by
  simp [openStore, decoded, wrapped, Except.mapError, require, nonzero, nonempty, decrypted,
    ofOption, parsed, valid, bind, Except.bind]

theorem signViaNode_eq_ok {node : Node} {message sig : Bytes}
    (signed : signViaNode node message = .ok sig) :
    ∃ raw, node.sign message = .ok raw ∧ raw.length = 65 ∧ sig = normalizeV raw := by
  rw [signViaNode, bind_reaches] at signed
  obtain ⟨raw, answered, rest⟩ := signed
  rw [require_reaches] at rest
  exact ⟨raw, answered, rest.1, (Except.ok.inj rest.2).symm⟩

theorem signViaNode_of_sign {node : Node} {message raw : Bytes}
    (answered : node.sign message = .ok raw) (sized : raw.length = 65) :
    signViaNode node message = .ok (normalizeV raw) := by
  rw [signViaNode, answered]
  simp [require, sized, bind, Except.bind]

theorem openEvaluate_of_held {lib : Library} {chainID triggeredAt : Int} {node : Node} {e : State}
    {message signature : Bytes} {policy : Address} {cfg : PrivateConfig}
    (decoded : lib.decodeEvaluate message = .ok ⟨policy, some triggeredAt⟩) (chain : chainID ≠ 0)
    (armed : triggeredAt ≠ 0) (held : e.policies.lookup policy = some cfg)
    (signed : signViaNode node (eip712Preimage policy chainID
      (computeCommitment cfg.shares cfg.salt) cfg.shares triggeredAt) = .ok signature) :
    openEvaluate lib chainID node e message = .ok ⟨policy, cfg.shares, cfg.salt, signature⟩ := by
  simp [openEvaluate, decoded, wrapped, Except.mapError, require, chain, ofOption, armed, held,
    signed, bind, Except.bind]

theorem openEvaluate_eq_ok {lib : Library} {chainID : Int} {node : Node} {e : State}
    {message : Bytes} {resp : EvaluatePolicyResponse}
    (opened : openEvaluate lib chainID node e message = .ok resp) :
    ∃ req triggeredAt cfg, lib.decodeEvaluate message = .ok req ∧ chainID ≠ 0 ∧
      req.triggeredAt = some triggeredAt ∧ triggeredAt ≠ 0 ∧
      e.policies.lookup req.policy = some cfg ∧ resp.policy = req.policy ∧
      resp.shares = cfg.shares ∧ resp.salt = cfg.salt ∧
      signViaNode node (eip712Preimage req.policy chainID
        (computeCommitment cfg.shares cfg.salt) cfg.shares triggeredAt) = .ok resp.signature := by
  simp only [openEvaluate, wrapped_reaches, require_reaches, ofOption_reaches,
    Except.ok.injEq] at opened
  obtain ⟨req, decoded, chain, triggeredAt, set, nonzero, cfg, held, signature, signed, rfl⟩ :=
    opened
  exact ⟨req, triggeredAt, cfg, decoded, chain, set, nonzero, held, rfl, rfl, rfl, signed⟩

end FlareStudio.Extension
