import FlareStudio.Contracts.ConfidentialPolicy
import FlareStudio.Orchestrator.Instructions
import FlareStudio.Shared.Polling
import FlareStudio.Shared.Throwing

set_option autoImplicit false

-- The orchestrator asks the enclave for a policy's distribution, waits for the answer and
-- submits what it is given. It runs between a node, a wallet and a proxy each of which may
-- answer as it likes.

namespace FlareStudio.Orchestrator

open Policy.Canonical (Value bigintText property truthy)

open Throwing

def INSTRUCTION_FEE : Nat := 1000000

-- What decodeEventLog finds in a log by the event's ABI, if it does not throw.
structure Log where
  teeInstructionsSent : Option Bytes32

def extractInstructionId : List Log → Except Text Bytes32
  | [] => .error (text ("no TeeInstructionsSent event in the receipt -- the extension id is " ++
      "probably unset, or the op type/command pair was rejected before dispatch"))
  | log :: rest =>
    match log.teeInstructionsSent with
    | some instructionId => .ok instructionId
    | none => extractInstructionId rest

structure ExecuteArgs where
  shares : List ConfidentialPolicy.Share
  salt : Bytes32
  signature : Bytes
deriving DecidableEq

inductive Call where
  | sendStorePolicy (instructionSender policy : Address) (ciphertext : Bytes)
  | sendEvaluatePolicy (instructionSender policy : Address) (triggeredAt : Nat)
  | execute (policy : Address) (args : ExecuteArgs)
deriving DecidableEq

def Call.functionName : Call → Text
  | .sendStorePolicy .. => text "sendStorePolicy"
  | .sendEvaluatePolicy .. => text "sendEvaluatePolicy"
  | .execute .. => text "execute"

def Call.value : Call → Nat
  | .execute .. => 0
  | _ => INSTRUCTION_FEE

structure Receipt where
  success : Bool
  logs : List Log

structure Clients where
  account : Option Address
  triggeredAt : Address → Except Text Nat
  simulateContract : Call → Except Text Unit
  writeContract : Call → Except Text Bytes32
  waitForTransactionReceipt : Bytes32 → Except Text Receipt

-- Simulated, sent, and waited for; the state is the transactions that the wallet has sent.
def transact (clients : Clients) (call : Call) : EStateM Text (List Call) (Receipt × Bytes32) := do
  MonadExcept.ofExcept (clients.simulateContract call)
  let txHash ← MonadExcept.ofExcept (clients.writeContract call)
  modify (· ++ [call])
  let receipt ← MonadExcept.ofExcept (clients.waitForTransactionReceipt txHash)
  if receipt.success then
    return (receipt, txHash)
  else
    throw (call.functionName ++ text " reverted (tx " ++ Hex.prefixed txHash.bytes ++ text ")")

def requireAccount (clients : Clients) : Except Text Unit :=
  if clients.account.isSome then .ok () else .error (text "wallet client has no account")

def send (clients : Clients) (call : Call) : EStateM Text (List Call) (Bytes32 × Bytes32) := do
  MonadExcept.ofExcept (requireAccount clients)
  let (receipt, txHash) ← transact clients call
  let instructionId ← MonadExcept.ofExcept (extractInstructionId receipt.logs)
  return (instructionId, txHash)

def sendStorePolicy (clients : Clients) (instructionSender policy : Address) (ciphertext : Bytes) :
    EStateM Text (List Call) (Bytes32 × Bytes32) :=
  send clients (.sendStorePolicy instructionSender policy ciphertext)

def sendEvaluatePolicy (clients : Clients) (instructionSender policy : Address)
    (triggeredAt : Nat) : EStateM Text (List Call) (Bytes32 × Bytes32) :=
  send clients (.sendEvaluatePolicy instructionSender policy triggeredAt)

structure PollOptions where
  timeoutMs : Nat := 180000
  intervalMs : Nat := 2000

-- A body is any JSON; what json rejects with is an error.
structure Response where
  ok : Bool
  status : Nat
  json : Except Text Value

/-- What is fetched at a time, how long that takes, and how long after it is due a timer fires. The
clock stands at `now` when polling begins. -/
structure Proxy where
  now : Nat
  fetch : Text → Nat → Option Response × Nat
  delay : Nat → Nat

-- Node's timers turn a delay that they cannot have into one millisecond, and beyond 2^31 - 1 there
-- is none that they can.
def timer (intervalMs : Nat) : Nat :=
  if intervalMs < 1 ∨ 2147483647 < intervalMs then 1 else intervalMs

def resultUrl (extProxyUrl : Text) (instructionId : Bytes32) : Text :=
  (if extProxyUrl.getLast? = some 47 then extProxyUrl.dropLast else extProxyUrl) ++
    text "/action/result/" ++ Hex.prefixed instructionId.bytes

namespace Proxy

variable (proxy : Proxy) (url : Text) (options : PollOptions)

def again (time : Nat) : Nat :=
  let answered := time + (proxy.fetch url time).2
  answered + timer options.intervalMs + proxy.delay answered

def requestAt (index : Nat) : Nat := (proxy.again url options)^[index] proxy.now

def answer (index : Nat) : Option Response :=
  (proxy.fetch url (proxy.requestAt url options index)).1

end Proxy

def accepts (response : Option Response) : Bool := response.any Response.ok

def lastStatus (last : Option (Option Response)) : Nat :=
  match last with
  | some (some response) => response.status
  | _ => 0

def noResult (instructionId : Bytes32) (options : PollOptions) (lastStatus : Nat) : Text :=
  text "no result for instruction " ++ Hex.prefixed instructionId.bytes ++ text " after " ++
    decimal options.timeoutMs ++ text "ms (last HTTP " ++ decimal lastStatus ++ text ("). A " ++
    "persistent 404 means the instruction never reached the TEE: check that the URL registered " ++
    "on-chain matches the one being served, and that tee-node and tee-proxy versions have not " ++
    "drifted apart.")

/-- The answer, and when it was asked for. A timer runs for a millisecond or more, so the fuel
lasts. -/
def pollActionResult (proxy : Proxy) (extProxyUrl : Text) (instructionId : Bytes32)
    (options : PollOptions) : Except Text Value × List Nat :=
  let url := resultUrl extProxyUrl instructionId
  match Polling.poll (fun time => (proxy.fetch url time).1) (proxy.again url options) accepts
      (proxy.now + options.timeoutMs) (options.timeoutMs + 1) proxy.now none with
  | some (.accepted (some response), asked) => (response.json, asked)
  | some (.accepted none, asked) => (.error [], asked)
  | some (.expired last, asked) =>
    (.error (noResult instructionId options (lastStatus last)), asked)
  | none => (.error [], [])

-- What Buffer.from makes of what is no string: Node reads some objects as lists of bytes.
structure NodeJs where
  bufferFrom : Value → Except Text Bytes

mutual

-- String(value). No member that JSON.parse makes is a function, so an own toString is a TypeError.
def stringOf : Value → Except Text Text
  | .null => .ok (text "null")
  | .boolean value => .ok (if value then text "true" else text "false")
  | .number value => .ok value.toText
  | .bigint value => .ok (bigintText value)
  | .string units => .ok units
  | .array elements => (elementTexts elements).map (List.intercalate [44])
  | .object members =>
    if (members.lookup (text "toString")).isSome then .error (text "TypeError")
    else .ok (text "[object Object]")

def elementTexts : List Value → Except Text (List Text)
  | [] => .ok []
  | .null :: rest => (elementTexts rest).map ([] :: ·)
  | element :: rest => do
    let first ← stringOf element
    let others ← elementTexts rest
    return first :: others

end

def templateText : Option Value → Except Text Text
  | none => .ok (text "undefined")
  | some value => stringOf value

-- Reading a member of undefined or null throws.
def member (value : Option Value) (key : String) : Except Text (Option Value) :=
  match value with
  | none | some .null => .error (text "TypeError")
  | some value => .ok (property value key)

-- value.slice, which only an array has here.
def slice (value : Value) (range : List Value → List Value) : Except Text Value :=
  match value with
  | .array elements => .ok (.array (range elements))
  | _ => .error (text "TypeError")

def isOne : Option Value → Bool
  | some (.number value) => value = .ofNat 1
  | _ => false

/-- decodeActionData of a body that need not be an ActionResponse. -/
def decodeBody (nodeJs : NodeJs) (response : Value) : Except Text Value := do
  let result ← member (some response) "result"
  let status ← member result "status"
  let log ← member result "log"
  let data ← member result "data"
  if isOne status then
    match data with
    | some (.string data) => decodeActionData ⟨1, [], some data⟩
    | data =>
      let data := data.getD .null
      if truthy data then
        let units ← stringOf data
        let source ← if isHexText units then slice data (List.drop 2) else .ok data
        let bytes ← nodeJs.bufferFrom source
        parsePayload (Buffer.toUtf8 bytes)
      else decodeActionData ⟨1, [], none⟩
  else
    let status ← templateText status
    let log ← templateText log
    .error (text "enclave returned status " ++ status ++ text ": " ++ log)

/-- asHexBytes of a signature that need not be a string. -/
def hexSignature (nodeJs : NodeJs) : Option Value → Except Text Value
  | none => .error (text "TypeError")
  | some (.string signature) => (asHexBytes signature).map .string
  | some signature => do
    let units ← stringOf signature
    if isHexText units then
      return signature
    else
      let bytes ← nodeJs.bufferFrom signature
      if bytes = [] then
        let shown ← slice signature (List.take 24) >>= stringOf
        .error (undecoded shown)
      else
        return .string (Hex.prefixed bytes)

def normalizeSignature (nodeJs : NodeJs) : Value → Except Text Value
  | .object members => do
    let hex ← hexSignature nodeJs (members.lookup (text "signature"))
    return .object (members.map fun member =>
      if member.1 = text "signature" then (member.1, hex) else member)
  | _ => .error (text "TypeError")

def notArmed (policy : Address) : Text :=
  text "policy " ++ Hex.prefixed policy.bytes ++ text " is not armed; call arm() before evaluating"

def evaluatePolicy (nodeJs : NodeJs) (clients : Clients) (proxy : Proxy)
    (instructionSender policy : Address) (extProxyUrl : Text) (options : PollOptions) :
    EStateM Text (List Call) Value := do
  let triggeredAt ← MonadExcept.ofExcept (clients.triggeredAt policy)
  if triggeredAt = 0 then
    throw (notArmed policy)
  let (instructionId, _) ← sendEvaluatePolicy clients instructionSender policy triggeredAt
  let response ← MonadExcept.ofExcept (pollActionResult proxy extProxyUrl instructionId options).1
  let evaluation ← MonadExcept.ofExcept (decodeBody nodeJs response)
  MonadExcept.ofExcept (normalizeSignature nodeJs evaluation)

structure ShareArgument where
  recipient : Option Value
  shareBps : Option Value

def shareArgument (share : Value) : Except Text ShareArgument := do
  let recipient ← member (some share) "recipient"
  let shareBps ← member (some share) "shareBps"
  return ⟨recipient, shareBps⟩

def shareArguments (evaluation : Value) : Except Text (List ShareArgument) :=
  match property evaluation "shares" with
  | some (.array shares) => shares.mapM shareArgument
  | _ => .error (text "TypeError")

-- viem is not part of the repository: how it encodes the arguments of execute, which it does not
-- refuse in lower case.
structure Viem where
  encode : List ShareArgument → Option Value → Option Value → Except Text ExecuteArgs
  encode_lowercase : ∀ (args : ExecuteArgs) (digits : Text),
    Hex.decode digits = some args.signature →
    encode (args.shares.map fun share => ⟨some (.string (Hex.prefixed share.recipient.bytes)),
        some (.number (.ofNat share.shareBps.toNat))⟩)
      (some (.string (Hex.prefixed args.salt.bytes))) (some (.string (48 :: 120 :: digits))) =
        .ok args

-- A viem that knows no checksums.
section Unchecked

def uint16? : Option Value → Option UInt16
  | some (.number (.finite false magnitude)) =>
    if magnitude.val.den = 1 ∧ magnitude.val.num < 65536 then
      some (.ofNat magnitude.val.num.toNat)
    else none
  | _ => none

def fixedBytes? (n : Nat) : Option Value → Option (FixedBytes n)
  | some (.string units) => Hex.fixed? n units
  | _ => none

def bytes? : Option Value → Option Bytes
  | some (.string (48 :: 120 :: digits)) => Hex.decode digits
  | _ => none

def share? (argument : ShareArgument) : Option ConfidentialPolicy.Share := do
  let recipient ← fixedBytes? 20 argument.recipient
  let shareBps ← uint16? argument.shareBps
  some ⟨recipient, shareBps⟩

def encodeUnchecked (shares : List ShareArgument) (salt signature : Option Value) :
    Except Text ExecuteArgs :=
  match shares.mapM share?, fixedBytes? 32 salt, bytes? signature with
  | some shares, some salt, some signature => .ok ⟨shares, salt, signature⟩
  | _, _, _ => .error (text "InvalidAddressError")

theorem uint16?_ofNat (shareBps : UInt16) :
    uint16? (some (.number (.ofNat shareBps.toNat))) = some shareBps := by
  have small := shareBps.toNat_lt
  rw [Number.ofNat_eq (small.trans (by decide)), uint16?]
  simp only [Rat.den_natCast, Rat.num_natCast, Int.toNat_natCast, true_and]
  rw [if_pos (by omega)]
  simp

theorem encodeUnchecked_lowercase (args : ExecuteArgs) (digits : Text)
    (decoded : Hex.decode digits = some args.signature) :
    encodeUnchecked (args.shares.map fun share =>
        ⟨some (.string (Hex.prefixed share.recipient.bytes)),
          some (.number (.ofNat share.shareBps.toNat))⟩)
      (some (.string (Hex.prefixed args.salt.bytes))) (some (.string (48 :: 120 :: digits))) =
        .ok args := by
  have read (shares : List ConfidentialPolicy.Share) : (shares.map fun share => ShareArgument.mk
      (some (.string (Hex.prefixed share.recipient.bytes)))
      (some (.number (.ofNat share.shareBps.toNat)))).mapM share? = some shares := by
    induction shares with
    | nil => rfl
    | cons share rest ih =>
      rw [List.map_cons, List.mapM_cons, ih]
      simp [share?, fixedBytes?, uint16?_ofNat]
  rw [encodeUnchecked, read, fixedBytes?, Hex.fixed?_prefixed, bytes?, decoded]

def Viem.unchecked : Viem := ⟨encodeUnchecked, encodeUnchecked_lowercase⟩

end Unchecked

def executePolicy (viem : Viem) (clients : Clients) (policy : Address) (evaluation : Value) :
    EStateM Text (List Call) Bytes32 := do
  MonadExcept.ofExcept (requireAccount clients)
  let shares ← MonadExcept.ofExcept (shareArguments evaluation)
  let args ← MonadExcept.ofExcept
    (viem.encode shares (property evaluation "salt") (property evaluation "signature"))
  let (_, txHash) ← transact clients (.execute policy args)
  return txHash

section Polling

theorem timer_pos (intervalMs : Nat) : 0 < timer intervalMs := by
  unfold timer
  split_ifs <;> omega

variable (proxy : Proxy) (extProxyUrl : Text) (instructionId : Bytes32) (options : PollOptions)

structure Proxy.Stops (url : Text) (count : Nat) : Prop where
  before : ∀ index < count,
    proxy.requestAt url options index < proxy.now + options.timeoutMs ∧
      accepts (proxy.answer url options index) = false
  within : count ≤ (options.timeoutMs + timer options.intervalMs - 1) / timer options.intervalMs

def Proxy.statusBefore (url : Text) : Nat → Nat
  | 0 => 0
  | index + 1 => ((proxy.answer url options index).map Response.status).getD 0

theorem again_advances (url : Text) (time : Nat) :
    time + timer options.intervalMs ≤ proxy.again url options time := by
  simp only [Proxy.again]
  omega

theorem requestAt_times (url : Text) (count : Nat) :
    Polling.times (proxy.again url options) proxy.now count =
      (List.range count).map (proxy.requestAt url options) := by
  have shift (now : Nat) : Polling.times (proxy.again url options) now count =
      (List.range count).map fun index => (proxy.again url options)^[index] now := by
    induction count generalizing now with
    | zero => rfl
    | succ count ih =>
      rw [Polling.times, ih, List.range_succ_eq_map, List.map_cons, List.map_map]
      rfl
  exact shift proxy.now

theorem requestAt_apart (url : Text) (index : Nat) :
    proxy.requestAt url options index + timer options.intervalMs ≤
      proxy.requestAt url options (index + 1) := by
  rw [Proxy.requestAt, Proxy.requestAt, Function.iterate_succ_apply']
  exact again_advances proxy options url _

theorem poll_fuel {count : Nat}
    (bound : count ≤ (options.timeoutMs + timer options.intervalMs - 1) /
      timer options.intervalMs) : count < options.timeoutMs + 1 := by
  have positive := timer_pos options.intervalMs
  apply bound.trans_lt
  rw [Nat.div_lt_iff_lt_mul positive, Nat.add_one_mul]
  have times : options.timeoutMs ≤ options.timeoutMs * timer options.intervalMs :=
    Nat.le_mul_of_pos_right _ positive
  omega

def Proxy.Ended (count : Nat) : Prop :=
  let url := resultUrl extProxyUrl instructionId
  let deadline := proxy.now + options.timeoutMs
  (deadline ≤ proxy.requestAt url options count ∧
    pollActionResult proxy extProxyUrl instructionId options =
      (.error (noResult instructionId options (proxy.statusBefore options url count)),
        (List.range count).map (proxy.requestAt url options))) ∨
  (proxy.requestAt url options count < deadline ∧
    ∃ response, proxy.answer url options count = some response ∧ response.ok = true ∧
      pollActionResult proxy extProxyUrl instructionId options =
        (response.json, (List.range (count + 1)).map (proxy.requestAt url options)))

theorem pollActionResult_stops :
    ∃ count, proxy.Stops options (resultUrl extProxyUrl instructionId) count ∧
      proxy.Ended extProxyUrl instructionId options count := by
  let url := resultUrl extProxyUrl instructionId
  let fetched (time : Nat) : Option Response := (proxy.fetch url time).1
  have polls : ∃ count ≤ (proxy.now + options.timeoutMs - proxy.now + timer options.intervalMs -
      1) / timer options.intervalMs,
      Polling.Unanswered fetched (proxy.again url options) accepts
        (proxy.now + options.timeoutMs) proxy.now count ∧
      (proxy.now + options.timeoutMs ≤ proxy.requestAt url options count ∨
        proxy.requestAt url options count < proxy.now + options.timeoutMs ∧
          accepts (proxy.answer url options count) = true) :=
    Polling.poll_ends (again_advances proxy options url) (timer_pos options.intervalMs)
  obtain ⟨count, bound, before, ends⟩ := polls
  rw [Nat.add_sub_cancel_left] at bound
  have enough := poll_fuel options bound
  refine ⟨count, ⟨before, bound⟩, ?_⟩
  rw [Proxy.Ended, ← requestAt_times, ← requestAt_times, pollActionResult]
  obtain late | ⟨inTime, answered⟩ := ends
  · left
    refine ⟨late, ?_⟩
    have status : lastStatus (Polling.lastAnswer fetched (proxy.again url options) proxy.now none
        count) = proxy.statusBefore options url count := by
      cases count with
      | zero => rfl
      | succ index =>
        change lastStatus (some (proxy.answer url options index)) = _
        cases given : proxy.answer url options index <;>
          simp [lastStatus, Proxy.statusBefore, given]
    rw [Polling.poll_expired before late enough, ← status]
  · right
    refine ⟨inTime, ?_⟩
    cases given : proxy.answer url options count with
    | none => simp [given, accepts] at answered
    | some response =>
      have same : fetched ((proxy.again url options)^[count] proxy.now) = some response := given
      rw [Polling.poll_accepted before inTime answered enough, same]
      exact ⟨response, rfl, by simpa [given, accepts] using answered, rfl⟩

/-- Requests are sent one after the other, at least the interval apart and none after the deadline,
until one is answered with a result, which is then what comes of it. If none is, the error names the
last status. An interval beyond 2147483647 ms is one millisecond, as is 0: see `timer`. -/
theorem pollActionResult_polls :
    ∃ count, proxy.Stops options (resultUrl extProxyUrl instructionId) count ∧
      proxy.Ended extProxyUrl instructionId options count ∧
      ∀ index, proxy.requestAt (resultUrl extProxyUrl instructionId) options index +
          timer options.intervalMs ≤
        proxy.requestAt (resultUrl extProxyUrl instructionId) options (index + 1) := by
  obtain ⟨count, stops, ended⟩ := pollActionResult_stops proxy extProxyUrl instructionId options
  exact ⟨count, stops, ended, requestAt_apart proxy options _⟩

end Polling

def roundTrip (nodeJs : NodeJs) (viem : Viem) (clients : Clients) (proxy : Proxy)
    (instructionSender policy : Address) (extProxyUrl : Text) (options : PollOptions) :
    EStateM Text (List Call) Bytes32 := do
  let evaluation ← evaluatePolicy nodeJs clients proxy instructionSender policy extProxyUrl options
  executePolicy viem clients policy evaluation

section Submitting

variable {nodeJs : NodeJs} {viem : Viem} {clients : Clients} {proxy : Proxy} {instructionSender policy : Address}
  {extProxyUrl : Text} {options : PollOptions} {sent : List Call}

structure Mined (clients : Clients) (call : Call) (receipt : Receipt) (txHash : Bytes32) :
    Prop where
  simulated : clients.simulateContract call = .ok ()
  written : clients.writeContract call = .ok txHash
  received : clients.waitForTransactionReceipt txHash = .ok receipt
  success : receipt.success = true

theorem transact_ends (call : Call) :
    Ends (transact clients call) sent
      (fun result later => later = sent ++ [call] ∧ Mined clients call result.1 result.2)
      (fun _ later => later = sent ∨ later = sent ++ [call]) := by
  rw [transact, ends_bind, ends_ofExcept]
  constructor
  · intro _ simulated
    rw [ends_bind, ends_ofExcept]
    constructor
    · intro txHash written
      rw [ends_bind, ends_modify, ends_bind, ends_ofExcept]
      constructor
      · intro receipt received
        by_cases success : receipt.success
        · rw [if_pos success, ends_pure]
          exact ⟨rfl, simulated, written, received, success⟩
        · rw [if_neg success, ends_throw]
          exact .inr rfl
      · intro e unreceived
        exact .inr rfl
    · intro e unwritten
      exact .inl rfl
  · intro e refused
    exact .inl rfl

def Instructed (clients : Clients) (call : Call) (instructionId : Bytes32) : Prop :=
  ∃ receipt txHash, Mined clients call receipt txHash ∧
    extractInstructionId receipt.logs = .ok instructionId

theorem send_ends (call : Call) :
    Ends (send clients call) sent
      (fun result later => later = sent ++ [call] ∧ Instructed clients call result.1)
      (fun _ later => later = sent ∨ later = sent ++ [call]) := by
  rw [send, ends_bind, ends_ofExcept]
  constructor
  · intro _ known
    apply (transact_ends call).bind
    rintro ⟨receipt, txHash⟩ later ⟨rfl, mined⟩
    rw [ends_bind, ends_ofExcept]
    constructor
    · intro instructionId found
      exact ⟨rfl, receipt, txHash, mined, found⟩
    · intro e missing
      exact .inr rfl
  · intro e unknown
    exact .inl rfl

/-- What the chain, the proxy and the enclave have to say for an evaluation. -/
structure Evaluated (nodeJs : NodeJs) (clients : Clients) (proxy : Proxy)
    (instructionSender policy : Address) (extProxyUrl : Text) (options : PollOptions)
    (triggeredAt : Nat) (evaluation : Value) : Prop where
  armed : clients.triggeredAt policy = .ok triggeredAt ∧ triggeredAt ≠ 0
  answered : ∃ instructionId response answer,
    Instructed clients (.sendEvaluatePolicy instructionSender policy triggeredAt) instructionId ∧
    (pollActionResult proxy extProxyUrl instructionId options).1 = .ok response ∧
    decodeBody nodeJs response = .ok answer ∧ normalizeSignature nodeJs answer = .ok evaluation

def AskedAtMost (clients : Clients) (instructionSender policy : Address) (sent later : List Call) :
    Prop :=
  later = sent ∨ ∃ triggeredAt, (clients.triggeredAt policy = .ok triggeredAt ∧ triggeredAt ≠ 0) ∧
    later = sent ++ [.sendEvaluatePolicy instructionSender policy triggeredAt]

theorem evaluatePolicy_ends :
    Ends (evaluatePolicy nodeJs clients proxy instructionSender policy extProxyUrl options) sent
      (fun evaluation later => ∃ triggeredAt,
        later = sent ++ [.sendEvaluatePolicy instructionSender policy triggeredAt] ∧
        Evaluated nodeJs clients proxy instructionSender policy extProxyUrl options triggeredAt
          evaluation)
      (fun _ later => AskedAtMost clients instructionSender policy sent later) := by
  rw [evaluatePolicy, ends_bind, ends_ofExcept]
  constructor
  · intro triggeredAt read
    by_cases zero : triggeredAt = 0
    · simp [zero, AskedAtMost]
    · have armed : clients.triggeredAt policy = .ok triggeredAt ∧ triggeredAt ≠ 0 := ⟨read, zero⟩
      have asks : Ends (sendEvaluatePolicy clients instructionSender policy triggeredAt) sent
          (fun result later => later =
              sent ++ [.sendEvaluatePolicy instructionSender policy triggeredAt] ∧
            Instructed clients (.sendEvaluatePolicy instructionSender policy triggeredAt) result.1)
          (fun _ later => AskedAtMost clients instructionSender policy sent later) := by
        apply (send_ends _).mono
        · intro result later instructed
          exact instructed
        · rintro e later (rfl | rfl)
          · exact .inl rfl
          · exact .inr ⟨triggeredAt, armed, rfl⟩
      simp only [zero, if_false]
      apply asks.bind
      rintro ⟨instructionId, txHash⟩ later ⟨rfl, instructed⟩
      have asked : AskedAtMost clients instructionSender policy sent
          (sent ++ [.sendEvaluatePolicy instructionSender policy triggeredAt]) :=
        .inr ⟨triggeredAt, armed, rfl⟩
      rw [ends_bind, ends_ofExcept]
      constructor
      · intro response answered
        rw [ends_bind, ends_ofExcept]
        constructor
        · intro answer decoded
          rw [ends_ofExcept]
          constructor
          · intro evaluation normalized
            exact ⟨triggeredAt, rfl, armed, instructionId, response, answer, instructed, answered,
              decoded, normalized⟩
          · intro e unsigned
            exact asked
        · intro e undecoded
          exact asked
      · intro e unanswered
        exact asked
  · intro e unread
    exact .inl rfl

def Submits (viem : Viem) (evaluation : Value) (args : ExecuteArgs) : Prop :=
  ∃ shares, shareArguments evaluation = .ok shares ∧
    viem.encode shares (property evaluation "salt") (property evaluation "signature") = .ok args

theorem executePolicy_ends (evaluation : Value) :
    Ends (executePolicy viem clients policy evaluation) sent
      (fun txHash later => ∃ args receipt, Submits viem evaluation args ∧
        later = sent ++ [.execute policy args] ∧
        Mined clients (.execute policy args) receipt txHash)
      (fun _ later => later = sent ∨ ∃ args, Submits viem evaluation args ∧
        later = sent ++ [.execute policy args]) := by
  rw [executePolicy, ends_bind, ends_ofExcept]
  constructor
  · intro _ known
    rw [ends_bind, ends_ofExcept]
    constructor
    · intro shares read
      rw [ends_bind, ends_ofExcept]
      constructor
      · intro args encoded
        have submits : Submits viem evaluation args := ⟨shares, read, encoded⟩
        rw [ends_bind]
        apply (transact_ends (.execute policy args)).mono
        · rintro ⟨receipt, txHash⟩ later ⟨rfl, mined⟩
          exact ⟨args, receipt, submits, rfl, mined⟩
        · rintro e later (rfl | rfl)
          · exact .inl rfl
          · exact .inr ⟨args, submits, rfl⟩
      · intro e refused
        exact .inl rfl
    · intro e unread
      exact .inl rfl
  · intro e unknown
    exact .inl rfl

/-- One request for the arming that the chain reports, and one execution of what the answer to it
decodes to; or less. -/
def Submitted (nodeJs : NodeJs) (viem : Viem) (clients : Clients) (proxy : Proxy)
    (instructionSender policy : Address) (extProxyUrl : Text) (options : PollOptions)
    (final : List Call) : Prop :=
  final = [] ∨ ∃ triggeredAt, (clients.triggeredAt policy = .ok triggeredAt ∧ triggeredAt ≠ 0) ∧
    (final = [.sendEvaluatePolicy instructionSender policy triggeredAt] ∨
      ∃ evaluation args, Evaluated nodeJs clients proxy instructionSender policy extProxyUrl options
          triggeredAt evaluation ∧ Submits viem evaluation args ∧
        final = [.sendEvaluatePolicy instructionSender policy triggeredAt, .execute policy args])

/-- However node, wallet and proxy behave, the enclave is asked at most once, for the arming that
the chain reports, and at most one execution is submitted, of what the answer to that very
instruction decodes to. -/
theorem roundTrip_submits :
    Submitted nodeJs viem clients proxy instructionSender policy extProxyUrl options
      (left ((roundTrip nodeJs viem clients proxy instructionSender policy extProxyUrl options).run
        [])) := by
  have leaves : Leaves
      (roundTrip nodeJs viem clients proxy instructionSender policy extProxyUrl options) []
      (Submitted nodeJs viem clients proxy instructionSender policy extProxyUrl options) := by
    rw [Leaves, roundTrip, ends_bind]
    apply evaluatePolicy_ends.mono
    · rintro evaluation later ⟨triggeredAt, rfl, evaluated⟩
      apply (executePolicy_ends evaluation).mono
      · rintro txHash last ⟨args, receipt, submits, rfl, mined⟩
        exact .inr ⟨triggeredAt, evaluated.armed, .inr ⟨evaluation, args, evaluated, submits, rfl⟩⟩
      · rintro e last (rfl | ⟨args, submits, rfl⟩)
        · exact .inr ⟨triggeredAt, evaluated.armed, .inl rfl⟩
        · exact .inr ⟨triggeredAt, evaluated.armed,
            .inr ⟨evaluation, args, evaluated, submits, rfl⟩⟩
    · rintro e later (rfl | ⟨triggeredAt, armed, rfl⟩)
      · exact .inl rfl
      · exact .inr ⟨triggeredAt, armed, .inl rfl⟩
  exact leaves_iff.mp leaves

end Submitting

section Delivering

variable {response : Extension.EvaluatePolicyResponse}

def Tells (body : Value) (data : Text) : Prop :=
  ∃ result, property body "result" = some result ∧
    property result "status" = some (.number (.ofNat 1)) ∧
    property result "data" = some (.string data)

theorem member_eq {value result : Value} {key : String}
    (found : property value key = some result) (other : String) :
    member (some value) other = .ok (property value other) := by
  cases value with
  | null => cases found
  | _ => rfl

theorem decodeBody_tells {body : Value} {data : Text} (tells : Tells body data)
    (nodeJs : NodeJs) : decodeBody nodeJs body = decodeActionData ⟨1, [], some data⟩ := by
  obtain ⟨result, found, status, told⟩ := tells
  simp [decodeBody, bind, Except.bind, member_eq found, found, member_eq status, status, told,
    isOne]

/-- The proxy has nothing but the enclave's response, spelled one way or the other, and one of the
requests that are in time gets it. -/
structure Delivers (proxy : Proxy) (url : Text) (options : PollOptions)
    (response : Extension.EvaluatePolicyResponse) : Prop where
  honest : ∀ time found, (proxy.fetch url time).1 = some found → found.ok = true →
    ∃ body data, found.json = .ok body ∧ Tells body data ∧
      Spells data (Extension.marshal response.json)
  timely : ∃ index, proxy.requestAt url options index < proxy.now + options.timeoutMs ∧
    accepts (proxy.answer url options index) = true

theorem pollActionResult_delivers {proxy : Proxy} {extProxyUrl : Text} {instructionId : Bytes32}
    {options : PollOptions}
    (delivers : Delivers proxy (resultUrl extProxyUrl instructionId) options response) :
    ∃ body data, (pollActionResult proxy extProxyUrl instructionId options).1 = .ok body ∧
      Tells body data ∧ Spells data (Extension.marshal response.json) := by
  obtain ⟨index, early, answered⟩ := delivers.timely
  obtain ⟨count, stops, late | ⟨inTime, found, given, ok, result⟩⟩ :=
    pollActionResult_stops proxy extProxyUrl instructionId options
  · have monotone := monotone_nat_of_le_succ fun index =>
      (Nat.le_add_right _ _).trans (requestAt_apart proxy options
        (resultUrl extProxyUrl instructionId) index)
    by_cases before : index < count
    · rw [(stops.before index before).2] at answered
      cases answered
    · have after := monotone (not_lt.mp before)
      omega
  · rw [result]
    exact delivers.honest _ found given ok

theorem normalizeSignature_evaluationOf {spelled signature : Text}
    (normal : asHexBytes spelled = .ok signature) (nodeJs : NodeJs) :
    normalizeSignature nodeJs (evaluationOf response spelled).value =
      .ok (evaluationOf response signature).value := by
  have found : [(text "policy", Value.string (Hex.prefixed response.policy.bytes)),
      (text "shares", .array ((response.shares.map shareOf).map Policy.Canonical.shareValue)),
      (text "salt", .string (Hex.prefixed response.salt.bytes)),
      (text "signature", .string spelled)].lookup (text "signature") = some (.string spelled) := rfl
  simp only [EvaluationResult.value, evaluationOf, normalizeSignature, found, hexSignature, normal]
  rfl

theorem shareArguments_evaluationOf (signature : Text) :
    shareArguments (evaluationOf response signature).value =
      .ok (response.shares.map fun share => ⟨some (.string (Hex.prefixed share.recipient.bytes)),
        some (.number (.ofNat share.shareBps.toNat))⟩) := by
  have read (shares : List Extension.Share) :
      ((shares.map shareOf).map Policy.Canonical.shareValue).mapM shareArgument =
        .ok (shares.map fun share => ⟨some (.string (Hex.prefixed share.recipient.bytes)),
          some (.number (.ofNat share.shareBps.toNat))⟩) := by
    induction shares with
    | nil => rfl
    | cons share rest ih =>
      simp only [List.map_cons, List.mapM_cons, ih]
      rfl
  exact read response.shares

theorem submits_evaluationOf (viem : Viem) {digits : Text}
    (decoded : Hex.decode digits = some response.signature) :
    Submits viem (evaluationOf response (48 :: 120 :: digits)).value
      ⟨response.shares, response.salt, response.signature⟩ :=
  ⟨_, shareArguments_evaluationOf _, viem.encode_lowercase
    ⟨response.shares, response.salt, response.signature⟩ digits decoded⟩

theorem asHexBytes_base64 (signed : response.signature.length = 65) :
    asHexBytes (Extension.base64 response.signature) =
      .ok (Hex.prefixed response.signature) := by
  have nonempty : response.signature ≠ [] := by
    intro empty
    simp [empty] at signed
  simp [asHexBytes, isHexText_signature signed, fromBase64_base64, nonempty]

theorem decodeActionData_response {data : Text}
    (spells : Spells data (Extension.marshal response.json)) (log : Text) :
    decodeActionData ⟨1, log, some data⟩ =
      .ok (evaluationOf response (Extension.base64 response.signature)).value :=
  decodeActionData_of_spells (plainString_base64 response.signature) spells log

theorem transact_mined {clients : Clients} {call : Call} {receipt : Receipt} {txHash : Bytes32}
    (mined : Mined clients call receipt txHash) (sent : List Call) :
    (transact clients call).run sent = .ok (receipt, txHash) (sent ++ [call]) := by
  rw [run_eq_ok]
  simp only [transact, ends_bind, mined.simulated, ends_ofExcept_ok, mined.written, ends_modify,
    mined.received, mined.success, if_true, ends_pure, and_self]

/-- A response that the proxy delivers in time is executed as it was given. -/
theorem roundTrip_delivered {nodeJs : NodeJs} {viem : Viem} {clients : Clients} {proxy : Proxy}
    {instructionSender policy : Address} {extProxyUrl : Text} {options : PollOptions}
    {triggeredAt : Nat} {instructionId txHash : Bytes32} {receipt : Receipt}
    (account : clients.account.isSome = true)
    (armed : clients.triggeredAt policy = .ok triggeredAt ∧ triggeredAt ≠ 0)
    (instructed : Instructed clients (.sendEvaluatePolicy instructionSender policy triggeredAt)
      instructionId)
    (delivers : Delivers proxy (resultUrl extProxyUrl instructionId) options response)
    (signed : response.signature.length = 65)
    (mined : Mined clients (.execute policy ⟨response.shares, response.salt, response.signature⟩)
      receipt txHash) :
    (roundTrip nodeJs viem clients proxy instructionSender policy extProxyUrl options).run [] =
      .ok txHash [.sendEvaluatePolicy instructionSender policy triggeredAt,
        .execute policy ⟨response.shares, response.salt, response.signature⟩] := by
  obtain ⟨asked, askedHash, askedMined, found⟩ := instructed
  obtain ⟨body, data, answered, tells, spells⟩ := pollActionResult_delivers delivers
  have known : requireAccount clients = .ok () := by rw [requireAccount, if_pos account]
  have decoded := (decodeBody_tells tells nodeJs).trans (decodeActionData_response spells [])
  have normal : normalizeSignature nodeJs (evaluationOf response
      (Extension.base64 response.signature)).value =
        .ok (evaluationOf response (Hex.prefixed response.signature)).value :=
    normalizeSignature_evaluationOf (asHexBytes_base64 signed) nodeJs
  have submits : Submits viem (evaluationOf response (Hex.prefixed response.signature)).value
      ⟨response.shares, response.salt, response.signature⟩ :=
    submits_evaluationOf viem (Hex.decode_encode response.signature)
  obtain ⟨shares, read, encoded⟩ := submits
  have asks := run_eq_ok.mp (transact_mined askedMined [])
  have executes := run_eq_ok.mp (transact_mined mined
    [.sendEvaluatePolicy instructionSender policy triggeredAt])
  rw [run_eq_ok, roundTrip, ends_bind]
  simp only [evaluatePolicy, ends_bind, armed.1, ends_ofExcept_ok, armed.2, if_false,
    sendEvaluatePolicy, send, known]
  apply asks.mono
  · rintro result later ⟨rfl, rfl⟩
    simp only [found, ends_ofExcept_ok, ends_pure, answered, decoded, normal, executePolicy,
      ends_bind, known, read, encoded]
    apply executes.mono
    · rintro result later ⟨rfl, rfl⟩
      exact ⟨rfl, rfl⟩
    · exact fun _ _ impossible => impossible
  · exact fun _ _ impossible => impossible

end Delivering

end FlareStudio.Orchestrator
