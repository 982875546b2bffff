import FlareStudio.Contracts.TriggerOwnership
import FlareStudio.Policy.Deploy
import FlareStudio.Policy.Plaintext

set_option autoImplicit false

namespace FlareStudio.Web

open Policy TriggerOwnership

-- Date.now(), which cannot exceed the largest time value.
abbrev DateNow : Type := {milliseconds : Nat // milliseconds ≤ 8640000000000000}

theorem sampleNow_le : 1700000000000 ≤ 8640000000000000 := by decide

structure FdcConfig where
  owner : Address
  sourceId : Text
  destinationAddressHash : Text
  paymentReference : Text
  minimumAmount : Nat
  interval : Int
  start : Nat
deriving DecidableEq

-- The arguments of configure on the contract of each kind of trigger.
inductive ConfigureRequest where
  | manualHeartbeat (policy owner : Address) (interval : Int) (demoMode : Bool)
  | timestamp (policy : Address) (executeAfter : Int)
  | fdcNonexistence (policy : Address) (config : FdcConfig)
deriving DecidableEq

inductive RequestError where
  | deploy (error : DeployError)
  | viem (message : Text)
deriving DecidableEq

def callViem {α : Type} : Except Text α → Except RequestError α := Except.mapError .viem

def POLICY_REFERENCE_TAG : String := "flare-studio.policy-reference.v1"

def policyReference (viem : Viem) (policy : Address) : Except RequestError Text :=
  callViem (viem.keccak256 (Hex.prefixed (ascii POLICY_REFERENCE_TAG ++ policy.bytes)))

theorem policyReference_eq (viem : Viem) (policy : Address) : policyReference viem policy =
    .ok (Hex.prefixed (FdcNonexistenceTrigger.policyReference policy).bytes) := by
  rw [policyReference, viem.keccak256_eq]
  rfl

def stringToBytes32 (value : Text) : Except RequestError Text :=
  let hex := Hex.encode (textEncode value)
  if hex.length > 64 then
    .error (.deploy ⟨text "source id \"" ++ value ++ text "\" exceeds 32 bytes", .configure⟩)
  else .ok (text "0x" ++ hex.rightpad 64 48)

def configureRequest (viem : Viem) (dateNow : DateNow) (trigger : Trigger)
    (owner policy : Address) : Except RequestError ConfigureRequest :=
  match trigger with
  | .manualHeartbeat intervalSeconds demoMode =>
    .ok (.manualHeartbeat policy owner intervalSeconds.val demoMode)
  | .timestamp executeAfter => .ok (.timestamp policy executeAfter.val)
  | .chainProofOfLife intervalSeconds sourceId destinationAddress minimumAmount => do
    let reference ← policyReference viem policy
    let sourceId ← stringToBytes32 sourceId
    let destinationAddressHash ←
      callViem (viem.keccak256 (Hex.prefixed (textEncode destinationAddress)))
    .ok (.fdcNonexistence policy
      { owner
        sourceId
        destinationAddressHash
        paymentReference := reference
        minimumAmount := ofDecimal minimumAmount.val
        interval := intervalSeconds.val
        start := dateNow.val / 1000 })

-- viem throws IntegerOutOfRangeError for what the ABI type does not hold.
def uint? (bits : Nat) (value : Int) : Option Nat :=
  if 0 ≤ value ∧ value < 2 ^ bits then some value.toNat else none

def ConfigureRequest.encode : ConfigureRequest → Option TriggerOwnership.Action
  | .manualHeartbeat policy owner interval demoMode => do
    let interval ← uint? 64 interval
    some (.configureManual policy owner (.ofNat interval) demoMode)
  | .timestamp policy executeAfter => do
    let executeAfter ← uint? 64 executeAfter
    some (.configureTimestamp policy (.ofNat executeAfter))
  | .fdcNonexistence policy config => do
    let sourceId ← Hex.fixed? 32 config.sourceId
    let destinationAddressHash ← Hex.fixed? 32 config.destinationAddressHash
    let paymentReference ← Hex.fixed? 32 config.paymentReference
    let minimumAmount ← uint? 256 config.minimumAmount
    let interval ← uint? 64 config.interval
    let start ← uint? 64 config.start
    some (.configureFdc policy
      { owner := config.owner
        sourceId, destinationAddressHash, paymentReference, minimumAmount
        interval := .ofNat interval
        start := .ofNat start })

@[simp]
theorem uint?_eq_some {bits : Nat} {value : Int} {found : Nat} :
    uint? bits value = some found ↔ (0 ≤ value ∧ value < 2 ^ bits) ∧ value.toNat = found := by
  unfold uint?
  split_ifs with within <;> simp [within]

theorem uint?_natCast {bits value : Nat} (small : value < 2 ^ bits) :
    uint? bits (value : Int) = some value := by
  rw [uint?_eq_some]
  exact ⟨⟨Int.natCast_nonneg value, by exact_mod_cast small⟩, Int.toNat_natCast value⟩

theorem toNat_seconds {value : Int} (small : value < 2 ^ 64) :
    (UInt64.ofNat value.toNat).toNat = value.toNat := by
  rw [UInt64.toNat_ofNat']
  omega

theorem seconds_ne_zero {value : Int} (positive : 0 < value) (small : value < 2 ^ 64) :
    UInt64.ofNat value.toNat ≠ 0 := by
  rw [← UInt64.toNat_inj.ne, toNat_seconds small, UInt64.toNat_zero]
  omega

structure FirstConfigure (log : List Transaction) (tx : Transaction) : Prop where
  manual : ∀ entry, manualRegister.writes tx = some entry → manualRegister.written log entry.1 = []
  timestamp : ∀ entry, timestampRegister.writes tx = some entry →
    timestampRegister.written log entry.1 = []
  fdc : ∀ entry, fdcRegister.writes tx = some entry → fdcRegister.written log entry.1 = []

/-- Whatever happened before, the transaction does not revert if it is the first configure. -/
def AcceptedFirst (tx : Transaction) : Prop :=
  ∀ log chain, History log chain → FirstConfigure log tx → ∃ next, chain.apply tx = .ok next

theorem firstConfigure_nil (tx : Transaction) : FirstConfigure [] tx :=
  ⟨fun _ _ => rfl, fun _ _ => rfl, fun _ _ => rfl⟩

theorem AcceptedFirst.at_genesis {tx : Transaction} (accepted : AcceptedFirst tx) :
    ∃ next, Chain.genesis.apply tx = .ok next :=
  accepted [] .genesis .genesis (firstConfigure_nil tx)

theorem unwritten_initial {V : Type} {register : WriteOnce.Register Address V Transaction}
    {initial store : Address → V} {log : List Transaction} {policy : Address}
    (run : WriteOnce.Run register initial log store) (none : register.written log policy = []) :
    store policy = initial policy := by
  rcases run.written_once policy (by simp [none]) with ⟨-, same⟩ | once
  · exact same
  · rw [none] at once
    cases once

theorem within_reaches {σ ε : Type} {error : ε → Revert} {update : σ → Chain}
    {result : Except ε σ} :
    (∃ next, within error update result = .ok next) ↔ ∃ state, result = .ok state := by
  cases result <;> simp [within]

section Accepted

variable {sender policy : Address} {now : Nat}

theorem acceptedFirst_manual {owner : Address} {interval : UInt64} {demoMode : Bool} :
    AcceptedFirst ⟨sender, now, .configureManual policy owner interval demoMode⟩ ↔
      interval ≠ 0 ∧ (UInt64.ofNat now).toNat + interval.toNat < 2 ^ 64 := by
  constructor
  · intro accepted
    obtain ⟨state, configured⟩ := within_reaches.mp accepted.at_genesis
    simp only [ManualHeartbeatTrigger.configure, Checked.require_reaches,
      Checked.add64_reaches] at configured
    exact ⟨configured.2.1, configured.2.2.1⟩
  · intro ⟨positive, fits⟩ log chain history first
    have free : (chain.manual.terms policy).owner = .zero 20 := by
      rw [unwritten_initial (history_registered history).manual (first.manual _ rfl)]
      rfl
    apply within_reaches.mpr
    simp only [ManualHeartbeatTrigger.configure, Checked.require_reaches, Checked.add64_reaches]
    exact ⟨_, free, positive, fits, rfl⟩

theorem acceptedFirst_timestamp {executeAfter : UInt64} :
    AcceptedFirst ⟨sender, now, .configureTimestamp policy executeAfter⟩ ↔
      now < executeAfter.toNat := by
  constructor
  · intro accepted
    obtain ⟨state, configured⟩ := within_reaches.mp accepted.at_genesis
    simp only [TimestampTrigger.configure, Checked.require_reaches] at configured
    exact configured.2.1
  · intro future log chain history first
    have free : chain.timestamp.executeAfter policy = 0 := by
      rw [unwritten_initial (history_registered history).timestamp (first.timestamp _ rfl)]
      rfl
    apply within_reaches.mpr
    simp only [TimestampTrigger.configure, Checked.require_reaches]
    exact ⟨_, free, future, rfl⟩

theorem acceptedFirst_fdc {config : FdcNonexistenceTrigger.Config} :
    AcceptedFirst ⟨sender, now, .configureFdc policy config⟩ ↔ config.interval ≠ 0 := by
  constructor
  · intro accepted
    obtain ⟨state, configured⟩ := within_reaches.mp accepted.at_genesis
    simp only [FdcNonexistenceTrigger.configure, Checked.require_reaches] at configured
    exact configured.2.1
  · intro positive log chain history first
    have free : (chain.fdc.configs policy).owner = .zero 20 := by
      rw [unwritten_initial (history_registered history).fdc (first.fdc _ rfl)]
      rfl
    apply within_reaches.mpr
    simp only [FdcNonexistenceTrigger.configure, Checked.require_reaches]
    exact ⟨_, free, positive, rfl⟩

end Accepted

structure Configures (viem : Viem) (dateNow : DateNow) (now : Nat) (trigger : Trigger)
    (owner policy : Address) (request : ConfigureRequest) (action : TriggerOwnership.Action) :
    Prop where
  requested : configureRequest viem dateNow trigger owner policy = .ok request
  inRange : request.encode = some action
  accepted : AcceptedFirst ⟨owner, now, action⟩

def Configurable (viem : Viem) (dateNow : DateNow) (now : Nat) (trigger : Trigger)
    (owner policy : Address) : Prop :=
  ∃ request action, Configures viem dateNow now trigger owner policy request action

-- What a trigger has to satisfy beyond the schema, at the time of the block.
def Settable (now : Nat) : Trigger → Prop
  | .manualHeartbeat intervalSeconds _ => now % 2 ^ 64 + intervalSeconds.val < 2 ^ 64
  | .timestamp executeAfter => now < executeAfter.val ∧ executeAfter.val < 2 ^ 64
  | .chainProofOfLife intervalSeconds sourceId _ minimumAmount =>
    (textEncode sourceId).length ≤ 32 ∧ intervalSeconds.val < 2 ^ 64 ∧
      ofDecimal minimumAmount.val < 2 ^ 256

theorem length_encode (bytes : Bytes) : (Hex.encode bytes).length = 2 * bytes.length := by
  induction bytes with
  | nil => rfl
  | cons byte rest ih =>
    rw [Hex.encode, List.flatMap_cons, List.length_append, ← Hex.encode, ih, List.length_cons]
    simp only [List.length_cons, List.length_nil]
    omega

theorem encode_zeros (count : Nat) :
    Hex.encode (List.replicate count 0) = List.replicate (2 * count) 48 := by
  induction count with
  | zero => rfl
  | succ count ih =>
    rw [List.replicate_succ, Hex.encode, List.flatMap_cons, ← Hex.encode, ih, Nat.mul_add,
      Nat.add_comm, List.replicate_add]
    rfl

theorem stringToBytes32_ok {value : Text} (short : (textEncode value).length ≤ 32) :
    ∃ word : Bytes32, stringToBytes32 value = .ok (Hex.prefixed word.bytes) := by
  refine ⟨⟨textEncode value ++ List.replicate (32 - (textEncode value).length) 0, by simp [short]⟩,
    ?_⟩
  have within : ¬ (Hex.encode (textEncode value)).length > 64 := by
    rw [length_encode]
    omega
  have padding : 64 - (Hex.encode (textEncode value)).length =
      2 * (32 - (textEncode value).length) := by
    rw [length_encode]
    omega
  rw [stringToBytes32, if_neg within, List.rightpad, padding, ← encode_zeros]
  simp [Hex.prefixed, Hex.encode, List.flatMap_append, text]

theorem stringToBytes32_eq_ok {value hex : Text} (padded : stringToBytes32 value = .ok hex) :
    (textEncode value).length ≤ 32 := by
  simp only [stringToBytes32] at padded
  split_ifs at padded with long
  rw [length_encode] at long
  omega

section Triggers

variable {viem : Viem} {dateNow : DateNow} {now : Nat} {owner policy : Address}

theorem configurable_manual {intervalSeconds : Seconds} {demoMode : Bool} :
    Configurable viem dateNow now (.manualHeartbeat intervalSeconds demoMode) owner policy ↔
      Settable now (.manualHeartbeat intervalSeconds demoMode) := by
  obtain ⟨interval, positive⟩ := intervalSeconds
  constructor
  · intro ⟨request, action, requested, inRange, accepted⟩
    cases requested
    simp only [ConfigureRequest.encode, Option.bind_eq_bind, Option.bind_eq_some_iff,
      uint?_eq_some, Option.some.injEq] at inRange
    obtain ⟨value, ⟨⟨-, small⟩, rfl⟩, rfl⟩ := inRange
    obtain ⟨-, fits⟩ := acceptedFirst_manual.mp accepted
    rw [toNat_seconds small, UInt64.toNat_ofNat'] at fits
    simp only [Settable]
    omega
  · intro settable
    simp only [Settable] at settable
    refine ⟨_, .configureManual policy owner (.ofNat interval.toNat) demoMode, rfl, ?_, ?_⟩
    · simp only [ConfigureRequest.encode, Option.bind_eq_bind, Option.bind_eq_some_iff,
        uint?_eq_some]
      exact ⟨_, ⟨⟨positive.le, by omega⟩, rfl⟩, rfl⟩
    · rw [acceptedFirst_manual, toNat_seconds (by omega), UInt64.toNat_ofNat']
      exact ⟨seconds_ne_zero positive (by omega), by omega⟩

theorem configurable_timestamp {executeAfter : Seconds} :
    Configurable viem dateNow now (.timestamp executeAfter) owner policy ↔
      Settable now (.timestamp executeAfter) := by
  obtain ⟨date, positive⟩ := executeAfter
  constructor
  · intro ⟨request, action, requested, inRange, accepted⟩
    cases requested
    simp only [ConfigureRequest.encode, Option.bind_eq_bind, Option.bind_eq_some_iff,
      uint?_eq_some, Option.some.injEq] at inRange
    obtain ⟨value, ⟨⟨-, small⟩, rfl⟩, rfl⟩ := inRange
    have future := acceptedFirst_timestamp.mp accepted
    rw [toNat_seconds small] at future
    simp only [Settable]
    omega
  · intro settable
    simp only [Settable] at settable
    refine ⟨_, .configureTimestamp policy (.ofNat date.toNat), rfl, ?_, ?_⟩
    · simp only [ConfigureRequest.encode, Option.bind_eq_bind, Option.bind_eq_some_iff,
        uint?_eq_some]
      exact ⟨_, ⟨⟨positive.le, by omega⟩, rfl⟩, rfl⟩
    · rw [acceptedFirst_timestamp, toNat_seconds settable.2]
      omega

theorem configurable_chainProofOfLife {intervalSeconds : Seconds}
    {sourceId destinationAddress : Text} {minimumAmount : AmountText} :
    Configurable viem dateNow now
        (.chainProofOfLife intervalSeconds sourceId destinationAddress minimumAmount) owner policy ↔
      Settable now
        (.chainProofOfLife intervalSeconds sourceId destinationAddress minimumAmount) := by
  obtain ⟨interval, positive⟩ := intervalSeconds
  have clock := dateNow.property
  constructor
  · intro ⟨request, action, requested, inRange, _⟩
    simp only [configureRequest, Checked.bind_reaches, Except.ok.injEq] at requested
    obtain ⟨reference, -, source, padded, hash, -, rfl⟩ := requested
    simp only [ConfigureRequest.encode, Option.bind_eq_bind, Option.bind_eq_some_iff,
      uint?_eq_some] at inRange
    obtain ⟨_, -, _, -, _, -, _, ⟨⟨-, amount⟩, -⟩, _, ⟨⟨-, small⟩, -⟩, -⟩ := inRange
    exact ⟨stringToBytes32_eq_ok padded, small, by exact_mod_cast amount⟩
  · intro ⟨short, small, amount⟩
    obtain ⟨source, padded⟩ := stringToBytes32_ok short
    have hash := viem.keccak256_eq (textEncode destinationAddress)
    have requested : configureRequest viem dateNow
        (.chainProofOfLife ⟨interval, positive⟩ sourceId destinationAddress minimumAmount) owner
          policy = .ok (.fdcNonexistence policy
            { owner
              sourceId := Hex.prefixed source.bytes
              destinationAddressHash :=
                Hex.prefixed (keccak256 (textEncode destinationAddress)).bytes
              paymentReference :=
                Hex.prefixed (FdcNonexistenceTrigger.policyReference policy).bytes
              minimumAmount := ofDecimal minimumAmount.val
              interval
              start := dateNow.val / 1000 }) := by
      simp only [configureRequest, policyReference_eq, callViem, hash, padded, Except.mapError,
        bind, Except.bind]
    refine ⟨_, .configureFdc policy
      { owner
        sourceId := source
        destinationAddressHash := keccak256 (textEncode destinationAddress)
        paymentReference := FdcNonexistenceTrigger.policyReference policy
        minimumAmount := ofDecimal minimumAmount.val
        interval := .ofNat interval.toNat
        start := .ofNat (dateNow.val / 1000) }, requested, ?_, ?_⟩
    · have start : dateNow.val / 1000 < 2 ^ 64 := by omega
      have wire : uint? 64 interval = some interval.toNat :=
        uint?_eq_some.mpr ⟨⟨positive.le, small⟩, rfl⟩
      simp only [ConfigureRequest.encode, Hex.fixed?_prefixed, uint?_natCast amount, wire,
        uint?_natCast start, Option.bind_eq_bind, Option.bind_some]
    · exact acceptedFirst_fdc.mpr (seconds_ne_zero positive small)

/-- A trigger that the compiler let through can be set exactly where it is settable. -/
theorem configurable_iff {input : JsValue} {salt : Text} {ir : PolicyIR}
    {compiled : CompiledPolicy} (parsed : policyIrSchema input = .ok ir)
    (accepted : compile viem input salt = .ok compiled) (dateNow : DateNow) (now : Nat)
    (owner policy : Address) :
    Configurable viem dateNow now compiled.ir.val.trigger owner policy ↔
      Settable now ir.val.trigger := by
  obtain ⟨ir', parsed', -, compiles⟩ := compile_compiles accepted
  rw [parsed, Except.ok.injEq] at parsed'
  rw [compiles.carried, ← parsed']
  cases ir.val.trigger with
  | manualHeartbeat => exact configurable_manual
  | timestamp => exact configurable_timestamp
  | chainProofOfLife => exact configurable_chainProofOfLife

end Triggers

def triggerInput (trigger : JsValue) : JsValue :=
  .object [(text "version", .number (.finite 1)), (text "name", .string (text "Test policy")),
    (text "asset", .string (text "FXRP")), (text "trigger", trigger),
    (text "actions", .array [familyInput])]

def dateInput (executeAfter : Nat) : JsValue :=
  triggerInput (.object [(text "kind", .string (text "timestamp")),
    (text "executeAfter", .number (.finite executeAfter))])

def paymentInput (sourceId : Text) : JsValue :=
  triggerInput (.object [(text "kind", .string (text "chainProofOfLife")),
    (text "intervalSeconds", .number (.finite 86400)), (text "sourceId", .string sourceId),
    (text "destinationAddress", .string (text "rPolicy")),
    (text "minimumAmount", .string (text "1000000"))])

theorem scheduled_configurable :
    ∃ compiled, compile .lowercase (dateInput 1800000000) sampleSalt = .ok compiled ∧
      ∀ dateNow owner policy, Configurable .lowercase dateNow 1700000000 compiled.ir.val.trigger
        owner policy := by
  have evaluated : (policyIrSchema (dateInput 1800000000)).map (fun ir => ir.val.trigger) =
      .ok (.timestamp ⟨1800000000, by decide⟩) := by decide +kernel
  have accepted : (compile .lowercase (dateInput 1800000000) sampleSalt).map
      (fun compiled => compiled.enclaveConfig.shares.length) = .ok 2 := by decide +kernel
  obtain ⟨ir, parsed, trigger⟩ := Checked.map_eq_ok evaluated
  obtain ⟨compiled, accepted, -⟩ := Checked.map_eq_ok accepted
  refine ⟨compiled, accepted, fun dateNow owner policy => ?_⟩
  rw [configurable_iff parsed accepted, trigger]
  exact ⟨by decide, by decide⟩

-- A date that has passed, and a source id of 33 bytes: the compiler accepts both.
theorem accepted_unconfigurable :
    ∃ past long, compile .lowercase (dateInput 1) sampleSalt = .ok past ∧
      compile .lowercase (paymentInput (List.replicate 33 97)) sampleSalt = .ok long ∧
      ∀ dateNow owner policy,
        ¬ Configurable .lowercase dateNow 1700000000 past.ir.val.trigger owner policy ∧
        ¬ Configurable .lowercase dateNow 1700000000 long.ir.val.trigger owner policy := by
  have first : (compile .lowercase (dateInput 1) sampleSalt).map
      (fun compiled => compiled.ir.val.trigger) = .ok (.timestamp ⟨1, by decide⟩) := by
    decide +kernel
  have second : (compile .lowercase (paymentInput (List.replicate 33 97)) sampleSalt).map
      (fun compiled => compiled.ir.val.trigger) = .ok (.chainProofOfLife ⟨86400, by decide⟩
        (List.replicate 33 97) (text "rPolicy") ⟨text "1000000", by decide⟩) := by
    decide +kernel
  obtain ⟨past, accepted, trigger⟩ := Checked.map_eq_ok first
  obtain ⟨long, accepted', trigger'⟩ := Checked.map_eq_ok second
  refine ⟨past, long, accepted, accepted', fun dateNow owner policy => ⟨?_, ?_⟩⟩
  · rw [trigger, configurable_timestamp]
    intro settable
    exact absurd settable.1 (by decide)
  · rw [trigger', configurable_chainProofOfLife]
    intro settable
    exact absurd settable.1 (by decide +kernel)

end FlareStudio.Web
