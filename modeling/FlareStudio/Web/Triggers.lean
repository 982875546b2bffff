import FlareStudio.Policy.Assets
import FlareStudio.Shared.Accepts
import FlareStudio.Shared.Property
import FlareStudio.Web.Configure

set_option autoImplicit false

namespace FlareStudio.Web.Triggers

open Policy

inductive TriggerField where
  | intervalSeconds
  | demoMode
  | destinationAddress
  | minimumAmount
  | executeAfter
deriving DecidableEq

def TriggerField.key : TriggerField → String
  | .intervalSeconds => "intervalSeconds"
  | .demoMode => "demoMode"
  | .destinationAddress => "destinationAddress"
  | .minimumAmount => "minimumAmount"
  | .executeAfter => "executeAfter"

inductive TriggerKind where
  | manualHeartbeat
  | chainProofOfLife
  | timestamp
deriving DecidableEq

def TriggerKind.name : TriggerKind → String
  | .manualHeartbeat => "manualHeartbeat"
  | .chainProofOfLife => "chainProofOfLife"
  | .timestamp => "timestamp"

abbrev Members : Type := List (Text × JsValue)

structure TriggerKindSpec where
  kind : TriggerKind
  fields : List TriggerField
  defaults : DateNow → Registry.Property → Except Text Members

def YEAR : Nat := 365 * 86400

def seconds (value : Nat) : JsValue := .number (.finite value)

-- What every object inherits has no source chain and no minimum.
def chainDefaults : Registry.Property → Except Text Members
  | .entry asset =>
    .ok [(text "kind", .string (text "chainProofOfLife")), (text "intervalSeconds", seconds YEAR),
      (text "sourceId", .string asset.fdcSourceId), (text "destinationAddress", .string []),
      (text "minimumAmount", .string (decimal asset.minimumHeartbeat))]
  | .inherited _ => .error (text "Cannot read properties of undefined (reading 'toString')")

def manualHeartbeat : TriggerKindSpec where
  kind := .manualHeartbeat
  fields := [.intervalSeconds, .demoMode]
  defaults := fun _ _ =>
    .ok [(text "kind", .string (text "manualHeartbeat")), (text "intervalSeconds", seconds YEAR),
      (text "demoMode", .boolean false)]

def chainProofOfLife : TriggerKindSpec where
  kind := .chainProofOfLife
  fields := [.intervalSeconds, .destinationAddress, .minimumAmount]
  defaults := fun _ => chainDefaults

def timestamp : TriggerKindSpec where
  kind := .timestamp
  fields := [.executeAfter]
  defaults := fun dateNow _ =>
    .ok [(text "kind", .string (text "timestamp")),
      (text "executeAfter", seconds (dateNow.val / 1000 + YEAR))]

def TRIGGER_KINDS : List TriggerKindSpec := [manualHeartbeat, chainProofOfLife, timestamp]

def triggerSpec (kind : Text) : Option TriggerKindSpec :=
  TRIGGER_KINDS.find? fun spec => text spec.kind.name = kind

-- current?.[key]
def property : JsValue → String → JsValue
  | .object members, key => Zod.field members key
  | _, _ => .undefined

-- Neither undefined nor the empty string.
def isCarried : JsValue → Bool
  | .undefined => false
  | .string [] => false
  | _ => true

def carry (current : JsValue) (next : Members) (field : TriggerField) : Members :=
  let carried := property current field.key
  if isCarried carried ∧ field.key ≠ "kind" then
    FlareStudio.Property.setProperty (text field.key) carried next
  else next

def switchTriggerKind (dateNow : DateNow) (current : JsValue) (kind assetSymbol : Text) :
    Except Text JsValue :=
  match triggerSpec kind with
  | none => .ok current
  | some spec => do
    let asset ← Registry.getAsset assetSymbol
    let next ← spec.defaults dateNow asset
    .ok (.object (spec.fields.foldl (carry current) next))

def kindOf : Trigger → TriggerKind
  | .manualHeartbeat _ _ => .manualHeartbeat
  | .chainProofOfLife _ _ _ _ => .chainProofOfLife
  | .timestamp _ => .timestamp

-- The keys that the schema has for a kind.
def TriggerKind.keys : TriggerKind → List String
  | .manualHeartbeat => ["kind", "intervalSeconds", "demoMode"]
  | .chainProofOfLife =>
    ["kind", "intervalSeconds", "sourceId", "destinationAddress", "minimumAmount"]
  | .timestamp => ["kind", "executeAfter"]

-- The editable ones among them.
def TriggerKind.fields : TriggerKind → List TriggerField
  | .manualHeartbeat => [.intervalSeconds, .demoMode]
  | .chainProofOfLife => [.intervalSeconds, .destinationAddress, .minimumAmount]
  | .timestamp => [.executeAfter]

def TriggerField.Valid : TriggerField → JsValue → Prop
  | .intervalSeconds, value => ∃ whole : Seconds, value = .number (.finite whole.val)
  | .executeAfter, value => ∃ whole : Seconds, value = .number (.finite whole.val)
  | .demoMode, value => ∃ flag, value = .boolean flag
  | .destinationAddress, value => ∃ units, value = .string units
  | .minimumAmount, value => ∃ amount : AmountText, value = .string amount.val

def AcceptedAs (kind : TriggerKind) (value : JsValue) : Prop :=
  ∃ trigger, triggerSchema [] value = .ok trigger ∧ kindOf trigger = kind

-- What each field of an accepted object is, and demoMode left out.
def Reads (members : Members) : Trigger → Prop
  | .manualHeartbeat intervalSeconds demoMode =>
    Zod.field members "intervalSeconds" = .number (.finite intervalSeconds.val) ∧
      (Zod.field members "demoMode" = .undefined ∧ false = demoMode ∨
        Zod.field members "demoMode" = .boolean demoMode)
  | .chainProofOfLife intervalSeconds sourceId destinationAddress minimumAmount =>
    Zod.field members "intervalSeconds" = .number (.finite intervalSeconds.val) ∧
      Zod.field members "sourceId" = .string sourceId ∧
      Zod.field members "destinationAddress" = .string destinationAddress ∧
      Zod.field members "minimumAmount" = .string minimumAmount.val
  | .timestamp executeAfter =>
    Zod.field members "executeAfter" = .number (.finite executeAfter.val)

section Schema

variable {path : List Text} {members : Members} {trigger : Trigger}

theorem manualHeartbeatTrigger_eq_ok : manualHeartbeatTrigger path members = .ok trigger ↔
    kindOf trigger = .manualHeartbeat ∧ Reads members trigger := by
  simp only [manualHeartbeatTrigger, Zod.at_, Checked.bind_reaches, Zod.positiveInt_eq_ok,
    Zod.default_eq_ok, Zod.boolean_eq_ok, Except.ok.injEq]
  cases trigger with
  | manualHeartbeat intervalSeconds demoMode =>
    simp only [Trigger.manualHeartbeat.injEq, kindOf, Reads, true_and]
    constructor
    · rintro ⟨_, interval, _, demo, rfl, rfl⟩
      exact ⟨interval, demo.imp_right And.right⟩
    · rintro ⟨interval, demo⟩
      refine ⟨_, interval, _, demo.imp_right fun flag => ⟨?_, flag⟩, rfl, rfl⟩
      rw [flag]
      nofun
  | chainProofOfLife intervalSeconds sourceId destinationAddress minimumAmount => simp [kindOf]
  | timestamp executeAfter => simp [kindOf]

theorem chainProofOfLifeTrigger_eq_ok : chainProofOfLifeTrigger path members = .ok trigger ↔
    kindOf trigger = .chainProofOfLife ∧ Reads members trigger := by
  simp only [chainProofOfLifeTrigger, amountSchema, Zod.at_, Checked.bind_reaches,
    Zod.positiveInt_eq_ok, Zod.refine_eq_ok, Zod.string_eq_ok, Except.ok.injEq]
  cases trigger with
  | manualHeartbeat intervalSeconds demoMode => simp [kindOf]
  | chainProofOfLife intervalSeconds sourceId destinationAddress minimumAmount =>
    simp only [Trigger.chainProofOfLife.injEq, kindOf, Reads, true_and]
    constructor
    · rintro ⟨_, interval, _, source, _, destination, _, minimum, rfl, rfl, rfl, rfl⟩
      exact ⟨interval, source, destination, minimum⟩
    · rintro ⟨interval, source, destination, minimum⟩
      exact ⟨_, interval, _, source, _, destination, _, minimum, rfl, rfl, rfl, rfl⟩
  | timestamp executeAfter => simp [kindOf]

theorem timestampTrigger_eq_ok : timestampTrigger path members = .ok trigger ↔
    kindOf trigger = .timestamp ∧ Reads members trigger := by
  simp only [timestampTrigger, Zod.at_, Checked.bind_reaches, Zod.positiveInt_eq_ok,
    Except.ok.injEq]
  cases trigger with
  | manualHeartbeat intervalSeconds demoMode => simp [kindOf]
  | chainProofOfLife intervalSeconds sourceId destinationAddress minimumAmount => simp [kindOf]
  | timestamp executeAfter => simp [kindOf, Reads]

theorem triggerSchema_eq_ok {value : JsValue} : triggerSchema path value = .ok trigger ↔
    ∃ members, value = .object members ∧
      Zod.field members "kind" = .string (text (kindOf trigger).name) ∧ Reads members trigger := by
  rw [triggerSchema, Zod.discriminatedUnion_eq_ok (by decide +kernel)]
  refine exists_congr fun members => and_congr_right fun _ => ?_
  simp only [List.mem_cons, List.not_mem_nil, or_false, or_and_right, exists_or, exists_eq_left,
    manualHeartbeatTrigger_eq_ok, chainProofOfLifeTrigger_eq_ok, timestampTrigger_eq_ok]
  cases trigger <;> simp [kindOf, TriggerKind.name]

end Schema

structure Formed (kind : TriggerKind) (members : Members) : Prop where
  named : Zod.field members "kind" = .string (text kind.name)
  fields : ∀ field ∈ kind.fields, field.Valid (Zod.field members field.key) ∨
    field = .demoMode ∧ Zod.field members field.key = .undefined
  source : kind = .chainProofOfLife → ∃ units, Zod.field members "sourceId" = .string units

theorem acceptedAs_iff {kind : TriggerKind} {members : Members} :
    AcceptedAs kind (.object members) ↔ Formed kind members := by
  constructor
  · rintro ⟨trigger, accepted, rfl⟩
    obtain ⟨_, same, named, reads⟩ := triggerSchema_eq_ok.mp accepted
    cases same
    cases trigger with
    | manualHeartbeat intervalSeconds demoMode =>
      obtain ⟨interval, demo⟩ := reads
      refine ⟨named, ?_, nofun⟩
      simp only [kindOf, TriggerKind.fields, List.mem_cons, List.not_mem_nil, or_false,
        forall_eq_or_imp, forall_eq]
      refine ⟨.inl ⟨_, interval⟩, ?_⟩
      rcases demo with ⟨absent, -⟩ | flag
      · exact .inr ⟨trivial, absent⟩
      · exact .inl ⟨_, flag⟩
    | chainProofOfLife intervalSeconds sourceId destinationAddress minimumAmount =>
      obtain ⟨interval, source, destination, minimum⟩ := reads
      refine ⟨named, ?_, fun _ => ⟨_, source⟩⟩
      simp only [kindOf, TriggerKind.fields, List.mem_cons, List.not_mem_nil, or_false,
        forall_eq_or_imp, forall_eq]
      exact ⟨.inl ⟨_, interval⟩, .inl ⟨_, destination⟩, .inl ⟨_, minimum⟩⟩
    | timestamp executeAfter =>
      refine ⟨named, ?_, nofun⟩
      simp only [kindOf, TriggerKind.fields, List.mem_cons, List.not_mem_nil, or_false, forall_eq]
      exact .inl ⟨_, reads⟩
  · intro formed
    have valid {field : TriggerField} (inside : field ∈ kind.fields) (shown : field ≠ .demoMode) :
        field.Valid (Zod.field members field.key) :=
      (formed.fields field inside).resolve_right fun both => shown both.1
    cases kind with
    | manualHeartbeat =>
      obtain ⟨whole, interval⟩ := @valid .intervalSeconds (by decide) (by decide)
      rcases formed.fields .demoMode (by decide) with ⟨flag, demo⟩ | ⟨-, absent⟩
      · exact ⟨.manualHeartbeat whole flag,
          triggerSchema_eq_ok.mpr ⟨_, rfl, formed.named, interval, .inr demo⟩, rfl⟩
      · exact ⟨.manualHeartbeat whole false,
          triggerSchema_eq_ok.mpr ⟨_, rfl, formed.named, interval, .inl ⟨absent, rfl⟩⟩, rfl⟩
    | chainProofOfLife =>
      obtain ⟨whole, interval⟩ := @valid .intervalSeconds (by decide) (by decide)
      obtain ⟨units, destination⟩ := @valid .destinationAddress (by decide) (by decide)
      obtain ⟨amount, minimum⟩ := @valid .minimumAmount (by decide) (by decide)
      obtain ⟨chain, source⟩ := formed.source rfl
      exact ⟨.chainProofOfLife whole chain units amount, triggerSchema_eq_ok.mpr
        ⟨_, rfl, formed.named, interval, source, destination, minimum⟩, rfl⟩
    | timestamp =>
      obtain ⟨whole, date⟩ := @valid .executeAfter (by decide) (by decide)
      exact ⟨.timestamp whole, triggerSchema_eq_ok.mpr ⟨_, rfl, formed.named, date⟩, rfl⟩

-- The value of a field after a switch.
def kept (current : JsValue) (field : TriggerField) (fallback : JsValue) : JsValue :=
  if isCarried (property current field.key) then property current field.key else fallback

theorem carry_here {current value : JsValue} {rest : Members} {field : TriggerField} {key : Text}
    (same : key = text field.key) :
    carry current ((key, value) :: rest) field = (key, kept current field value) :: rest := by
  have named : field.key ≠ "kind" := by cases field <;> decide
  subst same
  unfold carry kept
  by_cases carried : isCarried (property current field.key)
  · simp [carried, named, FlareStudio.Property.setProperty]
  · simp [carried]

theorem carry_later {current value : JsValue} {rest : Members} {field : TriggerField} {key : Text}
    (apart : key ≠ text field.key) :
    carry current ((key, value) :: rest) field = (key, value) :: carry current rest field := by
  have last : FlareStudio.Property.goesBefore (text field.key) key = false := by
    have noIndex : FlareStudio.Property.arrayIndex? (text field.key) = none := by
      cases field <;> decide +kernel
    rw [FlareStudio.Property.goesBefore, noIndex]
    rfl
  unfold carry
  dsimp only
  split_ifs
  · rw [FlareStudio.Property.setProperty, if_neg apart, if_neg (by simp [last])]
  · rfl

def fallback (dateNow : DateNow) (asset : SupportedAsset) : TriggerField → JsValue
  | .intervalSeconds => seconds YEAR
  | .demoMode => .boolean false
  | .destinationAddress => .string []
  | .minimumAmount => .string (decimal asset.minimumHeartbeat)
  | .executeAfter => seconds (dateNow.val / 1000 + YEAR)

def switched (dateNow : DateNow) (current : JsValue) (asset : SupportedAsset)
    (kind : TriggerKind) : Members :=
  let field (field : TriggerField) : Text × JsValue :=
    (text field.key, kept current field (fallback dateNow asset field))
  (text "kind", .string (text kind.name)) ::
    match kind with
    | .manualHeartbeat => [field .intervalSeconds, field .demoMode]
    | .chainProofOfLife =>
      [field .intervalSeconds, (text "sourceId", .string asset.fdcSourceId),
        field .destinationAddress, field .minimumAmount]
    | .timestamp => [field .executeAfter]

theorem switchTriggerKind_eq {dateNow : DateNow} {current : JsValue} {kind : TriggerKind}
    {symbol : Text} {asset : SupportedAsset}
    (found : Registry.getAsset symbol = .ok (.entry asset)) :
    switchTriggerKind dateNow current (text kind.name) symbol =
      .ok (.object (switched dateNow current asset kind)) := by
  cases kind with
  | manualHeartbeat =>
    have spec : triggerSpec (text TriggerKind.manualHeartbeat.name) = some manualHeartbeat := rfl
    simp only [switchTriggerKind, spec, found, manualHeartbeat, bind, Except.bind,
      List.foldl_cons, List.foldl_nil]
    simp (disch := decide) only [carry_later, carry_here]
    rfl
  | chainProofOfLife =>
    have spec : triggerSpec (text TriggerKind.chainProofOfLife.name) = some chainProofOfLife := rfl
    simp only [switchTriggerKind, spec, found, chainProofOfLife, chainDefaults, bind, Except.bind,
      List.foldl_cons, List.foldl_nil]
    simp (disch := decide) only [carry_later, carry_here]
    rfl
  | timestamp =>
    have spec : triggerSpec (text TriggerKind.timestamp.name) = some timestamp := rfl
    simp only [switchTriggerKind, spec, found, timestamp, bind, Except.bind, List.foldl_cons,
      List.foldl_nil]
    simp (disch := decide) only [carry_later, carry_here]
    rfl

def keysOf : JsValue → List Text
  | .object members => members.map Prod.fst
  | _ => []

@[simp]
theorem keysOf_switched (dateNow : DateNow) (current : JsValue) (asset : SupportedAsset)
    (kind : TriggerKind) :
    keysOf (.object (switched dateNow current asset kind)) = kind.keys.map text := by
  cases kind <;> rfl

section Switched

variable {dateNow : DateNow} {current : JsValue} {asset : SupportedAsset} {kind : TriggerKind}
  {field : TriggerField}

theorem field_switched (inside : field ∈ kind.fields) :
    property (.object (switched dateNow current asset kind)) field.key =
      kept current field (fallback dateNow asset field) := by
  cases kind with
  | manualHeartbeat => cases field <;> first | rfl | exact absurd inside (by decide)
  | chainProofOfLife => cases field <;> first | rfl | exact absurd inside (by decide)
  | timestamp => cases field <;> first | rfl | exact absurd inside (by decide)

/-- Every default passes its own check. -/
theorem fallback_valid (known : asset ∈ Registry.ASSETS.map Prod.snd) :
    field.Valid (fallback dateNow asset field) := by
  cases field with
  | intervalSeconds => exact ⟨⟨YEAR, by decide⟩, by simp [fallback, seconds]⟩
  | demoMode => exact ⟨false, rfl⟩
  | destinationAddress => exact ⟨[], rfl⟩
  | minimumAmount =>
    simp only [Registry.ASSETS, List.map_cons, List.map_nil, List.mem_cons, List.not_mem_nil,
      or_false] at known
    rcases known with rfl | rfl
    · exact ⟨⟨decimal Registry.FXRP.minimumHeartbeat, by decide +kernel⟩, rfl⟩
    · exact ⟨⟨decimal Registry.FBTC.minimumHeartbeat, by decide +kernel⟩, rfl⟩
  | executeAfter =>
    have positive : 0 < ((dateNow.val / 1000 + YEAR : Nat) : Int) := by
      have : 0 < YEAR := by decide
      omega
    exact ⟨⟨_, positive⟩, by rw [fallback, seconds, Int.cast_natCast]⟩

theorem kept_valid_iff {value : JsValue} (valid : field.Valid value) :
    field.Valid (kept current field value) ↔
      (isCarried (property current field.key) → field.Valid (property current field.key)) := by
  unfold kept
  split_ifs with carried
  · simp [carried]
  · simp [carried, valid]

theorem acceptedAs_switched (known : asset ∈ Registry.ASSETS.map Prod.snd) :
    AcceptedAs kind (.object (switched dateNow current asset kind)) ↔
      ∀ field ∈ kind.fields, isCarried (property current field.key) →
        field.Valid (property current field.key) := by
  rw [acceptedAs_iff]
  constructor
  · intro formed field inside
    rw [← kept_valid_iff (@fallback_valid dateNow asset field known), ← field_switched inside]
    rcases formed.fields field inside with valid | ⟨rfl, absent⟩
    · exact valid
    · have shown := @field_switched dateNow current asset kind _ inside
      rw [property, absent, kept] at shown
      split_ifs at shown with carried
      · rw [← shown] at carried
        cases carried
      · cases shown
  · intro valid
    refine ⟨by cases kind <;> rfl, ?_, ?_⟩
    · intro field inside
      have shown := @field_switched dateNow current asset kind field inside
      rw [property] at shown
      rw [shown, kept_valid_iff (fallback_valid known)]
      exact .inl (valid field inside)
    · rintro rfl
      exact ⟨asset.fdcSourceId, rfl⟩

end Switched

theorem valid_of_accepted {kind : TriggerKind} {value : JsValue} {field : TriggerField}
    (accepted : AcceptedAs kind value) (inside : field ∈ kind.fields)
    (carried : isCarried (property value field.key)) : field.Valid (property value field.key) := by
  cases value with
  | object members =>
    rcases (acceptedAs_iff.mp accepted).fields field inside with valid | ⟨rfl, absent⟩
    · exact valid
    · rw [property, absent] at carried
      cases carried
  | _ => cases carried

structure Switch where
  dateNow : DateNow
  kind : TriggerKind
  asset : {symbol : Text // Registry.Registered symbol}

def Switch.apply (switch : Switch) (current : JsValue) : Except Text JsValue :=
  switchTriggerKind switch.dateNow current (text switch.kind.name) switch.asset.val

def switches : JsValue → List Switch → Except Text JsValue
  | current, [] => .ok current
  | current, switch :: rest => do
    let next ← switch.apply current
    switches next rest

def lastKind (kind : TriggerKind) : List Switch → TriggerKind
  | [] => kind
  | switch :: rest => lastKind switch.kind rest

/-- A trigger of the kind that the schema accepts, with the kind's keys and no others. -/
structure Exactly (kind : TriggerKind) (value : JsValue) : Prop where
  accepted : AcceptedAs kind value
  keys : keysOf value = kind.keys.map text

theorem getAsset_registered {symbol : Text} (registered : Registry.Registered symbol) :
    ∃ asset ∈ Registry.ASSETS.map Prod.snd,
      Registry.getAsset symbol = .ok (.entry asset) := by
  obtain ⟨asset, known, rfl⟩ := registered
  refine ⟨asset, known, ?_⟩
  simp only [Registry.ASSETS, List.map_cons, List.map_nil, List.mem_cons, List.not_mem_nil,
    or_false] at known
  rcases known with rfl | rfl <;> rfl

theorem Switch.apply_eq (switch : Switch) (current : JsValue) :
    ∃ asset ∈ Registry.ASSETS.map Prod.snd,
      Registry.getAsset switch.asset.val = .ok (.entry asset) ∧
        switch.apply current =
          .ok (.object (switched switch.dateNow current asset switch.kind)) := by
  obtain ⟨asset, known, found⟩ := getAsset_registered switch.asset.property
  exact ⟨asset, known, found, switchTriggerKind_eq found⟩

theorem key_not_mem {kind : TriggerKind} {field : TriggerField} (outside : field ∉ kind.fields) :
    text field.key ∉ kind.keys.map text := by
  revert outside
  cases kind <;> cases field <;> decide +kernel

theorem Exactly.apply {kind : TriggerKind} {value : JsValue} (exactly : Exactly kind value)
    (switch : Switch) : ∃ next, switch.apply value = .ok next ∧ Exactly switch.kind next := by
  obtain ⟨asset, known, -, applied⟩ := switch.apply_eq value
  refine ⟨_, applied, (acceptedAs_switched known).mpr ?_, keysOf_switched _ _ _ _⟩
  intro field inside carried
  by_cases own : field ∈ kind.fields
  · exact valid_of_accepted exactly.accepted own carried
  · cases value with
    | object members =>
      have absent : members.lookup (text field.key) = none := by
        rw [List.lookup_eq_none_iff]
        intro member inside
        have other := key_not_mem own
        rw [← exactly.keys] at other
        exact bne_iff_ne.mpr fun same => other (same ▸ List.mem_map_of_mem inside)
      rw [property, Zod.field, absent] at carried
      cases carried
    | _ => cases carried

theorem Exactly.switches {kind : TriggerKind} {value : JsValue} (exactly : Exactly kind value)
    (rest : List Switch) :
    ∃ final, switches value rest = .ok final ∧ Exactly (lastKind kind rest) final := by
  induction rest generalizing kind value with
  | nil => exact ⟨value, rfl, exactly⟩
  | cons switch rest ih =>
    obtain ⟨next, applied, settled⟩ := exactly.apply switch
    obtain ⟨final, run, last⟩ := ih settled
    exact ⟨final, by rw [Triggers.switches, applied]; exact run, last⟩

/-- A switch gives an accepted trigger of the kind it asks for, with what the kinds share, and no
switch after it brings anything back. -/
structure Switched (current : JsValue) (switch : Switch) (next : JsValue) : Prop where
  exactly : Exactly switch.kind next
  shared : ∀ kind : TriggerKind, property current "kind" = .string (text kind.name) →
    ∀ field ∈ kind.fields, field ∈ switch.kind.fields → property current field.key ≠ .undefined →
      property current field.key ≠ .string [] →
        property next field.key = property current field.key
  source : ∀ asset, Registry.getAsset switch.asset.val = .ok (.entry asset) →
    switch.kind = .chainProofOfLife → property next "sourceId" = .string asset.fdcSourceId
  later : ∀ rest, ∃ final, switches next rest = .ok final ∧
    Exactly (lastKind switch.kind rest) final

theorem isCarried_iff {value : JsValue} :
    isCarried value ↔ value ≠ .undefined ∧ value ≠ .string [] := by
  cases value with
  | string units => cases units <;> simp [isCarried]
  | _ => simp [isCarried]

/-- Switching keeps an accepted draft valid if and only if what it has under the name of another
kind's field, if the new kind has that field, passes the check of the field. -/
theorem switched_iff {current : JsValue} {trigger : Trigger}
    (accepted : triggerSchema [] current = .ok trigger) (switch : Switch) :
    (∃ next, switch.apply current = .ok next ∧ Switched current switch next) ↔
      ∀ field ∈ switch.kind.fields, field ∉ (kindOf trigger).fields →
        isCarried (property current field.key) → field.Valid (property current field.key) := by
  obtain ⟨asset, known, found, applied⟩ := switch.apply_eq current
  constructor
  · rintro ⟨next, reached, switched⟩ field inside -
    cases applied.symm.trans reached
    exact (acceptedAs_switched known).mp switched.exactly.accepted field inside
  · intro stray
    have exactly : Exactly switch.kind
        (.object (switched switch.dateNow current asset switch.kind)) := by
      refine ⟨(acceptedAs_switched known).mpr ?_, keysOf_switched _ _ _ _⟩
      intro field inside carried
      by_cases own : field ∈ (kindOf trigger).fields
      · exact valid_of_accepted ⟨trigger, accepted, rfl⟩ own carried
      · exact stray field inside own carried
    refine ⟨_, applied, exactly, ?_, ?_, exactly.switches⟩
    · intro kind _ field _ inside defined nonempty
      rw [field_switched inside, kept, if_pos (isCarried_iff.mpr ⟨defined, nonempty⟩)]
    · intro registered same chain
      rw [found] at same
      cases same
      rw [chain]
      rfl

def fxrp : {symbol : Text // Registry.Registered symbol} :=
  ⟨text "FXRP", Registry.registered_fxrp⟩

def toPayments : Switch := ⟨⟨1700000000000, sampleNow_le⟩, .chainProofOfLife, fxrp⟩

def monthlyCheckIn : JsValue :=
  .object [(text "kind", .string (text "manualHeartbeat")),
    (text "intervalSeconds", seconds 2592000), (text "demoMode", .boolean true)]

theorem monthlyCheckIn_switched :
    ∃ next, toPayments.apply monthlyCheckIn = .ok next ∧
      Switched monthlyCheckIn toPayments next := by
  have accepted : triggerSchema [] monthlyCheckIn =
      .ok (.manualHeartbeat ⟨2592000, by decide⟩ true) :=
    triggerSchema_eq_ok.mpr ⟨_, rfl, rfl, rfl, .inr rfl⟩
  refine (switched_iff accepted toPayments).mpr ?_
  intro field inside outside carried
  cases field with
  | intervalSeconds => exact absurd (by decide) outside
  | demoMode => exact absurd inside (by decide)
  | destinationAddress => cases carried
  | minimumAmount => cases carried
  | executeAfter => exact absurd inside (by decide)

def toCheckIn : Switch := ⟨⟨1700000000000, sampleNow_le⟩, .manualHeartbeat, fxrp⟩

-- The schema ignores the interval of a date, which is not a number.
def dateWithInterval : JsValue :=
  .object [(text "kind", .string (text "timestamp")), (text "executeAfter", seconds 1),
    (text "intervalSeconds", .string (text "x"))]

theorem dateWithInterval_rejected :
    triggerSchema [] dateWithInterval = .ok (.timestamp ⟨1, by decide⟩) ∧
      ¬ ∃ next, toCheckIn.apply dateWithInterval = .ok next ∧
        Switched dateWithInterval toCheckIn next := by
  refine ⟨triggerSchema_eq_ok.mpr ⟨_, rfl, rfl, rfl⟩, ?_⟩
  rintro ⟨next, reached, switched⟩
  obtain ⟨asset, known, -, applied⟩ := toCheckIn.apply_eq dateWithInterval
  cases applied.symm.trans reached
  have valid := (acceptedAs_switched known).mp switched.exactly.accepted .intervalSeconds
    (by decide) rfl
  obtain ⟨whole, same⟩ := valid
  cases same

end FlareStudio.Web.Triggers
