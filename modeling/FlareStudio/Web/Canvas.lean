import FlareStudio.Policy.Assets
import FlareStudio.Shared.Conversion
import FlareStudio.Web.Interval

set_option autoImplicit false

-- The diagram of a draft: one node for each primitive it has, and the edges between them. A
-- draft is built but not yet parsed, so that its fields can have any values.

namespace FlareStudio.Web.Canvas

open Policy

inductive DiagramNodeType where
  | asset
  | trigger
  | condition
  | confidential
  | action
deriving DecidableEq

structure Description where
  title : Text
  summary : Text
deriving DecidableEq

inductive NodeData where
  | asset (symbol name : Text)
  | described (description : Description)
  | count (values : Nat)
deriving DecidableEq

structure DiagramNode where
  id : Text
  type : DiagramNodeType
  data : NodeData
deriving DecidableEq

structure DiagramEdge where
  id : Text
  source : Text
  target : Text
deriving DecidableEq

structure CanvasGraph where
  nodes : List DiagramNode
  edges : List DiagramEdge
deriving DecidableEq

-- An array has fewer than 2 ^ 32 elements.
abbrev JsArray (α : Type) : Type := {elements : List α // elements.length < 2 ^ 32}

structure DraftTrigger where
  kind : JsValue
  intervalSeconds : JsValue
  executeAfter : JsValue
  sourceId : JsValue
  demoMode : JsValue

structure DraftCondition where
  kind : JsValue
  minimumUsd : JsValue

structure DraftAction where
  kind : JsValue
  recipients : Option (JsArray JsValue)

-- Where none is undefined or null.
structure DraftIr where
  name : JsValue
  asset : {symbol : Text // Registry.Registered symbol}
  trigger : Option DraftTrigger
  conditions : Option (JsArray DraftCondition)
  actions : Option (JsArray DraftAction)

def DraftIr.conditionList (ir : DraftIr) : List DraftCondition :=
  (ir.conditions.map Subtype.val).getD []

def DraftIr.actionList (ir : DraftIr) : List DraftAction := (ir.actions.map Subtype.val).getD []

theorem lookup_registered {symbol : Text} (registered : Registry.Registered symbol) :
    (Registry.ASSETS.lookup symbol).isSome := by
  rw [Option.isSome_iff_ne_none]
  exact fun unknown => Registry.lookup_eq_none.mp unknown registered

-- getAsset(ir.asset)
def DraftIr.getAsset (ir : DraftIr) : SupportedAsset :=
  (Registry.ASSETS.lookup ir.asset.val).get (lookup_registered ir.asset.property)

theorem DraftIr.getAsset_eq (ir : DraftIr) :
    Registry.getAsset ir.asset.val = .ok (.entry ir.getAsset) := by
  have found : Registry.ASSETS.lookup ir.asset.val = some ir.getAsset := (Option.some_get _).symm
  rw [Registry.getAsset, Registry.property?, found]

-- The values a number or a string is made from, and Intl.DateTimeFormat('en-GB', …).format.
structure Browser extends Host where
  formatDate : ℤ → Text

variable (browser : Browser)

def isKind (kind : JsValue) (name : String) : Bool :=
  match kind with
  | .string units => units = text name
  | _ => false

-- Math.round of a negative number, by its magnitude.
def roundedBelow : Magnitude → Magnitude
  | .finite value => .round ⌈value.val - 1 / 2⌉.toNat (Nat.cast_nonneg _)
  | .infinity => .infinity

-- formatInterval of numbers that are no interval too.
def formatIntervalOf (seconds : Option Number) : Text :=
  match seconds with
  | none => text "NaN days"
  | some seconds =>
    if seconds.isNegative then
      (Number.ofMagnitude true (roundedBelow (seconds.magnitude.dividedBy 86400))).toText ++
        text " days"
    else formatInterval seconds.magnitude

-- The time value of new Date(…), where none is an invalid date.
def timeClip : Option Number → Option ℤ
  | some (.finite negative milliseconds) =>
    if milliseconds.val ≤ 8640000000000000 then
      some (if negative then -⌊milliseconds.val⌋ else ⌊milliseconds.val⌋)
    else none
  | _ => none

-- format throws for an invalid date.
def formatDate (unixSeconds : JsValue) : Except Thrown Text := do
  let seconds ← unixSeconds.toNumber browser.toHost
  match timeClip (seconds.map (·.times 1000)) with
  | some time => .ok (browser.formatDate time)
  | none => .error .rangeError

def describeTrigger (trigger : Option DraftTrigger) : Except Thrown Description :=
  match trigger with
  | none => .ok ⟨text "Trigger", []⟩
  | some trigger =>
    if isKind trigger.kind "manualHeartbeat" ∨ isKind trigger.kind "chainProofOfLife" then do
      let seconds ← trigger.intervalSeconds.toNumber browser.toHost
      .ok ⟨text "If you stop checking in",
        text "After " ++ formatIntervalOf seconds ++ text " without a check-in"⟩
    else if isKind trigger.kind "timestamp" then do
      let date ← formatDate browser trigger.executeAfter
      .ok ⟨text "On a specific date", date⟩
    else .ok ⟨text "Trigger", []⟩

def describeCondition (condition : DraftCondition) : Except Thrown Description :=
  if isKind condition.kind "priceAbove" then do
    let minimum ← condition.minimumUsd.toText browser.toHost
    .ok ⟨text "Only above a price",
      text "Runs only while the price is over $" ++ minimum⟩
  else .ok ⟨text "Condition", []⟩

def recipientCount (action : DraftAction) : Nat :=
  (action.recipients.map fun recipients => recipients.val.length).getD 0

def confidentialInputCount (action : DraftAction) : Nat :=
  if isKind action.kind "splitTransfer" then recipientCount action else 0

def describeAction (action : DraftAction) : Description :=
  if isKind action.kind "splitTransfer" then
    let n := recipientCount action
    ⟨text "Split transfer", text "Distribute the full balance across " ++ decimal n ++
      text " recipient" ++ (if n = 1 then [] else text "s")⟩
  else ⟨text "Action", []⟩

def conditionId (i : Nat) : Text := text "condition-" ++ decimal i

def actionId (i : Nat) : Text := text "action-" ++ decimal i

def edge (source target : Text) : DiagramEdge := ⟨source ++ 45 :: target, source, target⟩

structure Drawing extends CanvasGraph where
  upstream : Text

def drawConditions : List DraftCondition → Nat → Drawing → Except Thrown Drawing
  | [], _, drawing => .ok drawing
  | condition :: rest, i, drawing => do
    let id := conditionId i
    let described ← describeCondition browser condition
    drawConditions rest (i + 1)
      { nodes := drawing.nodes ++ [⟨id, .condition, .described described⟩]
        edges := drawing.edges ++ [edge drawing.upstream id]
        upstream := id }

def drawConfidential (confidentialCount : Nat) (drawing : Drawing) : Drawing :=
  if 0 < confidentialCount then
    { drawing with
      nodes := drawing.nodes ++
        [⟨text "confidential", .confidential, .count confidentialCount⟩]
      edges := drawing.edges ++ [edge drawing.upstream (text "confidential")] }
  else drawing

def drawActions : List DraftAction → Nat → Drawing → Drawing
  | [], _, drawing => drawing
  | action :: rest, i, drawing =>
    let id := actionId i
    drawActions rest (i + 1)
      { drawing with
        nodes := drawing.nodes ++ [⟨id, .action, .described (describeAction action)⟩]
        edges := drawing.edges ++ [edge drawing.upstream id] }

-- Exact, with fewer than 2 ^ 53 recipients in a draft.
def DraftIr.confidentialCount (ir : DraftIr) : Nat :=
  ir.actionList.foldl (fun sum action => sum + confidentialInputCount action) 0

def graphFromIr (ir : DraftIr) : Except Thrown CanvasGraph := do
  let asset := ir.getAsset
  let described ← describeTrigger browser ir.trigger
  let drawing ← drawConditions browser ir.conditionList 0
    { nodes := [⟨text "asset", .asset, .asset asset.symbol asset.name⟩,
        ⟨text "trigger", .trigger, .described described⟩]
      edges := [edge (text "asset") (text "trigger")]
      upstream := text "trigger" }
  let drawing := drawConfidential ir.confidentialCount drawing
  .ok (drawActions ir.actionList 0 drawing).toCanvasGraph

-- A date that is shown is a time value, and what is written out has a text.
def TriggerDescribable (trigger : DraftTrigger) : Prop :=
  (isKind trigger.kind "manualHeartbeat" ∨ isKind trigger.kind "chainProofOfLife" →
    ∃ seconds, trigger.intervalSeconds.toNumber browser.toHost = .ok seconds) ∧
  (isKind trigger.kind "timestamp" → ∃ seconds time,
    trigger.executeAfter.toNumber browser.toHost = .ok seconds ∧
      timeClip (seconds.map (·.times 1000)) = some time)

def ConditionDescribable (condition : DraftCondition) : Prop :=
  isKind condition.kind "priceAbove" →
    ∃ minimum, condition.minimumUsd.toText browser.toHost = .ok minimum

structure Describable (ir : DraftIr) : Prop where
  trigger : ∀ trigger ∈ ir.trigger, TriggerDescribable browser trigger
  conditions : ∀ condition ∈ ir.conditionList, ConditionDescribable browser condition

variable {browser}

theorem isKind_unique {kind : JsValue} {name other : String} (first : isKind kind name)
    (second : isKind kind other) : text name = text other := by
  cases kind with
  | string units =>
    have same : units = text name := of_decide_eq_true first
    have also : units = text other := of_decide_eq_true second
    rw [← same, also]
  | _ => cases first

theorem formatDate_ok {unixSeconds : JsValue} :
    (∃ date, formatDate browser unixSeconds = .ok date) ↔
      ∃ seconds time, unixSeconds.toNumber browser.toHost = .ok seconds ∧
        timeClip (seconds.map (·.times 1000)) = some time := by
  simp only [formatDate, Checked.bind_reaches]
  constructor
  · intro ⟨date, seconds, converted, formatted⟩
    cases clipped : timeClip (seconds.map (·.times 1000)) with
    | none =>
      rw [clipped] at formatted
      cases formatted
    | some time => exact ⟨seconds, time, converted, clipped⟩
  · intro ⟨seconds, time, converted, clipped⟩
    exact ⟨browser.formatDate time, seconds, converted, by rw [clipped]⟩

theorem describeTrigger_ok {trigger : Option DraftTrigger} :
    (∃ described, describeTrigger browser trigger = .ok described) ↔
      ∀ known ∈ trigger, TriggerDescribable browser known := by
  cases trigger with
  | none => simp [describeTrigger]
  | some trigger =>
    simp only [Option.mem_some_iff, forall_eq']
    by_cases interval :
        isKind trigger.kind "manualHeartbeat" ∨ isKind trigger.kind "chainProofOfLife"
    · have other : ¬ isKind trigger.kind "timestamp" := by
        intro date
        rcases interval with here | here
        · exact absurd (isKind_unique here date) (by decide)
        · exact absurd (isKind_unique here date) (by decide)
      simp [describeTrigger, TriggerDescribable, interval, other, Checked.bind_reaches]
    · by_cases date : isKind trigger.kind "timestamp"
      · have described : (∃ described, describeTrigger browser (some trigger) = .ok described) ↔
            ∃ shown, formatDate browser trigger.executeAfter = .ok shown := by
          simp [describeTrigger, interval, date, Checked.bind_reaches]
        rw [described, formatDate_ok]
        simp [TriggerDescribable, interval, date]
      · simp [describeTrigger, TriggerDescribable, interval, date]

theorem describeCondition_ok {condition : DraftCondition} :
    (∃ described, describeCondition browser condition = .ok described) ↔
      ConditionDescribable browser condition := by
  unfold describeCondition ConditionDescribable
  split_ifs with price
  · simp [price, Checked.bind_reaches]
  · simp [price]

theorem toNumber_whole {value : ℕ} (small : value ≤ 2 ^ 53) :
    (JsNumber.finite (value : ℚ)).toNumber =
      .finite false ⟨value, Double.representable_natCast small⟩ := by
  have double := Double.representable_natCast small
  have nearest : Double.nearest |(value : ℚ)| = value := by
    rw [Nat.abs_cast, Double.nearest_of_representable double]
  have finite := Double.lt_of_representable double
  have sign : decide ((value : ℚ) < 0) = false := by simp
  simp only [JsNumber.toNumber, nearest, finite, dif_pos, sign]

theorem timeClip_whole {seconds : ℕ} (small : seconds * 1000 ≤ 2 ^ 53) :
    timeClip (some ((JsNumber.finite (seconds : ℚ)).toNumber.times 1000)) =
      if seconds ≤ 8640000000000 then some ((seconds * 1000 : ℕ) : ℤ) else none := by
  have product := Double.representable_natCast (by omega : 1000 * seconds ≤ 2 ^ 53)
  have times := Magnitude.times_whole (Double.representable_natCast
    (by omega : seconds ≤ 2 ^ 53)) product
  have scaled : ((1000 * seconds : ℕ) : ℚ) ≤ 8640000000000000 ↔ seconds ≤ 8640000000000 := by
    norm_cast
    omega
  rw [toNumber_whole (by omega), Number.times]
  simp only [Number.magnitude, Number.isNegative]
  rw [← Magnitude.whole, times, Magnitude.whole]
  simp only [Number.ofMagnitude, timeClip, scaled, Bool.false_eq_true, if_false, Int.floor_natCast,
    mul_comm seconds]

end FlareStudio.Web.Canvas
