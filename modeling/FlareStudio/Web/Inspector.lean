import FlareStudio.Web.Picture

set_option autoImplicit false

namespace FlareStudio.Web.Canvas

structure InspectorRow where
  label : Text
  value : JsValue

inductive Editor where
  | recipients
  | trigger
deriving DecidableEq

structure InspectorPanel where
  label : Text
  title : Text
  rows : List InspectorRow
  editor : Option Editor
  help : Text

variable (browser : Browser)

-- Number.isInteger(…) of a number from zero up. Minus zero indexes as zero does.
def index? : Option Number → Option Nat
  | some (.finite negative value) =>
    if value.val.den = 1 ∧ (negative → value.val = 0) then some value.val.num.toNat else none
  | _ => none

def indexOf (nodeId : Option Text) (start : Text) : Option Nat :=
  match nodeId with
  | none => none
  | some nodeId =>
    if start.isPrefixOf nodeId then index? (stringToNumber (nodeId.drop start.length)) else none

-- … ?? ''
def orEmpty : JsValue → JsValue
  | .undefined => .string []
  | .null => .string []
  | value => value

def policyPanel (ir : DraftIr) : Except Thrown InspectorPanel := do
  let trigger ← describeTrigger browser ir.trigger
  .ok
    { label := text "Policy"
      title := text "Policy"
      rows :=
        [⟨text "Name", orEmpty ir.name⟩, ⟨text "Asset", .string ir.asset.val⟩,
          ⟨text "Trigger", .string trigger.title⟩] ++
        (if ir.conditionList.length ≠ 0 then
          [⟨text "Conditions", .string (decimal ir.conditionList.length)⟩] else []) ++
        [⟨text "Actions", .string (decimal ir.actionList.length)⟩]
      editor := none
      help := text "An overview of everything this policy does." }

def assetPanel (ir : DraftIr) : InspectorPanel where
  label := text "Asset"
  title := text "What it governs"
  rows := [⟨text "Symbol", .string ir.getAsset.symbol⟩,
    ⟨text "Underlying", .string ir.getAsset.name⟩,
    ⟨text "Decimals", .string (decimal ir.getAsset.decimals)⟩]
  editor := none
  help := text "Your " ++ ir.getAsset.name ++
    text (" is held by the policy contract itself — not by us, and not by " ++
      "anyone who could spend it. It stays yours, and you can withdraw it or cancel the " ++
      "policy at any time before it runs.")

-- {}
def DraftTrigger.empty : DraftTrigger where
  kind := .undefined
  intervalSeconds := .undefined
  executeAfter := .undefined
  sourceId := .undefined
  demoMode := .undefined

def triggerRows (trigger : DraftTrigger) : Except Thrown (List InspectorRow) :=
  if isKind trigger.kind "manualHeartbeat" then do
    let seconds ← trigger.intervalSeconds.toNumber browser.toHost
    .ok (⟨text "Check in every", .string (formatIntervalOf seconds)⟩ ::
      if trigger.demoMode.isTruthy browser.toHost then [⟨text "Demo mode", .string (text "On")⟩]
      else [])
  else if isKind trigger.kind "chainProofOfLife" then do
    let seconds ← trigger.intervalSeconds.toNumber browser.toHost
    .ok [⟨text "Check in every", .string (formatIntervalOf seconds)⟩,
      ⟨text "Chain", trigger.sourceId⟩]
  else if isKind trigger.kind "timestamp" then do
    let date ← formatDate browser trigger.executeAfter
    .ok [⟨text "Runs on", .string date⟩]
  else .ok []

def triggerPanel (ir : DraftIr) : Except Thrown InspectorPanel := do
  let trigger := ir.trigger.getD .empty
  let described ← describeTrigger browser (some trigger)
  let rows ← triggerRows browser trigger
  .ok
    { label := text "Trigger"
      title := text "What starts it"
      rows := ⟨text "Condition", .string described.title⟩ :: rows
      editor := some .trigger
      help := text (
        "Nothing moves until this happens. Once it does, the policy runs on its own — " ++
        "including when you cannot act, which is usually the whole point of having one.") }

def describedCondition (described : Description) : InspectorPanel where
  label := text "Condition"
  title := text "What must also hold"
  rows := [⟨text "Type", .string described.title⟩, ⟨text "Detail", .string described.summary⟩]
  editor := none
  help := text ("Checked at the moment the trigger fires. If it does not hold, the policy waits " ++
    "rather than running — the trigger alone is not enough.")

-- An element is an object, so that none is missing only past the end.
def conditionPanel (ir : DraftIr) (index : Nat) : Except Thrown InspectorPanel :=
  match ir.conditionList[index]? with
  | none => policyPanel browser ir
  | some condition => (describeCondition browser condition).map describedCondition

def describedAction (action : DraftAction) : InspectorPanel where
  label := text "Action"
  title := text "What happens"
  rows := ⟨text "Type", .string (describeAction action).title⟩ ::
    if isKind action.kind "splitTransfer" then
      [⟨text "Recipients", .string (decimal (recipientCount action))⟩]
    else []
  editor := none
  help := text ("The whole balance is distributed by the shares you set, in one transaction. " ++
    "The remainder from any uneven split goes to the last recipient, so nothing is " ++
    "ever left stranded — once a policy has run it can never run again.")

def actionPanel (ir : DraftIr) (index : Nat) : Except Thrown InspectorPanel :=
  match ir.actionList[index]? with
  | none => policyPanel browser ir
  | some action => .ok (describedAction action)

def confidentialPanel (ir : DraftIr) : InspectorPanel :=
  let editable := ir.actionList.any fun action => isKind action.kind "splitTransfer"
  { label := text "Confidential inputs"
    title := if editable then text "Who receives what" else text "Confidential inputs"
    rows :=
      if editable then [] else [⟨text "Private values", .string (decimal ir.confidentialCount)⟩]
    editor := if editable then some .recipients else none
    help :=
      if editable then
        text ("This list is encrypted in your browser before anything is sent. Only a " ++
          "fingerprint of it goes on chain — enough to prove later that nobody " ++
          "substituted a different recipient, not enough for anyone to read who they " ++
          "are. Not us, not a data provider, not someone reading the chain.")
      else text "These values are encrypted to the enclave and never appear on chain." }

def inspectorFor (nodeId : Option Text) (ir : DraftIr) : Except Thrown InspectorPanel :=
  if nodeId = some (text "asset") then .ok (assetPanel ir)
  else if nodeId = some (text "trigger") then triggerPanel browser ir
  else if nodeId = some (text "confidential") then .ok (confidentialPanel ir)
  else
    match indexOf nodeId (text "condition-") with
    | some condition => conditionPanel browser ir condition
    | none =>
      match indexOf nodeId (text "action-") with
      | some action => actionPanel browser ir action
      | none => policyPanel browser ir

variable {browser}

theorem index?_ofNat {i : Nat} (small : i < 2 ^ 53) : index? (some (.ofNat i)) = some i := by
  rw [Number.ofNat_eq small]
  simp [index?]

theorem indexOf_append {start : Text} {i : Nat} (small : i < 2 ^ 53) :
    indexOf (some (start ++ decimal i)) start = some i := by
  have starts : start.isPrefixOf (start ++ decimal i) :=
    List.isPrefixOf_iff_prefix.mpr (List.prefix_append start _)
  simp only [indexOf, starts, if_true, List.drop_left, stringToNumber_decimal, index?_ofNat small]

theorem inspectorFor_condition (ir : DraftIr) {i : Nat} (small : i < 2 ^ 53) :
    inspectorFor browser (some (conditionId i)) ir = conditionPanel browser ir i := by
  have resolved : indexOf (some (conditionId i)) (text "condition-") = some i :=
    indexOf_append small
  have others : conditionId i ≠ text "asset" ∧ conditionId i ≠ text "trigger" ∧
      conditionId i ≠ text "confidential" := by
    simp [conditionId, text]
  simp only [inspectorFor, resolved, Option.some.injEq, others, if_false]

theorem inspectorFor_action (ir : DraftIr) {i : Nat} (small : i < 2 ^ 53) :
    inspectorFor browser (some (actionId i)) ir = actionPanel browser ir i := by
  have unresolved : indexOf (some (actionId i)) (text "condition-") = none := by
    simp [indexOf, actionId, text]
  have resolved : indexOf (some (actionId i)) (text "action-") = some i := indexOf_append small
  have others : actionId i ≠ text "asset" ∧ actionId i ≠ text "trigger" ∧
      actionId i ≠ text "confidential" := by
    simp [actionId, text]
  simp only [inspectorFor, unresolved, resolved, Option.some.injEq, others, if_false]

-- The elements of an array are counted exactly.
theorem elements_small {A : Type} (array : Option (JsArray A)) :
    ((array.map Subtype.val).getD []).length < 2 ^ 53 := by
  cases array with
  | none => simp
  | some elements => exact Nat.lt_trans elements.property (by norm_num)

def Describes (browser : Browser) (ir : DraftIr) (node : DiagramNode) (panel : InspectorPanel) :
    Prop :=
  match node.type with
  | .asset => panel = assetPanel ir
  | .trigger => triggerPanel browser ir = .ok panel
  | .condition => ∃ i condition description, node.id = conditionId i ∧
      ir.conditionList[i]? = some condition ∧
      describeCondition browser condition = .ok description ∧
      node.data = .described description ∧ panel = describedCondition description
  | .confidential => panel = confidentialPanel ir
  | .action => ∃ i action, node.id = actionId i ∧ ir.actionList[i]? = some action ∧
      node.data = .described (describeAction action) ∧ panel = describedAction action

/-- The graph has the shape of the draft, and each of its nodes can be inspected. -/
structure Faithful (browser : Browser) (ir : DraftIr) (graph : CanvasGraph) : Prop extends
    Shaped ir graph where
  inspected : ∀ node ∈ graph.nodes, ∃ panel, inspectorFor browser (some node.id) ir = .ok panel ∧
    Describes browser ir node panel ∧ policyPanel browser ir ≠ .ok panel

theorem policyPanel_label {ir : DraftIr} {panel : InspectorPanel}
    (whole : policyPanel browser ir = .ok panel) : panel.label = text "Policy" := by
  rw [policyPanel, Checked.bind_reaches] at whole
  obtain ⟨trigger, -, made⟩ := whole
  rw [← Except.ok.inj made]

theorem not_policy {ir : DraftIr} {panel : InspectorPanel} {label : Text}
    (labelled : panel.label = label) (own : label ≠ text "Policy") :
    policyPanel browser ir ≠ .ok panel := by
  intro whole
  exact own (labelled.symm.trans (policyPanel_label whole))

theorem triggerRows_ok {trigger : DraftTrigger} (describable : TriggerDescribable browser trigger) :
    ∃ rows, triggerRows browser trigger = .ok rows := by
  have ⟨interval, date⟩ := describable
  by_cases heartbeat : isKind trigger.kind "manualHeartbeat"
  · have ⟨seconds, converted⟩ := interval (.inl heartbeat)
    rw [triggerRows, if_pos heartbeat, converted]
    exact ⟨_, rfl⟩
  · rw [triggerRows, if_neg heartbeat]
    by_cases life : isKind trigger.kind "chainProofOfLife"
    · have ⟨seconds, converted⟩ := interval (.inr life)
      rw [if_pos life, converted]
      exact ⟨_, rfl⟩
    · rw [if_neg life]
      by_cases timestamp : isKind trigger.kind "timestamp"
      · have ⟨shown, formatted⟩ := formatDate_ok.mpr (date timestamp)
        rw [if_pos timestamp, formatted]
        exact ⟨_, rfl⟩
      · exact ⟨[], if_neg timestamp⟩

theorem triggerPanel_ok {ir : DraftIr} (describable : Describable browser ir) :
    ∃ panel, triggerPanel browser ir = .ok panel ∧ panel.label = text "Trigger" := by
  have known : TriggerDescribable browser (ir.trigger.getD .empty) := by
    cases present : ir.trigger with
    | none => simp [TriggerDescribable, DraftTrigger.empty, isKind]
    | some trigger => exact describable.trigger trigger present
  obtain ⟨described, description⟩ := (@describeTrigger_ok browser
    (some (ir.trigger.getD .empty))).mpr fun trigger same => Option.some.inj same ▸ known
  obtain ⟨rows, made⟩ := triggerRows_ok known
  exact ⟨_, by rw [triggerPanel, description, made]; rfl, rfl⟩

theorem picture_inspected {ir : DraftIr} (describable : Describable browser ir) {node : DiagramNode}
    (drawn : Drawn browser ir node) :
    ∃ panel, inspectorFor browser (some node.id) ir = .ok panel ∧
      Describes browser ir node panel ∧ policyPanel browser ir ≠ .ok panel := by
  cases drawn with
  | asset =>
    have label : (assetPanel ir).label = text "Asset" := rfl
    exact ⟨assetPanel ir, rfl, rfl, not_policy label (by decide)⟩
  | trigger =>
    obtain ⟨panel, made, label⟩ := triggerPanel_ok describable
    exact ⟨panel, made, made, not_policy label (by decide)⟩
  | @condition i condition at_ =>
    obtain ⟨within, found⟩ := List.getElem?_eq_some_iff.mp at_
    obtain ⟨description, known⟩ :=
      describeCondition_ok.mpr (describable.conditions condition (List.mem_of_getElem? at_))
    have resolved := @inspectorFor_condition browser ir i
      (Nat.lt_trans within (elements_small ir.conditions))
    have data : described (describeCondition browser condition) = description := by
      rw [known]
      rfl
    have label : (describedCondition description).label = text "Condition" := rfl
    refine ⟨describedCondition description, ?_, ?_, not_policy label (by decide)⟩
    · simp only [conditionNode, resolved, conditionPanel, at_, known]
      rfl
    · exact ⟨i, condition, description, rfl, at_, known, congrArg NodeData.described data, rfl⟩
  | confidential some =>
    have label : (confidentialPanel ir).label = text "Confidential inputs" := rfl
    exact ⟨confidentialPanel ir, rfl, rfl, not_policy label (by decide)⟩
  | @action i action at_ =>
    obtain ⟨within, found⟩ := List.getElem?_eq_some_iff.mp at_
    have label : (describedAction action).label = text "Action" := rfl
    have resolved := @inspectorFor_action browser ir i
      (Nat.lt_trans within (elements_small ir.actions))
    refine ⟨describedAction action, ?_, ?_, not_policy label (by decide)⟩
    · simp only [actionNode, resolved, actionPanel, at_]
    · exact ⟨i, action, rfl, at_, rfl, rfl⟩

/-- The canvas is a faithful picture of exactly the drafts that can be described. -/
theorem graphFromIr_faithful_iff (browser : Browser) (ir : DraftIr) :
    (∃ graph, graphFromIr browser ir = .ok graph ∧ Faithful browser ir graph) ↔
      Describable browser ir := by
  constructor
  · intro ⟨graph, drew, faithful⟩
    exact (graphFromIr_eq.mp drew).1
  · intro describable
    exact ⟨picture browser ir, graphFromIr_picture describable,
      { toShaped := picture_shaped browser ir
        inspected := fun node member => picture_inspected describable (drawn_of_mem member) }⟩

def silent : Browser where
  toText := fun _ => .error .typeError
  toNumber := fun _ => .error .typeError
  isTruthy := fun _ => true
  formatDate := fun _ => []

def farDate : DraftTrigger where
  kind := .string (text "timestamp")
  intervalSeconds := .undefined
  executeAfter := .number (.finite (8640000000001 : ℕ))
  sourceId := .undefined
  demoMode := .undefined

def farDraft : DraftIr where
  name := .string (text "Later")
  asset := ⟨text "FXRP", Policy.Registry.registered_fxrp⟩
  trigger := some farDate
  conditions := none
  actions := none

theorem farDraft_undrawn :
    ¬ ∃ graph, graphFromIr silent farDraft = .ok graph ∧ Faithful silent farDraft graph := by
  intro ⟨graph, drew, faithful⟩
  have describable := (graphFromIr_eq.mp drew).1
  have ⟨seconds, time, converted, clipped⟩ := (describable.trigger farDate rfl).2 rfl
  rw [← Except.ok.inj converted] at clipped
  have none := @timeClip_whole 8640000000001 (by norm_num)
  rw [if_neg (by norm_num)] at none
  exact Option.some_ne_none time (clipped.symm.trans none)

end FlareStudio.Web.Canvas
