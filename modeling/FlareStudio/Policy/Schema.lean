import FlareStudio.Shared.Zod

set_option autoImplicit false

namespace FlareStudio.Policy

def isHexDigit (unit : Nat) : Bool := (Hex.value? unit).isSome

-- /^0x[0-9a-fA-F]{40}$/
def IsAddress (units : Text) : Prop :=
  units.take 2 = text "0x" ∧ units.length = 42 ∧ (units.drop 2).all isHexDigit = true

instance : DecidablePred IsAddress := fun _ => inferInstanceAs (Decidable (_ ∧ _ ∧ _))

def isDecimalDigit (unit : Nat) : Bool := 48 ≤ unit && unit ≤ 57

-- /^[1-9][0-9]*$/
def IsAmount : Text → Prop
  | [] => False
  | first :: rest => first ≠ 48 ∧ isDecimalDigit first = true ∧ rest.all isDecimalDigit = true

instance : DecidablePred IsAmount
  | [] => isFalse id
  | _ :: _ => inferInstanceAs (Decidable (_ ∧ _ ∧ _))

abbrev AddressText : Type := {units : Text // IsAddress units}

abbrev AmountText : Type := {units : Text // IsAmount units}

abbrev Seconds : Type := {value : Int // 0 < value}

inductive Trigger where
  | manualHeartbeat (intervalSeconds : Seconds) (demoMode : Bool)
  | chainProofOfLife (intervalSeconds : Seconds) (sourceId destinationAddress : Text)
      (minimumAmount : AmountText)
  | timestamp (executeAfter : Seconds)
deriving DecidableEq

inductive Condition where
  | priceAbove (feedId : Text) (minimumUsd : {value : JsNumber // value.Positive})
deriving DecidableEq

structure Recipient where
  address : AddressText
  shareBps : {value : Nat // 1 ≤ value ∧ value ≤ 10000}
  label : Option {units : Text // units.length ≤ 120}
deriving DecidableEq

inductive Action where
  | splitTransfer (recipients : {values : List Recipient // values ≠ []})
deriving DecidableEq

structure PolicyFields where
  name : {units : Text // 1 ≤ units.length ∧ units.length ≤ 120}
  asset : Text
  trigger : Trigger
  conditions : List Condition
  actions : {values : List Action // values ≠ []}
deriving DecidableEq

section Parsers

open Zod

def addressSchema : Parser AddressText :=
  refine IsAddress "must be a 20-byte hex address" string

def amountSchema : Parser AmountText :=
  refine IsAmount "must be a positive integer in the asset base unit" string

def manualHeartbeatTrigger (path : List Text) (members : List (Text × JsValue)) :
    Except Issue Trigger := do
  let intervalSeconds ← at_ positiveInt path members "intervalSeconds"
  let demoMode ← at_ (default false boolean) path members "demoMode"
  .ok (.manualHeartbeat intervalSeconds demoMode)

def chainProofOfLifeTrigger (path : List Text) (members : List (Text × JsValue)) :
    Except Issue Trigger := do
  let intervalSeconds ← at_ positiveInt path members "intervalSeconds"
  let sourceId ← at_ string path members "sourceId"
  let destinationAddress ← at_ string path members "destinationAddress"
  let minimumAmount ← at_ amountSchema path members "minimumAmount"
  .ok (.chainProofOfLife intervalSeconds sourceId destinationAddress minimumAmount)

def timestampTrigger (path : List Text) (members : List (Text × JsValue)) :
    Except Issue Trigger := do
  let executeAfter ← at_ positiveInt path members "executeAfter"
  .ok (.timestamp executeAfter)

def triggerSchema : Parser Trigger :=
  discriminatedUnion "kind" [("manualHeartbeat", manualHeartbeatTrigger),
    ("chainProofOfLife", chainProofOfLifeTrigger), ("timestamp", timestampTrigger)]

def priceAboveCondition (path : List Text) (members : List (Text × JsValue)) :
    Except Issue Condition := do
  let feedId ← at_ string path members "feedId"
  let minimumUsd ← at_ positive path members "minimumUsd"
  .ok (.priceAbove feedId minimumUsd)

def conditionSchema : Parser Condition :=
  discriminatedUnion "kind" [("priceAbove", priceAboveCondition)]

def recipientSchema : Parser Recipient := fun path found => do
  let members ← object path found
  let address ← at_ addressSchema path members "address"
  let shareBps ← at_ (intBetween 1 10000) path members "shareBps"
  let label ← at_ (optional (stringMax 120)) path members "label"
  .ok ⟨address, shareBps, label⟩

def splitTransferAction (path : List Text) (members : List (Text × JsValue)) :
    Except Issue Action := do
  let recipients ← at_ (nonemptyArray recipientSchema) path members "recipients"
  .ok (.splitTransfer recipients)

def actionSchema : Parser Action :=
  discriminatedUnion "kind" [("splitTransfer", splitTransferAction)]

def policyFieldsSchema : Parser PolicyFields := fun path found => do
  let members ← object path found
  let () ← at_ (literal 1) path members "version"
  let name ← at_ (stringBetween 1 120) path members "name"
  let asset ← at_ string path members "asset"
  let trigger ← at_ triggerSchema path members "trigger"
  let conditions ← at_ (default [] (array conditionSchema)) path members "conditions"
  let actions ← at_ (nonemptyArray actionSchema) path members "actions"
  .ok ⟨name, asset, trigger, conditions, actions⟩

end Parsers

def Action.recipients : Action → List Recipient
  | .splitTransfer recipients => recipients.val

def totalShareBps (recipients : List Recipient) : Nat :=
  (recipients.map fun recipient => recipient.shareBps.val).sum

def lowerUnit (unit : Nat) : Nat := if 65 ≤ unit ∧ unit ≤ 90 then unit + 32 else unit

-- toLowerCase, on text the address pattern has let through.
def toLowerCase (units : Text) : Text := units.map lowerUnit

def Recipient.key (recipient : Recipient) : Text := toLowerCase recipient.address.val

def duplicateIssues (action : Nat) : List Text → Nat → List Recipient → List Zod.Issue
  | _, _, [] => []
  | seen, index, recipient :: rest =>
    (if recipient.key ∈ seen then
      [⟨[text "actions", decimal action, text "recipients", decimal index, text "address"],
        text "duplicate recipient: combine into a single share instead"⟩]
    else []) ++ duplicateIssues action (recipient.key :: seen) (index + 1) rest

def actionIssues (index : Nat) (action : Action) : List Zod.Issue :=
  let total := totalShareBps action.recipients
  (if total ≠ 10000 then
    [⟨[text "actions", decimal index, text "recipients"],
      text "shares must total 100% (10000 bps), got " ++ decimal total⟩]
  else []) ++ duplicateIssues index [] 0 action.recipients

def actionsIssues : Nat → List Action → List Zod.Issue
  | _, [] => []
  | index, action :: rest => actionIssues index action ++ actionsIssues (index + 1) rest

def superRefine (policy : PolicyFields) : List Zod.Issue := actionsIssues 0 policy.actions.val

abbrev PolicyIR : Type := {policy : PolicyFields // superRefine policy = []}

def policyIrSchema (input : JsValue) : Except Zod.Issue PolicyIR := do
  let policy ← policyFieldsSchema [] input
  match issues : superRefine policy with
  | [] => .ok ⟨policy, issues⟩
  | first :: _ => .error first

theorem duplicateIssues_eq_nil (action : Nat) (recipients : List Recipient) (seen : List Text)
    (index : Nat) : duplicateIssues action seen index recipients = [] ↔
      (recipients.map Recipient.key).Nodup ∧ ∀ recipient ∈ recipients, recipient.key ∉ seen := by
  induction recipients generalizing seen index with
  | nil => simp [duplicateIssues]
  | cons recipient rest ih =>
    by_cases known : recipient.key ∈ seen
    · simp [duplicateIssues, known]
    · simp only [duplicateIssues, known, if_false, List.nil_append, ih, List.map_cons,
        List.nodup_cons, List.mem_map, List.mem_cons, not_exists, not_and, not_or, forall_eq_or_imp,
        not_false_eq_true, true_and]
      constructor
      · intro ⟨distinct, fresh⟩
        exact ⟨⟨fun other member => (fresh other member).1, distinct⟩,
          fun other member => (fresh other member).2⟩
      · intro ⟨⟨apart, distinct⟩, fresh⟩
        exact ⟨distinct, fun other member => ⟨apart other member, fresh other member⟩⟩

theorem actionsIssues_eq_nil (actions : List Action) (index : Nat) :
    actionsIssues index actions = [] ↔ ∀ action ∈ actions,
      totalShareBps action.recipients = 10000 ∧ (action.recipients.map Recipient.key).Nodup := by
  induction actions generalizing index with
  | nil => simp [actionsIssues]
  | cons action rest ih =>
    simp [actionsIssues, actionIssues, ih, duplicateIssues_eq_nil, and_assoc]

theorem PolicyIR.split (ir : PolicyIR) {action : Action} (member : action ∈ ir.val.actions.val) :
    totalShareBps action.recipients = 10000 ∧ (action.recipients.map Recipient.key).Nodup :=
  (actionsIssues_eq_nil _ _).mp ir.property action member

theorem Action.recipients_ne_nil (action : Action) : action.recipients ≠ [] := by
  cases action with
  | splitTransfer recipients => exact recipients.property

end FlareStudio.Policy
