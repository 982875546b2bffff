import FlareStudio.Shared.Rooted
import FlareStudio.Web.Canvas

set_option autoImplicit false

namespace FlareStudio.Web.Canvas

open Policy

inductive Primitive where
  | asset
  | trigger
  | condition (i : Nat)
  | confidential
  | action (i : Nat)
deriving DecidableEq

def Primitive.id : Primitive → Text
  | .asset => text "asset"
  | .trigger => text "trigger"
  | .condition i => conditionId i
  | .confidential => text "confidential"
  | .action i => actionId i

-- What the actions hang off: the last of so many conditions, or the trigger.
def lastGate : Nat → Primitive
  | 0 => .trigger
  | conditions + 1 => .condition conditions

def Primitive.parent (conditions : Nat) : Primitive → Primitive
  | .asset => .asset
  | .trigger => .asset
  | .condition i => lastGate i
  | .confidential => lastGate conditions
  | .action _ => lastGate conditions

def Primitive.rank (conditions : Nat) : Primitive → Nat
  | .asset => 0
  | .trigger => 1
  | .condition i => i + 2
  | .confidential => conditions + 2
  | .action _ => conditions + 2

def DraftIr.confidential (ir : DraftIr) : List Primitive :=
  if 0 < ir.confidentialCount then [.confidential] else []

def DraftIr.gated (ir : DraftIr) : List Primitive :=
  .trigger :: (List.range ir.conditionList.length).map .condition ++ ir.confidential ++
    (List.range ir.actionList.length).map .action

theorem decimal_injective {i j : Nat} (same : decimal i = decimal j) : i = j := by
  rw [← ofDecimal_decimal i, same, ofDecimal_decimal]

theorem id_injective : Function.Injective Primitive.id := by
  intro p q same
  cases p <;> cases q <;> simp [Primitive.id, conditionId, actionId, text] at same ⊢ <;>
    exact decimal_injective same

def DraftIr.Has (ir : DraftIr) : Primitive → Prop
  | .asset => True
  | .trigger => True
  | .condition i => i < ir.conditionList.length
  | .confidential => 0 < ir.confidentialCount
  | .action i => i < ir.actionList.length

theorem mem_gated {ir : DraftIr} {p : Primitive} :
    p ∈ Primitive.asset :: ir.gated ↔ ir.Has p := by
  have private_mem : p ∈ ir.confidential ↔ p = .confidential ∧ 0 < ir.confidentialCount := by
    unfold DraftIr.confidential
    split_ifs with some <;> simp [some]
  simp only [DraftIr.gated, List.mem_cons, List.mem_append, List.mem_map, List.mem_range,
    private_mem]
  cases p <;> simp [DraftIr.Has]

theorem gated_nodup (ir : DraftIr) : (Primitive.asset :: ir.gated).Nodup := by
  have conditions : ((List.range ir.conditionList.length).map Primitive.condition).Nodup :=
    List.nodup_range.map fun _ _ same => Primitive.condition.inj same
  have actions : ((List.range ir.actionList.length).map Primitive.action).Nodup :=
    List.nodup_range.map fun _ _ same => Primitive.action.inj same
  unfold DraftIr.gated DraftIr.confidential
  split_ifs <;> simp [List.nodup_append, conditions, actions]

theorem ne_asset {ir : DraftIr} {p : Primitive} (inside : p ∈ ir.gated) : p ≠ .asset := by
  rintro rfl
  exact (List.nodup_cons.mp (gated_nodup ir)).1 inside

theorem has_lastGate {ir : DraftIr} {i : Nat} (within : i ≤ ir.conditionList.length) :
    ir.Has (lastGate i) := by
  cases i with
  | zero => trivial
  | succ i => exact within

theorem gated_tree (ir : DraftIr) : Rooted.Tree .asset ir.gated
    (Primitive.parent ir.conditionList.length) (Primitive.rank ir.conditionList.length) := by
  refine ⟨gated_nodup ir, ?_, ?_⟩
  · intro p inside
    have has := mem_gated.mp (List.mem_cons_of_mem Primitive.asset inside)
    rw [mem_gated]
    cases p with
    | asset => trivial
    | trigger => trivial
    | condition i => exact has_lastGate (Nat.le_of_lt has)
    | confidential => exact has_lastGate le_rfl
    | action i => exact has_lastGate le_rfl
  · intro p inside
    have gate {i : Nat} : (lastGate i).rank ir.conditionList.length < i + 2 := by
      cases i <;> simp [lastGate, Primitive.rank]
    cases p with
    | asset => exact absurd rfl (ne_asset inside)
    | trigger => exact Nat.one_pos
    | condition i => exact gate
    | confidential => exact gate
    | action i => exact gate

variable {browser : Browser}

def described : Except Thrown Description → Description
  | .ok description => description
  | .error _ => ⟨[], []⟩

def conditionNode (browser : Browser) (condition : DraftCondition × Nat) : DiagramNode :=
  ⟨conditionId condition.2, .condition,
    .described (described (describeCondition browser condition.1))⟩

def actionNode (action : DraftAction × Nat) : DiagramNode :=
  ⟨actionId action.2, .action, .described (describeAction action.1)⟩

def confidentialNodes (ir : DraftIr) : List DiagramNode :=
  if 0 < ir.confidentialCount then
    [⟨text "confidential", .confidential, .count ir.confidentialCount⟩]
  else []

def edgeTo (ir : DraftIr) (p : Primitive) : DiagramEdge :=
  edge (p.parent ir.conditionList.length).id p.id

def picture (browser : Browser) (ir : DraftIr) : CanvasGraph where
  nodes :=
    [⟨text "asset", .asset, .asset ir.getAsset.symbol ir.getAsset.name⟩,
      ⟨text "trigger", .trigger, .described (described (describeTrigger browser ir.trigger))⟩] ++
      ir.conditionList.zipIdx.map (conditionNode browser) ++ confidentialNodes ir ++
        ir.actionList.zipIdx.map actionNode
  edges := ir.gated.map (edgeTo ir)

theorem eq_described {result : Except Thrown Description} (some : ∃ value, result = .ok value) :
    result = .ok (described result) := by
  obtain ⟨value, rfl⟩ := some
  rfl

theorem drawConditions_eq {conditions : List DraftCondition} {i : Nat} {drawing : Drawing}
    (gate : drawing.upstream = (lastGate i).id)
    (describable : ∀ condition ∈ conditions, ConditionDescribable browser condition) :
    drawConditions browser conditions i drawing = .ok
      { nodes := drawing.nodes ++ (conditions.zipIdx i).map (conditionNode browser)
        edges := drawing.edges ++ (List.range' i conditions.length).map fun k =>
          edge (lastGate k).id (conditionId k)
        upstream := (lastGate (i + conditions.length)).id } := by
  induction conditions generalizing i drawing with
  | nil =>
    simp [drawConditions, ← gate]
  | cons condition rest ih =>
    have known := eq_described
      (describeCondition_ok.mpr (describable condition List.mem_cons_self))
    have later := fun other member => describable other (List.mem_cons_of_mem condition member)
    rw [drawConditions, known]
    refine (ih rfl later).trans ?_
    have length : i + 1 + rest.length = i + (condition :: rest).length := by
      rw [List.length_cons]
      omega
    rw [length]
    simp only [List.zipIdx_cons, List.map_cons, List.append_assoc, List.length_cons,
      List.range'_succ, List.singleton_append, gate, conditionNode]

theorem drawConditions_ok {conditions : List DraftCondition} {i : Nat} {drawing drawn : Drawing}
    (drew : drawConditions browser conditions i drawing = .ok drawn) :
    ∀ condition ∈ conditions, ConditionDescribable browser condition := by
  induction conditions generalizing i drawing with
  | nil => nofun
  | cons condition rest ih =>
    rw [drawConditions, Checked.bind_reaches] at drew
    obtain ⟨known, description, later⟩ := drew
    rw [List.forall_mem_cons]
    exact ⟨describeCondition_ok.mp ⟨known, description⟩, ih later⟩

theorem drawActions_eq {actions : List DraftAction} {i : Nat} {drawing : Drawing} :
    drawActions actions i drawing =
      { nodes := drawing.nodes ++ (actions.zipIdx i).map actionNode
        edges := drawing.edges ++ (List.range' i actions.length).map fun k =>
          edge drawing.upstream (actionId k)
        upstream := drawing.upstream } := by
  induction actions generalizing i drawing with
  | nil => simp [drawActions]
  | cons action rest ih =>
    rw [drawActions, ih]
    simp [List.zipIdx_cons, List.range'_succ, actionNode]

theorem graphFromIr_picture {ir : DraftIr} (describable : Describable browser ir) :
    graphFromIr browser ir = .ok (picture browser ir) := by
  have trigger := eq_described (describeTrigger_ok.mpr describable.trigger)
  have gates := @drawConditions_eq browser ir.conditionList 0
    { nodes := [⟨text "asset", .asset, .asset ir.getAsset.symbol ir.getAsset.name⟩,
        ⟨text "trigger", .trigger, .described (described (describeTrigger browser ir.trigger))⟩]
      edges := [edge (text "asset") (text "trigger")]
      upstream := text "trigger" } rfl describable.conditions
  rw [graphFromIr, trigger]
  simp only [bind, Except.bind]
  rw [gates]
  by_cases some : 0 < ir.confidentialCount
  · simp only [drawConfidential, some, if_true, drawActions_eq]
    simp [picture, confidentialNodes, DraftIr.gated, DraftIr.confidential, some, edgeTo,
      Primitive.parent, Primitive.id, List.range_eq_range', Function.comp_def, lastGate]
  · simp only [drawConfidential, some, if_false, drawActions_eq]
    simp [picture, confidentialNodes, DraftIr.gated, DraftIr.confidential, some, edgeTo,
      Primitive.parent, Primitive.id, List.range_eq_range', Function.comp_def, lastGate]

theorem graphFromIr_eq {ir : DraftIr} {graph : CanvasGraph} :
    graphFromIr browser ir = .ok graph ↔ Describable browser ir ∧ graph = picture browser ir := by
  constructor
  · intro drew
    have describable : Describable browser ir := by
      simp only [graphFromIr, Checked.bind_reaches] at drew
      obtain ⟨description, trigger, drawing, conditions, -⟩ := drew
      exact ⟨describeTrigger_ok.mp ⟨description, trigger⟩, drawConditions_ok conditions⟩
    rw [graphFromIr_picture describable] at drew
    exact ⟨describable, (Except.ok.inj drew).symm⟩
  · rintro ⟨describable, rfl⟩
    exact graphFromIr_picture describable

theorem decimal_cut {i j : Nat} {rest more : Text}
    (same : decimal i ++ 45 :: rest = decimal j ++ 45 :: more) : i = j ∧ rest = more := by
  have spanned (k : Nat) (tail : Text) :
      (decimal k ++ 45 :: tail).span Json.isDigit = (decimal k, 45 :: tail) :=
    Json.span_digits (Numeral.isDigit_decimal k) (by simp [Json.isDigit])
  have halves := spanned j more
  rw [← same, spanned i rest, Prod.mk.injEq, List.cons.injEq] at halves
  exact ⟨decimal_injective halves.1, halves.2.2⟩

theorem lastGate_cut {i j : Nat} {rest more : Text}
    (same : (lastGate i).id ++ 45 :: rest = (lastGate j).id ++ 45 :: more) :
    i = j ∧ rest = more := by
  cases i with
  | zero =>
    cases j with
    | zero => exact ⟨rfl, (List.cons.inj (List.append_cancel_left same)).2⟩
    | succ j => simp [lastGate, Primitive.id, conditionId, text] at same
  | succ i =>
    cases j with
    | zero => simp [lastGate, Primitive.id, conditionId, text] at same
    | succ j =>
      simp only [lastGate, Primitive.id, conditionId, List.append_assoc] at same
      have ⟨index, tail⟩ := decimal_cut (List.append_cancel_left same)
      exact ⟨congrArg (· + 1) index, tail⟩

theorem parent_lastGate {conditions : Nat} {p : Primitive} (proper : p ≠ .asset) :
    p = .trigger ∨ ∃ i, p.parent conditions = lastGate i := by
  cases p with
  | asset => exact absurd rfl proper
  | trigger => exact .inl rfl
  | condition i => exact .inr ⟨i, rfl⟩
  | confidential => exact .inr ⟨conditions, rfl⟩
  | action i => exact .inr ⟨conditions, rfl⟩

theorem trigger_edge_ne {i : Nat} {rest : Text} :
    text "asset" ++ 45 :: text "trigger" ≠ (lastGate i).id ++ 45 :: rest := by
  cases i <;> simp [lastGate, Primitive.id, conditionId, text]

theorem edgeTo_injective {ir : DraftIr} {p q : Primitive} (first : p ≠ .asset)
    (second : q ≠ .asset) (same : (edgeTo ir p).id = (edgeTo ir q).id) : p = q := by
  rcases @parent_lastGate ir.conditionList.length p first with rfl | ⟨i, above⟩
  · rcases @parent_lastGate ir.conditionList.length q second with rfl | ⟨j, other⟩
    · rfl
    · simp only [edgeTo, edge, other] at same
      exact absurd same trigger_edge_ne
  · rcases @parent_lastGate ir.conditionList.length q second with rfl | ⟨j, other⟩
    · simp only [edgeTo, edge, above] at same
      exact absurd same.symm trigger_edge_ne
    · simp only [edgeTo, edge, above, other] at same
      exact id_injective (lastGate_cut same).2

def HasRecipient (ir : DraftIr) : Prop :=
  ∃ action ∈ ir.actionList, isKind action.kind "splitTransfer" ∧
    ∃ recipients ∈ action.recipients, recipients.val ≠ []

def totalRecipients (ir : DraftIr) : Nat :=
  ((ir.actionList.filter fun action => isKind action.kind "splitTransfer").map recipientCount).sum

structure Shaped (ir : DraftIr) (graph : CanvasGraph) : Prop where
  nodes_nodup : (graph.nodes.map DiagramNode.id).Nodup
  edges_nodup : (graph.edges.map DiagramEdge.id).Nodup
  joined : ∀ edge ∈ graph.edges, edge.source ∈ graph.nodes.map DiagramNode.id ∧
    edge.target ∈ graph.nodes.map DiagramNode.id
  incoming : ∀ node ∈ graph.nodes, node.id ≠ text "asset" →
    (graph.edges.map DiagramEdge.target).count node.id = 1
  reachable : ∀ node ∈ graph.nodes, Relation.ReflTransGen
    (fun source target => ∃ edge ∈ graph.edges, edge.source = source ∧ edge.target = target)
    (text "asset") node.id
  governed : ∃ edge ∈ graph.edges, edge.source = text "asset" ∧ edge.target = text "trigger"
  chained : ∀ i < ir.conditionList.length, ∃ edge ∈ graph.edges,
    edge.source = (lastGate i).id ∧ edge.target = conditionId i
  hung : ∀ node ∈ graph.nodes, node.type = .action ∨ node.type = .confidential →
    ∃ edge ∈ graph.edges, edge.source = (lastGate ir.conditionList.length).id ∧
      edge.target = node.id
  conditions : (graph.nodes.filter (·.type = .condition)).map DiagramNode.id =
    (List.range ir.conditionList.length).map conditionId
  actions : (graph.nodes.filter (·.type = .action)).map DiagramNode.id =
    (List.range ir.actionList.length).map actionId
  confidential : (∃ node ∈ graph.nodes, node.type = .confidential) ↔ HasRecipient ir
  counted : ∀ node ∈ graph.nodes, node.type = .confidential →
    node.data = .count (totalRecipients ir)

theorem confidentialCount_eq (ir : DraftIr) : ir.confidentialCount = totalRecipients ir := by
  have summed (actions : List DraftAction) (start : Nat) :
      actions.foldl (fun sum action => sum + confidentialInputCount action) start = start +
        ((actions.filter fun action => isKind action.kind "splitTransfer").map
          recipientCount).sum := by
    induction actions generalizing start with
    | nil => rfl
    | cons action rest ih =>
      rw [List.foldl_cons, ih]
      by_cases split : isKind action.kind "splitTransfer"
      · simp [confidentialInputCount, split, Nat.add_assoc]
      · simp [confidentialInputCount, split]
  rw [DraftIr.confidentialCount, summed, Nat.zero_add, totalRecipients]

theorem confidentialCount_pos {ir : DraftIr} : 0 < ir.confidentialCount ↔ HasRecipient ir := by
  rw [confidentialCount_eq, totalRecipients, Nat.pos_iff_ne_zero, Ne, List.sum_eq_zero_iff]
  have none_or {action : DraftAction} : recipientCount action ≠ 0 ↔
      ∃ recipients ∈ action.recipients, recipients.val ≠ [] := by
    unfold recipientCount
    cases action.recipients <;> simp
  simp only [HasRecipient, ← none_or]
  simp [and_assoc]

theorem zipIdx_ids {A : Type} (values : List A) (node : A × Nat → DiagramNode) (id : Nat → Text)
    (named : ∀ value, (node value).id = id value.2) :
    (values.zipIdx.map node).map DiagramNode.id = (List.range values.length).map id := by
  rw [List.range_eq_range', ← List.zipIdx_map_snd, List.map_map, List.map_map]
  exact List.map_congr_left fun value _ => named value

theorem picture_ids (browser : Browser) (ir : DraftIr) :
    (picture browser ir).nodes.map DiagramNode.id =
      (Primitive.asset :: ir.gated).map Primitive.id := by
  have confidential : (confidentialNodes ir).map DiagramNode.id =
      ir.confidential.map Primitive.id := by
    unfold confidentialNodes DraftIr.confidential
    split_ifs <;> rfl
  have conditions := zipIdx_ids ir.conditionList (conditionNode browser) conditionId fun _ => rfl
  have actions := zipIdx_ids ir.actionList actionNode actionId fun _ => rfl
  simp only [picture, DraftIr.gated, List.map_append, List.map_cons, conditions, actions,
    confidential]
  simp [Primitive.id, Function.comp_def]

theorem mem_picture {ir : DraftIr} {p : Primitive} :
    p.id ∈ (picture browser ir).nodes.map DiagramNode.id ↔ p ∈ Primitive.asset :: ir.gated := by
  rw [picture_ids, List.mem_map_of_injective id_injective]

theorem primitive_of_node {ir : DraftIr} {node : DiagramNode}
    (member : node ∈ (picture browser ir).nodes) :
    ∃ p ∈ Primitive.asset :: ir.gated, p.id = node.id := by
  have named : node.id ∈ (picture browser ir).nodes.map DiagramNode.id :=
    List.mem_map_of_mem member
  rwa [picture_ids, List.mem_map] at named

inductive Drawn (browser : Browser) (ir : DraftIr) : DiagramNode → Prop where
  | asset : Drawn browser ir ⟨text "asset", .asset, .asset ir.getAsset.symbol ir.getAsset.name⟩
  | trigger : Drawn browser ir
      ⟨text "trigger", .trigger, .described (described (describeTrigger browser ir.trigger))⟩
  | condition {i : Nat} {condition : DraftCondition} (at_ : ir.conditionList[i]? = some condition) :
      Drawn browser ir (conditionNode browser (condition, i))
  | confidential (some : 0 < ir.confidentialCount) : Drawn browser ir
      ⟨text "confidential", .confidential, .count ir.confidentialCount⟩
  | action {i : Nat} {action : DraftAction} (at_ : ir.actionList[i]? = some action) :
      Drawn browser ir (actionNode (action, i))

theorem drawn_of_mem {ir : DraftIr} {node : DiagramNode}
    (member : node ∈ (picture browser ir).nodes) : Drawn browser ir node := by
  simp only [picture, List.mem_append, List.mem_cons, List.mem_map, List.not_mem_nil, or_false,
    List.mem_zipIdx_iff_getElem?] at member
  obtain (((rfl | rfl) | ⟨condition, at_, rfl⟩) | confidential) | ⟨action, at_, rfl⟩ := member
  · exact .asset
  · exact .trigger
  · exact .condition at_
  · unfold confidentialNodes at confidential
    split_ifs at confidential with some
    · rw [List.mem_singleton.mp confidential]
      exact .confidential some
    · cases confidential
  · exact .action at_

theorem edge_joins {ir : DraftIr} {edge : DiagramEdge}
    (member : edge ∈ (picture browser ir).edges) :
    edge.source ∈ (picture browser ir).nodes.map DiagramNode.id ∧
      edge.target ∈ (picture browser ir).nodes.map DiagramNode.id := by
  obtain ⟨p, inside, rfl⟩ := List.mem_map.mp member
  exact ⟨mem_picture.mpr ((gated_tree ir).closed p inside),
    mem_picture.mpr (List.mem_cons_of_mem _ inside)⟩

theorem edge_names_nodup (browser : Browser) (ir : DraftIr) :
    ((picture browser ir).edges.map DiagramEdge.id).Nodup := by
  rw [picture, List.map_map]
  exact (List.nodup_cons.mp (gated_nodup ir)).2.map_on fun p first q second same =>
    edgeTo_injective (ne_asset first) (ne_asset second) same

theorem one_incoming {ir : DraftIr} {node : DiagramNode}
    (member : node ∈ (picture browser ir).nodes) (other : node.id ≠ text "asset") :
    ((picture browser ir).edges.map DiagramEdge.target).count node.id = 1 := by
  have ⟨p, inside, named⟩ := primitive_of_node member
  have targets : (picture browser ir).edges.map DiagramEdge.target = ir.gated.map Primitive.id :=
    List.map_map
  rw [← named] at other ⊢
  rw [targets]
  exact (gated_tree ir).incoming id_injective inside fun root => other (congrArg Primitive.id root)

theorem node_reachable {ir : DraftIr} {node : DiagramNode}
    (member : node ∈ (picture browser ir).nodes) : Relation.ReflTransGen
      (fun source target => ∃ edge ∈ (picture browser ir).edges,
        edge.source = source ∧ edge.target = target) (text "asset") node.id := by
  have ⟨p, inside, named⟩ := primitive_of_node member
  rw [← named]
  exact ((gated_tree ir).reachable inside).lift Primitive.id fun source target ⟨below, above⟩ =>
    ⟨edgeTo ir target, List.mem_map_of_mem below, congrArg Primitive.id above, rfl⟩

theorem hangs {ir : DraftIr} {p : Primitive} (has : ir.Has p) (other : p ≠ .asset) :
    ∃ edge ∈ (picture browser ir).edges,
      edge.source = (p.parent ir.conditionList.length).id ∧ edge.target = p.id := by
  have inside : p ∈ ir.gated := (List.mem_cons.mp (mem_gated.mpr has)).resolve_left other
  exact ⟨edgeTo ir p, List.mem_map_of_mem inside, rfl, rfl⟩

theorem conditions_drawn (browser : Browser) (ir : DraftIr) :
    ((picture browser ir).nodes.filter (·.type = .condition)).map DiagramNode.id =
      (List.range ir.conditionList.length).map conditionId := by
  rw [← zipIdx_ids ir.conditionList (conditionNode browser) conditionId fun _ => rfl]
  unfold picture confidentialNodes
  split_ifs <;> simp [List.filter_map, Function.comp_def, conditionNode, actionNode]

theorem actions_drawn (browser : Browser) (ir : DraftIr) :
    ((picture browser ir).nodes.filter (·.type = .action)).map DiagramNode.id =
      (List.range ir.actionList.length).map actionId := by
  rw [← zipIdx_ids ir.actionList actionNode actionId fun _ => rfl]
  unfold picture confidentialNodes
  split_ifs <;> simp [List.filter_map, Function.comp_def, conditionNode, actionNode]

theorem picture_shaped (browser : Browser) (ir : DraftIr) : Shaped ir (picture browser ir) where
  nodes_nodup := by
    rw [picture_ids]
    exact (gated_nodup ir).map id_injective
  edges_nodup := edge_names_nodup browser ir
  joined := fun edge => edge_joins
  incoming := fun node => one_incoming
  reachable := fun node => node_reachable
  governed := @hangs browser ir .trigger trivial nofun
  chained := fun i within => @hangs browser ir (.condition i) within nofun
  hung := by
    intro node member below
    cases drawn_of_mem member with
    | asset => simp at below
    | trigger => simp at below
    | condition at_ => simp [conditionNode] at below
    | confidential some => exact @hangs browser ir .confidential some nofun
    | @action i action at_ =>
      exact @hangs browser ir (.action i) (List.getElem?_eq_some_iff.mp at_).1 nofun
  conditions := conditions_drawn browser ir
  actions := actions_drawn browser ir
  confidential := by
    rw [← confidentialCount_pos]
    constructor
    · intro ⟨node, member, type⟩
      cases drawn_of_mem member with
      | confidential some => exact some
      | _ => cases type
    · intro some
      refine ⟨⟨text "confidential", .confidential, .count ir.confidentialCount⟩, ?_, rfl⟩
      simp [picture, confidentialNodes, some]
  counted := by
    intro node member type
    cases drawn_of_mem member with
    | confidential some => exact congrArg NodeData.count (confidentialCount_eq ir)
    | _ => cases type

end FlareStudio.Web.Canvas
