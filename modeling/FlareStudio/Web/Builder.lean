import FlareStudio.Web.Retry

set_option autoImplicit false

namespace FlareStudio.Web.Builder

open Policy Throwing

structure Recipient where
  address : Text
  shareBps : JsNumber
  label : Option Text

def Recipient.input (recipient : Recipient) : JsValue :=
  .object ([(text "address", .string recipient.address),
    (text "shareBps", .number recipient.shareBps)] ++
      (recipient.label.map fun label => (text "label", .string label)).toList)

structure TemplateArgs where
  name : Option Text
  recipients : List Recipient
  intervalSeconds : Option JsNumber
  executeAfter : Option JsNumber
  demoMode : Option Bool

structure Draft where
  version : JsNumber
  name : Text
  asset : Text
  trigger : JsValue
  conditions : List JsValue
  actions : List JsValue

def Draft.input (draft : Draft) : JsValue :=
  .object [(text "version", .number draft.version), (text "name", .string draft.name),
    (text "asset", .string draft.asset), (text "trigger", draft.trigger),
    (text "conditions", .array draft.conditions), (text "actions", .array draft.actions)]

def YEAR : Nat := 365 * 24 * 60 * 60

def xrpInheritance (args : TemplateArgs) : Draft where
  version := .finite 1
  name := args.name.getD (text "XRP Inheritance")
  asset := text "FXRP"
  trigger := .object [(text "kind", .string (text "manualHeartbeat")),
    (text "intervalSeconds", .number (args.intervalSeconds.getD (.finite YEAR))),
    (text "demoMode", .boolean (args.demoMode.getD false))]
  conditions := []
  actions := [splitInput (args.recipients.map Recipient.input)]

def scheduledDistribution (dateNow : DateNow) (args : TemplateArgs) : Draft where
  version := .finite 1
  name := args.name.getD (text "Scheduled Distribution")
  asset := text "FXRP"
  trigger := .object [(text "kind", .string (text "timestamp")),
    (text "executeAfter",
      .number (args.executeAfter.getD (.finite (dateNow.val / 1000 + YEAR : Nat))))]
  conditions := []
  actions := [splitInput (args.recipients.map Recipient.input)]

structure TemplateDefinition where
  id : Text
  build : DateNow → TemplateArgs → Draft

def TEMPLATES : List TemplateDefinition :=
  [⟨text "xrp-inheritance", fun _ => xrpInheritance⟩,
    ⟨text "scheduled-distribution", scheduledDistribution⟩]

def TemplateDefinition.seed (template : TemplateDefinition) (dateNow : DateNow)
    (recipients : List Recipient) : Draft :=
  template.build dateNow
    { name := none
      recipients
      intervalSeconds := none
      executeAfter := none
      demoMode := some true }

structure Page (viem : Viem) where
  template : TemplateDefinition
  salt : Text
  recipients : List Recipient
  seeded : Draft
  trigger : Option JsValue
  reviewing : Bool
  deploying : Option {compiled // ∃ input, compile viem input salt = .ok compiled}
  entry : Option VaultEntry

def initialRecipients : List Recipient :=
  [⟨text "0x1111111111111111111111111111111111111111", .finite 6000, some (text "Partner")⟩,
    ⟨text "0x2222222222222222222222222222222222222222", .finite 4000, some (text "Child")⟩]

-- The only value that a session asks of the random generator.
def mount (viem : Viem) (templateId : Text) (getRandomValues : Bytes32) (dateNow : DateNow) :
    Option (Page viem) :=
  (TEMPLATES.find? fun template => template.id = templateId).map fun template =>
    { template
      salt := Hex.prefixed getRandomValues.bytes
      recipients := initialRecipients
      seeded := template.seed dateNow initialRecipients
      trigger := none
      reviewing := false
      deploying := none
      entry := none }

def Page.ir {viem : Viem} (page : Page viem) : Draft :=
  { page.seeded with trigger := page.trigger.getD page.seeded.trigger }

def Page.edit {viem : Viem} (page : Page viem) (recipients : List Recipient) (dateNow : DateNow) :
    Page viem :=
  { page with
    recipients
    seeded := page.template.seed dateNow recipients }

def Page.dialog {viem : Viem} (page : Page viem) {compiled : CompiledPolicy}
    (accepted : ∃ input, compile viem input page.salt = .ok compiled) : Dialog viem :=
  ⟨compiled, page.salt, page.template.id, accepted⟩

-- Deploy, or Try again: there is no such button any more once there is an entry.
def Page.launch {viem : Viem} (page : Page viem) (press : Press) : Option (Launch viem) :=
  match page.deploying, page.entry with
  | some ⟨_, accepted⟩, none => some ((page.dialog accepted).launch press)
  | _, _ => none

inductive Action where
  | setRecipients (recipients : List Recipient) (dateNow : DateNow)
  | setTrigger (trigger : JsValue)
  | review
  | keepEditing
  | deployPolicy
  | press (press : Press)
  | close

structure Session (site : Site) where
  page : Page site.viem
  world : World

def Session.step {site : Site} (session : Session site) : Action → Session site
  | .setRecipients recipients dateNow =>
    { session with page := session.page.edit recipients dateNow }
  | .setTrigger trigger => { session with page := { session.page with trigger := some trigger } }
  | .review => { session with page := { session.page with reviewing := true } }
  | .keepEditing => { session with page := { session.page with reviewing := false } }
  | .deployPolicy =>
    if session.page.reviewing then
      match accepted : compile site.viem session.page.ir.input session.page.salt with
      | .ok compiled =>
        let deploying := some ⟨compiled, _, accepted⟩
        { session with page := { session.page with deploying, reviewing := false } }
      | .error _ => session
    else session
  | .press press =>
    match session.page.launch press with
    | some launch =>
      match run site launch.options launch.env session.world with
      | .ok entry final => ⟨{ session.page with entry := some entry }, final.world⟩
      | .error _ final => ⟨session.page, final.world⟩
    | none => session
  | .close => { session with page := { session.page with deploying := none, entry := none } }

def Session.run {site : Site} (session : Session site) (actions : List Action) : Session site :=
  actions.foldl Session.step session

-- The run of the deploy flow that the action starts, with the world it finds.
def Session.entered {site : Site} (session : Session site) :
    Action → Option (Launch site.viem × World)
  | .press press => (session.page.launch press).map fun launch => (launch, session.world)
  | _ => none

def Session.trail {site : Site} : Session site → List Action → List (Launch site.viem × World)
  | _, [] => []
  | session, action :: rest =>
    (session.entered action).toList ++ (session.step action).trail rest

/-- With the salt at hand, whoever guesses the recipients can see that the guess is right. -/
def MadeWith (viem : Viem) (salt : Text) (clone : Clone) : Prop :=
  ∃ input compiled, compile viem input salt = .ok compiled ∧
    clone.arguments.commitment = compiled.publicArgs.commitment

def Session.created {site : Site} (session : Session site) (actions : List Action) : List Clone :=
  (session.run actions).world.clones.drop session.world.clones.length

def OwnSalts {site : Site} (session : Session site) (actions : List Action) : Prop :=
  (session.created actions).Pairwise fun first second =>
    ∀ salt, ¬ (MadeWith site.viem salt first ∧ MadeWith site.viem salt second)

def CreatesOnce {site : Site} (session : Session site) (actions : List Action) : Prop :=
  (session.trail actions).Pairwise fun earlier later =>
    CreatesPolicy earlier → ¬ CreatesPolicy later

section Sessions

variable {site : Site} {session : Session site}

theorem pairwise_false_iff {α : Type} {list : List α} :
    list.Pairwise (fun _ _ => False) ↔ list.length ≤ 1 := by
  match list with
  | [] => simp
  | [_] => simp
  | first :: second :: rest =>
    constructor
    · intro pairwise
      exact (List.rel_of_pairwise_cons pairwise List.mem_cons_self).elim
    · intro short
      simp at short

theorem launch_salt {page : Page site.viem} {press : Press} {launch : Launch site.viem}
    (launched : page.launch press = some launch) : launch.options.salt = page.salt := by
  unfold Page.launch at launched
  split at launched
  · cases launched
    rfl
  · cases launched

theorem salt_step (action : Action) : (session.step action).page.salt = session.page.salt := by
  cases action with
  | deployPolicy =>
    rw [Session.step]
    split
    · split <;> rfl
    · rfl
  | press press =>
    rw [Session.step]
    split
    · split <;> rfl
    · rfl
  | setRecipients | setTrigger | review | keepEditing | close => rfl

theorem world_step (action : Action) : (session.step action).world =
    match session.entered action with
    | some (launch, world) => (launch.attempt world).world
    | none => session.world := by
  cases action with
  | deployPolicy =>
    rw [Session.step]
    split
    · split <;> rfl
    · rfl
  | press press =>
    simp only [Session.step, Session.entered]
    cases session.page.launch press with
    | none => rfl
    | some launch =>
      simp only [Option.map_some, Launch.attempt]
      cases Web.run site launch.options launch.env session.world <;> rfl
  | setRecipients | setTrigger | review | keepEditing | close => rfl

theorem entered_salt {action : Action} {entered : Launch site.viem × World}
    (found : session.entered action = some entered) :
    entered.1.options.salt = session.page.salt ∧ entered.2 = session.world := by
  cases action with
  | press press =>
    obtain ⟨launch, launched, rfl⟩ := Option.map_eq_some_iff.mp found
    exact ⟨launch_salt launched, rfl⟩
  | setRecipients | setTrigger | review | keepEditing | deployPolicy | close => cases found

theorem madeWith_launch {launch : Launch site.viem} {arguments : FactoryArguments}
    (starts : Starts launch.options launch.env arguments) :
    MadeWith site.viem launch.options.salt ⟨launch.env.clone, arguments⟩ := by
  obtain ⟨input, accepted⟩ := launch.options.accepted
  have called := starts.called
  simp only [factoryCall, Checked.bind_reaches, Except.ok.injEq] at called
  obtain ⟨trigger, -, rfl⟩ := called
  exact ⟨input, _, accepted, rfl⟩

theorem clones_of_creates {launch : Launch site.viem} {world : World}
    (created : CreatesPolicy (launch, world)) :
    ∃ clone, MadeWith site.viem launch.options.salt clone ∧
      (launch.attempt world).clones = world.clones ++ [clone] := by
  obtain ⟨arguments, starts⟩ := created.begins
  refine ⟨⟨launch.env.clone, arguments⟩, madeWith_launch starts, ?_⟩
  rw [(starts.leads world).clones, if_pos created.creates]

open Classical in
noncomputable def creations (trail : List (Launch site.viem × World)) :
    List (Launch site.viem × World) :=
  trail.filter fun entered => CreatesPolicy entered

theorem clones_step (session : Session site) (action : Action) :
    ∃ added, (session.step action).world.clones = session.world.clones ++ added ∧
      (∀ clone ∈ added, MadeWith site.viem session.page.salt clone) ∧
      added.length = (creations (session.entered action).toList).length := by
  rw [world_step]
  cases found : session.entered action with
  | none => exact ⟨[], by simp [creations]⟩
  | some entered =>
    obtain ⟨launch, world⟩ := entered
    obtain ⟨salt, rfl⟩ := entered_salt found
    by_cases created : CreatesPolicy (launch, session.world)
    · obtain ⟨clone, made, clones⟩ := clones_of_creates created
      refine ⟨[clone], clones, ?_, ?_⟩
      · intro other member
        rw [List.mem_singleton.mp member, ← salt]
        exact made
      · simp [creations, created]
    · refine ⟨[], ?_, by simp, by simp [creations, created]⟩
      rw [List.append_nil]
      exact clones_of_not_creates created

theorem clones_run (session : Session site) (actions : List Action) :
    ∃ added, (session.run actions).world.clones = session.world.clones ++ added ∧
      (∀ clone ∈ added, MadeWith site.viem session.page.salt clone) ∧
      added.length = (creations (session.trail actions)).length := by
  induction actions generalizing session with
  | nil => exact ⟨[], by simp [Session.run, Session.trail, creations]⟩
  | cons action rest ih =>
    obtain ⟨one, clones, made, count⟩ := clones_step session action
    obtain ⟨more, later, others, counts⟩ := ih (session.step action)
    rw [salt_step] at others
    refine ⟨one ++ more, ?_, List.forall_mem_append.mpr ⟨made, others⟩, ?_⟩
    · calc
        _ = (session.step action).world.clones ++ more := later
        _ = session.world.clones ++ (one ++ more) := by rw [clones, List.append_assoc]
    · rw [Session.trail, creations, List.filter_append, List.length_append, List.length_append,
        count, counts]
      rfl

/-- Policies have salts of their own exactly in a session that creates one at most. -/
theorem own_salts_iff (session : Session site) (actions : List Action) :
    OwnSalts session actions ↔ CreatesOnce session actions := by
  obtain ⟨added, clones, made, count⟩ := clones_run session actions
  have created : session.created actions = added := by
    rw [Session.created, clones, List.drop_left]
  have shared : OwnSalts session actions ↔ added.Pairwise fun _ _ => False := by
    rw [OwnSalts, created]
    apply List.Pairwise.iff_of_mem
    intro first second left right
    simp only [iff_false, not_forall, not_not]
    exact ⟨_, made first left, made second right⟩
  have once : CreatesOnce session actions ↔
      (creations (session.trail actions)).Pairwise fun _ _ => False := by
    rw [creations, List.pairwise_filter]
    simp only [decide_eq_true_eq]
    rfl
  rw [shared, once, pairwise_false_iff, pairwise_false_iff, count]

theorem step_deployPolicy {page : Page site.viem} {world : World} {compiled : CompiledPolicy}
    (accepted : compile site.viem page.ir.input page.salt = .ok compiled) :
    (⟨{ page with reviewing := true }, world⟩ : Session site).step .deployPolicy =
      ⟨{ page with
          reviewing := false
          deploying := some ⟨compiled, _, accepted⟩ }, world⟩ := by
  rw [Session.step, if_pos rfl]
  split
  · rename_i found accepted'
    obtain rfl := Except.ok.inj (accepted.symm.trans accepted')
    rfl
  · rename_i error refused
    cases accepted.symm.trans refused

theorem step_press {page : Page site.viem} {world : World} {press : Press}
    {launch : Launch site.viem} (launched : page.launch press = some launch) :
    ∃ entry, (⟨page, world⟩ : Session site).step (.press press) =
      ⟨{ page with entry }, (launch.attempt world).world⟩ := by
  simp only [Session.step, launched, Launch.attempt]
  cases Web.run site launch.options launch.env world with
  | ok entry final => exact ⟨some entry, rfl⟩
  | error error final => exact ⟨page.entry, rfl⟩

end Sessions

def deployed (press : Press) : List Action := [.review, .deployPolicy, .press press, .close]

theorem run_deployed {site : Site} {page : Page site.viem} {world : World}
    {compiled : CompiledPolicy}
    (accepted : compile site.viem page.ir.input page.salt = .ok compiled)
    (fresh : page.entry = none) (press : Press) :
    (⟨page, world⟩ : Session site).run (deployed press) =
      ⟨{ page with
          reviewing := false
          deploying := none
          entry := none },
        (((page.dialog ⟨_, accepted⟩).launch press).attempt world).world⟩ := by
  let opened : Page site.viem := { page with
    reviewing := false
    deploying := some ⟨compiled, _, accepted⟩ }
  have launched : opened.launch press = some ((opened.dialog ⟨_, accepted⟩).launch press) := by
    simp [opened, Page.launch, fresh]
  obtain ⟨entry, pressed⟩ : ∃ entry, (⟨opened, world⟩ : Session site).step (.press press) =
    ⟨{ opened with entry }, (((opened.dialog ⟨_, accepted⟩).launch press).attempt world).world⟩ :=
      step_press launched
  change (((⟨{ page with reviewing := true }, world⟩ : Session site).step .deployPolicy).step
    (.press press)).step .close = _
  rw [step_deployPolicy accepted, pressed]
  rfl

def editedActions (recipients : List Recipient) (dateNow : DateNow) (first second : Press) :
    List Action :=
  deployed first ++ .setRecipients recipients dateNow :: deployed second

theorem run_editedActions {site : Site} {page : Page site.viem} {world : World}
    {recipients : List Recipient} {dateNow : DateNow} {compiled compiled' : CompiledPolicy}
    (accepted : compile site.viem page.ir.input page.salt = .ok compiled)
    (accepted' : compile site.viem (page.edit recipients dateNow).ir.input page.salt =
      .ok compiled') (fresh : page.entry = none) (first second : Press) :
    ((⟨page, world⟩ : Session site).run (editedActions recipients dateNow first second)).world =
      ((((page.edit recipients dateNow).dialog ⟨_, accepted'⟩).launch second).attempt
        (((page.dialog ⟨_, accepted⟩).launch first).attempt world).world).world := by
  let between : Page site.viem := { page with
    reviewing := false
    deploying := none
    entry := none }
  rw [editedActions, Session.run, List.foldl_append]
  change (Session.run (Session.step (Session.run _ (deployed first)) _) (deployed second)).world = _
  rw [run_deployed accepted fresh]
  have ran := @run_deployed site (between.edit recipients dateNow)
    (((page.dialog ⟨_, accepted⟩).launch first).attempt world).world _ accepted' rfl second
  exact congrArg Session.world ran

def sampleNow : DateNow := ⟨1700000000000, sampleNow_le⟩

def inheritancePage : Page sampleSite.viem where
  template := ⟨text "xrp-inheritance", fun _ => xrpInheritance⟩
  salt := Hex.prefixed (FixedBytes.replicate 32 0xab).bytes
  recipients := initialRecipients
  seeded := xrpInheritance ⟨none, initialRecipients, none, none, some true⟩
  trigger := none
  reviewing := false
  deploying := none
  entry := none

def friends : List Recipient :=
  [⟨text "0x3333333333333333333333333333333333333333", .finite 10000, none⟩]

def sampleActions : List Action :=
  editedActions friends sampleNow (samplePress (.replicate 20 0x44) successful)
    (samplePress (.replicate 20 0x45) successful)

def firstClone : Clone :=
  ⟨.replicate 20 0x44, { sampleArguments with
    commitment := text "0xf7745d5322d6d81385276180dc46e22c91d26ca8504d0845686ded4e460fd3f6" }⟩

def secondClone : Clone :=
  ⟨.replicate 20 0x45, { sampleArguments with
    commitment := text "0xc63a5148dcb3e404337cc0a83d2a7b2e0308bff839677c91403e2eaa68aea59d" }⟩

theorem sample_created :
    (⟨inheritancePage, emptyWorld⟩ : Session sampleSite).created sampleActions =
      [firstClone, secondClone] := by
  have first : (compile .lowercase inheritancePage.ir.input inheritancePage.salt).map
      (factoryCall sampleAddresses) = .ok (.ok firstClone.arguments) := by decide +kernel
  have second : (compile .lowercase (inheritancePage.edit friends sampleNow).ir.input
      inheritancePage.salt).map (factoryCall sampleAddresses) =
        .ok (.ok secondClone.arguments) := by decide +kernel
  obtain ⟨compiled, accepted, called⟩ := Checked.map_eq_ok first
  obtain ⟨compiled', accepted', called'⟩ := Checked.map_eq_ok second
  rw [Session.created, sampleActions, run_editedActions accepted accepted' rfl]
  generalize first : (inheritancePage.dialog ⟨_, accepted⟩).launch
    (samplePress (.replicate 20 0x44) successful) = launch
  generalize second : ((inheritancePage.edit friends sampleNow).dialog ⟨_, accepted'⟩).launch
    (samplePress (.replicate 20 0x45) successful) = launch'
  have starts : Starts launch.options launch.env firstClone.arguments := by
    rw [← first]
    exact ⟨rfl, called⟩
  have starts' : Starts launch'.options launch'.env secondClone.arguments := by
    rw [← second]
    exact ⟨rfl, called'⟩
  have one : (launch.attempt emptyWorld).clones = [firstClone] := by
    rw [(starts.leads emptyWorld).clones, ← first]
    rfl
  have two : (launch'.attempt (launch.attempt emptyWorld).world).clones =
      [firstClone, secondClone] := by
    rw [(starts'.leads _).clones, Attempt.world, one, ← second]
    rfl
  rw [Attempt.world, two]
  rfl

-- After the first policy the recipients are edited, and the second is made with the same salt.
theorem edited_same_salt :
    mount sampleSite.viem (text "xrp-inheritance") (.replicate 32 0xab) sampleNow =
      some inheritancePage ∧
    firstClone.arguments.commitment ≠ secondClone.arguments.commitment ∧
    (⟨inheritancePage, emptyWorld⟩ : Session sampleSite).created sampleActions =
      [firstClone, secondClone] ∧
    ¬ OwnSalts (⟨inheritancePage, emptyWorld⟩ : Session sampleSite) sampleActions := by
  refine ⟨rfl, by decide +kernel, sample_created, fun own => ?_⟩
  obtain ⟨added, clones, made, -⟩ :=
    clones_run (⟨inheritancePage, emptyWorld⟩ : Session sampleSite) sampleActions
  have same : added = [firstClone, secondClone] := by
    rw [← sample_created, Session.created, clones, List.drop_left]
  rw [OwnSalts, sample_created] at own
  have first : firstClone ∈ added := by simp [same]
  have second : secondClone ∈ added := by simp [same]
  exact List.rel_of_pairwise_cons own (List.mem_singleton_self _) _
    ⟨made firstClone first, made secondClone second⟩

end FlareStudio.Web.Builder
