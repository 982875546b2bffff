import FlareStudio.Web.Deadline
import FlareStudio.Web.PolicyScreen

set_option autoImplicit false

-- What the deployment manager lists: the vault's policies and those in the factory's logs, each
-- read from a node that may fail to answer anything.

namespace FlareStudio.Web

open Policy

-- What the node answers to every call, or that it does not. A log may lack the argument.
structure Node where
  getLogs : Except Unit (List (Option Address))
  status : Address → Except Unit UInt8
  balance : Address → Except Unit ℕ
  commitment : Address → Except Unit Bytes32
  trigger : Address → Except Unit Address
  kind : Address → Except Unit Text
  getter : Address → Deadline.Getter → Address → Except Unit UInt64

structure PolicySummary where
  address : Text
  name : Option Text
  status : ℕ
  balance : ℕ
  trigger : Address
  triggerKind : Text
  deadline : Option ℚ
  commitment : Bytes32
  hasPrivateHalf : Bool

-- viem calls no contract at an address of mixed case that is not spelled as its checksum.
def callable? (site : Site) (spelled : Text) : Option Address :=
  (Hex.fixed? 20 spelled).filter fun address =>
    toLowerCase spelled = spelled ∨ spelled = site.checksumAddress address

def displayName (entry : Option VaultEntry) : Option Text :=
  (entry.map VaultEntry.name).filter fun name => name ≠ []

def readPolicy (site : Site) (node : Node) (item : VaultItem) (address : Text) :
    Except Unit PolicySummary := do
  let policy ← Checked.ofOption () (callable? site address)
  let status ← node.status policy
  let balance ← node.balance policy
  let commitment ← node.commitment policy
  let trigger ← node.trigger policy
  let triggerKind := match node.kind trigger with
    | .ok kind => kind
    | .error _ => text "unknown"
  let entry := Vault.getEntry address item
  .ok {
    address
    name := displayName entry
    status := status.toNat
    balance
    trigger
    triggerKind
    deadline := Deadline.readDeadline (node.getter trigger) triggerKind policy
    commitment
    hasPrivateHalf := entry.isSome }

def Node.logged (site : Site) (node : Node) : List Text :=
  match node.getLogs with
  | .ok logs => logs.filterMap fun log => log.map site.checksumAddress
  | .error _ => []

-- A set, in the order of insertion: dedup keeps what comes last.
def setOf (list : List Text) : List Text := list.reverse.dedup.reverse

def listedAddresses (site : Site) (node : Node) (item : VaultItem) : List Text :=
  setOf ((Vault.allEntries 114 item).map VaultEntry.policy ++ node.logged site)

def deployedAt (item : VaultItem) (policy : Text) : ℕ :=
  match Vault.getEntry policy item with
  | some entry => entry.deployedAt
  | none => 0

def listPolicies (site : Site) (node : Node) (item : VaultItem) : List PolicySummary :=
  let summaries := (listedAddresses site node item).filterMap fun address =>
    (readPolicy site node item address).toOption
  summaries.mergeSort fun a b => deployedAt item b.address ≤ deployedAt item a.address

def Node.Answers (node : Node) (policy : Address) : Prop :=
  (∃ status, node.status policy = .ok status) ∧ (∃ balance, node.balance policy = .ok balance) ∧
    (∃ commitment, node.commitment policy = .ok commitment) ∧
    ∃ trigger, node.trigger policy = .ok trigger

/-- The vault has the policy for the chain, or a log has it. -/
def Known (node : Node) (item : VaultItem) (policy : Address) : Prop :=
  (∃ entry ∈ Vault.allEntries 114 item, Hex.fixed? 20 entry.policy = some policy) ∨
    ∃ logs, node.getLogs = .ok logs ∧ some policy ∈ logs

/-- What is known and answers is listed once, the newest first, and said to have its private half
exactly if the vault opens its commitment. -/
structure ListsAll (site : Site) (node : Node) (world : World) : Prop where
  once : ((listPolicies site node world.vault).map fun summary =>
    Hex.fixed? 20 summary.address).Nodup
  complete : ∀ policy, (∃ summary ∈ listPolicies site node world.vault,
    Hex.fixed? 20 summary.address = some policy) ↔ Known node world.vault policy ∧
      node.Answers policy
  newest : (listPolicies site node world.vault).Pairwise fun earlier later =>
    deployedAt world.vault later.address ≤ deployedAt world.vault earlier.address
  privateHalf : ∀ summary ∈ listPolicies site node world.vault,
    summary.hasPrivateHalf = true ↔ ∃ clone ∈ world.clones,
      Hex.fixed? 20 summary.address = some clone.policy ∧ Kept site.viem world.vault clone

section Lists

variable {site : Site} {node : Node} {item : VaultItem} {tabs : Tabs}

theorem called_eq_ok {address : Text} {policy : Address} :
    Checked.ofOption () (callable? site address) = .ok policy ↔
      callable? site address = some policy := by
  cases callable? site address <;> simp [Checked.ofOption]

theorem readPolicy_eq_ok {address : Text} {summary : PolicySummary}
    (read : readPolicy site node item address = .ok summary) :
    summary.address = address ∧ summary.hasPrivateHalf = (Vault.getEntry address item).isSome ∧
      ∃ policy, callable? site address = some policy ∧ node.Answers policy := by
  simp only [readPolicy, Checked.bind_reaches, called_eq_ok] at read
  obtain ⟨policy, called, status, one, balance, two, commitment, three, trigger, four, made⟩ := read
  cases made
  exact ⟨rfl, rfl, policy, called, ⟨_, one⟩, ⟨_, two⟩, ⟨_, three⟩, _, four⟩

theorem readPolicy_of_answers {address : Text} {policy : Address}
    (called : callable? site address = some policy) (answers : node.Answers policy) :
    ∃ summary, readPolicy site node item address = .ok summary := by
  obtain ⟨⟨status, one⟩, ⟨balance, two⟩, ⟨commitment, three⟩, trigger, four⟩ := answers
  simp only [readPolicy, Checked.bind_reaches, called_eq_ok]
  exact ⟨_, policy, called, status, one, balance, two, commitment, three, trigger, four, rfl⟩

theorem callable?_checksumAddress (site : Site) (address : Address) :
    callable? site (site.checksumAddress address) = some address := by
  simp [callable?, fixed?_checksumAddress]

theorem mem_setOf {list : List Text} {address : Text} : address ∈ setOf list ↔ address ∈ list := by
  simp [setOf]

theorem nodup_setOf (list : List Text) : (setOf list).Nodup := by
  rw [setOf, List.nodup_reverse]
  exact List.nodup_dedup _

theorem mem_listPolicies {summary : PolicySummary} :
    summary ∈ listPolicies site node item ↔
      summary.address ∈ listedAddresses site node item ∧
        readPolicy site node item summary.address = .ok summary := by
  rw [listPolicies, List.mem_mergeSort, List.mem_filterMap]
  constructor
  · rintro ⟨address, listed, read⟩
    have read : readPolicy site node item address = .ok summary := by
      cases answer : readPolicy site node item address with
      | ok found =>
        rw [answer] at read
        cases read
        rfl
      | error error =>
        rw [answer] at read
        cases read
    obtain ⟨rfl, -⟩ := readPolicy_eq_ok read
    exact ⟨listed, read⟩
  · intro ⟨listed, read⟩
    exact ⟨summary.address, listed, by rw [read]; rfl⟩

theorem mem_logged {address : Text} : address ∈ node.logged site ↔
    ∃ policy, (∃ logs, node.getLogs = .ok logs ∧ some policy ∈ logs) ∧
      address = site.checksumAddress policy := by
  unfold Node.logged
  cases node.getLogs with
  | error error => simp
  | ok logs =>
    simp only [List.mem_filterMap, Option.map_eq_some_iff, Except.ok.injEq, exists_eq_left']
    constructor
    · rintro ⟨log, member, policy, rfl, rfl⟩
      exact ⟨policy, member, rfl⟩
    · rintro ⟨policy, member, rfl⟩
      exact ⟨_, member, policy, rfl, rfl⟩

theorem listed_spelled (sound : tabs.Sound site) {address : Text} :
    address ∈ listedAddresses site node tabs.world.vault ↔
      ∃ policy, Known node tabs.world.vault policy ∧ address = site.checksumAddress policy := by
  have held {entry : VaultEntry} (member : entry ∈ Vault.allEntries 114 tabs.world.vault) :
      ∃ policy, Hex.fixed? 20 entry.policy = some policy ∧
        entry.policy = site.checksumAddress policy := by
    have there : entry ∈ Vault.read tabs.world.vault := by
      simp only [Vault.allEntries, List.mem_mergeSort, List.mem_filter] at member
      exact member.1
    obtain ⟨clone, -, belongs⟩ := sound.vault entry there
    exact ⟨clone.policy, belongs.opens.policy, belongs.spelled⟩
  rw [listedAddresses, mem_setOf, List.mem_append, List.mem_map, mem_logged]
  constructor
  · rintro (⟨entry, member, rfl⟩ | ⟨policy, logged, rfl⟩)
    · obtain ⟨policy, spells, spelled⟩ := held member
      exact ⟨policy, .inl ⟨entry, member, spells⟩, spelled⟩
    · exact ⟨policy, .inr logged, rfl⟩
  · rintro ⟨policy, ⟨entry, member, spells⟩ | logged, rfl⟩
    · obtain ⟨known, same, spelled⟩ := held member
      obtain rfl := Option.some.inj (same.symm.trans spells)
      exact .inl ⟨entry, member, spelled⟩
    · exact .inr ⟨policy, logged, rfl⟩

theorem listed_policy (sound : tabs.Sound site) {summary : PolicySummary}
    (member : summary ∈ listPolicies site node tabs.world.vault) :
    ∃ policy, Known node tabs.world.vault policy ∧
      summary.address = site.checksumAddress policy ∧ node.Answers policy := by
  obtain ⟨listed, read⟩ := mem_listPolicies.mp member
  obtain ⟨policy, known, spelled⟩ := (listed_spelled sound).mp listed
  obtain ⟨-, -, called, calls, answers⟩ := readPolicy_eq_ok read
  rw [spelled, callable?_checksumAddress] at calls
  obtain rfl := Option.some.inj calls
  exact ⟨policy, known, spelled, answers⟩

theorem addresses_sublist (addresses : List Text) :
    ((addresses.filterMap fun address => (readPolicy site node item address).toOption).map
      PolicySummary.address).Sublist addresses := by
  induction addresses with
  | nil => exact List.Sublist.refl _
  | cons address rest ih =>
    cases read : readPolicy site node item address with
    | error error => simpa [read, Except.toOption] using ih.cons address
    | ok summary =>
      have same := (readPolicy_eq_ok read).1
      simpa [read, Except.toOption, same] using ih

theorem listed_once (sound : tabs.Sound site) :
    ((listPolicies site node tabs.world.vault).map fun summary =>
      Hex.fixed? 20 summary.address).Nodup := by
  have texts : ((listPolicies site node tabs.world.vault).map PolicySummary.address).Nodup := by
    have sorted := List.mergeSort_perm
      ((listedAddresses site node tabs.world.vault).filterMap fun address =>
        (readPolicy site node tabs.world.vault address).toOption)
      fun a b => deployedAt tabs.world.vault b.address ≤ deployedAt tabs.world.vault a.address
    apply (sorted.map PolicySummary.address).nodup_iff.mpr
    exact (nodup_setOf _).sublist (addresses_sublist _)
  have split : (listPolicies site node tabs.world.vault).map (fun summary =>
      Hex.fixed? 20 summary.address) =
      ((listPolicies site node tabs.world.vault).map PolicySummary.address).map
        (Hex.fixed? 20) := by
    rw [List.map_map]
    rfl
  rw [split]
  refine List.Nodup.map_on ?_ texts
  intro first left second right same
  obtain ⟨one, member, rfl⟩ := List.mem_map.mp left
  obtain ⟨other, member', rfl⟩ := List.mem_map.mp right
  obtain ⟨policy, -, spelled, -⟩ := listed_policy sound member
  obtain ⟨policy', -, spelled', -⟩ := listed_policy sound member'
  rw [spelled, spelled', fixed?_checksumAddress, fixed?_checksumAddress] at same
  rw [spelled, spelled', Option.some.inj same]

theorem listed_newest : (listPolicies site node item).Pairwise fun earlier later =>
    deployedAt item later.address ≤ deployedAt item earlier.address := by
  have sorted : (listPolicies site node item).Pairwise fun earlier later =>
      decide (deployedAt item later.address ≤ deployedAt item earlier.address) = true := by
    apply List.pairwise_mergeSort
    · intro a b c first second
      simp only [decide_eq_true_eq] at first second ⊢
      exact second.trans first
    · intro a b
      simp only [Bool.or_eq_true, decide_eq_true_eq]
      exact le_total _ _
  simpa using sorted

theorem private_iff (sound : tabs.Sound site) {summary : PolicySummary}
    (member : summary ∈ listPolicies site node tabs.world.vault) :
    summary.hasPrivateHalf = true ↔ ∃ clone ∈ tabs.world.clones,
      Hex.fixed? 20 summary.address = some clone.policy ∧
        Kept site.viem tabs.world.vault clone := by
  obtain ⟨policy, -, spelled, -⟩ := listed_policy sound member
  obtain ⟨-, half, -⟩ := readPolicy_eq_ok (mem_listPolicies.mp member).2
  rw [half]
  constructor
  · intro some
    obtain ⟨entry, found⟩ := Option.isSome_iff_exists.mp some
    obtain ⟨clone, there, belongs, kept⟩ := sound.loaded found
    refine ⟨clone, there, ?_, kept⟩
    rw [← fixed?_toLowerCase, ← (getEntry_mem found).2, fixed?_toLowerCase]
    exact belongs.opens.policy
  · intro ⟨clone, there, same, entry, held, opens⟩
    obtain ⟨own, -, belongs⟩ := sound.vault entry held
    have its := Option.some.inj (belongs.opens.policy.symm.trans opens.policy)
    rw [spelled, fixed?_checksumAddress] at same
    obtain rfl := Option.some.inj same
    rw [Vault.getEntry, List.find?_isSome]
    exact ⟨entry, held, by simp [belongs.spelled, its, spelled]⟩

/-- Whatever was deployed, opened and retried before, and whatever the node answers. -/
theorem listPolicies_lists (visits : List (Visit site)) (node : Node) :
    ListsAll site node (Tabs.fresh.run visits).world := by
  have sound := sound_run sound_fresh visits
  refine ⟨listed_once sound, ?_, listed_newest, fun summary member => private_iff sound member⟩
  intro policy
  constructor
  · rintro ⟨summary, member, spells⟩
    obtain ⟨own, known, spelled, answers⟩ := listed_policy sound member
    rw [spelled, fixed?_checksumAddress] at spells
    obtain rfl := Option.some.inj spells
    exact ⟨known, answers⟩
  · intro ⟨known, answers⟩
    obtain ⟨summary, read⟩ := @readPolicy_of_answers site node
      (Tabs.fresh.run visits).world.vault _ policy (callable?_checksumAddress site policy) answers
    have address := (readPolicy_eq_ok read).1
    refine ⟨summary, mem_listPolicies.mpr ⟨?_, by rwa [address]⟩, ?_⟩
    · exact (listed_spelled sound).mpr ⟨policy, known, address⟩
    · rw [address, fixed?_checksumAddress]

end Lists

end FlareStudio.Web
