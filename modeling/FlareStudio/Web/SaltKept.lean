import FlareStudio.Web.DeployOutcome

set_option autoImplicit false

namespace FlareStudio.Web

open Policy Throwing

structure Opens (viem : Viem) (entry : VaultEntry) (clone : Clone) : Prop where
  policy : Hex.fixed? 20 entry.policy = some clone.policy
  commitment : computeCommitment viem (shareCommitmentSet entry.privateConfig) entry.salt =
    .ok clone.arguments.commitment

def Kept (viem : Viem) (item : VaultItem) (clone : Clone) : Prop :=
  ∃ entry ∈ Vault.read item, Opens viem entry clone

def Intact (viem : Viem) (world : World) : Prop :=
  ∀ clone ∈ world.clones, Kept viem world.vault clone

-- The vault knows of no policy that is not there.
def Tracked (world : World) : Prop :=
  ∀ entry ∈ Vault.read world.vault, ∃ clone ∈ world.clones,
    Hex.fixed? 20 entry.policy = some clone.policy

/-- If the run's policy is created, so is its entry. -/
def Secures {site : Site} (launch : Launch site.viem) (world : World) : Prop :=
  ∀ arguments, Starts launch.options launch.env arguments → launch.env.Creates world.clones →
    Persists launch.options launch.env world.clones

def AllSecure {site : Site} : List (Launch site.viem) → World → Prop
  | [], _ => True
  | launch :: rest, world => Secures launch world ∧ AllSecure rest (launch.attempt world).world

section Runs

variable {site : Site} {launch : Launch site.viem} {world : World}

theorem fixed?_checksumAddress (site : Site) (address : Address) :
    Hex.fixed? 20 (site.checksumAddress address) = some address := by
  rw [← fixed?_toLowerCase, site.checksumAddress_lower, Hex.fixed?_prefixed]

-- A clone that is there already is kept after the run if and only if it was before.
theorem kept_saved {entry : VaultEntry} {item : VaultItem} {clone : Clone} {address : Address}
    (policy : entry.policy = site.checksumAddress address) (other : clone.policy ≠ address) :
    Kept site.viem (Vault.saved entry item) clone ↔ Kept site.viem item clone := by
  have spelled : Hex.fixed? 20 entry.policy = some address := by
    rw [policy, fixed?_checksumAddress]
  constructor
  · intro ⟨found, member, opens⟩
    rcases Vault.mem_read_saved.mp member with ⟨earlier, -⟩ | rfl
    · exact ⟨found, earlier, opens⟩
    · exact absurd (Option.some.inj (opens.policy.symm.trans spelled)) other
  · intro ⟨found, member, opens⟩
    refine ⟨found, Vault.mem_read_saved.mpr (.inl ⟨member, fun same => other ?_⟩), opens⟩
    have reads : Hex.fixed? 20 found.policy = Hex.fixed? 20 entry.policy := by
      rw [← fixed?_toLowerCase, same, fixed?_toLowerCase]
    rw [opens.policy, spelled] at reads
    exact Option.some.inj reads

theorem opens_entry {options : DeployOptions site.viem} {env : Environment}
    {arguments : FactoryArguments} (starts : Starts options env arguments) {entry : VaultEntry}
    (policy : entry.policy = site.checksumAddress env.clone) (salt : entry.salt = options.salt)
    (privateConfig : entry.privateConfig = options.compiled.privateConfig) :
    Opens site.viem entry ⟨env.clone, arguments⟩ := by
  obtain ⟨input, accepted⟩ := options.accepted
  obtain ⟨ir, -, -, compiles⟩ := compile_compiles accepted
  have called := starts.called
  simp only [factoryCall, Checked.bind_reaches, Except.ok.injEq] at called
  obtain ⟨trigger, -, rfl⟩ := called
  constructor
  · rw [policy, fixed?_checksumAddress]
  · rw [salt, privateConfig]
    exact compiles.commitment

theorem not_kept_fresh (tracked : Tracked world) {clone : Clone}
    (fresh : clone.policy ∉ world.clones.map Clone.policy) :
    ¬ Kept site.viem world.vault clone := by
  intro ⟨entry, member, opens⟩
  obtain ⟨earlier, there, spelled⟩ := tracked entry member
  have same := Option.some.inj (opens.policy.symm.trans spelled)
  exact fresh (List.mem_map.mpr ⟨earlier, there, same.symm⟩)

theorem tracked_attempt (tracked : Tracked world) : Tracked (launch.attempt world).world := by
  rcases attempted launch world with ⟨alike, -⟩ | ⟨arguments, starts, leads⟩
  · intro entry member
    simp only [Attempt.world, alike.vault, alike.clones] at member ⊢
    exact tracked entry member
  · intro entry member
    simp only [Attempt.world, leads.clones] at member ⊢
    have before (old : entry ∈ Vault.read world.vault) : ∃ clone ∈ world.clones ++
        if launch.env.Creates world.clones then [⟨launch.env.clone, arguments⟩] else [],
          Hex.fixed? 20 entry.policy = some clone.policy := by
      obtain ⟨clone, there, spelled⟩ := tracked entry old
      exact ⟨clone, List.mem_append_left _ there, spelled⟩
    by_cases persists : Persists launch.options launch.env world.clones
    · obtain ⟨found, policy, -, -, vault⟩ := leads.records.kept persists
      rw [vault] at member
      rcases Vault.mem_read_saved.mp member with ⟨old, -⟩ | rfl
      · exact before old
      · refine ⟨⟨launch.env.clone, arguments⟩, ?_, ?_⟩
        · rw [if_pos persists.creates]
          simp
        · rw [policy, fixed?_checksumAddress]
    · rw [leads.records.lost persists] at member
      exact before member

theorem intact_attempt (tracked : Tracked world) :
    Intact site.viem (launch.attempt world).world ↔
      Intact site.viem world ∧ Secures launch world := by
  rcases attempted launch world with ⟨alike, never⟩ | ⟨arguments, starts, leads⟩
  · have secures : Secures launch world := fun arguments starts => absurd starts (never arguments)
    simp only [Intact, Attempt.world, alike.vault, alike.clones, secures, and_true]
    rfl
  · by_cases creates : launch.env.Creates world.clones
    · have fresh := creates_fresh creates
      simp only [Intact, Attempt.world, leads.clones, if_pos creates, List.forall_mem_append,
        List.forall_mem_singleton]
      by_cases persists : Persists launch.options launch.env world.clones
      · have secures : Secures launch world := fun _ _ _ => persists
        obtain ⟨entry, policy, salt, privateConfig, vault⟩ := leads.records.kept persists
        have new : Kept site.viem (Vault.saved entry world.vault) ⟨launch.env.clone, arguments⟩ :=
          ⟨entry, Vault.mem_read_saved.mpr (.inr rfl),
            opens_entry starts policy salt privateConfig⟩
        rw [vault, and_iff_left new, and_iff_left secures]
        apply forall₂_congr
        intro clone member
        exact kept_saved policy fun same => fresh (List.mem_map.mpr ⟨clone, member, same⟩)
      · rw [leads.records.lost persists]
        have lost : ¬ Kept site.viem world.vault ⟨launch.env.clone, arguments⟩ :=
          not_kept_fresh tracked fresh
        have insecure : ¬ Secures launch world := fun secures =>
          persists (secures arguments starts creates)
        simp [lost, insecure]
    · have secures : Secures launch world := fun _ _ made => absurd made creates
      have same := leads.records.lost fun persists => creates persists.creates
      simp only [Intact, Attempt.world, leads.clones, if_neg creates, List.append_nil, same,
        secures, and_true]

theorem intact_session {launches : List (Launch site.viem)} (tracked : Tracked world) :
    Intact site.viem (session launches world) ↔
      Intact site.viem world ∧ AllSecure launches world := by
  induction launches generalizing world with
  | nil => simp [session, AllSecure]
  | cons launch rest ih =>
    rw [session, ih (tracked_attempt tracked), intact_attempt tracked, AllSecure, and_assoc]

/-- Every salt is kept exactly if every run that creates a policy gets as far as its save. -/
theorem salt_kept_iff (launches : List (Launch site.viem)) (start : World)
    (tracked : Tracked start) (intact : Intact site.viem start) :
    Intact site.viem (session launches start) ↔ AllSecure launches start := by
  rw [intact_session tracked, and_iff_right intact]

end Runs

section Samples

variable {compiled : CompiledPolicy}

def familyClone : Clone := ⟨.replicate 20 0x44, sampleArguments⟩

theorem family_leads
    (accepted : compile .lowercase (policyInput [familyInput]) sampleSalt = .ok compiled)
    (called : factoryCall sampleAddresses compiled = .ok sampleArguments)
    (configure approve : Submission) :
    Leads (familyLaunch accepted configure approve).options
      (familyLaunch accepted configure approve).env emptyWorld sampleArguments
      ((familyLaunch accepted configure approve).attempt emptyWorld) := by
  have starts : Starts (familyLaunch accepted configure approve).options
    (familyLaunch accepted configure approve).env sampleArguments := ⟨rfl, called⟩
  exact starts.leads emptyWorld

-- The approval is rejected, after the entry is in the vault.
theorem unapproved_kept :
    ∃ launch : Launch sampleSite.viem,
      (session [launch] emptyWorld).clones = [familyClone] ∧
      Intact sampleSite.viem (session [launch] emptyWorld) := by
  obtain ⟨compiled, accepted, -, trigger, called⟩ := family_called
  refine ⟨familyLaunch accepted successful rejected, ?_, ?_⟩
  · exact (family_leads accepted called successful rejected).clones
  · apply (salt_kept_iff _ _ (by simp [Tracked, emptyWorld, Vault.read])
      (by simp [Intact, emptyWorld])).mpr
    have request : ∃ request, configureRequest .lowercase ⟨1700000000000, by decide⟩
        compiled.ir.val.trigger ConfidentialPolicy.ownerAccount (.replicate 20 0x44) =
          .ok request := by
      rw [trigger]
      exact ⟨_, rfl⟩
    refine ⟨fun arguments _ _ => ?_, trivial⟩
    exact ⟨⟨rfl, successful_confirmed⟩, ⟨request, successful_confirmed⟩, rfl⟩

-- The user rejects the second transaction, and the first one's clone cannot be opened any more.
theorem rejected_unkept :
    ∃ launch : Launch sampleSite.viem,
      (session [launch] emptyWorld).clones = [familyClone] ∧
      (session [launch] emptyWorld).vault = .absent ∧
      ¬ Intact sampleSite.viem (session [launch] emptyWorld) := by
  obtain ⟨compiled, accepted, -, -, called⟩ := family_called
  have leads := family_leads accepted called rejected successful
  have clones : (session [familyLaunch accepted rejected successful] emptyWorld).clones =
    [familyClone] := leads.clones
  have vault : (session [familyLaunch accepted rejected successful] emptyWorld).vault = .absent :=
    leads.records.lost fun persists => rejected_unconfirmed persists.trigger.confirmed
  refine ⟨familyLaunch accepted rejected successful, clones, vault, fun intact => ?_⟩
  obtain ⟨entry, member, -⟩ := intact familyClone (by simp [clones])
  rw [vault] at member
  cases member

end Samples

end FlareStudio.Web
