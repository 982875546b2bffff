import FlareStudio.Web.SaltKept
import FlareStudio.Web.VaultHistory

set_option autoImplicit false

-- A policy's screen loads the vault's entry when it is opened and writes it back, with the
-- hand-off, when a retry succeeds. Any number of screens stay open while others deploy and
-- retry.

namespace FlareStudio.Web

open Policy Throwing

structure Screen where
  address : Text
  entry : Option VaultEntry

-- The button is there for an entry with a ciphertext that is not handed off yet.
def Screen.offers (site : Site) (screen : Screen) : Option (VaultEntry × Text) :=
  match screen.entry with
  | some entry =>
    match entry.handoff, entry.ciphertext with
    | none, some ciphertext =>
      if site.enclaveHandoffConfigured then some (entry, ciphertext) else none
    | _, _ => none
  | none => none

def sendToEnclave (site : Site) (env : Environment) (entry : VaultEntry) (ciphertext : Text) :
    Browser Unit := do
  match Hex.fixed? 20 entry.policy with
  | some policy =>
    let (instructionId, txHash) ← storePolicyOnChain site env policy ciphertext
    save env.setItem
      { entry with handoff := some ⟨instructionId, txHash, env.handedAt.val⟩ }
  | none => throw (.ofMessage (text "Address is invalid."))

structure Tabs where
  world : World
  screens : List Screen

def Tabs.fresh : Tabs := ⟨⟨.absent, []⟩, []⟩

def World.idle (world : World) : Attempt := ⟨world.vault, world.clones, [], [], [], []⟩

-- A visit is one step here. On the page it awaits the wallet and the node, and other visits may
-- come in between; the vault is read and written in one go all the same, at the save.
inductive Visit (site : Site) where
  | deploy (launch : Launch site.viem)
  | load (address : Text)
  | send (index : ℕ) (env : Environment)

-- What a screen shows after its onStored.
def Screen.reload (screen : Screen) (item : VaultItem) : Screen :=
  { screen with entry := Vault.getEntry screen.address item }

def Tabs.step {site : Site} (tabs : Tabs) : Visit site → Tabs
  | .deploy launch => { tabs with world := (launch.attempt tabs.world).world }
  | .load address =>
    { tabs with screens := tabs.screens ++ [⟨address, Vault.getEntry address tabs.world.vault⟩] }
  | .send index env =>
    match tabs.screens[index]? with
    | some screen =>
      match screen.offers site with
      | some (entry, ciphertext) =>
        match (sendToEnclave site env entry ciphertext).run tabs.world.idle with
        | .ok _ final =>
          { world := final.world
            screens := tabs.screens.set index (screen.reload final.vault) }
        | .error _ final => { tabs with world := final.world }
      | none => tabs
    | none => tabs

def Tabs.run {site : Site} (tabs : Tabs) (visits : List (Visit site)) : Tabs :=
  visits.foldl Tabs.step tabs

structure Belongs (site : Site) (entry : VaultEntry) (clone : Clone) : Prop where
  opens : Opens site.viem entry clone
  spelled : entry.policy = site.checksumAddress clone.policy

structure Tabs.Sound (site : Site) (tabs : Tabs) : Prop where
  distinct : (tabs.world.clones.map Clone.policy).Nodup
  vault : ∀ entry ∈ Vault.read tabs.world.vault, ∃ clone ∈ tabs.world.clones,
    Belongs site entry clone
  screens : ∀ screen ∈ tabs.screens, ∀ entry ∈ screen.entry, ∃ clone ∈ tabs.world.clones,
    Belongs site entry clone ∧ Kept site.viem tabs.world.vault clone

section Steps

variable {site : Site} {tabs : Tabs}

theorem Tabs.Sound.tracked (sound : tabs.Sound site) : Tracked tabs.world := by
  intro entry member
  obtain ⟨clone, there, belongs⟩ := sound.vault entry member
  exact ⟨clone, there, belongs.opens.policy⟩

theorem sound_fresh : Tabs.fresh.Sound site :=
  ⟨List.nodup_nil, nofun, nofun⟩

theorem getEntry_mem {address : Text} {item : VaultItem} {entry : VaultEntry}
    (found : Vault.getEntry address item = some entry) :
    entry ∈ Vault.read item ∧ toLowerCase entry.policy = toLowerCase address :=
  ⟨List.mem_of_find?_eq_some found, by simpa using List.find?_some found⟩

theorem Tabs.Sound.loaded (sound : tabs.Sound site) {address : Text} {entry : VaultEntry}
    (found : Vault.getEntry address tabs.world.vault = some entry) :
    ∃ clone ∈ tabs.world.clones, Belongs site entry clone ∧
      Kept site.viem tabs.world.vault clone := by
  have member := (getEntry_mem found).1
  obtain ⟨clone, there, belongs⟩ := sound.vault entry member
  exact ⟨clone, there, belongs, entry, member, belongs.opens⟩

theorem sound_load (sound : tabs.Sound site) (address : Text) :
    (tabs.step (.load address : Visit site)).Sound site := by
  refine ⟨sound.distinct, sound.vault, ?_⟩
  intro screen member entry shown
  rcases List.mem_append.mp member with old | new
  · exact sound.screens screen old entry shown
  · rw [List.mem_singleton.mp new] at shown
    exact sound.loaded shown

inductive Deployed (site : Site) (world after : World) : Prop
  | nothing (same : after = world)
  | unsaved (clone : Clone) (fresh : clone.policy ∉ world.clones.map Clone.policy)
      (clones : after.clones = world.clones ++ [clone]) (vault : after.vault = world.vault)
  | saved (clone : Clone) (fresh : clone.policy ∉ world.clones.map Clone.policy)
      (clones : after.clones = world.clones ++ [clone]) (entry : VaultEntry)
      (belongs : Belongs site entry clone) (vault : after.vault = Vault.saved entry world.vault)

theorem deployed_attempt (launch : Launch site.viem) (world : World) :
    Deployed site world (launch.attempt world).world := by
  rcases attempted launch world with ⟨alike, -⟩ | ⟨arguments, starts, leads⟩
  · apply Deployed.nothing
    simp [Attempt.world, alike.vault, alike.clones, World.begin]
  · by_cases creates : launch.env.Creates world.clones
    · have clones : (launch.attempt world).world.clones =
          world.clones ++ [⟨launch.env.clone, arguments⟩] := by
        rw [Attempt.world, leads.clones, if_pos creates]
      have fresh := creates_fresh creates
      by_cases persists : Persists launch.options launch.env world.clones
      · obtain ⟨entry, policy, salt, privateConfig, vault⟩ := leads.records.kept persists
        have opens := opens_entry starts policy salt privateConfig
        exact .saved _ fresh clones entry ⟨opens, policy⟩ vault
      · exact .unsaved _ fresh clones (leads.records.lost persists)
    · have same := leads.records.lost fun persists => creates persists.creates
      apply Deployed.nothing
      simp [Attempt.world, leads.clones, if_neg creates, same]

theorem Deployed.more {world after : World} (deployed : Deployed site world after) :
    ∀ clone ∈ world.clones, clone ∈ after.clones := by
  intro clone member
  cases deployed with
  | nothing same => rwa [same]
  | unsaved other fresh clones vault => simp [clones, member]
  | saved other fresh clones entry belongs vault => simp [clones, member]

theorem Deployed.kept_iff {world after : World} (deployed : Deployed site world after)
    {clone : Clone} (there : clone ∈ world.clones) :
    Kept site.viem after.vault clone ↔ Kept site.viem world.vault clone := by
  cases deployed with
  | nothing same => rw [same]
  | unsaved other fresh clones vault => rw [vault]
  | saved other fresh clones entry belongs vault =>
    rw [vault]
    apply kept_saved belongs.spelled
    intro same
    exact fresh (same ▸ List.mem_map_of_mem there)

theorem distinct_more {clones : List Clone} {clone : Clone}
    (distinct : (clones.map Clone.policy).Nodup) (fresh : clone.policy ∉ clones.map Clone.policy) :
    ((clones ++ [clone]).map Clone.policy).Nodup := by
  rw [List.map_append, List.map_singleton, List.nodup_append_comm, List.singleton_append,
    List.nodup_cons]
  exact ⟨fresh, distinct⟩

theorem sound_deploy (sound : tabs.Sound site) (launch : Launch site.viem) :
    (tabs.step (.deploy launch)).Sound site := by
  have deployed := deployed_attempt launch tabs.world
  rw [Tabs.step]
  generalize (launch.attempt tabs.world).world = after at deployed ⊢
  have screens : ∀ screen ∈ tabs.screens, ∀ entry ∈ screen.entry, ∃ clone ∈ after.clones,
      Belongs site entry clone ∧ Kept site.viem after.vault clone := by
    intro screen member entry shown
    obtain ⟨clone, there, belongs, kept⟩ := sound.screens screen member entry shown
    exact ⟨clone, deployed.more clone there, belongs, (deployed.kept_iff there).mpr kept⟩
  have held : ∀ entry ∈ Vault.read tabs.world.vault, ∃ clone ∈ after.clones,
      Belongs site entry clone := by
    intro entry member
    obtain ⟨clone, there, belongs⟩ := sound.vault entry member
    exact ⟨clone, deployed.more clone there, belongs⟩
  cases deployed with
  | nothing same =>
    subst same
    exact sound
  | unsaved clone fresh clones vault =>
    refine ⟨?_, by rwa [vault], screens⟩
    rw [clones]
    exact distinct_more sound.distinct fresh
  | saved clone fresh clones entry belongs vault =>
    refine ⟨?_, ?_, screens⟩
    · rw [clones]
      exact distinct_more sound.distinct fresh
    · intro found member
      rw [vault] at member
      rcases Vault.mem_read_saved.mp member with ⟨old, -⟩ | rfl
      · exact held found old
      · exact ⟨clone, by simp [clones], belongs⟩

inductive Retried (entry : VaultEntry) (world after : World) : Prop
  | nothing (same : after = world)
  | saved (handed : VaultEntry) (same : SameKeys entry handed)
      (clones : after.clones = world.clones)
      (vault : after.vault = Vault.saved handed world.vault)

theorem sendToEnclave_leaves (site : Site) (env : Environment) (entry : VaultEntry)
    (ciphertext : Text) (world : World) :
    Leaves (sendToEnclave site env entry ciphertext) world.idle
      fun final => Retried entry world final.world := by
  have nothing {final : Attempt} (quiet : Quiet world.idle final) :
      Retried entry world final.world := by
    apply Retried.nothing
    simp [Attempt.world, quiet.vault, quiet.continues.clones, World.idle]
  unfold sendToEnclave Leaves
  cases Hex.fixed? 20 entry.policy with
  | none => exact nothing (Alike.refl world.idle).quiet
  | some policy =>
    simp only [ends_bind]
    apply (storePolicyOnChain_leaves site env policy ciphertext).mono
    · rintro ⟨instructionId, txHash⟩ sent quiet
      apply (save_ends env.setItem _).mono
      · rintro _ final ⟨-, rfl⟩
        let handed := { entry with handoff := some ⟨instructionId, txHash, env.handedAt.val⟩ }
        refine .saved handed ⟨rfl, rfl, rfl⟩ quiet.continues.clones ?_
        simp only [Attempt.world]
        rw [quiet.vault]
        rfl
      · rintro error final ⟨-, rfl⟩
        exact nothing quiet
    · intro error final quiet
      exact nothing quiet

inductive Pressed (site : Site) (tabs after : Tabs) : Prop
  | nothing (same : after = tabs)
  | retried (screen : Screen) (member : screen ∈ tabs.screens) (entry : VaultEntry)
      (shown : screen.entry = some entry) (retried : Retried entry tabs.world after.world)
      (screens : ∀ other ∈ after.screens, other ∈ tabs.screens ∨
        other.entry = Vault.getEntry other.address after.world.vault)

theorem offers_entry {screen : Screen} {entry : VaultEntry} {ciphertext : Text}
    (offered : screen.offers site = some (entry, ciphertext)) : screen.entry = some entry := by
  unfold Screen.offers at offered
  split at offered
  next shown same =>
    split at offered
    next =>
      split_ifs at offered
      cases offered
      exact same
    next => cases offered
  next => cases offered

theorem pressed_send (tabs : Tabs) (index : ℕ) (env : Environment) :
    Pressed site tabs (tabs.step (.send index env : Visit site)) := by
  rw [Tabs.step]
  split
  next screen found =>
    split
    next entry ciphertext offered =>
      have leaves := sendToEnclave_leaves site env entry ciphertext tabs.world
      unfold Leaves Ends at leaves
      have member := List.mem_of_getElem? found
      have shown := offers_entry offered
      split
      next final ran =>
        rw [ran] at leaves
        refine .retried screen member entry shown leaves ?_
        intro other inside
        rcases List.mem_or_eq_of_mem_set inside with old | rfl
        · exact .inl old
        · exact .inr rfl
      next final ran =>
        rw [ran] at leaves
        exact .retried screen member entry shown leaves fun other inside => .inl inside
    next => exact .nothing rfl
  next => exact .nothing rfl

theorem Belongs.handed {entry handed : VaultEntry} {clone : Clone}
    (belongs : Belongs site entry clone) (same : SameKeys entry handed) :
    Belongs site handed clone := by
  refine ⟨⟨?_, ?_⟩, same.policy.trans belongs.spelled⟩
  · rw [same.policy]
    exact belongs.opens.policy
  · rw [same.privateConfig, same.salt]
    exact belongs.opens.commitment

theorem Tabs.Sound.clone_eq (sound : tabs.Sound site) {first second : Clone}
    (left : first ∈ tabs.world.clones) (right : second ∈ tabs.world.clones)
    (same : first.policy = second.policy) : first = second :=
  List.inj_on_of_nodup_map sound.distinct left right same

theorem Retried.kept_iff (sound : tabs.Sound site) {screen : Screen}
    (member : screen ∈ tabs.screens) {entry : VaultEntry} (shown : screen.entry = some entry)
    {after : World} (retried : Retried entry tabs.world after) {clone : Clone}
    (there : clone ∈ tabs.world.clones) :
    Kept site.viem after.vault clone ↔ Kept site.viem tabs.world.vault clone := by
  cases retried with
  | nothing same => rw [same]
  | saved handed same clones vault =>
    obtain ⟨own, known, belongs, kept⟩ := sound.screens screen member entry shown
    have written := belongs.handed same
    rw [vault]
    by_cases its : clone.policy = own.policy
    · obtain rfl := sound.clone_eq there known its
      refine iff_of_true ⟨handed, Vault.mem_read_saved.mpr (.inr rfl), written.opens⟩ kept
    · exact kept_saved written.spelled its

theorem Retried.vault_belongs (sound : tabs.Sound site) {screen : Screen}
    (member : screen ∈ tabs.screens) {entry : VaultEntry} (shown : screen.entry = some entry)
    {after : World} (retried : Retried entry tabs.world after) :
    after.clones = tabs.world.clones ∧
      ∀ entry ∈ Vault.read after.vault, ∃ clone ∈ after.clones, Belongs site entry clone := by
  cases retried with
  | nothing same =>
    rw [same]
    exact ⟨rfl, sound.vault⟩
  | saved handed same clones vault =>
    obtain ⟨own, known, belongs, -⟩ := sound.screens screen member entry shown
    refine ⟨clones, ?_⟩
    intro found inside
    rw [vault] at inside
    rw [clones]
    rcases Vault.mem_read_saved.mp inside with ⟨old, -⟩ | rfl
    · exact sound.vault found old
    · exact ⟨own, known, belongs.handed same⟩

theorem sound_send (sound : tabs.Sound site) (index : ℕ) (env : Environment) :
    (tabs.step (.send index env : Visit site)).Sound site := by
  rcases pressed_send tabs index env with same | ⟨screen, member, entry, shown, retried, screens⟩
  · rwa [same]
  · generalize tabs.step (.send index env : Visit site) = after at retried screens ⊢
    obtain ⟨clones, vault⟩ := retried.vault_belongs sound member shown
    refine ⟨by rw [clones]; exact sound.distinct, vault, ?_⟩
    intro other inside found loaded
    rcases screens other inside with old | new
    · obtain ⟨clone, there, belongs, kept⟩ := sound.screens other old found loaded
      refine ⟨clone, by rwa [clones], belongs, ?_⟩
      exact (retried.kept_iff sound member shown there).mpr kept
    · have held := (getEntry_mem (new.symm.trans loaded)).1
      obtain ⟨clone, there, belongs⟩ := vault found held
      exact ⟨clone, there, belongs, found, held, belongs.opens⟩

theorem sound_step (sound : tabs.Sound site) (visit : Visit site) :
    (tabs.step visit).Sound site := by
  cases visit with
  | deploy launch => exact sound_deploy sound launch
  | load address => exact sound_load sound address
  | send index env => exact sound_send sound index env

theorem sound_run (sound : tabs.Sound site) (visits : List (Visit site)) :
    (tabs.run visits).Sound site := by
  induction visits generalizing tabs with
  | nil => exact sound
  | cons visit rest ih => exact ih (sound_step sound visit)

/-- The deploy flow that the visit runs, if it is one, saves the entry of what it creates. -/
def Visit.Secures (visit : Visit site) (tabs : Tabs) : Prop :=
  match visit with
  | .deploy launch => FlareStudio.Web.Secures launch tabs.world
  | _ => True

def Tabs.Secured : Tabs → List (Visit site) → Prop
  | _, [] => True
  | tabs, visit :: rest => visit.Secures tabs ∧ (tabs.step visit).Secured rest

theorem intact_step (sound : tabs.Sound site) (visit : Visit site) :
    Intact site.viem (tabs.step visit).world ↔
      Intact site.viem tabs.world ∧ visit.Secures tabs := by
  cases visit with
  | deploy launch => exact intact_attempt sound.tracked
  | load address => exact (and_iff_left trivial).symm
  | send index env =>
    rcases pressed_send tabs index env with same | ⟨screen, member, entry, shown, retried, -⟩
    · rw [same]
      exact (and_iff_left trivial).symm
    · have clones := (retried.vault_belongs sound member shown).1
      simp only [Visit.Secures, and_true, Intact, clones]
      exact forall₂_congr fun clone there => retried.kept_iff sound member shown there

theorem intact_run (sound : tabs.Sound site) (visits : List (Visit site)) :
    Intact site.viem (tabs.run visits).world ↔
      Intact site.viem tabs.world ∧ tabs.Secured visits := by
  induction visits generalizing tabs with
  | nil => simp [Tabs.run, Tabs.Secured]
  | cons visit rest ih =>
    have later := ih (sound_step sound visit)
    rw [Tabs.Secured, ← and_assoc, ← intact_step sound]
    exact later

/-- However deploys, screens and retries follow each other, what opens each policy of this browser is in
the vault exactly if every deploy that creates one gets as far as its save. -/
theorem screens_keep_salts (visits : List (Visit site)) :
    Intact site.viem (Tabs.fresh.run visits).world ↔ Tabs.fresh.Secured visits := by
  rw [intact_run sound_fresh]
  exact and_iff_right nofun

end Steps

end FlareStudio.Web
