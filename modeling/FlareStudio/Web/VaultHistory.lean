import FlareStudio.Shared.Keyed
import FlareStudio.Web.Vault

set_option autoImplicit false

-- The readers of the vault after any saves. An entry is read by its chain and its policy, and
-- replaced by its policy alone.

namespace FlareStudio.Web.Vault

open Policy

def allEntries (chainId : Nat) (item : VaultItem) : List VaultEntry :=
  ((read item).filter fun entry => entry.chainId = chainId).mergeSort
    fun a b => b.deployedAt ≤ a.deployedAt

def getEntry (policy : Text) (item : VaultItem) : Option VaultEntry :=
  (read item).find? fun entry => toLowerCase entry.policy = toLowerCase policy

def policyKey (entry : VaultEntry) : Text := toLowerCase entry.policy

/-- What saveEntry writes: no two entries for one policy. -/
def WellFormed (item : VaultItem) : Prop := Keyed.Distinct policyKey (read item)

-- One call, and whether localStorage takes the item it writes.
structure Save where
  setItem : Except Unit Unit
  entry : VaultEntry

def Save.run (save : Save) (item : VaultItem) : VaultItem :=
  match saveEntry save.setItem save.entry item with
  | .ok written => written
  | .error _ => item

def runSaves (saves : List Save) (item : VaultItem) : VaultItem :=
  saves.foldl (fun item save => save.run item) item

def Save.taken (save : Save) : List VaultEntry :=
  match save.setItem with
  | .ok _ => [save.entry]
  | .error _ => []

-- Every entry ever saved, those that were there at the start first.
def history (saves : List Save) (item : VaultItem) : List VaultEntry :=
  read item ++ saves.flatMap Save.taken

def lastSaved (chainId : Nat) (policy : Text) (saved : List VaultEntry) : Option VaultEntry :=
  saved.reverse.find? fun entry =>
    (entry.chainId, toLowerCase entry.policy) = (chainId, toLowerCase policy)

/-- The last entry for every chain and policy is listed for the chain once, the lists are in
order, and every policy is found in any letter case. -/
structure LosesNothing (saved : List VaultEntry) (item : VaultItem) : Prop where
  kept : ∀ chainId policy entry, lastSaved chainId policy saved = some entry →
    entry ∈ read item ∧ (allEntries chainId item).filter
      (fun found => toLowerCase found.policy = toLowerCase policy) = [entry]
  sorted : ∀ chainId, (allEntries chainId item).Pairwise
    fun earlier later => later.deployedAt ≤ earlier.deployedAt
  found : ∀ entry ∈ saved, ∀ policy, toLowerCase policy = toLowerCase entry.policy →
    ∃ held, getEntry policy item = some held ∧ toLowerCase held.policy = toLowerCase policy

def OneChain (saved : List VaultEntry) : Prop :=
  ∀ first ∈ saved, ∀ second ∈ saved,
    toLowerCase first.policy = toLowerCase second.policy → first.chainId = second.chainId

instance (saved : List VaultEntry) : Decidable (OneChain saved) :=
  inferInstanceAs (Decidable (∀ first ∈ saved, ∀ second ∈ saved,
    toLowerCase first.policy = toLowerCase second.policy → first.chainId = second.chainId))

section Saves

variable {item : VaultItem} {saved : List VaultEntry}

theorem represents_run (represents : Keyed.Represents policyKey saved (read item)) (save : Save) :
    Keyed.Represents policyKey (saved ++ save.taken) (read (save.run item)) := by
  obtain ⟨setItem, entry⟩ := save
  cases setItem with
  | ok taken => exact represents.put entry
  | error error => simpa [Save.taken, Save.run, saveEntry_eq, Except.map] using represents

theorem represents_runSaves (saves : List Save)
    (represents : Keyed.Represents policyKey saved (read item)) :
    Keyed.Represents policyKey (saved ++ saves.flatMap Save.taken)
      (read (runSaves saves item)) := by
  induction saves generalizing item saved with
  | nil => simpa [runSaves] using represents
  | cons save rest ih =>
    rw [List.flatMap_cons, ← List.append_assoc]
    exact ih (represents_run represents save)

theorem represents_history (formed : WellFormed item) (saves : List Save) :
    Keyed.Represents policyKey (history saves item) (read (runSaves saves item)) :=
  represents_runSaves saves (Keyed.represents_self formed)

theorem sorted_allEntries (chainId : Nat) (item : VaultItem) :
    (allEntries chainId item).Pairwise
      fun earlier later => later.deployedAt ≤ earlier.deployedAt := by
  have sorted : (allEntries chainId item).Pairwise
      fun earlier later => decide (later.deployedAt ≤ earlier.deployedAt) = true := by
    apply List.pairwise_mergeSort
    · intro a b c first second
      simp only [decide_eq_true_eq] at first second ⊢
      exact second.trans first
    · intro a b
      simp only [Bool.or_eq_true, decide_eq_true_eq]
      exact le_total _ _
  simpa using sorted

theorem filter_allEntries (represents : Keyed.Represents policyKey saved (read item))
    (chainId : Nat) (policy : Text) (entry : VaultEntry) :
    (allEntries chainId item).filter
        (fun found => toLowerCase found.policy = toLowerCase policy) = [entry] ↔
      Keyed.latest policyKey (toLowerCase policy) saved = some entry ∧
        entry.chainId = chainId := by
  have perm : ((allEntries chainId item).filter
      fun found => toLowerCase found.policy = toLowerCase policy).Perm
      ((Keyed.latest policyKey (toLowerCase policy) saved).toList.filter
        fun found => found.chainId = chainId) := by
    rw [← represents, Keyed.withKey, List.filter_filter]
    refine ((List.mergeSort_perm _ _).filter _).trans ?_
    rw [List.filter_filter]
    exact .of_eq (List.filter_congr fun found _ => Bool.and_comm _ _)
  constructor
  · intro listed
    rw [listed, List.singleton_perm] at perm
    have inside : entry ∈ (Keyed.latest policyKey (toLowerCase policy) saved).toList.filter
        fun found => found.chainId = chainId := by
      rw [← perm]
      exact List.mem_singleton_self entry
    simpa using inside
  · rintro ⟨latest, chain⟩
    rw [latest, Option.toList_some, List.filter_singleton, chain] at perm
    simpa using perm

theorem getEntry_eq (represents : Keyed.Represents policyKey saved (read item)) (policy : Text) :
    getEntry policy item = Keyed.latest policyKey (toLowerCase policy) saved :=
  represents.find (toLowerCase policy)

end Saves

theorem loses_nothing_iff {item : VaultItem} (formed : WellFormed item) (saves : List Save) :
    LosesNothing (history saves item) (runSaves saves item) ↔
      OneChain (history saves item) := by
  have represents := represents_history formed saves
  refine Iff.trans ?_
    (@Keyed.latest_finer_iff _ _ _ _ _ policyKey VaultEntry.chainId (history saves item))
  constructor
  · intro loses chainId key entry latest
    have keyed : policyKey entry = key := congrArg Prod.snd (Keyed.key_of_latest latest)
    rw [← keyed] at latest ⊢
    exact represents.mem.mp (loses.kept chainId entry.policy entry latest).1
  · intro refines
    refine ⟨?kept, fun chainId => sorted_allEntries chainId _, ?found⟩
    case kept =>
      intro chainId policy entry last
      have latest := refines chainId (toLowerCase policy) entry last
      have known := Keyed.key_of_latest last
      have chain : entry.chainId = chainId := congrArg Prod.fst known
      have keyed : policyKey entry = toLowerCase policy := congrArg Prod.snd known
      constructor
      · rw [represents.mem, keyed]
        exact latest
      · rw [filter_allEntries represents]
        exact ⟨latest, chain⟩
    case found =>
      intro entry inside policy same
      obtain ⟨held, latest⟩ := @Keyed.exists_latest _ _ _ policyKey _ _ inside
      have key := Keyed.key_of_latest latest
      refine ⟨held, ?_, key.trans same.symm⟩
      rw [getEntry_eq represents, same]
      exact latest

def sampleEntry (policy : String) (chainId deployedAt : Nat) : VaultEntry where
  policy := text policy
  chainId := chainId
  name := text "Estate"
  templateId := text "inheritance"
  assetSymbol := text "FTestXRP"
  salt := text "0x01"
  privateConfig := ⟨text "Estate", []⟩
  ciphertext := none
  handoff := none
  triggerKind := text "timestamp"
  triggerAddress := .replicate 20 0x0e
  deployTx := .replicate 32 0
  deployedAt := deployedAt

def firstSave : Save := ⟨.ok (), sampleEntry "0x0a" 114 1⟩

theorem one_chain_loses_nothing :
    LosesNothing (history [firstSave] .absent) (runSaves [firstSave] .absent) :=
  have formed : WellFormed .absent := .nil
  (loses_nothing_iff formed [firstSave]).mpr (by decide +kernel)

-- The address of the first save on another chain.
def secondSave : Save := ⟨.ok (), sampleEntry "0x0A" 14 2⟩

theorem two_chains_lose_the_first :
    ¬ LosesNothing (history [firstSave, secondSave] .absent)
      (runSaves [firstSave, secondSave] .absent) := by
  intro loses
  have last : lastSaved 114 (text "0x0a") (history [firstSave, secondSave] .absent) =
      some firstSave.entry := by decide +kernel
  have inside := (loses.kept 114 _ _ last).1
  have gone : firstSave.entry ∉ read (runSaves [firstSave, secondSave] .absent) := by
    decide +kernel
  exact gone inside

end FlareStudio.Web.Vault
