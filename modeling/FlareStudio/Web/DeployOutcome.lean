import FlareStudio.Web.DeployPolicy

set_option autoImplicit false

namespace FlareStudio.Web

open Policy Throwing

section Steps

variable {before after final : Attempt}

/-- The reports apart. -/
structure Alike (before after : Attempt) : Prop where
  vault : after.vault = before.vault
  clones : after.clones = before.clones
  submitted : after.submitted = before.submitted
  completed : after.completed = before.completed

theorem alike_updated (id : DeployStepId) (patch : DeployStep → DeployStep) (attempt : Attempt) :
    Alike attempt (attempt.updated id patch) := ⟨rfl, rfl, rfl, rfl⟩

theorem Alike.refl (attempt : Attempt) : Alike attempt attempt := ⟨rfl, rfl, rfl, rfl⟩

theorem Alike.trans (first : Alike before after) (second : Alike after final) :
    Alike before final where
  vault := second.vault.trans first.vault
  clones := second.clones.trans first.clones
  submitted := second.submitted.trans first.submitted
  completed := second.completed.trans first.completed

theorem Alike.updated (alike : Alike before after) (id : DeployStepId)
    (patch : DeployStep → DeployStep) : Alike before (after.updated id patch) :=
  alike.trans (alike_updated id patch after)

-- What the steps that come after the policy's creation do.
structure Continues (before after : Attempt) : Prop where
  clones : after.clones = before.clones
  submitted : before.submitted <+: after.submitted
  completed : before.completed <+: after.completed

theorem Alike.continues (alike : Alike before after) : Continues before after where
  clones := alike.clones
  submitted := by rw [alike.submitted]
  completed := by rw [alike.completed]

theorem Continues.trans (first : Continues before after) (second : Continues after final) :
    Continues before final where
  clones := second.clones.trans first.clones
  submitted := first.submitted.trans second.submitted
  completed := first.completed.trans second.completed

theorem continues_sent (submission : Submission) (transaction : Transaction) (attempt : Attempt) :
    Continues attempt (attempt.sent submission transaction id) := by
  unfold Attempt.sent
  split
  · exact ⟨rfl, List.prefix_append _ _, List.prefix_append _ _⟩
  · exact ⟨rfl, List.prefix_append _ _, List.prefix_rfl⟩

theorem vault_sent (submission : Submission) (transaction : Transaction)
    (effect : List Clone → List Clone) (attempt : Attempt) :
    (attempt.sent submission transaction effect).vault = attempt.vault := by
  unfold Attempt.sent
  split <;> rfl

theorem Alike.sent (alike : Alike before after) (submission : Submission)
    (transaction : Transaction) (effect : List Clone → List Clone) :
    Alike (before.sent submission transaction effect)
      (after.sent submission transaction effect) := by
  unfold Attempt.sent
  split
  · simp only [alike.clones, alike.submitted, alike.completed]
    exact ⟨alike.vault, rfl, rfl, rfl⟩
  · simp only [alike.submitted]
    exact ⟨alike.vault, alike.clones, rfl, alike.completed⟩

variable {α : Type} {returns : α → Attempt → Prop} {throws : Thrown → Attempt → Prop}

@[simp]
theorem ends_update {id : DeployStepId} {patch : DeployStep → DeployStep}
    {returns : Unit → Attempt → Prop} :
    Ends (update id patch) before returns throws ↔ returns () (before.updated id patch) := by
  rw [update, ends_modify]

@[simp]
theorem ends_requireSuccess {status : TxStatus} {returns : Unit → Attempt → Prop} :
    Ends (requireSuccess status) before returns throws ↔
      if status = .success then returns () before
      else throws (.ofMessage (text "the transaction reverted")) before := by
  unfold requireSuccess
  split <;> simp

@[simp]
theorem ends_fatal {id : DeployStepId} {body : Browser α} :
    Ends (fatal id body) before returns throws ↔
      Ends body before returns fun error final => throws (.deploy ⟨message error, id⟩)
        (final.updated id ({ · with status := .error, note := some (message error) })) := by
  simp [fatal]

theorem transact_ends (submission : Submission) (transaction : Transaction)
    (effect : List Clone → List Clone) :
    Ends (transact submission transaction effect) before
      (fun result final => (submission.Confirmed ↔ result.2 = .success) ∧
        Alike (before.sent submission transaction effect) final)
      (fun _ final => ¬ submission.Confirmed ∧
        Alike (before.sent submission transaction effect) final) := by
  simp only [transact, writeContract, ends_bind, ends_modify, ends_ofExcept, ends_update, ends_pure]
  refine ⟨fun hash answered => ⟨fun status received => ?_, fun error failed => ?_⟩,
    fun error failed => ?_⟩
  · refine ⟨⟨fun confirmed => ?_, fun success => ?_⟩, alike_updated _ _ _⟩
    · exact Except.ok.inj (received.symm.trans confirmed.success)
    · exact ⟨⟨hash, answered⟩, received.trans (congrArg Except.ok success)⟩
  · refine ⟨fun confirmed => ?_, alike_updated _ _ _⟩
    rw [confirmed.success] at failed
    cases failed
  · refine ⟨fun confirmed => ?_, .refl _⟩
    obtain ⟨hash, answered⟩ := confirmed.answered
    rw [answered] at failed
    cases failed

theorem confirm_ends (submission : Submission) (transaction : Transaction)
    (effect : List Clone → List Clone) :
    Ends (confirm submission transaction effect) before
      (fun _ final => submission.Confirmed ∧
        Alike (before.sent submission transaction effect) final)
      (fun _ final => ¬ submission.Confirmed ∧
        Alike (before.sent submission transaction effect) final) := by
  simp only [confirm, ends_bind, ends_requireSuccess, ends_pure]
  apply (transact_ends _ _ _).mono
  · rintro result final ⟨confirmed, alike⟩
    by_cases success : result.2 = .success
    · rw [if_pos success]
      exact ⟨confirmed.mpr success, alike⟩
    · rw [if_neg success]
      exact ⟨fun done => success (confirmed.mp done), alike⟩
  · intro error final failed
    exact failed

theorem save_ends (setItem : Except Thrown Unit) (entry : VaultEntry) :
    Ends (save setItem entry) before
      (fun _ final => setItem = .ok () ∧
        final = { before with vault := Vault.saved entry before.vault })
      (fun _ final => setItem ≠ .ok () ∧ final = before) := by
  simp only [save, ends_bind, ends_get, ends_ofExcept, ends_modify, Vault.saveEntry_eq]
  cases setItem with
  | ok taken => simp [Except.map]
  | error error => simp [Except.map]

theorem sealPrivate_ends (env : Environment) (plaintext : Text) :
    Ends (sealPrivate env plaintext) before (fun _ final => Alike before final)
      (fun _ _ => False) := by
  simp only [sealPrivate, ends_bind, ends_update, ends_tryCatch, ends_ofExcept, ends_pure]
  refine ⟨fun found _ => ?_, fun error _ => ?_⟩
  · cases found with
    | none => exact (alike_updated _ _ _).updated _ _
    | some teeKey =>
      simp only [ends_bind, ends_ofExcept, ends_update, ends_pure]
      exact ⟨fun _ _ => (alike_updated _ _ _).updated _ _,
        fun _ _ => (alike_updated _ _ _).updated _ _⟩
  · exact (alike_updated _ _ _).updated _ _

theorem policyAddressFromReceipt_plain (factory : Address) {logs : List Log}
    (plain : ∀ log ∈ logs, log.policyDeployed = none) :
    ∃ error, policyAddressFromReceipt factory logs = .error error := by
  induction logs with
  | nil => exact ⟨_, rfl⟩
  | cons log rest ih =>
    rw [List.forall_mem_cons] at plain
    obtain ⟨error, failed⟩ := ih plain.2
    refine ⟨error, ?_⟩
    rw [policyAddressFromReceipt, plain.1]
    split <;> exact failed

structure Environment.Created (env : Environment) (clones : List Clone) : Prop where
  creates : env.Creates clones
  confirmed : (env.creation clones).Confirmed

theorem createPolicy_ends (site : Site) (env : Environment) (arguments : FactoryArguments) :
    let sent := before.sent (env.creation before.clones) (.deploy arguments)
      (· ++ [⟨env.clone, arguments⟩])
    Ends (createPolicy site env arguments) before
      (fun result final => env.Created before.clones ∧ result.1 = env.clone ∧ Alike sent final)
      (fun _ final => ¬ env.Created before.clones ∧ Alike sent final) := by
  intro sent
  have same (final : Attempt) (alike : Alike _ final) : Alike sent final :=
    ((alike_updated .deploy ({ · with status := .running }) before).sent
      (env.creation before.clones) (.deploy arguments) (· ++ [⟨env.clone, arguments⟩])).trans alike
  have clones : (before.updated .deploy ({ · with status := .running })).clones =
    before.clones := rfl
  simp only [createPolicy, ends_bind, ends_update, ends_fatal, ends_get, clones]
  apply (confirm_ends _ _ _).mono
  · rintro hash final ⟨confirmed, alike⟩
    by_cases creates : env.Creates before.clones
    · have found : policyAddressFromReceipt site.addresses.policyFactory
          (env.deployLogs site.addresses.policyFactory before.clones) = .ok env.clone := by
        simp [Environment.deployLogs, if_pos creates, policyAddressFromReceipt]
      rw [found, ends_ofExcept_ok, ends_pure]
      exact ⟨⟨creates, confirmed⟩, rfl, (same _ alike).updated _ _⟩
    · obtain ⟨error, failed⟩ :=
        policyAddressFromReceipt_plain site.addresses.policyFactory env.otherLogs_plain
      rw [Environment.deployLogs, if_neg creates, failed, ends_ofExcept_error]
      exact ⟨fun created => creates created.creates, (same _ alike).updated _ _⟩
  · rintro error final ⟨unconfirmed, alike⟩
    exact ⟨fun created => unconfirmed created.confirmed, (same _ alike).updated _ _⟩

structure SetsTrigger (site : Site) (env : Environment) (compiled : CompiledPolicy)
    (account policy : Address) : Prop where
  request : ∃ request, configureRequest site.viem env.configuredAt compiled.ir.val.trigger account
    policy = .ok request
  confirmed : env.configure.Confirmed

-- The browser has nothing new to keep.
structure Quiet (before after : Attempt) : Prop where
  continues : Continues before after
  vault : after.vault = before.vault

theorem Alike.quiet (alike : Alike before after) : Quiet before after :=
  ⟨alike.continues, alike.vault⟩

theorem Quiet.trans (first : Quiet before after) (second : Quiet after final) :
    Quiet before final :=
  ⟨first.continues.trans second.continues, second.vault.trans first.vault⟩

theorem Quiet.updated (quiet : Quiet before after) (id : DeployStepId)
    (patch : DeployStep → DeployStep) : Quiet before (after.updated id patch) :=
  quiet.trans (alike_updated id patch after).quiet

theorem quiet_sent (submission : Submission) (transaction : Transaction) (attempt : Attempt) :
    Quiet attempt (attempt.sent submission transaction id) :=
  ⟨continues_sent submission transaction attempt, vault_sent submission transaction id attempt⟩

-- A transaction that makes no clone.
theorem Quiet.sent {ready : Attempt} (quiet : Quiet before ready) {submission : Submission}
    {transaction : Transaction} (alike : Alike (ready.sent submission transaction id) after) :
    Quiet before after :=
  (quiet.trans (quiet_sent submission transaction ready)).trans alike.quiet

theorem configureTrigger_ends (site : Site) (env : Environment) (compiled : CompiledPolicy)
    (account trigger policy : Address) :
    Ends (configureTrigger site env compiled account trigger policy) before
      (fun _ final => SetsTrigger site env compiled account policy ∧ Quiet before final)
      (fun _ final => ¬ SetsTrigger site env compiled account policy ∧ Quiet before final) := by
  have started := (alike_updated .configure ({ · with status := .running }) before).quiet
  simp only [configureTrigger, ends_bind, ends_update, ends_fatal]
  cases requested : configureRequest site.viem env.configuredAt compiled.ir.val.trigger account
    policy with
  | error error =>
    rw [Except.mapError, ends_ofExcept_error]
    refine ⟨fun sets => ?_, started.updated _ _⟩
    obtain ⟨request, built⟩ := sets.request
    rw [requested] at built
    cases built
  | ok request =>
    rw [Except.mapError, ends_ofExcept_ok]
    apply (confirm_ends _ _ _).mono
    · rintro hash final ⟨confirmed, alike⟩
      exact ⟨⟨⟨request, requested⟩, confirmed⟩, (started.sent alike).updated _ _⟩
    · rintro error final ⟨unconfirmed, alike⟩
      exact ⟨fun sets => unconfirmed sets.confirmed, (started.sent alike).updated _ _⟩

theorem fund_leaves (site : Site) (env : Environment) (policy : Address) (deposit : Int) :
    Leaves (fund site env policy deposit) before (Quiet before) := by
  unfold fund Leaves
  split
  · simp only [ends_bind, ends_update]
    exact ((alike_updated _ _ _).updated _ _).quiet
  · simp only [ends_bind, ends_update, ends_fatal]
    have started := (alike_updated .approve ({ · with status := .running }) before).quiet
    apply (transact_ends _ _ _).mono
    · rintro result approved ⟨_, alike⟩
      have funded := ((started.sent alike).updated .approve
        ({ · with status := .done })).updated .deposit ({ · with status := .running })
      apply (confirm_ends _ _ _).mono
      · rintro hash final ⟨_, alike⟩
        exact (funded.sent alike).updated _ _
      · rintro error final ⟨_, alike⟩
        exact (funded.sent alike).updated _ _
    · rintro error final ⟨_, alike⟩
      exact (started.sent alike).updated _ _

structure SameKeys (entry found : VaultEntry) : Prop where
  policy : found.policy = entry.policy
  salt : found.salt = entry.salt
  privateConfig : found.privateConfig = entry.privateConfig

structure Saved (entry : VaultEntry) (item : VaultItem) (before after : Attempt) : Prop where
  continues : Continues before after
  saved : ∃ found, SameKeys entry found ∧ after.vault = Vault.saved found item

theorem SameKeys.refl (entry : VaultEntry) : SameKeys entry entry := ⟨rfl, rfl, rfl⟩

theorem Saved.quiet {entry : VaultEntry} {item : VaultItem} (saved : Saved entry item before after)
    (quiet : Quiet after final) : Saved entry item before final where
  continues := saved.continues.trans quiet.continues
  saved := by
    obtain ⟨found, same, held⟩ := saved.saved
    exact ⟨found, same, quiet.vault.trans held⟩

theorem Saved.again {entry found : VaultEntry} {item : VaultItem}
    (saved : Saved entry item before after) (same : SameKeys entry found) :
    Saved entry item before { after with vault := Vault.saved found after.vault } where
  continues := ⟨saved.continues.clones, saved.continues.submitted, saved.continues.completed⟩
  saved := by
    obtain ⟨earlier, sameEarlier, held⟩ := saved.saved
    refine ⟨found, same, ?_⟩
    rw [held]
    exact Vault.saved_again (same.policy.trans sameEarlier.policy.symm) item

@[simp]
theorem ends_skipHandoff {note : Text} {entry : VaultEntry}
    {returns : VaultEntry → Attempt → Prop} :
    Ends (skipHandoff note entry) before returns throws ↔ returns entry
      (before.updated .handoff ({ · with status := .skipped, note := some note })) := by
  rw [skipHandoff, ends_bind, ends_update, ends_pure]

theorem storePolicyOnChain_leaves (site : Site) (env : Environment) (policy : Address)
    (ciphertext : Text) :
    Leaves (storePolicyOnChain site env policy ciphertext) before (Quiet before) := by
  have nothing : Quiet before before := (Alike.refl before).quiet
  have sent := quiet_sent env.handoff (.handoff policy ciphertext INSTRUCTION_FEE) before
  unfold storePolicyOnChain Leaves
  split
  · simp only [writeContract, ends_bind, ends_modify, ends_ofExcept]
    refine ⟨fun _ _ => ⟨fun _ _ => ⟨fun status _ => ?_, fun _ _ => sent⟩, fun _ _ => sent⟩,
      fun _ _ => nothing⟩
    split
    · simp only [ends_bind, ends_ofExcept, ends_pure]
      exact ⟨fun _ _ => sent, fun _ _ => sent⟩
    · exact sent
  · exact nothing

theorem handOff_ends (site : Site) (env : Environment) (policy : Address) {entry : VaultEntry}
    {item : VaultItem} (held : before.vault = Vault.saved entry item) :
    Ends (handOff site env policy entry) before (fun _ final => Saved entry item before final)
      (fun _ _ => False) := by
  have start : Saved entry item before before :=
    ⟨(Alike.refl before).continues, entry, .refl entry, held⟩
  have running := start.quiet
    (alike_updated .handoff ({ · with status := .running }) before).quiet
  have skipped (note : Text) {after : Attempt} (saved : Saved entry item before after) :=
    saved.quiet (alike_updated .handoff ({ · with status := .skipped, note := some note })
      after).quiet
  unfold handOff
  simp only [ends_bind, ends_update]
  cases entry.ciphertext with
  | none => simpa only [ends_skipHandoff] using skipped _ running
  | some ciphertext =>
    simp only
    split
    · simp only [ends_tryCatch, ends_bind, ends_skipHandoff]
      apply (storePolicyOnChain_leaves site env policy ciphertext).mono
      · rintro ⟨instructionId, txHash⟩ sent quiet
        apply (save_ends env.setItemAgain _).mono
        · rintro _ final ⟨-, rfl⟩
          rw [ends_update, ends_pure]
          refine Saved.quiet ?_ (alike_updated _ _ _).quiet
          exact (running.quiet quiet).again ⟨rfl, rfl, rfl⟩
        · rintro error final ⟨-, rfl⟩
          exact skipped _ (running.quiet quiet)
      · intro error final quiet
        exact skipped _ (running.quiet quiet)
    · simpa only [ends_skipHandoff] using skipped _ running

end Steps

section Run

variable {site : Site} (options : DeployOptions site.viem) (env : Environment)

/-- The run goes as far as to ask for the policy's creation. -/
structure Starts (arguments : FactoryArguments) : Prop where
  provider : env.provider = .ok ()
  called : factoryCall site.addresses options.compiled = .ok arguments

/-- Every answer between the creation and the save of the entry is the one hoped for. -/
structure Persists (clones : List Clone) : Prop where
  created : env.Created clones
  trigger : SetsTrigger site env options.compiled options.account env.clone
  stored : env.setItem = .ok ()

structure Records (world : World) (item : VaultItem) : Prop where
  kept : Persists options env world.clones → ∃ entry,
    entry.policy = site.checksumAddress env.clone ∧ entry.salt = options.salt ∧
      entry.privateConfig = options.compiled.privateConfig ∧ item = Vault.saved entry world.vault
  lost : ¬ Persists options env world.clones → item = world.vault

/-- What a run that starts leaves behind. -/
structure Leads (world : World) (arguments : FactoryArguments) (final : Attempt) : Prop where
  submitted : ∃ more, final.submitted = .deploy arguments :: more
  completed : env.Creates world.clones → ∃ more, final.completed = .deploy arguments :: more
  untouched : ¬ env.Creates world.clones → final.completed = []
  clones : final.clones =
    world.clones ++ if env.Creates world.clones then [⟨env.clone, arguments⟩] else []
  records : Records options env world final.vault

inductive Attempted (world : World) (final : Attempt) : Prop
  | idle (alike : Alike (world.begin options.compiled) final)
      (never : ∀ arguments, ¬ Starts options env arguments)
  | asked (arguments : FactoryArguments) (starts : Starts options env arguments)
      (leads : Leads options env world arguments final)

variable {options env} {world : World} {arguments : FactoryArguments} {created final : Attempt}

theorem leads_created (creates : env.Creates world.clones)
    (began : Alike ((world.begin options.compiled).sent (env.creation world.clones)
      (.deploy arguments) (· ++ [⟨env.clone, arguments⟩])) created)
    (continues : Continues created final) (records : Records options env world final.vault) :
    Leads options env world arguments final := by
  have success : (env.creation world.clones).mined = some .success := creates
  obtain ⟨-, clones, submitted, completed⟩ := began
  simp only [Attempt.sent, World.begin, if_pos success, List.nil_append]
    at clones submitted completed
  obtain ⟨more, extended⟩ := continues.submitted
  obtain ⟨others, finished⟩ := continues.completed
  exact {
    submitted := ⟨more, by rw [← extended, submitted, List.singleton_append]⟩
    completed := fun _ => ⟨others, by rw [← finished, completed, List.singleton_append]⟩
    untouched := fun failed => absurd creates failed
    clones := by rw [if_pos creates, continues.clones, clones]
    records }

theorem leads_refused (uncreated : ¬ env.Created world.clones)
    (began : Alike ((world.begin options.compiled).sent (env.creation world.clones)
      (.deploy arguments) (· ++ [⟨env.clone, arguments⟩])) final) :
    Leads options env world arguments final := by
  have records : Records options env world final.vault := by
    refine ⟨fun persists => absurd persists.created uncreated, fun _ => ?_⟩
    rw [began.vault, vault_sent]
    rfl
  by_cases creates : env.Creates world.clones
  · exact leads_created creates began (Alike.refl final).continues records
  · have failed : ¬ (env.creation world.clones).mined = some .success := creates
    obtain ⟨-, clones, submitted, completed⟩ := began
    simp only [Attempt.sent, World.begin, if_neg failed, List.nil_append]
      at clones submitted completed
    exact {
      submitted := ⟨[], submitted⟩
      completed := fun done => absurd done creates
      untouched := fun _ => completed
      clones := by rw [if_neg creates, clones, List.append_nil]
      records }

theorem records_ends (world : World) (ciphertext : Option Text) (trigger : Address)
    (deployTx : Bytes32) (made : env.Created world.clones)
    (untouched : created.vault = world.vault) :
    Ends (do
      configureTrigger site env options.compiled options.account trigger env.clone
      let entry := options.entry (site.checksumAddress env.clone) ciphertext trigger deployTx
        env.deployedAt
      save env.setItem entry
      let entry ← handOff site env env.clone entry
      fund site env env.clone options.deposit
      pure entry) created
      (fun _ final => Persists options env world.clones ∧ Continues created final ∧
        Records options env world final.vault)
      (fun _ final => Continues created final ∧ Records options env world final.vault) := by
  simp only [ends_bind, ends_pure]
  apply (configureTrigger_ends site env options.compiled options.account trigger env.clone).mono
  · rintro _ configured ⟨sets, quiet⟩
    apply (save_ends env.setItem _).mono
    · rintro _ _ ⟨stored, rfl⟩
      have same : configured.vault = world.vault := quiet.vault.trans untouched
      apply (handOff_ends site env env.clone rfl).mono
      · intro entry handed saved
        have finishes (final : Attempt) (funded : Quiet handed final) :
            Continues created final ∧ Records options env world final.vault := by
          have ends := saved.quiet funded
          obtain ⟨found, keys, vault⟩ := ends.saved
          rw [same] at vault
          refine ⟨quiet.continues.trans
            ⟨ends.continues.clones, ends.continues.submitted, ends.continues.completed⟩, ?_, ?_⟩
          · intro _
            exact ⟨found, keys.policy, keys.salt, keys.privateConfig, vault⟩
          · intro lost
            exact absurd ⟨made, sets, stored⟩ lost
        apply (fund_leaves site env env.clone options.deposit).mono
        · intro _ final funded
          exact ⟨⟨made, sets, stored⟩, finishes final funded⟩
        · intro _ final funded
          exact finishes final funded
      · intro _ _ impossible
        exact impossible.elim
    · rintro _ _ ⟨refused, rfl⟩
      exact ⟨quiet.continues, fun persists => absurd persists.stored refused,
        fun _ => quiet.vault.trans untouched⟩
  · rintro _ final ⟨unset, quiet⟩
    exact ⟨quiet.continues, fun persists => absurd persists.trigger unset,
      fun _ => quiet.vault.trans untouched⟩

theorem deployPolicy_ends (world : World) :
    Ends (deployPolicy site options env) (world.begin options.compiled)
      (fun _ final => Persists options env world.clones ∧ Attempted options env world final)
      (fun _ final => Attempted options env world final) := by
  rw [deployPolicy, ends_bind]
  cases provider : env.provider with
  | error error =>
    refine .idle (.refl _) fun arguments starts => ?_
    cases provider.symm.trans starts.provider
  | ok found =>
    rw [ends_ofExcept_ok, ends_bind]
    cases called : factoryCall site.addresses options.compiled with
    | error error =>
      refine .idle (.refl _) fun arguments starts => ?_
      cases called.symm.trans starts.called
    | ok arguments =>
      have starts : Starts options env arguments := ⟨provider, called⟩
      rw [Except.mapError, ends_ofExcept_ok, ends_bind]
      apply (sealPrivate_ends env options.compiled.plaintext).mono
      · intro ciphertext ready alike
        have start := alike.sent (env.creation world.clones) (.deploy arguments)
          (· ++ [⟨env.clone, arguments⟩])
        have same : ready.clones = world.clones := alike.clones
        have creates := @createPolicy_ends ready site env arguments
        rw [same] at creates
        rw [ends_bind]
        apply creates.mono
        · rintro ⟨policy, deployTx⟩ created ⟨made, rfl, began⟩
          have fromBegin := start.trans began
          have untouched : created.vault = world.vault := by
            rw [fromBegin.vault, vault_sent]
            rfl
          apply (records_ends world ciphertext arguments.trigger deployTx made untouched).mono
          · intro _ final ⟨persists, continues, records⟩
            exact ⟨persists, .asked arguments starts
              (leads_created made.creates fromBegin continues records)⟩
          · intro _ final ⟨continues, records⟩
            exact .asked arguments starts
              (leads_created made.creates fromBegin continues records)
        · intro _ final ⟨uncreated, began⟩
          exact .asked arguments starts (leads_refused uncreated (start.trans began))
      · intro _ _ impossible
        exact impossible.elim

theorem creates_fresh {clones : List Clone} (creates : env.Creates clones) :
    env.clone ∉ clones.map Clone.policy := by
  intro taken
  unfold Environment.Creates Environment.creation at creates
  rw [if_pos taken] at creates
  cases mined : env.deploy.mined <;> simp [mined] at creates

theorem Persists.creates {clones : List Clone} (persists : Persists options env clones) :
    env.Creates clones := persists.created.creates

end Run

structure Launch (viem : Viem) where
  options : DeployOptions viem
  env : Environment

section Sessions

variable {site : Site}

def Launch.attempt (launch : Launch site.viem) (world : World) : Attempt :=
  left (run site launch.options launch.env world)

def session : List (Launch site.viem) → World → World
  | [], world => world
  | launch :: rest, world => session rest (launch.attempt world).world

theorem attempted (launch : Launch site.viem) (world : World) :
    Attempted launch.options launch.env world (launch.attempt world) := by
  have leaves : Leaves (deployPolicy site launch.options launch.env)
      (world.begin launch.options.compiled) (Attempted launch.options launch.env world) := by
    apply (deployPolicy_ends world).mono
    · intro _ final ⟨_, attempted⟩
      exact attempted
    · intro _ final attempted
      exact attempted
  exact leaves_iff.mp leaves

theorem Starts.leads {launch : Launch site.viem} {arguments : FactoryArguments}
    (starts : Starts launch.options launch.env arguments) (world : World) :
    Leads launch.options launch.env world arguments (launch.attempt world) := by
  rcases attempted launch world with ⟨-, never⟩ | ⟨found, started, leads⟩
  · exact absurd starts (never arguments)
  · have same : found = arguments := Except.ok.inj (started.called.symm.trans starts.called)
    exact same ▸ leads

theorem returns_persists {launch : Launch site.viem} {world : World} {entry : VaultEntry}
    {final : Attempt} (returned : run site launch.options launch.env world = .ok entry final) :
    Persists launch.options launch.env world.clones := by
  have ends : Ends (deployPolicy site launch.options launch.env) _ _ _ := deployPolicy_ends world
  unfold run at returned
  rw [Ends, returned] at ends
  exact ends.1

end Sessions

def sampleSite : Site where
  viem := .lowercase
  addresses := sampleAddresses
  policyInstructionSender := .replicate 20 0x15
  checksumAddress address := Hex.prefixed address.bytes
  checksumAddress_lower address := toLowerCase_prefixed address.bytes

def successful : Submission := ⟨.ok (.replicate 32 0x11), some .success, .ok .success⟩

def rejected : Submission :=
  ⟨.error (.other (some 4001) (text "User rejected the request.") [] []), none,
    .error (.ofMessage (text "Timed out while waiting for transaction."))⟩

theorem successful_confirmed : successful.Confirmed := ⟨⟨_, rfl⟩, rfl⟩

theorem rejected_unconfirmed : ¬ rejected.Confirmed := by
  intro confirmed
  cases confirmed.success

-- Nothing is sealed, and all goes well but for what is given.
def sampleEnvironment (clone : Address) (configure approve : Submission) : Environment where
  provider := .ok ()
  teeKey := .ok none
  eciesEncrypt _ plaintext := .ok plaintext
  clone := clone
  deploy := successful
  otherLogs := []
  otherLogs_plain := nofun
  configuredAt := ⟨1700000000000, sampleNow_le⟩
  configure := configure
  deployedAt := ⟨1700000005000, by decide⟩
  setItem := .ok ()
  simulate := .ok ()
  handoff := successful
  handoffLogs := []
  handedAt := ⟨1700000010000, by decide⟩
  setItemAgain := .ok ()
  approve := approve
  deposit := successful

def emptyWorld : World := ⟨.absent, []⟩

theorem family_compiled {compiled : CompiledPolicy}
    (accepted : compile .lowercase (policyInput [familyInput]) sampleSalt = .ok compiled) :
    ∃ input, compile sampleSite.viem input sampleSalt = .ok compiled := ⟨_, accepted⟩

def familyLaunch {compiled : CompiledPolicy}
    (accepted : compile .lowercase (policyInput [familyInput]) sampleSalt = .ok compiled)
    (configure approve : Submission) : Launch sampleSite.viem where
  options := ⟨compiled, sampleSalt, text "family", ConfidentialPolicy.ownerAccount, 1000000,
    family_compiled accepted⟩
  env := sampleEnvironment (.replicate 20 0x44) configure approve

end FlareStudio.Web
