import FlareStudio.Web.DeployOutcome

set_option autoImplicit false

namespace FlareStudio.Web

open Policy Throwing

def rank : DeployStepId → Nat
  | .seal => 0
  | .deploy => 1
  | .configure => 2
  | .handoff => 3
  | .approve => 4
  | .deposit => 5

def StepStatus.Settled (status : StepStatus) : Prop := status = .done ∨ status = .skipped

/-- No step is done or running while an earlier one is pending. -/
def InOrder (report : List DeployStep) : Prop :=
  report.Pairwise fun earlier later =>
    later.status = .done ∨ later.status = .running → earlier.status ≠ .pending

structure Blames (id : DeployStepId) (report : List DeployStep) : Prop where
  present : ∃ step ∈ report, step.id = id
  exactly : ∀ step ∈ report, step.status = .error ↔ step.id = id
  later : report.Pairwise fun earlier later => earlier.id = id → later.status = .pending

/-- How far the steps have come: those before one are settled, those after it pending. -/
structure Frontier (id : DeployStepId) (status : StepStatus) (report : List DeployStep) :
    Prop where
  ids : report.map DeployStep.id = [.seal, .deploy, .configure, .handoff, .approve, .deposit]
  earlier : ∀ step ∈ report, rank step.id < rank id → step.status.Settled
  current : ∀ step ∈ report, step.id = id → step.status = status
  later : ∀ step ∈ report, rank id < rank step.id → step.status = .pending

section Reports

variable {id next : DeployStepId} {status status' : StepStatus} {report : List DeployStep}

theorem rank_injective {id other : DeployStepId} (same : rank id = rank other) : id = other := by
  cases id <;> cases other <;> first | rfl | cases same

theorem Frontier.ranked (frontier : Frontier id status report) :
    report.Pairwise fun earlier later => rank earlier.id < rank later.id := by
  have sorted : (report.map DeployStep.id).Pairwise fun a b => rank a < rank b := by
    rw [frontier.ids]
    decide
  rwa [List.pairwise_map] at sorted

theorem Frontier.present (frontier : Frontier id status report) :
    ∃ step ∈ report, step.id = id := by
  have member : id ∈ report.map DeployStep.id := by
    rw [frontier.ids]
    cases id <;> decide
  simpa using member

theorem Frontier.inOrder (frontier : Frontier id status report) : InOrder report := by
  refine frontier.ranked.imp_of_mem fun {earlier later} before after ranked shown => ?_
  have reached : rank later.id ≤ rank id := by
    by_contra beyond
    have waiting := frontier.later later after (by omega)
    rcases shown with shown | shown <;> rw [waiting] at shown <;> cases shown
  rcases frontier.earlier earlier before (by omega) with settled | settled <;> simp [settled]

theorem Frontier.blames (frontier : Frontier id .error report) : Blames id report where
  present := frontier.present
  exactly step inside := by
    constructor
    · intro wrong
      rcases lt_trichotomy (rank step.id) (rank id) with earlier | same | later
      · rcases frontier.earlier step inside earlier with settled | settled <;>
          rw [settled] at wrong <;> cases wrong
      · exact rank_injective same
      · rw [frontier.later step inside later] at wrong
        cases wrong
    · exact frontier.current step inside
  later := by
    refine frontier.ranked.imp_of_mem fun {earlier later} _ after ranked named => ?_
    exact frontier.later later after (named ▸ ranked)

theorem Frontier.moves (frontier : Frontier id status report)
    (reaches : next = id ∨ rank next = rank id + 1 ∧ status.Settled)
    {patch : DeployStep → DeployStep} (keeps : ∀ step, (patch step).id = step.id)
    (sets : ∀ step ∈ report, step.id = next → (patch step).status = status') :
    Frontier next status' (report.map fun step => if step.id = next then patch step else step) := by
  have named (step : DeployStep) : (if step.id = next then patch step else step).id = step.id := by
    split
    · exact keeps step
    · rfl
  constructor
  · rw [List.map_map, ← frontier.ids]
    exact List.map_congr_left fun step _ => named step
  · intro other inside
    obtain ⟨step, member, rfl⟩ := List.mem_map.mp inside
    intro before
    rw [named] at before
    have apart : step.id ≠ next := by
      rintro rfl
      exact lt_irrefl _ before
    rw [if_neg apart]
    rcases reaches with rfl | ⟨successor, settled⟩
    · exact frontier.earlier step member before
    · by_cases same : step.id = id
      · rwa [frontier.current step member same]
      · have ranks : rank step.id ≠ rank id := fun equal => same (rank_injective equal)
        exact frontier.earlier step member (by omega)
  · intro other inside
    obtain ⟨step, member, rfl⟩ := List.mem_map.mp inside
    intro same
    rw [named] at same
    rw [if_pos same]
    exact sets step member same
  · intro other inside
    obtain ⟨step, member, rfl⟩ := List.mem_map.mp inside
    intro after
    rw [named] at after
    have apart : step.id ≠ next := by
      rintro rfl
      exact lt_irrefl _ after
    rw [if_neg apart]
    have further : rank id ≤ rank next := by
      rcases reaches with rfl | ⟨successor, -⟩ <;> omega
    exact frontier.later step member (by omega)

end Reports

section Effects

variable {site : Site} (options : DeployOptions site.viem) (env : Environment)

def Seals : Prop := ∃ teeKey ciphertext, env.teeKey = .ok (some teeKey) ∧
  env.eciesEncrypt teeKey options.compiled.plaintext = .ok ciphertext

/-- What a step is there for: something is sealed, or its transaction is mined with success. -/
def HasEffect (completed : List Transaction) : DeployStepId → Prop
  | .seal => Seals options env
  | id => ∃ transaction ∈ completed, transaction.step = id

variable (site) in
structure Sends : Prop where
  configured : site.enclaveHandoffConfigured = true
  simulated : env.simulate = .ok ()
  confirmed : env.handoff.Confirmed
  logged : ∃ instructionId, extractInstructionId env.handoffLogs = .ok instructionId

structure HandsOff : Prop where
  seals : Seals options env
  sends : Sends site env
  stored : env.setItemAgain = .ok ()

-- The receipt of an approval may say anything.
structure Approves : Prop where
  funded : options.deposit ≠ 0
  answered : ∃ hash, env.approve.answer = .ok hash
  received : ∃ status, env.approve.receipt = .ok status

/-- The run comes to the step and takes it for done, by the receipt it is given, but the step's
transaction is not mined with success. -/
inductive Slips (clones : List Clone) : DeployStepId → Prop
  | configure (starts : ∃ arguments, Starts options env arguments) (created : env.Created clones)
      (sets : SetsTrigger site env options.compiled options.account env.clone)
      (missed : env.configure.mined ≠ some .success) : Slips clones .configure
  | handoff (starts : ∃ arguments, Starts options env arguments)
      (persists : Persists options env clones) (handsOff : HandsOff options env)
      (missed : env.handoff.mined ≠ some .success) : Slips clones .handoff
  | approve (starts : ∃ arguments, Starts options env arguments)
      (persists : Persists options env clones) (approves : Approves options env)
      (missed : env.approve.mined ≠ some .success) : Slips clones .approve
  | deposit (starts : ∃ arguments, Starts options env arguments)
      (persists : Persists options env clones) (approves : Approves options env)
      (confirmed : env.deposit.Confirmed) (missed : env.deposit.mined ≠ some .success) :
      Slips clones .deposit

variable (clones : List Clone)

def Accounted (completed : List Transaction) (id : DeployStepId) : Prop :=
  HasEffect options env completed id ∨ Slips options env clones id

def Shown (id : DeployStepId) (reports : List (List DeployStep)) : Prop :=
  ∃ report ∈ reports, ∃ step ∈ report, step.id = id ∧ step.status = .done

/-- The run has come to one step, and all it has reported is accounted for. -/
structure Progress (id : DeployStepId) (status : StepStatus) (attempt : Attempt) : Prop where
  frontier : Frontier id status attempt.steps
  latest : ∀ report ∈ attempt.reports.getLast?, report = attempt.steps
  reported : ∀ report ∈ attempt.reports, ∃ other status', Frontier other status' report
  accounted : ∀ report ∈ attempt.steps :: attempt.reports, ∀ step ∈ report,
    step.status = .done → Accounted options env clones attempt.completed step.id
  mined : ∀ transaction ∈ attempt.completed, ¬ Slips options env clones transaction.step
  shown : ∀ other, Slips options env clones other →
    rank other < rank id ∨ other = id ∧ status.Settled → Shown other attempt.reports

def Fails (id : DeployStepId) (error : Thrown) (final : Attempt) : Prop :=
  (∃ message, error = .deploy ⟨message, id⟩) ∧ Progress options env clones id .error final

variable {options env clones} {id next other : DeployStepId} {status status' : StepStatus}
  {before : Attempt}

theorem Slips.starts (slips : Slips options env clones id) :
    ∃ arguments, Starts options env arguments := by
  cases slips <;> assumption

theorem Slips.created (slips : Slips options env clones id) : env.Created clones := by
  cases slips with
  | configure _ created => exact created
  | handoff _ persists | approve _ persists | deposit _ persists => exact persists.created

theorem Slips.sets (slips : Slips options env clones id) :
    SetsTrigger site env options.compiled options.account env.clone := by
  cases slips with
  | configure _ _ sets => exact sets
  | handoff _ persists | approve _ persists | deposit _ persists => exact persists.trigger

theorem Slips.persists (slips : Slips options env clones id) (late : id ≠ .configure) :
    Persists options env clones := by
  cases slips with
  | configure => exact absurd rfl late
  | handoff _ persists | approve _ persists | deposit _ persists => exact persists

def Environment.submission (env : Environment) : DeployStepId → Submission
  | .seal | .deploy => env.deploy
  | .configure => env.configure
  | .handoff => env.handoff
  | .approve => env.approve
  | .deposit => env.deposit

theorem spared (mined : (env.submission id).mined = some .success) :
    ¬ Slips options env clones id := by
  intro slips
  cases slips with
  | configure _ _ _ missed | handoff _ _ _ missed | approve _ _ _ missed => exact missed mined
  | deposit _ _ _ _ missed => exact missed mined

theorem HasEffect.of_completed {completed : List Transaction} {transaction : Transaction}
    (inside : transaction ∈ completed) : HasEffect options env completed transaction.step := by
  cases transaction <;> exact ⟨_, inside, rfl⟩

theorem Accounted.mono {completed more : List Transaction} (grows : completed ⊆ more)
    (accounted : Accounted options env clones completed id) :
    Accounted options env clones more id := by
  refine accounted.imp_left fun effect => ?_
  match id, effect with
  | .seal, effect => exact effect
  | .deploy, ⟨transaction, inside, step⟩ | .configure, ⟨transaction, inside, step⟩
  | .handoff, ⟨transaction, inside, step⟩ | .approve, ⟨transaction, inside, step⟩
  | .deposit, ⟨transaction, inside, step⟩ => exact ⟨transaction, grows inside, step⟩

theorem Progress.updated (progress : Progress options env clones id status before)
    (reaches : next = id ∨ rank next = rank id + 1 ∧ status.Settled)
    {patch : DeployStep → DeployStep} (keeps : ∀ step, (patch step).id = step.id)
    (sets : ∀ step ∈ before.steps, step.id = next → (patch step).status = status')
    (effect : status' = .done → Accounted options env clones before.completed next)
    (spares : status' = .skipped → ¬ Slips options env clones next) :
    Progress options env clones next status' (before.updated next patch) := by
  have frontier := progress.frontier.moves reaches keeps sets
  have accounted : ∀ step ∈ (before.updated next patch).steps, step.status = .done →
      Accounted options env clones before.completed step.id := by
    intro other inside shown
    obtain ⟨step, member, rfl⟩ := List.mem_map.mp inside
    by_cases same : step.id = next
    · rw [if_pos same, sets step member same] at shown
      rw [if_pos same, keeps, same]
      exact effect shown
    · rw [if_neg same] at shown ⊢
      exact progress.accounted _ List.mem_cons_self step member shown
  constructor
  · exact frontier
  · intro report last
    simpa [Attempt.updated, eq_comm] using last
  · intro report inside
    rcases List.mem_append.mp inside with earlier | latest
    · exact progress.reported report earlier
    · obtain rfl := List.mem_singleton.mp latest
      exact ⟨next, status', frontier⟩
  · intro report inside step member shown
    rcases List.mem_cons.mp inside with rfl | inside
    · exact accounted step member shown
    · rcases List.mem_append.mp inside with earlier | latest
      · exact progress.accounted report (List.mem_cons_of_mem _ earlier) step member shown
      · obtain rfl := List.mem_singleton.mp latest
        exact accounted step member shown
  · exact progress.mined
  · intro other slips reached
    have earlier (shown : Shown other before.reports) :
        Shown other (before.updated next patch).reports := by
      obtain ⟨report, inside, found⟩ := shown
      exact ⟨report, List.mem_append_left _ inside, found⟩
    rcases reached with before | ⟨rfl, settled | settled⟩
    · rcases reaches with rfl | ⟨successor, settled⟩
      · exact earlier (progress.shown other slips (.inl before))
      · by_cases same : other = id
        · exact earlier (progress.shown other slips (.inr ⟨same, settled⟩))
        · have ranks : rank other ≠ rank id := fun equal => same (rank_injective equal)
          exact earlier (progress.shown other slips (.inl (by omega)))
    · obtain ⟨step, member, same⟩ := frontier.present
      exact ⟨_, List.mem_append_right _ List.mem_cons_self, step, member, same,
        (frontier.current step member same).trans settled⟩
    · exact absurd slips (spares settled)

-- A patch that leaves the status.
theorem Progress.annotated (progress : Progress options env clones id .running before)
    {patch : DeployStep → DeployStep} (keeps : ∀ step, (patch step).id = step.id)
    (leaves : ∀ step, (patch step).status = step.status) :
    Progress options env clones id .running (before.updated id patch) := by
  refine progress.updated (.inl rfl) keeps (fun step inside same => ?_) nofun nofun
  rw [leaves, progress.frontier.current step inside same]

theorem Progress.fails (progress : Progress options env clones id status before) (error : Thrown) :
    Fails options env clones id (.deploy ⟨message error, id⟩) (before.updated id
      ({ · with status := .error, note := some (message error) })) :=
  ⟨⟨_, rfl⟩, progress.updated (.inl rfl) (fun _ => rfl) (fun _ _ _ => rfl) nofun nofun⟩

theorem Progress.done (progress : Progress options env clones id status before)
    (effect : Accounted options env clones before.completed id) {patch : DeployStep → DeployStep}
    (keeps : ∀ step, (patch step).id = step.id) (sets : ∀ step, (patch step).status = .done) :
    Progress options env clones id .done (before.updated id patch) :=
  progress.updated (.inl rfl) keeps (fun step _ _ => sets step) (fun _ => effect) nofun

theorem Progress.skipped (progress : Progress options env clones id status before) (note : Text)
    (spared : ¬ Slips options env clones id) :
    Progress options env clones id .skipped
      (before.updated id ({ · with status := .skipped, note := some note })) :=
  progress.updated (.inl rfl) (fun _ => rfl) (fun _ _ _ => rfl) nofun fun _ => spared

theorem Progress.starts (progress : Progress options env clones id status before)
    (successor : rank next = rank id + 1) (settled : status.Settled) :
    Progress options env clones next .running
      (before.updated next ({ · with status := .running })) :=
  progress.updated (.inr ⟨successor, settled⟩) (fun _ => rfl) (fun _ _ _ => rfl) nofun nofun

theorem completed_sent (submission : Submission) (transaction : Transaction)
    (effect : List Clone → List Clone) (attempt : Attempt) :
    (attempt.sent submission transaction effect).completed = attempt.completed ++
      if submission.mined = some .success then [transaction] else [] := by
  unfold Attempt.sent
  split <;> simp

theorem steps_sent (submission : Submission) (transaction : Transaction)
    (effect : List Clone → List Clone) (attempt : Attempt) :
    (attempt.sent submission transaction effect).steps = attempt.steps := by
  unfold Attempt.sent
  split <;> rfl

theorem reports_sent (submission : Submission) (transaction : Transaction)
    (effect : List Clone → List Clone) (attempt : Attempt) :
    (attempt.sent submission transaction effect).reports = attempt.reports := by
  unfold Attempt.sent
  split <;> rfl

theorem Progress.sent (progress : Progress options env clones id status before)
    {submission : Submission} {transaction : Transaction}
    (spares : submission.mined = some .success → ¬ Slips options env clones transaction.step)
    (effect : List Clone → List Clone) :
    Progress options env clones id status (before.sent submission transaction effect) := by
  have grows : before.completed ⊆ (before.sent submission transaction effect).completed := by
    rw [completed_sent]
    exact List.subset_append_left _ _
  constructor
  · rw [steps_sent]
    exact progress.frontier
  · rw [steps_sent, reports_sent]
    exact progress.latest
  · rw [reports_sent]
    exact progress.reported
  · rw [steps_sent, reports_sent]
    intro report inside step member shown
    exact (progress.accounted report inside step member shown).mono grows
  · intro found inside
    rw [completed_sent] at inside
    rcases List.mem_append.mp inside with earlier | here
    · exact progress.mined found earlier
    · split at here
      · rename_i mined
        rw [List.mem_singleton.mp here]
        exact spares mined
      · cases here
  · rw [reports_sent]
    exact progress.shown

theorem Progress.stored (progress : Progress options env clones id status before)
    (vault : VaultItem) :
    Progress options env clones id status { before with vault := vault } :=
  ⟨progress.frontier, progress.latest, progress.reported, progress.accounted, progress.mined,
    progress.shown⟩

end Effects

section Steps

variable {site : Site} {options : DeployOptions site.viem} {env : Environment}
  {clones : List Clone} {status : StepStatus} {before : Attempt}

theorem transact_progress {transaction : Transaction} {submission : Submission}
    (progress : Progress options env clones transaction.step .running before)
    (spares : submission.mined = some .success → ¬ Slips options env clones transaction.step)
    (effect : List Clone → List Clone) :
    Ends (transact submission transaction effect) before
      (fun result final => Progress options env clones transaction.step .running final ∧
        (∃ hash, submission.answer = .ok hash) ∧ submission.receipt = .ok result.2 ∧
        (submission.mined = some .success → transaction ∈ final.completed))
      (fun _ final => Progress options env clones transaction.step .running final ∧
        ¬ ((∃ hash, submission.answer = .ok hash) ∧
          ∃ status, submission.receipt = .ok status)) := by
  have sent := progress.sent spares effect
  simp only [transact, writeContract, ends_bind, ends_modify, ends_ofExcept, ends_update, ends_pure]
  refine ⟨fun hash answered => ?_, fun error failed => ⟨sent, ?_⟩⟩
  · have noted : Progress options env clones transaction.step .running
        ((before.sent submission transaction effect).updated transaction.step
          ({ · with txHash := some hash })) := sent.annotated (fun _ => rfl) fun _ => rfl
    refine ⟨fun status received => ⟨noted, ⟨hash, answered⟩, received, fun mined => ?_⟩,
      fun error failed => ⟨noted, ?_⟩⟩
    · change transaction ∈ (before.sent submission transaction effect).completed
      rw [completed_sent, if_pos mined]
      exact List.mem_append_right _ List.mem_cons_self
    · rintro ⟨-, status, received⟩
      rw [failed] at received
      cases received
  · rintro ⟨⟨hash, answered⟩, -⟩
    rw [failed] at answered
    cases answered

theorem confirm_progress {transaction : Transaction} {submission : Submission}
    (progress : Progress options env clones transaction.step .running before)
    (spares : submission.mined = some .success → ¬ Slips options env clones transaction.step)
    (effect : List Clone → List Clone) :
    Ends (confirm submission transaction effect) before
      (fun _ final => Progress options env clones transaction.step .running final ∧
        submission.Confirmed ∧ (submission.mined = some .success → transaction ∈ final.completed))
      (fun _ final => Progress options env clones transaction.step .running final ∧
        ¬ submission.Confirmed) := by
  simp only [confirm, ends_bind, ends_requireSuccess, ends_pure]
  apply (transact_progress progress spares effect).mono
  · rintro result final ⟨running, answered, received, completed⟩
    split
    · rename_i success
      exact ⟨running, ⟨answered, received.trans (congrArg Except.ok success)⟩, completed⟩
    · rename_i reverted
      refine ⟨running, fun confirmed => reverted ?_⟩
      exact Except.ok.inj (received.symm.trans confirmed.success)
  · rintro error final ⟨running, lost⟩
    exact ⟨running, fun confirmed => lost ⟨confirmed.answered, _, confirmed.success⟩⟩

theorem accounted_step {completed : List Transaction} {transaction : Transaction}
    {submission : Submission}
    (done : submission.mined = some .success → transaction ∈ completed)
    (slips : submission.mined ≠ some .success → Slips options env clones transaction.step) :
    Accounted options env clones completed transaction.step := by
  by_cases mined : submission.mined = some .success
  · exact .inl (.of_completed (done mined))
  · exact .inr (slips mined)

theorem sealPrivate_progress (progress : Progress options env clones .seal .pending before) :
    Ends (sealPrivate env options.compiled.plaintext) before
      (fun ciphertext final => (ciphertext ≠ none ↔ Seals options env) ∧
        ∃ status : StepStatus, status.Settled ∧ Progress options env clones .seal status final)
      (fun _ _ => False) := by
  have running : Progress options env clones .seal .running
      (before.updated .seal ({ · with status := .running })) :=
    progress.updated (.inl rfl) (fun _ => rfl) (fun _ _ _ => rfl) (by rintro ⟨⟩)
      (by rintro _ ⟨⟩)
  have skipped (note : Text) : ∃ status : StepStatus, status.Settled ∧
      Progress options env clones .seal status ((before.updated .seal
        ({ · with status := .running })).updated .seal
          ({ · with status := .skipped, note := some note })) :=
    ⟨.skipped, .inr rfl, running.skipped note (by rintro ⟨⟩)⟩
  simp only [sealPrivate, ends_bind, ends_update, ends_tryCatch, ends_ofExcept, ends_pure]
  refine ⟨fun found known => ?_, fun error failed => ⟨iff_of_false (not_not_intro rfl) ?_,
    skipped _⟩⟩
  · cases found with
    | none =>
      refine ⟨iff_of_false (not_not_intro rfl) ?_, skipped _⟩
      rintro ⟨teeKey, _, other, -⟩
      rw [known] at other
      cases other
    | some teeKey =>
      simp only [ends_bind, ends_ofExcept, ends_update, ends_pure]
      refine ⟨fun ciphertext encrypted => ?_, fun error failed =>
        ⟨iff_of_false (not_not_intro rfl) ?_, skipped _⟩⟩
      · have sealed : Seals options env := ⟨teeKey, ciphertext, known, encrypted⟩
        exact ⟨iff_of_true (by simp) sealed, .done, .inl rfl,
          running.done (.inl sealed) (fun _ => rfl) fun _ => rfl⟩
      · rintro ⟨other, _, same, encrypted⟩
        rw [known] at same
        cases same
        rw [failed] at encrypted
        cases encrypted
  · rintro ⟨teeKey, _, known, -⟩
    rw [failed] at known
    cases known

theorem createPolicy_progress (progress : Progress options env clones .seal status before)
    (settled : status.Settled) (arguments : FactoryArguments) :
    Ends (createPolicy site env arguments) before
      (fun _ final => Progress options env clones .deploy .done final)
      (Fails options env clones .deploy) := by
  have started : (before.updated .deploy ({ · with status := .running })).clones =
    before.clones := rfl
  simp only [createPolicy, ends_bind, ends_update, ends_fatal, ends_get, started]
  have running : Progress options env clones (Transaction.deploy arguments).step .running
      (before.updated .deploy ({ · with status := .running })) := progress.starts rfl settled
  apply (confirm_progress running (fun _ slips => by cases slips) _).mono
  · rintro hash final ⟨confirmed, -, completed⟩
    by_cases creates : env.Creates before.clones
    · simp only [ends_ofExcept, ends_pure]
      exact ⟨fun _ _ => confirmed.done (.inl (.of_completed (completed creates))) (fun _ => rfl)
        fun _ => rfl, fun error _ => confirmed.fails error⟩
    · obtain ⟨error, failed⟩ :=
        policyAddressFromReceipt_plain site.addresses.policyFactory env.otherLogs_plain
      rw [Environment.deployLogs, if_neg creates, failed, ends_ofExcept_error]
      exact confirmed.fails error
  · rintro error final ⟨failed, -⟩
    exact failed.fails error

theorem configureTrigger_progress (starts : ∃ arguments, Starts options env arguments)
    (created : env.Created clones)
    (progress : Progress options env clones .deploy .done before) (trigger : Address) :
    Ends (configureTrigger site env options.compiled options.account trigger env.clone) before
      (fun _ final => Progress options env clones .configure .done final)
      (Fails options env clones .configure) := by
  simp only [configureTrigger, ends_bind, ends_update, ends_fatal]
  have running : Progress options env clones .configure .running
      (before.updated .configure ({ · with status := .running })) := progress.starts rfl (.inl rfl)
  cases requested : configureRequest site.viem env.configuredAt options.compiled.ir.val.trigger
    options.account env.clone with
  | error error => exact running.fails _
  | ok request =>
    rw [Except.mapError, ends_ofExcept_ok]
    have asked : Progress options env clones (Transaction.configure trigger request).step .running
        (before.updated .configure ({ · with status := .running })) := running
    apply (confirm_progress asked (fun mined => spared mined) _).mono
    · rintro hash final ⟨waiting, confirmed, completed⟩
      refine waiting.done (accounted_step completed fun missed => ?_) (fun _ => rfl) fun _ => rfl
      exact .configure starts created ⟨⟨request, requested⟩, confirmed⟩ missed
    · rintro error final ⟨failed, -⟩
      exact failed.fails error

theorem storePolicyOnChain_progress
    (progress : Progress options env clones .handoff .running before) (policy : Address)
    (ciphertext : Text) :
    Ends (storePolicyOnChain site env policy ciphertext) before
      (fun _ final => Progress options env clones .handoff .running final ∧ Sends site env ∧
        (env.handoff.mined = some .success →
          Transaction.handoff policy ciphertext INSTRUCTION_FEE ∈ final.completed))
      (fun _ final => Progress options env clones .handoff .running final ∧ ¬ Sends site env) := by
  have spares (mined : env.handoff.mined = some .success) : ¬ Slips options env clones
      (Transaction.handoff policy ciphertext INSTRUCTION_FEE).step := spared mined
  have sent : Progress options env clones .handoff .running
      (before.sent env.handoff (.handoff policy ciphertext INSTRUCTION_FEE) id) :=
    progress.sent spares id
  unfold storePolicyOnChain
  split
  · rename_i configured
    simp only [writeContract, ends_bind, ends_modify, ends_ofExcept]
    refine ⟨fun _ simulated => ⟨fun hash answered => ⟨fun status received => ?_,
      fun error failed => ⟨sent, fun sends => ?_⟩⟩, fun error failed => ⟨sent, fun sends => ?_⟩⟩,
      fun error failed => ⟨progress, fun sends => ?_⟩⟩
    · split
      · rename_i success
        have confirmed : env.handoff.Confirmed :=
          ⟨⟨hash, answered⟩, received.trans (congrArg Except.ok success)⟩
        simp only [ends_bind, ends_ofExcept, ends_pure]
        refine ⟨fun instructionId logged =>
          ⟨sent, ⟨configured, simulated, confirmed, instructionId, logged⟩, fun mined => ?_⟩,
          fun error failed => ⟨sent, fun sends => ?_⟩⟩
        · rw [completed_sent, if_pos mined]
          exact List.mem_append_right _ List.mem_cons_self
        · obtain ⟨instructionId, logged⟩ := sends.logged
          rw [failed] at logged
          cases logged
      · rename_i reverted
        refine ⟨sent, fun sends => reverted ?_⟩
        exact Except.ok.inj (received.symm.trans sends.confirmed.success)
    · have success := sends.confirmed.success
      rw [failed] at success
      cases success
    · obtain ⟨hash, answered⟩ := sends.confirmed.answered
      rw [failed] at answered
      cases answered
    · have simulated := sends.simulated
      rw [failed] at simulated
      cases simulated
  · rename_i unconfigured
    exact ⟨progress, fun sends => unconfigured sends.configured⟩

theorem handOff_progress (starts : ∃ arguments, Starts options env arguments)
    (persists : Persists options env clones)
    (progress : Progress options env clones .configure .done before) {entry : VaultEntry}
    (sealed : entry.ciphertext ≠ none ↔ Seals options env) :
    Ends (handOff site env env.clone entry) before
      (fun _ final => ∃ status : StepStatus, status.Settled ∧
        Progress options env clones .handoff status final)
      (fun _ _ => False) := by
  have running : Progress options env clones .handoff .running
      (before.updated .handoff ({ · with status := .running })) := progress.starts rfl (.inl rfl)
  have skipped {after : Attempt} (running : Progress options env clones .handoff .running after)
      (note : Text) (kept : ¬ HandsOff options env) :
      ∃ status : StepStatus, status.Settled ∧ Progress options env clones .handoff status
        (after.updated .handoff ({ · with status := .skipped, note := some note })) := by
    refine ⟨.skipped, .inr rfl, running.skipped note ?_⟩
    rintro (_ | ⟨_, _, handsOff, _⟩ | _ | _)
    exact kept handsOff
  unfold handOff
  simp only [ends_bind, ends_update]
  cases held : entry.ciphertext with
  | none =>
    simp only [ends_skipHandoff]
    exact skipped running _ fun handsOff => sealed.mpr handsOff.seals held
  | some ciphertext =>
    have seals : Seals options env := sealed.mp (by simp [held])
    simp only
    split
    · simp only [ends_tryCatch, ends_bind, ends_skipHandoff]
      apply (storePolicyOnChain_progress running env.clone ciphertext).mono
      · rintro ⟨instructionId, txHash⟩ sent ⟨running, sends, completed⟩
        apply (save_ends env.setItemAgain _).mono
        · rintro _ final ⟨stored, rfl⟩
          rw [ends_update, ends_pure]
          have handed : Accounted options env clones sent.completed .handoff :=
            accounted_step completed fun missed =>
              .handoff starts persists ⟨seals, sends, stored⟩ missed
          refine ⟨.done, .inl rfl, (running.stored _).done ?_ (fun _ => rfl) fun _ => rfl⟩
          exact handed
        · rintro error final ⟨refused, rfl⟩
          exact skipped running _ fun handsOff => refused handsOff.stored
      · rintro error final ⟨running, unsent⟩
        exact skipped running _ fun handsOff => unsent handsOff.sends
    · rename_i unconfigured
      simp only [ends_skipHandoff]
      exact skipped running _ fun handsOff => unconfigured handsOff.sends.configured

-- How far the steps that slip have been taken.
def Reached (options : DeployOptions site.viem) (env : Environment) (clones : List Clone)
    (id : DeployStepId) (status : StepStatus) : Prop :=
  ∀ other, Slips options env clones other → rank other < rank id ∨ other = id ∧ status.Settled

theorem deposit_reached (settled : status.Settled) :
    Reached options env clones .deposit status := by
  intro other _
  cases other <;> simp [rank, settled]

theorem deposit_progress (starts : ∃ arguments, Starts options env arguments)
    (persists : Persists options env clones) (approves : Approves options env)
    (progress : Progress options env clones .approve .done before) :
    Ends (do
      update .deposit ({ · with status := .running })
      fatal .deposit do
        let _ ← confirm env.deposit (.deposit env.clone options.deposit) id
        update .deposit ({ · with status := .done })) before
      (fun _ final => Progress options env clones .deposit .done final)
      (fun error final => Fails options env clones .deposit error final ∧
        Reached options env clones .deposit .error) := by
  simp only [ends_bind, ends_update, ends_fatal]
  have running : Progress options env clones
      (Transaction.deposit env.clone options.deposit).step .running
      (before.updated .deposit ({ · with status := .running })) := progress.starts rfl (.inl rfl)
  apply (confirm_progress running (fun mined => spared mined) _).mono
  · rintro hash final ⟨waiting, confirmed, completed⟩
    refine waiting.done (accounted_step completed fun missed => ?_) (fun _ => rfl) fun _ => rfl
    exact .deposit starts persists approves confirmed missed
  · rintro error final ⟨waiting, unconfirmed⟩
    refine ⟨waiting.fails error, fun other slips => ?_⟩
    cases slips with
    | configure | handoff | approve => simp [rank]
    | deposit _ _ _ confirmed _ => exact absurd confirmed unconfirmed

theorem fund_progress (starts : ∃ arguments, Starts options env arguments)
    (persists : Persists options env clones)
    (progress : Progress options env clones .handoff status before) (settled : status.Settled) :
    Ends (fund site env env.clone options.deposit) before
      (fun _ final => ∃ status : StepStatus, status.Settled ∧
        Progress options env clones .deposit status final)
      (fun error final => ∃ id, Fails options env clones id error final ∧
        Reached options env clones id .error) := by
  unfold fund
  split
  · rename_i free
    simp only [ends_bind, ends_update]
    have unfunded : ¬ Approves options env := fun approves => approves.funded free
    have approve : Progress options env clones .approve .skipped (before.updated .approve ({ · with
        status := .skipped
        note := some (text "You can deposit any time from the policy screen.") })) := by
      refine progress.updated (.inr ⟨rfl, settled⟩) (fun _ => rfl) (fun _ _ _ => rfl) (by rintro ⟨⟩) ?_
      rintro - (_ | _ | ⟨_, _, approves, _⟩ | _)
      exact unfunded approves
    refine ⟨.skipped, .inr rfl, approve.updated (.inr ⟨rfl, .inr rfl⟩) (fun _ => rfl)
      (fun _ _ _ => rfl) (by rintro ⟨⟩) ?_⟩
    rintro - (_ | _ | _ | ⟨_, _, approves, _⟩)
    exact unfunded approves
  · rename_i funded
    simp only [ends_bind, ends_update, ends_fatal]
    have running : Progress options env clones
        (Transaction.approve site.addresses.fxrp env.clone options.deposit).step .running
        (before.updated .approve ({ · with status := .running })) := progress.starts rfl settled
    apply (transact_progress running (fun mined => spared mined) _).mono
    · rintro result approved ⟨waiting, answered, received, completed⟩
      have approves : Approves options env := ⟨funded, answered, _, received⟩
      have accounted : Accounted options env clones approved.completed .approve :=
        accounted_step completed fun missed => .approve starts persists approves missed
      have done : Progress options env clones .approve .done
          (approved.updated .approve ({ · with status := .done })) :=
        waiting.done accounted (fun _ => rfl) fun _ => rfl
      have deposits := deposit_progress starts persists approves done
      simp only [ends_bind, ends_update, ends_fatal] at deposits
      apply deposits.mono
      · intro _ final progress
        exact ⟨.done, .inl rfl, progress⟩
      · intro error final failed
        exact ⟨.deposit, failed⟩
    · rintro error final ⟨waiting, lost⟩
      refine ⟨.approve, waiting.fails error, fun other slips => ?_⟩
      cases slips with
      | configure | handoff => simp [rank]
      | approve _ _ approves | deposit _ _ approves =>
        exact absurd ⟨approves.answered, approves.received⟩ lost

end Steps

section Run

variable {site : Site} (options : DeployOptions site.viem) (env : Environment)

/-- What a run reports is so: what is done has had its effect, the steps are taken in order, and
an error of the flow names the one step that failed. -/
structure Truthful (result : EStateM.Result Thrown Attempt VaultEntry) : Prop where
  effects : ∀ report ∈ (left result).reports, ∀ step ∈ report, step.status = .done →
    HasEffect options env (left result).completed step.id
  ordered : ∀ report ∈ (left result).reports, InOrder report
  blamed : ∀ error final, result = .error (.deploy error) final →
    ∀ report ∈ final.reports.getLast?, Blames error.step report

def Environment.Foreign : Prop := ∀ error, env.setItem ≠ .error (.deploy error)

-- How a run ends, for its reports.
def Recounts (clones : List Clone) (final : Attempt) : Prop :=
  ∃ id status, Progress options env clones id status final ∧ Reached options env clones id status

-- An error of the flow that is thrown after the first report.
def Named (clones : List Clone) (error : Thrown) (final : Attempt) : Prop :=
  ∀ thrown, error = .deploy thrown → final.reports ≠ [] →
    Progress options env clones thrown.step .error final

/-- A step is shown as done, and the chain has taken no transaction of it. -/
structure Overstated (id : DeployStepId) (attempt : Attempt) : Prop where
  shown : Shown id attempt.reports
  nothing : ∀ transaction ∈ attempt.completed, transaction.step ≠ id

variable {options env} {world : World} {clones : List Clone} {id : DeployStepId}
  {status : StepStatus} {before final : Attempt}

theorem Fails.named {error : Thrown} (fails : Fails options env clones id error final) :
    Named options env clones error final := by
  obtain ⟨⟨message, rfl⟩, progress⟩ := fails
  rintro thrown same -
  cases same
  exact progress

theorem begin_progress (world : World) :
    Progress options env clones .seal .pending (world.begin options.compiled) where
  frontier := by
    constructor
    · rfl
    · intro step _ below
      exact absurd below (Nat.not_lt_zero _)
    all_goals
      intro step inside _
      simp only [World.begin, pendingSteps, List.mem_cons, List.not_mem_nil, or_false] at inside
      rcases inside with rfl | rfl | rfl | rfl | rfl | rfl <;> rfl
  latest := nofun
  reported := nofun
  accounted := by
    intro report inside step member shown
    simp only [World.begin, pendingSteps, List.mem_cons, List.not_mem_nil, or_false] at inside
    subst inside
    simp only [List.mem_cons, List.not_mem_nil, or_false] at member
    rcases member with rfl | rfl | rfl | rfl | rfl | rfl <;> cases shown
  mined := nofun
  shown := by
    rintro other - (before | ⟨-, settled | settled⟩)
    · exact absurd before (Nat.not_lt_zero _)
    all_goals cases settled

theorem save_throws (setItem : Except Thrown Unit) (entry : VaultEntry) :
    Ends (save setItem entry) before (fun _ _ => True) (fun error _ => setItem = .error error) := by
  simp only [save, ends_bind, ends_get, ends_ofExcept, ends_modify, Vault.saveEntry_eq]
  cases setItem with
  | ok taken => simp [Except.map]
  | error error => simp [Except.map]

-- From the policy's creation on.
theorem continues_recounts (foreign : env.Foreign)
    (starts : ∃ arguments, Starts options env arguments) {ciphertext : Option Text}
    (sealed : ciphertext ≠ none ↔ Seals options env) (trigger : Address) (deployTx : Bytes32)
    (created : env.Created clones) (progress : Progress options env clones .deploy .done before) :
    Ends (do
      configureTrigger site env options.compiled options.account trigger env.clone
      let entry := options.entry (site.checksumAddress env.clone) ciphertext trigger deployTx
        env.deployedAt
      save env.setItem entry
      let entry ← handOff site env env.clone entry
      fund site env env.clone options.deposit
      pure entry) before
      (fun _ final => Recounts options env clones final)
      (fun error final => Recounts options env clones final ∧
        Named options env clones error final) := by
  simp only [ends_bind, ends_pure]
  apply ((configureTrigger_ends site env options.compiled options.account trigger env.clone).and
    (configureTrigger_progress starts created progress trigger)).mono
  · rintro _ configured ⟨⟨sets, _⟩, progress⟩
    apply ((save_ends env.setItem _).and (save_throws env.setItem _)).mono
    · rintro _ _ ⟨⟨stored, rfl⟩, -⟩
      have persists : Persists options env clones := ⟨created, sets, stored⟩
      apply (handOff_progress starts persists (progress.stored _) sealed).mono
      · rintro entry handed ⟨status, settled, progress⟩
        apply (fund_progress starts persists progress settled).mono
        · rintro _ final ⟨status, settled, progress⟩
          exact ⟨.deposit, status, progress, deposit_reached settled⟩
        · rintro error final ⟨id, fails, reached⟩
          exact ⟨⟨id, .error, fails.2, reached⟩, fails.named⟩
      · intro _ _ impossible
        exact impossible.elim
    · rintro error _ ⟨⟨refused, rfl⟩, thrown⟩
      refine ⟨⟨.configure, .done, progress, fun other slips => ?_⟩, ?_⟩
      · by_cases same : other = .configure
        · exact .inr ⟨same, .inl rfl⟩
        · exact absurd (slips.persists same).stored refused
      · rintro failed rfl -
        exact absurd thrown (foreign failed)
  · rintro error final ⟨⟨unset, _⟩, fails⟩
    exact ⟨⟨.configure, .error, fails.2, fun other slips => absurd slips.sets unset⟩, fails.named⟩

theorem deployPolicy_recounts (foreign : env.Foreign) (world : World) :
    Ends (deployPolicy site options env) (world.begin options.compiled)
      (fun _ final => Recounts options env world.clones final)
      (fun error final => Recounts options env world.clones final ∧
        Named options env world.clones error final) := by
  have begun : Progress options env world.clones .seal .pending (world.begin options.compiled) :=
    begin_progress world
  have nothing (error : Thrown) (never : ∀ arguments, ¬ Starts options env arguments) :
      Recounts options env world.clones (world.begin options.compiled) ∧
        Named options env world.clones error (world.begin options.compiled) := by
    refine ⟨⟨.seal, .pending, begun, fun other slips => ?_⟩,
      fun _ _ reported => absurd rfl reported⟩
    obtain ⟨arguments, starts⟩ := slips.starts
    exact absurd starts (never arguments)
  rw [deployPolicy, ends_bind]
  cases provider : env.provider with
  | error error =>
    refine nothing error fun arguments starts => ?_
    cases provider.symm.trans starts.provider
  | ok found =>
    rw [ends_ofExcept_ok, ends_bind]
    cases called : factoryCall site.addresses options.compiled with
    | error error =>
      refine nothing (.deploy error) fun arguments starts => ?_
      cases called.symm.trans starts.called
    | ok arguments =>
      rw [Except.mapError, ends_ofExcept_ok, ends_bind]
      apply ((sealPrivate_ends env options.compiled.plaintext).and
        (sealPrivate_progress begun)).mono
      · rintro ciphertext ready ⟨alike, sealed, status, settled, progress⟩
        have same : ready.clones = world.clones := alike.clones
        have creates := @createPolicy_ends ready site env arguments
        rw [same] at creates
        rw [ends_bind]
        apply (creates.and (createPolicy_progress progress settled arguments)).mono
        · rintro ⟨policy, deployTx⟩ made ⟨⟨created, rfl, _⟩, progress⟩
          exact continues_recounts foreign ⟨arguments, provider, called⟩ sealed
            arguments.trigger deployTx created progress
        · rintro error final ⟨⟨uncreated, _⟩, fails⟩
          exact ⟨⟨.deploy, .error, fails.2, fun other slips => absurd slips.created uncreated⟩,
            fails.named⟩
      · rintro _ _ ⟨impossible, _⟩
        exact impossible.elim

theorem Recounts.effects (recounts : Recounts options env clones final)
    (never : ¬ ∃ id, Slips options env clones id) : ∀ report ∈ final.reports, ∀ step ∈ report,
      step.status = .done → HasEffect options env final.completed step.id := by
  intro report inside step member shown
  obtain ⟨id, status, progress, -⟩ := recounts
  rcases progress.accounted report (List.mem_cons_of_mem _ inside) step member shown with
    effect | slips
  · exact effect
  · exact absurd ⟨step.id, slips⟩ never

theorem Recounts.ordered (recounts : Recounts options env clones final) :
    ∀ report ∈ final.reports, InOrder report := by
  intro report inside
  obtain ⟨id, status, progress, -⟩ := recounts
  obtain ⟨other, status', frontier⟩ := progress.reported report inside
  exact frontier.inOrder

theorem Recounts.overstated (recounts : Recounts options env clones final)
    (slips : Slips options env clones id) : Overstated id final := by
  obtain ⟨other, status, progress, reached⟩ := recounts
  refine ⟨progress.shown id slips (reached id slips), ?_⟩
  rintro transaction inside rfl
  exact progress.mined transaction inside slips

theorem run_recounts (foreign : env.Foreign) (world : World) :
    Recounts options env world.clones (left (run site options env world)) :=
  leaves_iff.mp ((deployPolicy_recounts foreign world).mono (fun _ _ held => held)
    fun _ _ held => held.1)

theorem run_named (foreign : env.Foreign) {error : Thrown}
    (ran : run site options env world = .error error final) :
    Named options env world.clones error final := by
  have ends : Ends (deployPolicy site options env) _ _ _ := deployPolicy_recounts foreign world
  unfold run at ran
  rw [Ends, ran] at ends
  exact ends.2

theorem Slips.untruthful {result : EStateM.Result Thrown Attempt VaultEntry}
    (slips : Slips options env clones id) (overstated : Overstated id (left result)) :
    ¬ Truthful options env result := by
  intro truthful
  obtain ⟨⟨report, inside, step, member, rfl, shown⟩, nothing⟩ := overstated
  have effect := truthful.effects report inside step member shown
  have sent : ∃ transaction ∈ (left result).completed, transaction.step = step.id := by
    generalize step.id = id at *
    cases slips <;> exact effect
  obtain ⟨transaction, completed, same⟩ := sent
  exact nothing transaction completed same

end Run

def reverted : Submission := ⟨.ok (.replicate 32 0x12), some .reverted, .ok .reverted⟩

end FlareStudio.Web
