import FlareStudio.Web.DeployOutcome

set_option autoImplicit false

namespace FlareStudio.Web

open Policy Throwing

structure Dialog (viem : Viem) where
  compiled : CompiledPolicy
  salt : Text
  templateId : Text
  accepted : ∃ input, compile viem input salt = .ok compiled

-- The account and the amount are read again at every press.
structure Press where
  account : Address
  deposit : Int
  env : Environment

def Dialog.launch {viem : Viem} (dialog : Dialog viem) (press : Press) : Launch viem where
  options := ⟨dialog.compiled, dialog.salt, dialog.templateId, press.account, press.deposit,
    dialog.accepted⟩
  env := press.env

section Attempts

variable {site : Site} (dialog : Dialog site.viem)

-- Every press, with the world it finds.
def Dialog.trail : List Press → World → List (Launch site.viem × World)
  | [], _ => []
  | press :: rest, world =>
    (dialog.launch press, world) :: trail rest ((dialog.launch press).attempt world).world

def Dialog.session (presses : List Press) (start : World) : World :=
  Web.session (presses.map dialog.launch) start

/-- One clone at most, and no step that is completed is asked for again. -/
structure NothingRepeated (presses : List Press) (start : World) : Prop where
  clones : (dialog.session presses start).clones.length ≤ start.clones.length + 1
  submitted : (dialog.trail presses start).Pairwise fun earlier later =>
    ∀ transaction ∈ (earlier.1.attempt earlier.2).completed,
      ∀ again ∈ (later.1.attempt later.2).submitted, again.step ≠ transaction.step

def Begins (entered : Launch site.viem × World) : Prop :=
  ∃ arguments, Starts entered.1.options entered.1.env arguments

structure CreatesPolicy (entered : Launch site.viem × World) : Prop where
  begins : Begins entered
  creates : entered.1.env.Creates entered.2.clones

def LastCreates (presses : List Press) (start : World) : Prop :=
  (dialog.trail presses start).Pairwise fun earlier later =>
    CreatesPolicy earlier → ¬ Begins later

section Attempt

variable {dialog} {entered earlier later : Launch site.viem × World}

theorem idle_attempt (idle : ¬ Begins entered) :
    Alike (entered.2.begin entered.1.options.compiled) (entered.1.attempt entered.2) := by
  rcases attempted entered.1 entered.2 with ⟨alike, -⟩ | ⟨arguments, starts, -⟩
  · exact alike
  · exact absurd ⟨arguments, starts⟩ idle

theorem completed_eq_nil (nothing : ¬ CreatesPolicy entered) :
    (entered.1.attempt entered.2).completed = [] := by
  by_cases begins : Begins entered
  · obtain ⟨arguments, starts⟩ := begins
    exact (starts.leads entered.2).untouched fun creates => nothing ⟨⟨arguments, starts⟩, creates⟩
  · exact (idle_attempt begins).completed

theorem clones_of_not_creates (nothing : ¬ CreatesPolicy entered) :
    (entered.1.attempt entered.2).clones = entered.2.clones := by
  by_cases begins : Begins entered
  · obtain ⟨arguments, starts⟩ := begins
    have creates : ¬ entered.1.env.Creates entered.2.clones := fun creates =>
      nothing ⟨⟨arguments, starts⟩, creates⟩
    rw [(starts.leads entered.2).clones, if_neg creates, List.append_nil]
  · exact (idle_attempt begins).clones

theorem length_clones_of_creates (created : CreatesPolicy entered) :
    (entered.1.attempt entered.2).clones.length = entered.2.clones.length + 1 := by
  obtain ⟨arguments, starts⟩ := created.begins
  rw [(starts.leads entered.2).clones, if_pos created.creates, List.length_append,
    List.length_singleton]

theorem not_repeated_iff :
    (∀ transaction ∈ (earlier.1.attempt earlier.2).completed,
      ∀ again ∈ (later.1.attempt later.2).submitted, again.step ≠ transaction.step) ↔
      (CreatesPolicy earlier → ¬ Begins later) := by
  constructor
  · intro apart created ⟨arguments, starts⟩
    obtain ⟨first, started⟩ := created.begins
    obtain ⟨more, completed⟩ := (started.leads earlier.2).completed created.creates
    obtain ⟨others, submitted⟩ := (starts.leads later.2).submitted
    have different := apart (.deploy first) (by simp [completed]) (.deploy arguments)
      (by simp [submitted])
    exact different rfl
  · intro last transaction done again asked
    by_cases created : CreatesPolicy earlier
    · rw [(idle_attempt (last created)).submitted] at asked
      cases asked
    · rw [completed_eq_nil created] at done
      cases done

end Attempt

theorem clones_of_idle (presses : List Press) (start : World)
    (idle : ∀ entered ∈ dialog.trail presses start, ¬ Begins entered) :
    (dialog.session presses start).clones = start.clones := by
  induction presses generalizing start with
  | nil => rfl
  | cons press rest ih =>
    rw [Dialog.trail, List.forall_mem_cons] at idle
    have same := (idle_attempt idle.1).clones
    exact (ih _ idle.2).trans same

theorem clones_le (presses : List Press) (start : World)
    (last : LastCreates dialog presses start) :
    (dialog.session presses start).clones.length ≤ start.clones.length + 1 := by
  induction presses generalizing start with
  | nil => exact Nat.le_succ _
  | cons press rest ih =>
    rw [LastCreates, Dialog.trail, List.pairwise_cons] at last
    obtain ⟨after, later⟩ := last
    by_cases created : CreatesPolicy (dialog.launch press, start)
    · have idle := clones_of_idle dialog rest _ fun entered member => after entered member created
      have one := length_clones_of_creates created
      calc
        _ = ((dialog.launch press).attempt start).clones.length := congrArg List.length idle
        _ ≤ start.clones.length + 1 := one.le
    · have same := clones_of_not_creates created
      have rest := ih _ later
      calc
        _ ≤ ((dialog.launch press).attempt start).clones.length + 1 := rest
        _ = start.clones.length + 1 := congrArg (List.length · + 1) same

/-- Nothing is repeated exactly if nobody tries again once a policy was created. -/
theorem nothing_repeated_iff (presses : List Press) (start : World) :
    NothingRepeated dialog presses start ↔ LastCreates dialog presses start := by
  have pairs : LastCreates dialog presses start ↔ (dialog.trail presses start).Pairwise
      fun earlier later => ∀ transaction ∈ (earlier.1.attempt earlier.2).completed,
        ∀ again ∈ (later.1.attempt later.2).submitted, again.step ≠ transaction.step :=
    List.Pairwise.iff fun _ _ => not_repeated_iff.symm
  constructor
  · intro nothing
    exact pairs.mpr nothing.submitted
  · intro last
    exact ⟨clones_le dialog presses start last, pairs.mp last⟩

end Attempts

def familyDialog {compiled : CompiledPolicy}
    (accepted : compile .lowercase (policyInput [familyInput]) sampleSalt = .ok compiled) :
    Dialog sampleSite.viem :=
  ⟨compiled, sampleSalt, text "family", family_compiled accepted⟩

def samplePress (clone : Address) (configure : Submission) : Press :=
  ⟨ConfidentialPolicy.ownerAccount, 1000000, sampleEnvironment clone configure successful⟩

-- The second transaction is rejected, and on the second try there are two policies.
theorem tried_again_repeated :
    ∃ (dialog : Dialog sampleSite.viem) (first second : Press),
      (∃ error left, run sampleSite (dialog.launch first).options first.env emptyWorld =
        .error error left) ∧
      (dialog.session [first, second] emptyWorld).clones =
        [⟨.replicate 20 0x44, sampleArguments⟩, ⟨.replicate 20 0x45, sampleArguments⟩] ∧
      ¬ NothingRepeated dialog [first, second] emptyWorld := by
  obtain ⟨compiled, accepted, -, -, called⟩ := family_called
  let dialog := familyDialog accepted
  let first := samplePress (.replicate 20 0x44) rejected
  let second := samplePress (.replicate 20 0x45) successful
  have starts (press : Press) (ready : press.env.provider = .ok ()) :
      Starts (dialog.launch press).options (dialog.launch press).env sampleArguments :=
    ⟨ready, called⟩
  have one := (starts first rfl).leads emptyWorld
  have two := (starts second rfl).leads ((dialog.launch first).attempt emptyWorld).world
  have clones : ((dialog.launch first).attempt emptyWorld).clones =
    [⟨.replicate 20 0x44, sampleArguments⟩] := one.clones
  have both : (dialog.session [first, second] emptyWorld).clones =
      [⟨.replicate 20 0x44, sampleArguments⟩, ⟨.replicate 20 0x45, sampleArguments⟩] := by
    refine two.clones.trans ?_
    rw [Attempt.world, clones]
    rfl
  refine ⟨dialog, first, second, ?_, both, fun nothing => ?_⟩
  · cases result : run sampleSite (dialog.launch first).options first.env emptyWorld with
    | ok entry final =>
      have persists : Persists (dialog.launch first).options _ _ := returns_persists result
      exact absurd persists.trigger.confirmed rejected_unconfirmed
    | error error final => exact ⟨error, final, rfl⟩
  · have few := nothing.clones
    rw [both] at few
    exact absurd few (by decide)

end FlareStudio.Web
