import FlareStudio.Shared.Bytes
import FlareStudio.Shared.Journal
import FlareStudio.Shared.Text
import FlareStudio.Shared.Throwing

set_option autoImplicit false

-- `RegisterNode` of the deployment tool takes a TEE from its pre-registration to production in
-- up to four steps, each a transaction on a chain that the tool does not control. It notes every
-- step in a state file, so that the tool can be run again after a failure.

namespace FlareStudio.Tools

open Throwing

abbrev Hash := Bytes32

structure RegistrationState where
  completedSteps : List Char
  teeAttestInstructionID : Hash
  instructionID : Hash

inductive StateFile where
  | missing
  | holds (state : RegistrationState)
  | unreadable (reason : Text)

def loadState : StateFile → Except Text RegistrationState
  | .missing => .ok ⟨[], .zero 32, .zero 32⟩
  | .holds state => .ok state
  | .unreadable reason => .error reason

/-- How writing the file ends: a failure leaves it as it was, or cut short. -/
inductive Write where
  | written
  | kept
  | cut (reason : Text)
deriving DecidableEq

def saveState (write : Write) (file : StateFile) (state : RegistrationState) : StateFile :=
  match write with
  | .written => .holds state
  | .kept => file
  | .cut reason => .unreadable reason

inductive Attestation where
  | preRegistration
  | request
deriving DecidableEq

def Attestation.letter : Attestation → Char
  | .preRegistration => 'r'
  | .request => 'R'

@[simp]
theorem Attestation.a_ne_letter (step : Attestation) : 'a' ≠ step.letter := by
  cases step <;> decide

@[simp]
theorem Attestation.p_ne_letter (step : Attestation) : 'p' ≠ step.letter := by
  cases step <;> decide

inductive Completed where
  | attestation (step : Attestation) (instructionID : Hash)
  | availabilityCheck (teeAttestInstructionID instructionID : Hash)
  | production (instructionID : Hash)
deriving DecidableEq

variable {Proof : Type}

/-- What a run of the tool is given, and what the chain, the proxies and the disk answer it. -/
structure Run (Proof : Type) where
  command : List Char
  instructionID : Hash
  teeProxyId : Except Text Unit
  registered : Bool
  preRegistration : Except Text Hash
  requestTeeAttestation : Attestation → Except Text Hash
  checkFTDCProxyPolicyConsistency : Except Text Unit
  requestFTDCAvailabilityCheck : Hash → Except Text Hash
  getFTDCAvailabilityCheckResult : Hash → Except Text Proof
  toProduction : Proof → Except Text Unit
  write : Char → Write
  removed : Bool

/-- Where a run stands: its state in memory, the file, and all that earlier runs and it have
completed on the chain. -/
structure Tool where
  state : RegistrationState
  file : StateFile
  completed : List Completed

namespace Run

variable (run : Run Proof)

def attest : Attestation → Except Text Hash
  | .preRegistration =>
    if run.registered then run.requestTeeAttestation .preRegistration else run.preRegistration
  | .request => run.requestTeeAttestation .request

def check (teeAttestInstructionID : Hash) : Except Text Hash :=
  match run.checkFTDCProxyPolicyConsistency with
  | .error e => .error e
  | .ok () => run.requestFTDCAvailabilityCheck teeAttestInstructionID

end Run

namespace Tool

def note (run : Run Proof) (letter : Char) (state : RegistrationState) (call : Completed)
    (tool : Tool) : Tool where
  state := { state with completedSteps := tool.state.completedSteps ++ [letter] }
  file := saveState (run.write letter) tool.file
    { state with completedSteps := tool.state.completedSteps ++ [letter] }
  completed := tool.completed ++ [call]

def attested (run : Run Proof) (step : Attestation) (id : Hash) (tool : Tool) : Tool :=
  tool.note run step.letter { tool.state with teeAttestInstructionID := id } (.attestation step id)

def checked (run : Run Proof) (teeAttestInstructionID id : Hash) (tool : Tool) : Tool :=
  tool.note run 'a' { tool.state with instructionID := id }
    (.availabilityCheck teeAttestInstructionID id)

end Tool

-- The blocks for `r` and `R`, which differ in what they ask the chain.
def attestation (run : Run Proof) (step : Attestation) (teeAttestInstructionID : Hash) :
    EStateM Text Tool Hash := do
  if step.letter ∈ run.command then
    let tool ← get
    if step.letter ∈ tool.state.completedSteps then
      return tool.state.teeAttestInstructionID
    else
      let id ← MonadExcept.ofExcept (run.attest step)
      modify (Tool.attested run step id)
      return id
  else
    return teeAttestInstructionID

def availabilityCheck (run : Run Proof) (teeAttestInstructionID : Hash) :
    EStateM Text Tool Hash := do
  if 'a' ∈ run.command then
    let tool ← get
    if 'a' ∈ tool.state.completedSteps then
      return tool.state.instructionID
    else
      let id ← MonadExcept.ofExcept (run.check teeAttestInstructionID)
      modify (Tool.checked run teeAttestInstructionID id)
      return id
  else
    return run.instructionID

def production (run : Run Proof) (instructionID : Hash) : EStateM Text Tool Unit := do
  if 'p' ∈ run.command then
    let proof ← MonadExcept.ofExcept (run.getFTDCAvailabilityCheckResult instructionID)
    MonadExcept.ofExcept (run.toProduction proof)
    modify fun tool =>
      { tool with completed := tool.completed ++ [.production instructionID] }

def RegisterNode (run : Run Proof) : EStateM Text Tool Unit := do
  MonadExcept.ofExcept run.teeProxyId
  let tool ← get
  let state ← MonadExcept.ofExcept (loadState tool.file)
  set { tool with state }
  let teeAttestInstructionID ← attestation run .preRegistration (.zero 32)
  let teeAttestInstructionID ← attestation run .request teeAttestInstructionID
  let instructionID ← availabilityCheck run teeAttestInstructionID
  production run instructionID
  modify fun tool => if run.removed then { tool with file := .missing } else tool

-- The tool run again, with `-resume`, as long as it fails.
def resumed : Run Proof → List (Run Proof) → EStateM Text Tool Unit
  | run, [] => RegisterNode run
  | run, next :: rest => tryCatch (RegisterNode run) fun _ => resumed next rest

section Ledger

def Completed.letter : Completed → Char
  | .attestation step _ => step.letter
  | .availabilityCheck _ _ => 'a'
  | .production _ => 'p'

@[simp]
theorem letter_attestation (step : Attestation) (id : Hash) :
    (Completed.attestation step id).letter = step.letter := rfl

@[simp]
theorem letter_availabilityCheck (used id : Hash) :
    (Completed.availabilityCheck used id).letter = 'a' := rfl

@[simp]
theorem letter_production (id : Hash) : (Completed.production id).letter = 'p' := rfl

def lastAttestation (completed : List Completed) : Option Hash :=
  completed.foldl (fun last call =>
    match call with
    | .attestation _ id => some id
    | _ => last) none

def lastCheck (completed : List Completed) : Option Hash :=
  completed.foldl (fun last call =>
    match call with
    | .availabilityCheck _ id => some id
    | _ => last) none

@[simp]
theorem lastAttestation_concat (completed : List Completed) (call : Completed) :
    lastAttestation (completed ++ [call]) =
      match call with
      | .attestation _ id => some id
      | _ => lastAttestation completed := by
  rw [lastAttestation, List.foldl_append]
  rfl

@[simp]
theorem lastCheck_concat (completed : List Completed) (call : Completed) :
    lastCheck (completed ++ [call]) =
      match call with
      | .availabilityCheck _ id => some id
      | _ => lastCheck completed := by
  rw [lastCheck, List.foldl_append]
  rfl

/-- A check is of the latest attestation, and it is the latest check that goes to production. -/
def Follows (before : List Completed) : Completed → Prop
  | .attestation _ _ => True
  | .availabilityCheck teeAttestInstructionID _ =>
    lastAttestation before = some teeAttestInstructionID
  | .production instructionID => lastCheck before = some instructionID

/-- No step is completed twice, and each builds on the one before it. -/
structure Ordered (completed : List Completed) : Prop where
  once : (completed.map Completed.letter).Nodup
  follows : ∀ before call after, completed = before ++ call :: after → Follows before call

theorem Ordered.concat {completed : List Completed} {call : Completed}
    (ordered : Ordered completed) (fresh : call.letter ∉ completed.map Completed.letter)
    (follows : Follows completed call) : Ordered (completed ++ [call]) where
  once := by simpa using List.Nodup.concat fresh ordered.once
  follows before other after split := by
    cases after using List.reverseRecOn with
    | nil =>
      have same := List.append_inj' split rfl
      simp_all
    | append_singleton after final _ =>
      have same : completed = before ++ other :: after := by
        rw [← List.cons_append, ← List.append_assoc] at split
        exact (List.append_inj' split rfl).1
      exact ordered.follows before other after same

theorem lastAttestation_of_step {completed : List Completed} {step : Attestation}
    (member : step.letter ∈ completed.map Completed.letter) :
    ∃ id, lastAttestation completed = some id := by
  induction completed using List.reverseRecOn with
  | nil => simp at member
  | append_singleton completed call ih =>
    rw [lastAttestation_concat]
    cases call with
    | attestation other id => exact ⟨id, rfl⟩
    | availabilityCheck used id => exact ih (by simpa [step.a_ne_letter.symm] using member)
    | production id => exact ih (by simpa [step.p_ne_letter.symm] using member)

theorem lastCheck_of_step {completed : List Completed}
    (member : 'a' ∈ completed.map Completed.letter) : ∃ id, lastCheck completed = some id := by
  induction completed using List.reverseRecOn with
  | nil => simp at member
  | append_singleton completed call ih =>
    rw [lastCheck_concat]
    cases call with
    | attestation step id => exact ih (by simpa [eq_comm] using member)
    | availabilityCheck used id => exact ⟨id, rfl⟩
    | production id => exact ih (by simpa using member)

/-- The state in memory and in the file is that of what has been completed. -/
structure Recorded (tool : Tool) : Prop where
  saved : loadState tool.file = .ok tool.state
  steps : tool.state.completedSteps = tool.completed.map Completed.letter
  running : 'p' ∉ tool.state.completedSteps
  attestation : tool.state.teeAttestInstructionID = (lastAttestation tool.completed).getD (.zero 32)
  check : tool.state.instructionID = (lastCheck tool.completed).getD (.zero 32)
  ordered : Ordered tool.completed

variable {run : Run Proof} {tool : Tool} (written : ∀ letter, run.write letter = .written)

include written

theorem Recorded.attested (recorded : Recorded tool) {step : Attestation}
    (fresh : step.letter ∉ tool.state.completedSteps) (id : Hash) :
    Recorded (tool.attested run step id) where
  saved := by simp [Tool.attested, Tool.note, written, saveState, loadState]
  steps := by simp [Tool.attested, Tool.note, recorded.steps]
  running := by simp [Tool.attested, Tool.note, recorded.running]
  attestation := by simp [Tool.attested, Tool.note]
  check := by simp [Tool.attested, Tool.note, recorded.check]
  ordered := by
    rw [recorded.steps] at fresh
    exact recorded.ordered.concat fresh trivial

theorem Recorded.checked (recorded : Recorded tool) {used : Hash}
    (fresh : 'a' ∉ tool.state.completedSteps) (latest : lastAttestation tool.completed = some used)
    (id : Hash) : Recorded (tool.checked run used id) where
  saved := by simp [Tool.checked, Tool.note, written, saveState, loadState]
  steps := by simp [Tool.checked, Tool.note, recorded.steps]
  running := by simp [Tool.checked, Tool.note, recorded.running]
  attestation := by simp [Tool.checked, Tool.note, recorded.attestation]
  check := by simp [Tool.checked, Tool.note]
  ordered := by
    rw [recorded.steps] at fresh
    exact recorded.ordered.concat fresh latest

-- The id that a block hands on is the latest one, if its step or the one before it is asked for.
theorem attestation_ends (recorded : Recorded tool) (step : Attestation) {given : Hash}
    {asked : Prop} (before : asked → lastAttestation tool.completed = some given) :
    Ends (attestation run step given) tool
      (fun id later => Recorded later ∧
        (asked ∨ step.letter ∈ run.command → lastAttestation later.completed = some id))
      (fun _ later => Recorded later) := by
  by_cases named : step.letter ∈ run.command
  · by_cases taken : step.letter ∈ tool.state.completedSteps
    · have latest : lastAttestation tool.completed = some tool.state.teeAttestInstructionID := by
        obtain ⟨id, last⟩ := lastAttestation_of_step (recorded.steps ▸ taken)
        simp [recorded.attestation, last]
      simp [attestation, named, taken, recorded, latest]
    · simp only [attestation, named, taken, if_true, if_false, ends_bind, ends_get, ends_ofExcept,
        ends_modify, ends_pure]
      constructor
      · intro id answered
        refine ⟨recorded.attested written taken id, ?_⟩
        simp [Tool.attested, Tool.note]
      · intro e failed
        exact recorded
  · simpa [attestation, named, recorded] using before

theorem availabilityCheck_ends (recorded : Recorded tool) {used : Hash}
    (latest : 'a' ∈ run.command → lastAttestation tool.completed = some used) :
    Ends (availabilityCheck run used) tool
      (fun id later => Recorded later ∧
        ('a' ∈ run.command → lastCheck later.completed = some id))
      (fun _ later => Recorded later) := by
  by_cases named : 'a' ∈ run.command
  · by_cases taken : 'a' ∈ tool.state.completedSteps
    · have checked : lastCheck tool.completed = some tool.state.instructionID := by
        obtain ⟨id, last⟩ := lastCheck_of_step (recorded.steps ▸ taken)
        simp [recorded.check, last]
      simp [availabilityCheck, named, taken, recorded, checked]
    · simp only [availabilityCheck, named, taken, if_true, if_false, ends_bind, ends_get,
        ends_ofExcept, ends_modify, ends_pure]
      constructor
      · intro id answered
        refine ⟨recorded.checked written taken (latest named) id, ?_⟩
        simp [Tool.checked, Tool.note]
      · intro e failed
        exact recorded
  · simp [availabilityCheck, named, recorded]

/-- The availability check is named with an attestation before it, and production with a check. -/
def InOrder (command : List Char) : Prop :=
  ('a' ∈ command → 'r' ∈ command ∨ 'R' ∈ command) ∧ ('p' ∈ command → 'a' ∈ command)

instance (command : List Char) : Decidable (InOrder command) :=
  inferInstanceAs (Decidable (_ ∧ _))

omit written in
theorem production_ends (recorded : Recorded tool) {id : Hash}
    (latest : 'p' ∈ run.command → lastCheck tool.completed = some id) :
    Ends (production run id) tool (fun _ later => Ordered later.completed)
      (fun _ later => Recorded later) := by
  by_cases named : 'p' ∈ run.command
  · have fresh : 'p' ∉ tool.completed.map Completed.letter := recorded.steps ▸ recorded.running
    simp only [production, named, if_true, ends_bind, ends_ofExcept, ends_modify]
    constructor
    · intro proof proved
      constructor
      · intro _ promoted
        exact recorded.ordered.concat fresh (latest named)
      · intro e failed
        exact recorded
    · intro e failed
      exact recorded
  · simpa [production, named] using recorded.ordered

theorem RegisterNode_ends (recorded : Recorded tool) (inOrder : InOrder run.command) :
    Ends (RegisterNode run) tool (fun _ later => Ordered later.completed)
      (fun _ later => Recorded later) := by
  rw [RegisterNode, ends_bind, ends_ofExcept]
  constructor
  · intro _ identified
    rw [ends_bind, ends_get, ends_bind, recorded.saved, ends_ofExcept_ok, ends_bind, ends_set]
    have first := attestation_ends written recorded .preRegistration
      (show False → lastAttestation tool.completed = some (.zero 32) from False.elim)
    apply first.bind
    rintro given later ⟨recorded, latest⟩
    apply (attestation_ends written recorded .request latest).bind
    rintro used later ⟨recorded, latest⟩
    have challenged : 'a' ∈ run.command → lastAttestation later.completed = some used := by
      intro named
      apply latest
      simpa [Attestation.letter] using inOrder.1 named
    apply (availabilityCheck_ends written recorded challenged).bind
    rintro id later ⟨recorded, checked⟩
    apply (production_ends recorded fun named => checked (inOrder.2 named)).bind
    intro _ later ordered
    by_cases removed : run.removed <;> simpa [removed] using ordered
  · intro e failed
    exact recorded

end Ledger

def Tool.start : Tool := ⟨⟨[], .zero 32, .zero 32⟩, .missing, []⟩

theorem Recorded.start : Recorded Tool.start where
  saved := rfl
  steps := rfl
  running := by simp [Tool.start]
  attestation := rfl
  check := rfl
  ordered := ⟨by simp [Tool.start], by simp [Tool.start]⟩

def expired : Run Unit where
  command := ['r', 'R', 'a', 'p']
  instructionID := .zero 32
  teeProxyId := .ok ()
  registered := false
  preRegistration := .ok (.replicate 32 1)
  requestTeeAttestation _ := .ok (.replicate 32 2)
  checkFTDCProxyPolicyConsistency := .ok ()
  requestFTDCAvailabilityCheck _ := .error (text "ChallengeExpired")
  getFTDCAvailabilityCheckResult _ := .ok ()
  toProduction _ := .ok ()
  write _ := .written
  removed := true

def renewed : Run Unit :=
  { expired with requestFTDCAvailabilityCheck := fun _ => .ok (.replicate 32 3) }

example : (left ((resumed expired [renewed]).run Tool.start)).completed =
    [.attestation .preRegistration (.replicate 32 1), .attestation .request (.replicate 32 2),
      .availabilityCheck (.replicate 32 2) (.replicate 32 3), .production (.replicate 32 3)] := by
  decide

section Resuming

namespace Run

variable (run : Run Proof)

def used (tool : Tool) : Hash :=
  if 'r' ∈ run.command ∨ 'R' ∈ run.command then tool.state.teeAttestInstructionID else .zero 32

def ask (letter : Char) (tool : Tool) : Except Text Hash :=
  if letter = 'r' then run.attest .preRegistration
  else if letter = 'R' then run.attest .request
  else if letter = 'a' then run.check (run.used tool)
  else .error []

def perform (letter : Char) (id : Hash) (tool : Tool) : Tool :=
  if letter = 'r' then tool.attested run .preRegistration id
  else if letter = 'R' then tool.attested run .request id
  else tool.note run letter { tool.state with instructionID := id }
    (.availabilityCheck (run.used tool) id)

def named (letter : Char) : List Char := if letter ∈ run.command then [letter] else []

def steps : List Char := run.named 'r' ++ (run.named 'R' ++ run.named 'a')

end Run

abbrev Tool.done (tool : Tool) : List Char := tool.state.completedSteps

variable {run first second : Run Proof} {tool : Tool}

theorem perform_done (run : Run Proof) (letter : Char) (id : Hash) (tool : Tool) :
    (run.perform letter id tool).done = tool.done ++ [letter] := by
  unfold Run.perform
  split_ifs with r R
  · rw [r]
    rfl
  · rw [R]
    rfl
  · rfl

theorem attestation_attempts (step : Attestation) (given : Tool → Hash) :
    Journal.Attempts Tool.done run.ask run.perform (attestation run step (given tool))
      (run.named step.letter)
      (fun later => if step.letter ∈ run.command then later.state.teeAttestInstructionID
        else given later) tool := by
  have asks (tool : Tool) : run.ask step.letter tool = run.attest step := by cases step <;> rfl
  have performs : run.perform step.letter = Tool.attested run step := by cases step <;> rfl
  unfold Journal.Attempts
  by_cases member : step.letter ∈ run.command
  · by_cases taken : step.letter ∈ tool.state.completedSteps
    · simp [attestation, Run.named, member, Journal.attempt, taken]
    · cases answered : run.attest step with
      | error e =>
        simp only [attestation, Run.named, member, if_true, Journal.attempt, taken, if_false, asks,
          answered]
        simp [taken]
        rfl
      | ok id =>
        simp [attestation, Run.named, member, Journal.attempt, taken, asks, answered, performs]
        rfl
  · simp [attestation, Run.named, member, Journal.attempt]

theorem availabilityCheck_attempts :
    Journal.Attempts Tool.done run.ask run.perform (availabilityCheck run (run.used tool))
      (run.named 'a')
      (fun later => if 'a' ∈ run.command then later.state.instructionID else run.instructionID)
      tool := by
  have asks : run.ask 'a' tool = run.check (run.used tool) := rfl
  have performs (id : Hash) : run.perform 'a' id tool = tool.checked run (run.used tool) id := rfl
  unfold Journal.Attempts
  by_cases member : 'a' ∈ run.command
  · by_cases taken : 'a' ∈ tool.state.completedSteps
    · simp [availabilityCheck, Run.named, member, Journal.attempt, taken]
    · cases answered : run.check (run.used tool) with
      | error e =>
        simp [availabilityCheck, Run.named, member, Journal.attempt, taken, asks, answered]
        rfl
      | ok id =>
        simp [availabilityCheck, Run.named, member, Journal.attempt, taken, asks, answered,
          performs]
        rfl
  · simp [availabilityCheck, Run.named, member, Journal.attempt]

/-- The part of `RegisterNode` that the state file is about. -/
def journaled (run : Run Proof) : EStateM Text Tool Hash := do
  let teeAttestInstructionID ← attestation run .preRegistration (.zero 32)
  let teeAttestInstructionID ← attestation run .request teeAttestInstructionID
  availabilityCheck run teeAttestInstructionID

def finish (run : Run Proof) (instructionID : Hash) : EStateM Text Tool Unit := do
  production run instructionID
  modify fun tool => if run.removed then { tool with file := .missing } else tool

theorem journaled_attempts :
    Journal.Attempts Tool.done run.ask run.perform (journaled run) run.steps
      (fun later => if 'a' ∈ run.command then later.state.instructionID else run.instructionID)
      tool := by
  apply (attestation_attempts .preRegistration fun _ => .zero 32).bind
  intro later
  apply (attestation_attempts .request fun later =>
    if 'r' ∈ run.command then later.state.teeAttestInstructionID else .zero 32).bind
  intro later
  convert availabilityCheck_attempts using 2
  by_cases R : 'R' ∈ run.command <;> simp [Run.used, R, Attestation.letter]

theorem RegisterNode_run {state : RegistrationState} (identified : run.teeProxyId = .ok ())
    (loaded : loadState tool.file = .ok state) :
    (RegisterNode run).run tool =
      match Journal.attempt Tool.done run.ask run.perform run.steps { tool with state } with
      | (.ok (), later) =>
        (finish run (if 'a' ∈ run.command then later.state.instructionID
          else run.instructionID)).run later
      | (.error e, later) => .error e later := by
  have whole : (RegisterNode run).run tool =
      (journaled run >>= finish run).run { tool with state } := by
    have asked : (MonadExcept.ofExcept (Except.ok ()) : EStateM Text Tool Unit) = pure () := rfl
    have found : (MonadExcept.ofExcept (Except.ok state) : EStateM Text Tool RegistrationState) =
      pure state := rfl
    simp [RegisterNode, journaled, identified, bind_assoc, asked, loaded, found]
    rfl
  have attempts := @journaled_attempts _ run { tool with state }
  unfold Journal.Attempts at attempts
  rw [whole, EStateM.run_bind, attempts]
  match Journal.attempt Tool.done run.ask run.perform run.steps { tool with state } with
  | (.ok (), later) => rfl
  | (.error e, later) => rfl

theorem finish_error {id : Hash} {e : Text} {later : Tool}
    (failed : (finish run id).run tool = .error e later) : later = tool := by
  have ends : Ends (finish run id) tool (fun _ _ => True) (fun _ final => final = tool) := by
    by_cases named : 'p' ∈ run.command <;> simp [finish, production, named]
  simpa [Ends, failed] using ends

/-- The first run's answers to the steps it took, and else the second's. -/
def Run.merged (taken : List Char) (first second : Run Proof) : Run Proof :=
  { second with
    registered := if 'r' ∈ taken then first.registered else second.registered
    preRegistration := if 'r' ∈ taken then first.preRegistration else second.preRegistration
    requestTeeAttestation := fun step =>
      if step.letter ∈ taken then first.requestTeeAttestation step
      else second.requestTeeAttestation step
    checkFTDCProxyPolicyConsistency :=
      if 'a' ∈ taken then first.checkFTDCProxyPolicyConsistency
      else second.checkFTDCProxyPolicyConsistency
    requestFTDCAvailabilityCheck :=
      if 'a' ∈ taken then first.requestFTDCAvailabilityCheck
      else second.requestFTDCAvailabilityCheck }

def Among {β : Type} (got : Run Proof → β) (runs : List (Run Proof)) (once : Run Proof) : Prop :=
  ∃ run ∈ runs, got once = got run

structure Drawn (runs : List (Run Proof)) (once : Run Proof) : Prop where
  attest : ∀ step, Among (Run.attest · step) runs once
  check : Among Run.check runs once
  write : Among Run.write runs once
  production : Among (fun run => (run.teeProxyId, run.getFTDCAvailabilityCheckResult,
    run.toProduction, run.removed)) runs once

theorem merged_attest (taken : List Char) (step : Attestation) :
    (Run.merged taken first second).attest step =
      if step.letter ∈ taken then first.attest step else second.attest step := by
  cases step with
  | preRegistration =>
    by_cases member : 'r' ∈ taken <;>
      simp [Run.attest, Run.merged, Attestation.letter, member]
  | request => simp [Run.attest, Run.merged]

theorem merged_check (taken : List Char) :
    (Run.merged taken first second).check =
      if 'a' ∈ taken then first.check else second.check := by
  funext used
  by_cases member : 'a' ∈ taken <;> simp [Run.check, Run.merged, member]

theorem merged_ask (same : first.command = second.command) (taken : List Char) :
    (Run.merged taken first second).ask = Journal.merge taken first.ask second.ask := by
  funext letter tool
  have used : first.used tool = second.used tool := by simp [Run.used, same]
  have merged_used : (Run.merged taken first second).used tool = second.used tool := rfl
  by_cases r : letter = 'r'
  · by_cases member : 'r' ∈ taken <;>
      simp [Run.ask, r, merged_attest, Attestation.letter, Journal.merge, member]
  · by_cases R : letter = 'R'
    · by_cases member : 'R' ∈ taken <;>
        simp [Run.ask, R, merged_attest, Attestation.letter, Journal.merge, member]
    · by_cases a : letter = 'a'
      · by_cases member : 'a' ∈ taken <;>
          simp [Run.ask, a, merged_check, Journal.merge, member, used, merged_used]
      · by_cases member : letter ∈ taken <;> simp [Run.ask, r, R, a, Journal.merge, member]

theorem perform_congr (command : first.command = second.command)
    (write : first.write = second.write) : first.perform = second.perform := by
  funext letter id tool
  simp [Run.perform, Tool.attested, Tool.note, Run.used, command, write]

def ended : EStateM.Result Text Tool Unit → Bool × Tool
  | .ok () tool => (true, tool)
  | .error _ tool => (false, tool)

theorem saved_attempt (written : ∀ letter, run.write letter = .written)
    (saved : loadState tool.file = .ok tool.state) :
    loadState (Journal.attempt Tool.done run.ask run.perform run.steps tool).2.file =
      .ok (Journal.attempt Tool.done run.ask run.perform run.steps tool).2.state := by
  refine Journal.attempt_invariant
    (fun later : Tool => loadState later.file = .ok later.state) ?_ saved
  intro letter member later id kept fresh answered
  unfold Run.perform
  split_ifs <;> simp [Tool.attested, Tool.note, written, saveState, loadState]

theorem Drawn.of_mem {runs : List (Run Proof)} (member : run ∈ runs) : Drawn runs run where
  attest _ := ⟨run, member, rfl⟩
  check := ⟨run, member, rfl⟩
  write := ⟨run, member, rfl⟩
  production := ⟨run, member, rfl⟩

theorem Drawn.merged (taken : List Char) :
    Drawn [first, second] (Run.merged taken first second) where
  attest step := by
    by_cases member : step.letter ∈ taken <;> simp [Among, merged_attest, member]
  check := by by_cases member : 'a' ∈ taken <;> simp [Among, merged_check, member]
  write := ⟨second, by simp, rfl⟩
  production := ⟨second, by simp, rfl⟩

theorem Among.trans {β : Type} {got : Run Proof → β} {runs : List (Run Proof)} {once : Run Proof}
    (outer : Among got [run, second] once) (inner : Among got runs second) :
    Among got (run :: runs) once := by
  obtain ⟨each, member, same⟩ := outer
  obtain ⟨other, inside, alike⟩ := inner
  simp only [List.mem_cons, List.not_mem_nil, or_false] at member
  obtain rfl | rfl := member
  · exact ⟨each, List.mem_cons_self, same⟩
  · exact ⟨other, List.mem_cons_of_mem _ inside, same.trans alike⟩

theorem Drawn.trans {runs : List (Run Proof)} {once : Run Proof} (outer : Drawn [run, second] once)
    (inner : Drawn runs second) : Drawn (run :: runs) once where
  attest step := (outer.attest step).trans (inner.attest step)
  check := outer.check.trans inner.check
  write := outer.write.trans inner.write
  production := outer.production.trans inner.production

theorem RegisterNode_stopped {e : Text} (stopped : run.teeProxyId = .error e) :
    (RegisterNode run).run tool = .error e tool := by
  rw [RegisterNode, stopped]
  rfl

theorem RegisterNode_unread {e : Text} (identified : run.teeProxyId = .ok ())
    (unread : loadState tool.file = .error e) : (RegisterNode run).run tool = .error e tool := by
  have ends : Ends (RegisterNode run) tool (fun _ _ => False) fun e' later => e' = e ∧ later = tool
      := by
    rw [RegisterNode, identified, ends_bind, ends_ofExcept_ok, ends_bind, ends_get, ends_bind,
      unread, ends_ofExcept_error]
    exact ⟨rfl, rfl⟩
  cases ran : (RegisterNode run).run tool with
  | ok _ later => simp [Ends, ran] at ends
  | error e' later =>
    simp only [Ends, ran] at ends
    rw [ends.1, ends.2]

theorem RegisterNode_failed {e : Text} {later : Tool}
    (failed : (RegisterNode run).run tool = .error e later) :
    later = tool ∨ ∃ state, loadState tool.file = .ok state ∧ run.teeProxyId = .ok () ∧
      later = (Journal.attempt Tool.done run.ask run.perform run.steps { tool with state }).2 := by
  cases identified : run.teeProxyId with
  | error stopped =>
    rw [RegisterNode_stopped identified] at failed
    cases failed
    exact .inl rfl
  | ok _ =>
    cases loaded : loadState tool.file with
    | error unread =>
      rw [RegisterNode_unread identified loaded] at failed
      cases failed
      exact .inl rfl
    | ok state =>
      refine .inr ⟨state, rfl, rfl, ?_⟩
      rw [RegisterNode_run identified loaded] at failed
      match attempted :
        Journal.attempt Tool.done run.ask run.perform run.steps { tool with state } with
      | (.ok (), mid) =>
        rw [attempted] at failed
        exact finish_error failed
      | (.error unanswered, mid) =>
        rw [attempted] at failed
        cases failed
        rfl

-- The second run finds the state that the first run failed with.
theorem again_once (same : first.command = second.command)
    (given : first.instructionID = second.instructionID)
    (writtenFirst : ∀ letter, first.write letter = .written)
    (writtenSecond : ∀ letter, second.write letter = .written) {e : Text} {later : Tool}
    (failed : (RegisterNode first).run tool = .error e later) :
    ∃ once, Drawn [first, second] once ∧ once.command = second.command ∧
      once.instructionID = second.instructionID ∧
      ended ((RegisterNode second).run later) = ended ((RegisterNode once).run tool) := by
  obtain rfl | ⟨state, loaded, identified, reached⟩ := RegisterNode_failed failed
  · exact ⟨second, .of_mem (by simp), rfl, rfl, rfl⟩
  · cases known : second.teeProxyId with
    | error stopped =>
      refine ⟨first, .of_mem (by simp), same, given, ?_⟩
      rw [failed, RegisterNode_stopped known]
      rfl
    | ok _ =>
      have write : first.write = second.write := by
        funext letter
        rw [writtenFirst, writtenSecond]
      have performs : first.perform = second.perform := perform_congr same write
      have saved : loadState later.file = .ok later.state := by
        rw [reached]
        exact saved_attempt writtenFirst loaded
      have steps : first.steps = second.steps := by simp only [Run.steps, Run.named, same]
      have again : Journal.attempt Tool.done second.ask second.perform second.steps later =
          Journal.attempt Tool.done (Run.merged later.done first second).ask second.perform
            second.steps { tool with state } := by
        rw [merged_ask same, reached, ← performs, ← steps]
        exact Journal.attempt_again (perform_done first) _
      refine ⟨Run.merged later.done first second, .merged _, rfl, rfl, congrArg ended ?_⟩
      rw [RegisterNode_run known saved, again]
      exact (@RegisterNode_run _ (Run.merged later.done first second) _ _ known loaded).symm

/-- However often it fails first, a resumed registration ends as one run does that gets, step by
step, an answer that one of the runs got. -/
theorem resumed_once (run : Run Proof) (rest : List (Run Proof))
    (same : ∀ each ∈ rest, each.command = run.command ∧ each.instructionID = run.instructionID)
    (written : ∀ each ∈ run :: rest, ∀ letter, each.write letter = .written) (tool : Tool) :
    ∃ once, Drawn (run :: rest) once ∧ once.command = run.command ∧
      once.instructionID = run.instructionID ∧
      ended ((resumed run rest).run tool) = ended ((RegisterNode once).run tool) := by
  induction rest generalizing run tool with
  | nil => exact ⟨run, .of_mem (by simp), rfl, rfl, rfl⟩
  | cons next rest ih =>
    rw [List.forall_mem_cons] at written same
    cases ran : (RegisterNode run).run tool with
    | ok _ later =>
      refine ⟨run, .of_mem (by simp), rfl, rfl, ?_⟩
      rw [resumed, run_tryCatch, ran]
    | error e later =>
      have goes : (resumed run (next :: rest)).run tool = (resumed next rest).run later := by
        rw [resumed, run_tryCatch, ran]
      obtain ⟨once, drawn, command, given, ends⟩ := ih next (by
        intro each member
        rw [same.1.1, same.1.2]
        exact same.2 each member) written.2 later
      have writes : ∀ letter, once.write letter = .written := by
        obtain ⟨each, member, alike⟩ := drawn.write
        intro letter
        rw [alike]
        exact written.2 each member letter
      obtain ⟨whole, outer, command', given', ends'⟩ := again_once
        (same.1.1.symm.trans command.symm) (same.1.2.symm.trans given.symm) written.1 writes ran
      refine ⟨whole, outer.trans drawn, ?_, ?_, ?_⟩
      · rw [command', command, same.1.1]
      · rw [given', given, same.1.2]
      · rw [goes, ends, ends']

theorem resumed_once_renewed : ∃ once, Drawn [expired, renewed] once ∧
    once.command = expired.command ∧ once.instructionID = expired.instructionID ∧
      ended ((resumed expired [renewed]).run Tool.start) =
        ended ((RegisterNode once).run Tool.start) :=
  resumed_once expired [renewed] (by simp [renewed]) (by simp [expired, renewed]) Tool.start

end Resuming

end FlareStudio.Tools
