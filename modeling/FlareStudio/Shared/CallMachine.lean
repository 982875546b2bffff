import FlareStudio.Shared.Reentrant

set_option autoImplicit false

-- A contract is a family of entry programs over one state. Foreign code may call it at any time
-- that the contract is not running, also while an earlier call waits for an answer, and a call
-- that reverts restores the world it found. A foreign call frame of its own can revert
-- everything done inside it.

namespace FlareStudio.CallMachine

open Reentrant

variable {σ ε Q A ι : Type}

-- A foreign call, with the call that made it and the state that call found on entry.
structure Entry (σ Q ι : Type) where
  id : Nat
  input : ι
  found : σ
  query : Q

abbrev CallWorld (σ Q ι : Type) := World σ (Entry σ Q ι)

structure Waiting (σ ε Q A ι : Type) where
  id : Nat
  input : ι
  query : Q
  asked : CallWorld σ Q ι
  resume : A → σ → Outcome σ ε Q A Unit

-- A call in progress; `none` stands for foreign code that is not the contract's own.
structure Frame (σ ε Q A ι : Type) where
  saved : CallWorld σ Q ι
  waiting : Option (Waiting σ ε Q A ι)

structure Machine (σ ε Q A ι : Type) where
  world : CallWorld σ Q ι
  -- Counts calls and is never rolled back, so an id names one call.
  entered : Nat
  stack : List (Frame σ ε Q A ι)

inductive Input (A ι : Type) where
  | call (input : ι)
  | answer (value : A)
  | enter
  | leave
  | abort

-- A static query cannot call back.
structure Contract (σ ε Q A ι : Type) where
  entry : ι → Program σ ε Q A Unit
  isStatic : Q → Bool

def Machine.start (state : σ) : Machine σ ε Q A ι := ⟨⟨state, []⟩, 0, []⟩

def callable (isStatic : Q → Bool) : List (Frame σ ε Q A ι) → Bool
  | ⟨_, some waiting⟩ :: _ => !isStatic waiting.query
  | _ => true

def settle (id : Nat) (input : ι) (saved : CallWorld σ Q ι) (entered : Nat)
    (rest : List (Frame σ ε Q A ι)) (log : List (Entry σ Q ι)) :
    Outcome σ ε Q A Unit → Machine σ ε Q A ι
  | .done _ state => ⟨⟨state, log⟩, entered, rest⟩
  | .revert _ => ⟨saved, entered, rest⟩
  | .call query state resume =>
      let asked := ⟨state, log ++ [⟨id, input, saved.state, query⟩]⟩
      ⟨asked, entered, ⟨saved, some ⟨id, input, query, asked, resume⟩⟩ :: rest⟩

def Machine.step (contract : Contract σ ε Q A ι) (machine : Machine σ ε Q A ι) :
    Input A ι → Option (Machine σ ε Q A ι)
  | .call input =>
      if callable contract.isStatic machine.stack then
        some (settle machine.entered input machine.world (machine.entered + 1) machine.stack
          machine.world.log (contract.entry input machine.world.state))
      else none
  | .answer value =>
      match machine.stack with
      | ⟨saved, some waiting⟩ :: rest =>
          some (settle waiting.id waiting.input saved machine.entered rest machine.world.log
            (waiting.resume value machine.world.state))
      | _ => none
  | .enter =>
      if callable contract.isStatic machine.stack then
        some { machine with stack := ⟨machine.world, none⟩ :: machine.stack }
      else none
  | .leave =>
      match machine.stack with
      | ⟨_, none⟩ :: rest => some { machine with stack := rest }
      | _ => none
  | .abort =>
      match machine.stack with
      | ⟨saved, none⟩ :: rest => some { machine with world := saved, stack := rest }
      | _ => none

def Machine.runs (contract : Contract σ ε Q A ι) (machine : Machine σ ε Q A ι)
    (inputs : List (Input A ι)) : Option (Machine σ ε Q A ι) :=
  inputs.foldlM (Machine.step contract) machine

inductive Reachable (contract : Contract σ ε Q A ι)
    (allowed : Machine σ ε Q A ι → Input A ι → Prop) (start : Machine σ ε Q A ι) :
    Machine σ ε Q A ι → Prop
  | refl : Reachable contract allowed start start
  | step {machine next : Machine σ ε Q A ι} {input : Input A ι}
      (reached : Reachable contract allowed start machine)
      (permitted : allowed machine input)
      (stepped : machine.step contract input = some next) :
      Reachable contract allowed start next

theorem Reachable.mono {contract : Contract σ ε Q A ι}
    {allowed allowed' : Machine σ ε Q A ι → Input A ι → Prop} {start machine : Machine σ ε Q A ι}
    (weaker : ∀ machine input, allowed machine input → allowed' machine input)
    (reached : Reachable contract allowed start machine) :
    Reachable contract allowed' start machine := by
  induction reached with
  | refl => exact .refl
  | step _ permitted stepped ih => exact .step ih (weaker _ _ permitted) stepped

def Permitted (contract : Contract σ ε Q A ι) (allowed : Machine σ ε Q A ι → Input A ι → Prop) :
    Machine σ ε Q A ι → List (Input A ι) → Prop
  | _, [] => True
  | machine, input :: rest =>
      allowed machine input ∧
        ∀ next, machine.step contract input = some next → Permitted contract allowed next rest

theorem Permitted.reachable {contract : Contract σ ε Q A ι}
    {allowed : Machine σ ε Q A ι → Input A ι → Prop} {start middle machine : Machine σ ε Q A ι}
    {inputs : List (Input A ι)} (permitted : Permitted contract allowed middle inputs)
    (reached : Reachable contract allowed start middle)
    (ran : middle.runs contract inputs = some machine) :
    Reachable contract allowed start machine := by
  induction inputs generalizing middle with
  | nil =>
    cases ran
    exact reached
  | cons input rest ih =>
    simp only [Machine.runs, List.foldlM_cons, Option.bind_eq_bind,
      Option.bind_eq_some_iff] at ran
    obtain ⟨next, stepped, ran⟩ := ran
    exact ih (permitted.2 next stepped) (reached.step permitted.1 stepped) ran

-- Every call guarantees `G` between the world it found and each world it leaves; while it waits
-- it relies on `G` in turn, and on whatever the steps of the run are allowed to do with its
-- query.

section RelyGuarantee

variable (contract : Contract σ ε Q A ι)
variable (G : CallWorld σ Q ι → CallWorld σ Q ι → Prop)
variable (admits : CallWorld σ Q ι → Q → A → CallWorld σ Q ι → Prop)

def callRules (id : Nat) (input : ι) (saved : CallWorld σ Q ι) :
    Rules σ (Entry σ Q ι) Q A where
  record query := ⟨id, input, saved.state, query⟩
  guarantee := G saved
  rely query answer asked found :=
    (contract.isStatic query = true → found = asked) ∧ G asked found ∧
      admits saved query answer found

@[simp]
theorem callRules_record (id : Nat) (input : ι) (saved : CallWorld σ Q ι) (query : Q) :
    (callRules contract G admits id input saved).record query =
      ⟨id, input, saved.state, query⟩ := rfl

def Admitted (machine : Machine σ ε Q A ι) : Input A ι → Prop
  | .answer value =>
      match machine.stack with
      | ⟨saved, some waiting⟩ :: _ => admits saved waiting.query value machine.world
      | _ => True
  | _ => True

structure Guaranteed (initial : CallWorld σ Q ι) : Prop where
  refl : ∀ world, G world world
  trans : ∀ {first second third}, G first second → G second third → G first third
  entry : ∀ id input world, G initial world →
    Program.wp (callRules contract G admits id input world) (contract.entry input)
      (fun _ => G world) world

def Resumes (saved : CallWorld σ Q ι) (waiting : Waiting σ ε Q A ι) : Prop :=
  ∀ answer found,
    (callRules contract G admits waiting.id waiting.input saved).rely
      waiting.query answer waiting.asked found →
    (waiting.resume answer found.state).Ensures
      (callRules contract G admits waiting.id waiting.input saved) (fun _ => G saved) found.log

-- The world now is related to the one each frame saved, frame by frame down the stack.
def Stacked (initial : CallWorld σ Q ι) : CallWorld σ Q ι → List (Frame σ ε Q A ι) → Prop
  | world, [] => G initial world
  | world, ⟨saved, none⟩ :: rest =>
      G saved world ∧ callable contract.isStatic rest = true ∧ Stacked initial saved rest
  | world, ⟨saved, some waiting⟩ :: rest =>
      G saved waiting.asked ∧ G waiting.asked world ∧
        (contract.isStatic waiting.query = true → world = waiting.asked) ∧
        Resumes contract G admits saved waiting ∧
        callable contract.isStatic rest = true ∧ Stacked initial saved rest

variable {contract G admits} {initial : CallWorld σ Q ι}

theorem Stacked.since_start (sound : Guaranteed (A := A) (ε := ε) contract G admits initial)
    {world : CallWorld σ Q ι} {stack : List (Frame σ ε Q A ι)}
    (stacked : Stacked contract G admits initial world stack) : G initial world := by
  induction stack generalizing world with
  | nil => exact stacked
  | cons frame rest ih =>
    obtain ⟨saved, _ | waiting⟩ := frame
    · exact sound.trans (ih stacked.2.2) stacked.1
    · obtain ⟨before, since, -, -, -, below⟩ := stacked
      exact sound.trans (ih below) (sound.trans before since)

theorem Stacked.extend (sound : Guaranteed (A := A) (ε := ε) contract G admits initial)
    {world later : CallWorld σ Q ι} {stack : List (Frame σ ε Q A ι)}
    (stacked : Stacked contract G admits initial world stack)
    (open_ : callable contract.isStatic stack = true) (evolved : G world later) :
    Stacked contract G admits initial later stack := by
  obtain _ | ⟨⟨saved, _ | waiting⟩, rest⟩ := stack
  · exact sound.trans stacked evolved
  · exact ⟨sound.trans stacked.1 evolved, stacked.2⟩
  · obtain ⟨before, since, -, resumes, below⟩ := stacked
    refine ⟨before, sound.trans since evolved, fun static => ?_, resumes, below⟩
    simp [callable, static] at open_

theorem settle_stacked (sound : Guaranteed (A := A) (ε := ε) contract G admits initial)
    {id entered : Nat} {input : ι} {saved : CallWorld σ Q ι} {rest : List (Frame σ ε Q A ι)}
    {log : List (Entry σ Q ι)} {outcome : Outcome σ ε Q A Unit}
    (open_ : callable contract.isStatic rest = true)
    (stacked : Stacked contract G admits initial saved rest)
    (ensures : outcome.Ensures (callRules contract G admits id input saved)
      (fun _ => G saved) log) :
    Stacked contract G admits initial (settle id input saved entered rest log outcome).world
      (settle id input saved entered rest log outcome).stack := by
  cases outcome with
  | done value state => exact stacked.extend sound open_ ensures
  | revert error => exact stacked
  | call query state resume =>
    exact ⟨ensures.1, sound.refl _, fun _ => rfl, ensures.2, open_, stacked⟩

theorem step_stacked (sound : Guaranteed (A := A) (ε := ε) contract G admits initial)
    {machine next : Machine σ ε Q A ι} {input : Input A ι}
    (stacked : Stacked contract G admits initial machine.world machine.stack)
    (permitted : Admitted admits machine input)
    (stepped : machine.step contract input = some next) :
    Stacked contract G admits initial next.world next.stack := by
  obtain ⟨world, entered, stack⟩ := machine
  cases input with
  | call input =>
    simp only [Machine.step, Option.ite_none_right_eq_some, Option.some.injEq] at stepped
    obtain ⟨open_, rfl⟩ := stepped
    exact settle_stacked sound open_ stacked
      (sound.entry entered input world (stacked.since_start sound))
  | answer value =>
    obtain _ | ⟨⟨saved, _ | waiting⟩, rest⟩ := stack
    · cases stepped
    · cases stepped
    · simp only [Machine.step, Option.some.injEq] at stepped
      subst stepped
      obtain ⟨-, since, static, resumes, open_, below⟩ := stacked
      exact settle_stacked sound open_ below (resumes value world ⟨static, since, permitted⟩)
  | enter =>
    simp only [Machine.step, Option.ite_none_right_eq_some, Option.some.injEq] at stepped
    obtain ⟨open_, rfl⟩ := stepped
    exact ⟨sound.refl world, open_, stacked⟩
  | leave =>
    obtain _ | ⟨⟨saved, _ | waiting⟩, rest⟩ := stack
    · cases stepped
    · cases stepped
      exact stacked.2.2.extend sound stacked.2.1 stacked.1
    · cases stepped
  | abort =>
    obtain _ | ⟨⟨saved, _ | waiting⟩, rest⟩ := stack
    · cases stepped
    · cases stepped
      exact stacked.2.2
    · cases stepped

/-- Rely-guarantee for a re-entrant contract: in every run whose steps the queries admit, every
world reached is related by `G` to the initial one. -/
theorem Guaranteed.reachable {state : σ}
    (sound : Guaranteed (A := A) (ε := ε) contract G admits ⟨state, []⟩)
    {machine : Machine σ ε Q A ι}
    (reached : Reachable contract (Admitted admits) (.start state) machine) :
    G ⟨state, []⟩ machine.world := by
  have stacked : Stacked contract G admits ⟨state, []⟩ machine.world machine.stack := by
    induction reached with
    | refl => exact sound.refl _
    | step _ permitted stepped ih => exact step_stacked sound ih permitted stepped
  exact stacked.since_start sound

theorem Guaranteed.reachable_free {state : σ}
    (sound : Guaranteed (A := A) (ε := ε) contract G (fun _ _ _ _ => True) ⟨state, []⟩)
    {machine : Machine σ ε Q A ι}
    (reached : Reachable contract (fun _ _ => True) (.start state) machine) :
    G ⟨state, []⟩ machine.world := by
  apply sound.reachable
  apply reached.mono
  intro machine input _
  unfold Admitted
  split
  · split <;> trivial
  · trivial

end RelyGuarantee

end FlareStudio.CallMachine
