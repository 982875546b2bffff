import FlareStudio.Shared.Bytes

set_option autoImplicit false

-- A program runs from a state until it returns, reverts or calls foreign code. While it waits
-- for an answer the state may change, so it is resumed with the state it finds then. The weakest
-- precondition of a program is relative to what must hold whenever control leaves it and to what
-- it may rely on when control comes back.

namespace FlareStudio.Reentrant

inductive Outcome (σ ε Q A α : Type) where
  | done (value : α) (state : σ)
  | revert (error : ε)
  | call (query : Q) (state : σ) (resume : A → σ → Outcome σ ε Q A α)

variable {σ ε Q A E α β : Type}

namespace Outcome

def bind : Outcome σ ε Q A α → (α → σ → Outcome σ ε Q A β) → Outcome σ ε Q A β
  | .done value state, next => next value state
  | .revert error, _ => .revert error
  | .call query state resume, next =>
      .call query state fun answer found => (resume answer found).bind next

-- Run to the end while foreign code answers and changes nothing.
def run (answers : Q → A) : Outcome σ ε Q A α → Except ε (α × σ)
  | .done value state => .ok (value, state)
  | .revert error => .error error
  | .call query state resume => (resume (answers query) state).run answers

theorem run_bind (answers : Q → A) (outcome : Outcome σ ε Q A α)
    (next : α → σ → Outcome σ ε Q A β) :
    (outcome.bind next).run answers =
      (outcome.run answers).bind fun result => (next result.1 result.2).run answers := by
  induction outcome with
  | done value state => rfl
  | revert error => rfl
  | call query state resume ih => exact ih _ _

-- The calls of a run that returns, each with its answer. Foreign code leaves any state behind.
inductive Returns : Outcome σ ε Q A α → List (Q × A) → α → σ → Prop
  | done (value : α) (state : σ) : Returns (.done value state) [] value state
  | call {query : Q} {state found final : σ} {resume : A → σ → Outcome σ ε Q A α} {answer : A}
      {exchanges : List (Q × A)} {value : α}
      (later : Returns (resume answer found) exchanges value final) :
      Returns (.call query state resume) ((query, answer) :: exchanges) value final

theorem returns_bind {outcome : Outcome σ ε Q A α} {next : α → σ → Outcome σ ε Q A β}
    {exchanges : List (Q × A)} {value : β} {final : σ} :
    (outcome.bind next).Returns exchanges value final ↔
      ∃ before result middle after, outcome.Returns before result middle ∧
        (next result middle).Returns after value final ∧ exchanges = before ++ after := by
  constructor
  · intro returns
    induction outcome generalizing exchanges with
    | done result state => exact ⟨[], result, state, exchanges, .done _ _, returns, rfl⟩
    | revert error => cases returns
    | call query state resume ih =>
      cases returns with
      | @call _ _ found _ _ answer rest _ later =>
        obtain ⟨before, result, middle, after, first, second, rfl⟩ := ih _ _ later
        exact ⟨(query, answer) :: before, result, middle, after, .call first, second, rfl⟩
  · intro ⟨before, result, middle, after, first, second, split⟩
    subst split
    induction first with
    | done => exact second
    | call _ ih => exact .call (ih second)

theorem Returns.of_run {answers : Q → A} {outcome : Outcome σ ε Q A α} {value : α} {final : σ}
    (ran : outcome.run answers = .ok (value, final)) :
    ∃ exchanges, outcome.Returns exchanges value final := by
  induction outcome with
  | done result state =>
    cases ran
    exact ⟨[], .done _ _⟩
  | revert error => cases ran
  | call query state resume ih =>
    obtain ⟨exchanges, later⟩ := ih _ _ ran
    exact ⟨_, .call later⟩

end Outcome

def Program (σ ε Q A α : Type) : Type := σ → Outcome σ ε Q A α

instance : Monad (Program σ ε Q A) where
  pure value := fun state => .done value state
  bind program next := fun state => (program state).bind next

namespace Program

def get : Program σ ε Q A σ := fun state => .done state state

def modify (change : σ → σ) : Program σ ε Q A Unit := fun state => .done () (change state)

def revert (error : ε) : Program σ ε Q A α := fun _ => .revert error

def ask (query : Q) : Program σ ε Q A A := fun state =>
  .call query state fun answer found => .done answer found

def run (answers : Q → A) (program : Program σ ε Q A α) (state : σ) : Except ε (α × σ) :=
  (program state).run answers

def Returns (program : Program σ ε Q A α) (state : σ) (exchanges : List (Q × A)) (value : α)
    (final : σ) : Prop :=
  (program state).Returns exchanges value final

section Returns

variable {state final : σ} {exchanges : List (Q × A)}

theorem returns_bind {program : Program σ ε Q A α} {next : α → Program σ ε Q A β} {value : β} :
    (program >>= next).Returns state exchanges value final ↔
      ∃ before result middle after, program.Returns state before result middle ∧
        (next result).Returns middle after value final ∧ exchanges = before ++ after :=
  Outcome.returns_bind

theorem returns_pure {value result : α} :
    (pure value : Program σ ε Q A α).Returns state exchanges result final ↔
      exchanges = [] ∧ result = value ∧ final = state := by
  constructor
  · intro returns
    cases returns
    exact ⟨rfl, rfl, rfl⟩
  · intro ⟨silent, same, here⟩
    subst silent same here
    exact .done _ _

theorem returns_modify {change : σ → σ} {result : Unit} :
    (modify change : Program σ ε Q A Unit).Returns state exchanges result final ↔
      exchanges = [] ∧ final = change state := by
  constructor
  · intro returns
    cases returns
    exact ⟨rfl, rfl⟩
  · intro ⟨silent, here⟩
    subst silent here
    exact .done _ _

theorem returns_revert {error : ε} {value : α} :
    ¬ (revert error : Program σ ε Q A α).Returns state exchanges value final := by
  intro returns
  cases returns

theorem returns_ask {query : Q} {answer : A} :
    (ask query : Program σ ε Q A A).Returns state exchanges answer final ↔
      exchanges = [(query, answer)] := by
  constructor
  · intro returns
    cases returns with
    | call later =>
      cases later
      rfl
  · intro asked
    subst asked
    exact .call (.done _ _)

end Returns

section Run

variable (answers : Q → A) (state : σ)

@[simp]
theorem run_pure (value : α) :
    run answers (pure value : Program σ ε Q A α) state = .ok (value, state) := rfl

@[simp]
theorem run_bind (program : Program σ ε Q A α) (next : α → Program σ ε Q A β) :
    run answers (program >>= next) state =
      (run answers program state).bind fun result => run answers (next result.1) result.2 :=
  Outcome.run_bind answers (program state) next

@[simp]
theorem run_get : run answers (get : Program σ ε Q A σ) state = .ok (state, state) := rfl

@[simp]
theorem run_modify (change : σ → σ) :
    run answers (modify change : Program σ ε Q A Unit) state = .ok ((), change state) := rfl

@[simp]
theorem run_revert (error : ε) :
    run answers (revert error : Program σ ε Q A α) state = .error error := rfl

@[simp]
theorem run_ask (query : Q) :
    run answers (ask query : Program σ ε Q A A) state = .ok (answers query, state) := rfl

end Run

end Program

structure World (σ E : Type) where
  state : σ
  log : List E

structure Rules (σ E Q A : Type) where
  record : Q → E
  guarantee : World σ E → Prop
  rely : Q → A → World σ E → World σ E → Prop

def Outcome.Ensures (rules : Rules σ E Q A) (post : α → World σ E → Prop) :
    Outcome σ ε Q A α → List E → Prop
  | .done value state, log => post value ⟨state, log⟩
  | .revert _, _ => True
  | .call query state resume, log =>
      rules.guarantee ⟨state, log ++ [rules.record query]⟩ ∧
        ∀ answer found, rules.rely query answer ⟨state, log ++ [rules.record query]⟩ found →
          (resume answer found.state).Ensures rules post found.log

theorem Outcome.ensures_bind (rules : Rules σ E Q A) (post : β → World σ E → Prop)
    (outcome : Outcome σ ε Q A α) (next : α → σ → Outcome σ ε Q A β) (log : List E) :
    (outcome.bind next).Ensures rules post log ↔
      outcome.Ensures rules (fun value world =>
        (next value world.state).Ensures rules post world.log) log := by
  induction outcome generalizing log with
  | done value state => rfl
  | revert error => rfl
  | call query state resume ih => simp only [bind, Ensures, ih]

theorem Outcome.Ensures.mono {rules : Rules σ E Q A} {post post' : α → World σ E → Prop}
    (weaker : ∀ value world, post value world → post' value world)
    {outcome : Outcome σ ε Q A α} {log : List E} (ensures : outcome.Ensures rules post log) :
    outcome.Ensures rules post' log := by
  induction outcome generalizing log with
  | done value state => exact weaker _ _ ensures
  | revert error => trivial
  | call query state resume ih =>
    exact ⟨ensures.1, fun answer found relied => ih _ _ (ensures.2 answer found relied)⟩

namespace Program

def wp (rules : Rules σ E Q A) (program : Program σ ε Q A α) (post : α → World σ E → Prop)
    (world : World σ E) : Prop :=
  (program world.state).Ensures rules post world.log

section Rules

variable (rules : Rules σ E Q A) (world : World σ E)

@[simp]
theorem wp_pure (value : α) (post : α → World σ E → Prop) :
    wp rules (pure value : Program σ ε Q A α) post world ↔ post value world := Iff.rfl

@[simp]
theorem wp_bind (program : Program σ ε Q A α) (next : α → Program σ ε Q A β)
    (post : β → World σ E → Prop) :
    wp rules (program >>= next) post world ↔
      wp rules program (fun value world => wp rules (next value) post world) world :=
  Outcome.ensures_bind rules post (program world.state) next world.log

@[simp]
theorem wp_get (post : σ → World σ E → Prop) :
    wp rules (get : Program σ ε Q A σ) post world ↔ post world.state world := Iff.rfl

@[simp]
theorem wp_modify (change : σ → σ) (post : Unit → World σ E → Prop) :
    wp rules (modify change : Program σ ε Q A Unit) post world ↔
      post () ⟨change world.state, world.log⟩ := Iff.rfl

@[simp]
theorem wp_revert (error : ε) (post : α → World σ E → Prop) :
    wp rules (revert error : Program σ ε Q A α) post world := trivial

@[simp]
theorem wp_ask (query : Q) (post : A → World σ E → Prop) :
    wp rules (ask query : Program σ ε Q A A) post world ↔
      rules.guarantee ⟨world.state, world.log ++ [rules.record query]⟩ ∧
        ∀ answer found,
          rules.rely query answer ⟨world.state, world.log ++ [rules.record query]⟩ found →
            post answer found := Iff.rfl

theorem wp_mono {program : Program σ ε Q A α} {post post' : α → World σ E → Prop}
    {world : World σ E} (weaker : ∀ value world, post value world → post' value world)
    (ensures : wp rules program post world) : wp rules program post' world :=
  Outcome.Ensures.mono weaker ensures

end Rules

end Program

end FlareStudio.Reentrant
