import FlareStudio.Shared.Responder

set_option autoImplicit false

-- A handler calls out, enters atomic sections on a shared state and answers. Any number of them
-- run at once; as long as a section that one enters commutes with every section an earlier one
-- may still enter, their answers and the state they leave are those of running them one after
-- the other.

namespace FlareStudio.Interleaving

section Threads

variable {A : Type} {R : A → Type} {S O : Type}

/-- What is left of a handler; the answer of a call it has still to make is known to the rest. -/
inductive Thread (A : Type) (R : A → Type) (O : Type) where
  | done (output : O)
  | remote (rest : Thread A R O)
  | access (label : A) (rest : R label → Thread A R O)

def Thread.All (P : A → Prop) : Thread A R O → Prop
  | .done _ => True
  | .remote rest => rest.All P
  | .access label rest => P label ∧ ∀ seen, (rest seen).All P

theorem Thread.All.imp {P Q : A → Prop} {thread : Thread A R O} (all : thread.All P)
    (implies : ∀ label, P label → Q label) : thread.All Q := by
  induction thread with
  | done output => trivial
  | remote rest ih => exact ih all
  | access label rest ih => exact ⟨implies label all.1, fun seen => ih seen (all.2 seen)⟩

variable (act : (label : A) → S → R label × S)

def Thread.run : Thread A R O → S → O × S
  | .done output, s => (output, s)
  | .remote rest, s => rest.run s
  | .access label rest, s => (rest (act label s).1).run (act label s).2

def Thread.step : Thread A R O → S → Thread A R O × S
  | .done output, s => (.done output, s)
  | .remote rest, s => (rest, s)
  | .access label rest, s => (rest (act label s).1, (act label s).2)

def Thread.map {O' : Type} (change : O → O') : Thread A R O → Thread A R O'
  | .done output => .done (change output)
  | .remote rest => .remote (rest.map change)
  | .access label rest => .access label fun seen => (rest seen).map change

theorem Thread.run_map {O' : Type} (change : O → O') (thread : Thread A R O) (s : S) :
    (thread.map change).run act s = ((thread.run act s).1 |> change, (thread.run act s).2) := by
  induction thread generalizing s with
  | done output => rfl
  | remote rest ih => exact ih s
  | access label rest ih => exact ih _ _

/-- Neither of two sections sees the other or undoes what it left. -/
structure Commutes (first second : A) : Prop where
  second_seen : ∀ s, (act second (act first s).2).1 = (act second s).1
  first_seen : ∀ s, (act first (act second s).2).1 = (act first s).1
  state : ∀ s, (act second (act first s).2).2 = (act first (act second s).2).2

variable {act}

theorem Commutes.symm {first second : A} (commutes : Commutes act first second) :
    Commutes act second first :=
  ⟨commutes.first_seen, commutes.second_seen, fun s => (commutes.state s).symm⟩

theorem Commutes.refl {label : A} (same : ∀ s, (act label (act label s).2).1 = (act label s).1) :
    Commutes act label label :=
  ⟨same, same, fun _ => rfl⟩

-- A section that commutes with all a handler may still do can go first.
theorem Thread.run_commutes {label : A} {thread : Thread A R O}
    (commutes : thread.All (Commutes act label)) (s : S) :
    (thread.run act (act label s).2).1 = (thread.run act s).1 ∧
      (act label (thread.run act s).2).1 = (act label s).1 ∧
      (thread.run act (act label s).2).2 = (act label (thread.run act s).2).2 := by
  induction thread generalizing s with
  | done output => exact ⟨rfl, rfl, rfl⟩
  | remote rest ih => exact ih commutes s
  | access other rest ih =>
    obtain ⟨here, later⟩ := commutes
    have next := ih (act other s).1 (later _) (act other s).2
    simp only [Thread.run, here.second_seen, here.state]
    rw [here.first_seen] at next
    exact next

def inTurn (act : (label : A) → S → R label × S) (s : S) (thread : Thread A R O) : O × S :=
  thread.run act s

theorem inTurn_done (act : (label : A) → S → R label × S) (outputs : List O) (s : S) :
    Responder.outputs (inTurn act) s (outputs.map Thread.done) = outputs ∧
      Responder.final (inTurn act) s (outputs.map Thread.done) = s := by
  induction outputs with
  | nil => exact ⟨rfl, rfl⟩
  | cons output rest ih => exact ⟨congrArg _ ih.1, ih.2⟩

theorem inTurn_commutes {label : A} {threads : List (Thread A R O)}
    (commutes : ∀ thread ∈ threads, thread.All (Commutes act label)) (s : S) :
    Responder.outputs (inTurn act) (act label s).2 threads =
        Responder.outputs (inTurn act) s threads ∧
      (act label (Responder.final (inTurn act) s threads)).1 = (act label s).1 ∧
      Responder.final (inTurn act) (act label s).2 threads =
        (act label (Responder.final (inTurn act) s threads)).2 := by
  induction threads generalizing s with
  | nil => exact ⟨rfl, rfl, rfl⟩
  | cons thread rest ih =>
    obtain ⟨output, seen, state⟩ := Thread.run_commutes (commutes thread List.mem_cons_self) s
    obtain ⟨outputs, sees, states⟩ :=
      ih (fun t member => commutes t (List.mem_cons_of_mem _ member)) (thread.run act s).2
    simp only [Responder.outputs, Responder.final, inTurn, output, state]
    rw [seen] at sees
    exact ⟨congrArg _ outputs, sees, states⟩

end Threads

section Systems

variable {I A : Type} {R : A → Type} {S O : Type}

/-- The shared state, and what is left of every handler, in the order they arrived. -/
structure System (A : Type) (R : A → Type) (S O : Type) where
  state : S
  threads : List (Thread A R O)

inductive Event (I : Type) where
  | arrive (input : I)
  | step (index : Nat)

def Event.arrived : Event I → Option I
  | .arrive input => some input
  | .step _ => none

def System.next (act : (label : A) → S → R label × S) (start : I → Thread A R O)
    (system : System A R S O) : Event I → System A R S O
  | .arrive input => { system with threads := system.threads ++ [start input] }
  | .step index =>
    match system.threads[index]? with
    | none => system
    | some thread =>
      ⟨(thread.step act system.state).2,
        system.threads.set index (thread.step act system.state).1⟩

def System.run (act : (label : A) → S → R label × S) (start : I → Thread A R O)
    (system : System A R S O) (events : List (Event I)) : System A R S O :=
  events.foldl (System.next act start) system

/-- No handler that arrived earlier may still enter a section this one must not overtake. -/
def System.InOrder (conflict : A → A → Prop) (system : System A R S O) : Event I → Prop
  | .arrive _ => True
  | .step index => ∀ label rest, system.threads[index]? = some (.access label rest) →
      ∀ thread ∈ system.threads.take index, thread.All fun other => ¬ conflict label other

def System.Ordered (act : (label : A) → S → R label × S) (start : I → Thread A R O)
    (conflict : A → A → Prop) : System A R S O → List (Event I) → Prop
  | _, [] => True
  | system, event :: rest =>
    system.InOrder conflict event ∧ Ordered act start conflict (system.next act start event) rest

/-- Letting every handler finish in order of arrival gives what `inputs` would have given. -/
structure System.Serial (act : (label : A) → S → R label × S) (answer : S → I → O × S) (s : S)
    (inputs : List I) (system : System A R S O) : Prop where
  outputs : Responder.outputs (inTurn act) system.state system.threads =
    Responder.outputs answer s inputs
  final : Responder.final (inTurn act) system.state system.threads =
    Responder.final answer s inputs

variable {act : (label : A) → S → R label × S} {start : I → Thread A R O}
  {conflict : A → A → Prop} {answer : S → I → O × S}

theorem System.next_serial (alone : ∀ input s, (start input).run act s = answer s input)
    (commutes : ∀ first second, ¬ conflict first second → Commutes act first second)
    {s : S} {inputs : List I} {system : System A R S O} {event : Event I}
    (serial : system.Serial act answer s inputs) (ordered : system.InOrder conflict event) :
    (system.next act start event).Serial act answer s (inputs ++ event.arrived.toList) := by
  obtain ⟨outputs, final⟩ := serial
  cases event with
  | arrive input =>
    have last : inTurn act (Responder.final (inTurn act) system.state system.threads)
        (start input) = answer (Responder.final answer s inputs) input := by
      rw [inTurn, alone, final]
    constructor
    · simp only [System.next, Event.arrived, Option.toList, Responder.outputs_append, outputs,
        Responder.outputs, last]
    · simp only [System.next, Event.arrived, Option.toList, Responder.final_append,
        Responder.final, last]
  | step index =>
    simp only [Event.arrived, Option.toList, List.append_nil, System.next]
    cases found : system.threads[index]? with
    | none => exact ⟨outputs, final⟩
    | some thread =>
      obtain ⟨within, here⟩ := List.getElem?_eq_some_iff.mp found
      have split : system.threads =
          system.threads.take index ++ thread :: system.threads.drop (index + 1) := by
        rw [← here, ← List.drop_eq_getElem_cons within, List.take_append_drop]
      have updated (next : Thread A R O) : system.threads.set index next =
          system.threads.take index ++ next :: system.threads.drop (index + 1) :=
        List.set_eq_take_append_cons_drop.trans (if_pos within)
      generalize system.threads.drop (index + 1) = later at split updated
      simp only [updated]
      rw [split, Responder.outputs_append] at outputs
      rw [split, Responder.final_append] at final
      cases thread with
      | done output => exact ⟨by rw [Responder.outputs_append]; exact outputs,
          by rw [Responder.final_append]; exact final⟩
      | remote rest => exact ⟨by rw [Responder.outputs_append]; exact outputs,
          by rw [Responder.final_append]; exact final⟩
      | access label rest =>
        have earlier : ∀ thread ∈ system.threads.take index,
            thread.All (Commutes act label) := by
          intro thread member
          exact (ordered label rest found thread member).imp (commutes label)
        obtain ⟨same, seen, state⟩ := inTurn_commutes earlier system.state
        simp only [Responder.outputs, Responder.final, inTurn, Thread.run] at outputs final
        rw [seen, ← state] at outputs final
        constructor
        · rw [Responder.outputs_append, ← outputs]
          exact congrArg (· ++ _) same
        · rw [Responder.final_append]
          exact final

theorem System.run_serial (alone : ∀ input s, (start input).run act s = answer s input)
    (commutes : ∀ first second, ¬ conflict first second → Commutes act first second)
    {s : S} {inputs : List I} {system : System A R S O} {events : List (Event I)}
    (serial : system.Serial act answer s inputs)
    (ordered : system.Ordered act start conflict events) :
    (system.run act start events).Serial act answer s
      (inputs ++ events.filterMap Event.arrived) := by
  induction events generalizing system inputs with
  | nil => simpa [System.run] using serial
  | cons event rest ih =>
    have here := System.next_serial alone commutes serial ordered.1
    have later := ih here ordered.2
    have arrivals : inputs ++ (event :: rest).filterMap Event.arrived =
        inputs ++ event.arrived.toList ++ rest.filterMap Event.arrived := by
      rw [List.append_assoc]
      cases event with
      | arrive input => rfl
      | step index => rfl
    rw [arrivals]
    exact later

-- A handler that has answered gave the answer of its turn.
theorem System.Serial.answered {s : S} {inputs : List I} {system : System A R S O}
    (serial : system.Serial act answer s inputs) {index : Nat} {output : O}
    (finished : system.threads[index]? = some (.done output)) :
    (Responder.outputs answer s inputs)[index]? = some output := by
  rw [← serial.outputs]
  generalize system.state = state
  generalize system.threads = threads at finished
  induction threads generalizing index state with
  | nil => simp at finished
  | cons thread rest ih =>
    cases index with
    | zero =>
      rw [List.getElem?_cons_zero, Option.some.injEq] at finished
      rw [finished]
      rfl
    | succ index => exact ih _ finished

theorem System.Serial.finished {s : S} {inputs : List I} {system : System A R S O}
    (serial : system.Serial act answer s inputs) {outputs : List O}
    (finished : system.threads = outputs.map Thread.done) :
    outputs = Responder.outputs answer s inputs ∧
      system.state = Responder.final answer s inputs := by
  obtain ⟨answers, state⟩ := serial
  obtain ⟨gave, left⟩ := inTurn_done act outputs system.state
  rw [finished] at answers state
  exact ⟨gave.symm.trans answers, left.symm.trans state⟩

end Systems

end FlareStudio.Interleaving
