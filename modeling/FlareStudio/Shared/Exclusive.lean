import FlareStudio.Shared.Interleaving
import Mathlib.Logic.Function.Iterate

set_option autoImplicit false

-- Handlers share a state that one at a time may be in. Each waits until it is let in, runs with
-- as many pauses as it likes and leaves with its answer. Whoever decides who is let in next,
-- every answer is the one a machine would give that serves the handlers one after the other, as
-- they were let in.

namespace FlareStudio.Exclusive

open Interleaving

variable {I A : Type} {R : A → Type} {S O : Type}

inductive Phase (A : Type) (R : A → Type) (O : Type) where
  | waiting
  | inside (rest : Thread A R O)
  | left (output : O)

structure Client (I A : Type) (R : A → Type) (O : Type) where
  input : I
  phase : Phase A R O

/-- The shared state, the clients as they arrived, and who was let in, in that order. -/
structure System (I A : Type) (R : A → Type) (S O : Type) where
  state : S
  clients : List (Client I A R O)
  entered : List Nat

def System.initial (state : S) : System I A R S O := ⟨state, [], []⟩

/-- Who may be let in among the clients there are. -/
abbrev Admission (I A : Type) (R : A → Type) (O : Type) : Type :=
  List (Client I A R O) → Nat → Bool

-- One turn of the client at an index.
def System.turn (act : (label : A) → S → R label × S) (start : I → Thread A R O)
    (admits : Admission I A R O) (system : System I A R S O) (index : Nat) :
    Client I A R O → System I A R S O
  | ⟨input, .waiting⟩ =>
    if admits system.clients index then
      { system with
        clients := system.clients.set index ⟨input, .inside (start input)⟩
        entered := system.entered ++ [index] }
    else system
  | ⟨input, .inside (.done output)⟩ =>
    { system with clients := system.clients.set index ⟨input, .left output⟩ }
  | ⟨input, .inside thread⟩ =>
    { system with
      state := (thread.step act system.state).2
      clients := system.clients.set index ⟨input, .inside (thread.step act system.state).1⟩ }
  | ⟨_, .left _⟩ => system

def System.next (act : (label : A) → S → R label × S) (start : I → Thread A R O)
    (admits : Admission I A R O) (system : System I A R S O) : Event I → System I A R S O
  | .arrive input => { system with clients := system.clients ++ [⟨input, .waiting⟩] }
  | .step index =>
    match system.clients[index]? with
    | none => system
    | some client => system.turn act start admits index client

def System.run (act : (label : A) → S → R label × S) (start : I → Thread A R O)
    (admits : Admission I A R O) (system : System I A R S O) (events : List (Event I)) :
    System I A R S O :=
  events.foldl (System.next act start admits) system

/-- Serving these clients in this order leads from one state to the other, and each has left with
the answer it is given. -/
def Served (answer : S → I → O × S) (clients : List (Client I A R O)) : S → List Nat → S → Prop
  | s, [], last => last = s
  | s, index :: rest, last => ∃ input,
      clients[index]? = some ⟨input, .left (answer s input).1⟩ ∧
        Served answer clients (answer s input).2 rest last

def Serving (act : (label : A) → S → R label × S) (answer : S → I → O × S)
    (system : System I A R S O) (s : S) (index : Nat) : Prop :=
  ∃ input thread, system.clients[index]? = some ⟨input, .inside thread⟩ ∧
    thread.run act system.state = answer s input

structure System.Serial (act : (label : A) → S → R label × S) (answer : S → I → O × S) (s : S)
    (system : System I A R S O) : Prop where
  nodup : system.entered.Nodup
  waits : ∀ index client, system.clients[index]? = some client →
    (client.phase = .waiting ↔ index ∉ system.entered)
  serves : Served answer system.clients s system.entered system.state ∨
    ∃ earlier index between, system.entered = earlier ++ [index] ∧
      Served answer system.clients s earlier between ∧ Serving act answer system between index

def Vacant (clients : List (Client I A R O)) : Prop :=
  ∀ client ∈ clients, ∀ thread, client.phase ≠ .inside thread

variable {act : (label : A) → S → R label × S} {start : I → Thread A R O}
  {admits : Admission I A R O} {answer : S → I → O × S}

theorem Served.congr {clients changed : List (Client I A R O)} {s last : S} {order : List Nat}
    (served : Served answer clients s order last)
    (same : ∀ index ∈ order, changed[index]? = clients[index]?) :
    Served answer changed s order last := by
  induction order generalizing s with
  | nil => exact served
  | cons index rest ih =>
    obtain ⟨input, here, later⟩ := served
    have kept := same index List.mem_cons_self
    exact ⟨input, kept.trans here, ih later fun i inside => same i (List.mem_cons_of_mem _ inside)⟩

theorem Served.snoc {clients : List (Client I A R O)} {s between : S} {order : List Nat}
    {index : Nat} {input : I} (served : Served answer clients s order between)
    (here : clients[index]? = some ⟨input, .left (answer between input).1⟩) :
    Served answer clients s (order ++ [index]) (answer between input).2 := by
  induction order generalizing s with
  | nil =>
    subst served
    exact ⟨input, here, rfl⟩
  | cons first rest ih =>
    obtain ⟨earlier, gone, later⟩ := served
    exact ⟨earlier, gone, ih later⟩

theorem Served.left {clients : List (Client I A R O)} {s last : S} {order : List Nat}
    (served : Served answer clients s order last) {index : Nat} (member : index ∈ order) :
    ∃ input output, clients[index]? = some ⟨input, .left output⟩ := by
  induction order generalizing s with
  | nil => cases member
  | cons first rest ih =>
    obtain ⟨input, here, later⟩ := served
    rcases List.mem_cons.mp member with rfl | inside
    · exact ⟨input, _, here⟩
    · exact ih later inside

theorem Served.outputs {clients : List (Client I A R O)} {s last : S} {order : List Nat}
    (served : Served answer clients s order last) :
    ∃ inputs, Responder.final answer s inputs = last ∧
      order.map (clients[·]?) =
        (inputs.zip (Responder.outputs answer s inputs)).map fun gone =>
          some ⟨gone.1, .left gone.2⟩ := by
  induction order generalizing s with
  | nil => exact ⟨[], served.symm, rfl⟩
  | cons index rest ih =>
    obtain ⟨input, here, later⟩ := served
    obtain ⟨inputs, final, outputs⟩ := ih later
    refine ⟨input :: inputs, final, ?_⟩
    simp only [List.map_cons, Responder.outputs, List.zip_cons_cons, here, outputs]

theorem vacant_of_served {clients : List (Client I A R O)} {s last : S} {entered : List Nat}
    (waits : ∀ index client, clients[index]? = some client →
      (client.phase = .waiting ↔ index ∉ entered))
    (served : Served answer clients s entered last) : Vacant clients := by
  intro client member thread inside
  obtain ⟨index, found⟩ := List.mem_iff_getElem?.mp member
  have present : index ∈ entered := by
    by_contra absent
    have waiting := (waits index client found).mpr absent
    simp [inside] at waiting
  obtain ⟨input, output, here⟩ := served.left present
  rw [found, Option.some.injEq] at here
  simp [here] at inside

theorem System.Serial.served {s : S} {system : System I A R S O}
    (serial : system.Serial act answer s) (vacant : Vacant system.clients) :
    Served answer system.clients s system.entered system.state := by
  rcases serial.serves with served |
    ⟨earlier, index, between, split, served, input, thread, here, -⟩
  · exact served
  · have member := List.mem_of_getElem? here
    exact absurd rfl (vacant _ member thread)

theorem System.initial_serial (s : S) :
    (System.initial s : System I A R S O).Serial act answer s := by
  constructor
  · exact List.nodup_nil
  · simp [System.initial]
  · exact .inl rfl

section Step

variable {s : S} {system : System I A R S O}

theorem arrive_serial (serial : system.Serial act answer s) (input : I) :
    (system.next act start admits (.arrive input)).Serial act answer s := by
  have kept (index : Nat) (client : Client I A R O) (found : system.clients[index]? = some client) :
      (system.clients ++ [⟨input, .waiting⟩])[index]? = some client := by
    rw [List.getElem?_append_left (List.getElem?_eq_some_iff.mp found).1, found]
  have same {order : List Nat} {last : S} (served : Served answer system.clients s order last) :
      Served answer (system.clients ++ [⟨input, .waiting⟩]) s order last := by
    refine served.congr fun index member => ?_
    obtain ⟨_, _, here⟩ := served.left member
    rw [kept index _ here, here]
  constructor
  · exact serial.nodup
  · intro index client found
    by_cases old : index < system.clients.length
    · rw [System.next, List.getElem?_append_left old] at found
      exact serial.waits index client found
    · have fresh : index ∉ system.entered := by
        intro member
        have here : ∃ client, system.clients[index]? = some client := by
          rcases serial.serves with served | ⟨earlier, last, between, split, served, serving⟩
          · obtain ⟨_, _, here⟩ := served.left member
            exact ⟨_, here⟩
          · obtain ⟨_, _, inside, -⟩ := serving
            rw [split, List.mem_append, List.mem_singleton] at member
            rcases member with earlier | rfl
            · obtain ⟨_, _, here⟩ := served.left earlier
              exact ⟨_, here⟩
            · exact ⟨_, inside⟩
        obtain ⟨client, here⟩ := here
        exact old (List.getElem?_eq_some_iff.mp here).1
      rw [System.next, List.getElem?_append_right (by omega)] at found
      have last := List.mem_of_getElem? found
      rw [List.mem_singleton] at last
      simp [last, System.next, fresh]
  · rcases serial.serves with served | ⟨earlier, index, between, split, served, serving⟩
    · exact .inl (same served)
    · obtain ⟨owner, thread, here, runs⟩ := serving
      exact .inr ⟨earlier, index, between, split, same served, owner, thread, kept _ _ here, runs⟩

theorem Served.set {clients : List (Client I A R O)} {last : S} {order : List Nat} {index : Nat}
    {client : Client I A R O} (served : Served answer clients s order last)
    (other : index ∉ order) : Served answer (clients.set index client) s order last := by
  refine served.congr fun i member => ?_
  have apart : index ≠ i := by
    rintro rfl
    exact other member
  rw [List.getElem?_set_ne apart]

theorem getElem?_set_here {clients : List (Client I A R O)} {index : Nat}
    {old new : Client I A R O} (found : clients[index]? = some old) :
    (clients.set index new)[index]? = some new := by
  obtain ⟨within, -⟩ := List.getElem?_eq_some_iff.mp found
  rw [List.getElem?_set_self within]

theorem enter_serial (alone : ∀ input s, (start input).run act s = answer s input)
    (serial : system.Serial act answer s) {index : Nat} {input : I}
    (found : system.clients[index]? = some ⟨input, .waiting⟩) (vacant : Vacant system.clients) :
    System.Serial act answer s { system with
      clients := system.clients.set index ⟨input, .inside (start input)⟩
      entered := system.entered ++ [index] } := by
  have fresh := (serial.waits index _ found).mp rfl
  have served := serial.served vacant
  constructor
  · simpa [List.nodup_append, serial.nodup] using fun i member => ne_of_mem_of_not_mem member fresh
  · intro i client here
    by_cases same : index = i
    · subst same
      rw [getElem?_set_here found, Option.some.injEq] at here
      simp [← here]
    · rw [List.getElem?_set_ne same] at here
      simp [serial.waits i client here, Ne.symm same]
  · exact .inr ⟨system.entered, index, system.state, rfl, served.set fresh, input, start input,
      getElem?_set_here found, alone input system.state⟩

-- Whoever is inside was let in last.
theorem System.Serial.occupant (serial : system.Serial act answer s) {index : Nat} {input : I}
    {thread : Thread A R O} (found : system.clients[index]? = some ⟨input, .inside thread⟩) :
    ∃ earlier between, system.entered = earlier ++ [index] ∧ index ∉ earlier ∧
      Served answer system.clients s earlier between ∧
      thread.run act system.state = answer between input := by
  have present : index ∈ system.entered := by
    by_contra absent
    have waiting := (serial.waits index _ found).mpr absent
    simp at waiting
  have gone {order : List Nat} {last : S} (served : Served answer system.clients s order last) :
      index ∉ order := by
    intro member
    obtain ⟨_, _, here⟩ := served.left member
    simp [found] at here
  rcases serial.serves with served | ⟨earlier, last, between, split, served, serving⟩
  · exact absurd present (gone served)
  · obtain ⟨owner, rest, here, runs⟩ := serving
    have absent := gone served
    rw [split, List.mem_append, List.mem_singleton] at present
    obtain rfl := present.resolve_left absent
    rw [found, Option.some.injEq, Client.mk.injEq, Phase.inside.injEq] at here
    obtain ⟨rfl, rfl⟩ := here
    exact ⟨earlier, between, split, absent, served, runs⟩

theorem waits_of_set (serial : system.Serial act answer s) {index : Nat}
    {old new : Client I A R O} (found : system.clients[index]? = some old)
    (before : old.phase ≠ .waiting) (after : new.phase ≠ .waiting) (i : Nat)
    (client : Client I A R O) (here : (system.clients.set index new)[i]? = some client) :
    client.phase = .waiting ↔ i ∉ system.entered := by
  by_cases same : index = i
  · subst same
    rw [getElem?_set_here found, Option.some.injEq] at here
    have entered := (serial.waits index old found).not.mp before
    simp [← here, after, not_not.mp entered]
  · rw [List.getElem?_set_ne same] at here
    exact serial.waits i client here

theorem leave_serial (serial : system.Serial act answer s) {index : Nat} {input : I} {output : O}
    (found : system.clients[index]? = some ⟨input, .inside (.done output)⟩) :
    System.Serial act answer s { system with
      clients := system.clients.set index ⟨input, .left output⟩ } := by
  obtain ⟨earlier, between, split, absent, served, runs⟩ := serial.occupant found
  obtain ⟨gave, stays⟩ := Prod.mk.inj runs
  constructor
  · exact serial.nodup
  · exact waits_of_set serial found (by simp) (by simp)
  · left
    have here : (system.clients.set index ⟨input, .left output⟩)[index]? =
        some ⟨input, .left (answer between input).1⟩ := by
      rw [getElem?_set_here found, ← gave]
    have last := (served.set absent).snoc here
    rwa [← split, ← stays] at last

theorem pause_serial (serial : system.Serial act answer s) {index : Nat} {input : I}
    {thread : Thread A R O} (found : system.clients[index]? = some ⟨input, .inside thread⟩) :
    System.Serial act answer s { system with
      state := (thread.step act system.state).2
      clients := system.clients.set index ⟨input, .inside (thread.step act system.state).1⟩ } := by
  obtain ⟨earlier, between, split, absent, served, runs⟩ := serial.occupant found
  constructor
  · exact serial.nodup
  · exact waits_of_set serial found (by simp) (by simp)
  · refine .inr ⟨earlier, index, between, split, served.set absent, input, _,
      getElem?_set_here found, ?_⟩
    rw [← runs]
    cases thread with
    | done output => rfl
    | remote rest => rfl
    | access label rest => rfl

theorem turn_serial (alone : ∀ input s, (start input).run act s = answer s input)
    (serial : system.Serial act answer s)
    (exclusive : ∀ index input, system.clients[index]? = some ⟨input, .waiting⟩ →
      admits system.clients index = true → Vacant system.clients)
    {index : Nat} {client : Client I A R O} (found : system.clients[index]? = some client) :
    (system.turn act start admits index client).Serial act answer s := by
  obtain ⟨input, phase⟩ := client
  cases phase with
  | waiting =>
    by_cases admitted : admits system.clients index = true
    · rw [System.turn, if_pos admitted]
      exact enter_serial alone serial found (exclusive index input found admitted)
    · rw [System.turn, if_neg admitted]
      exact serial
  | inside thread =>
    cases thread with
    | done output => exact leave_serial serial found
    | remote rest => exact pause_serial serial found
    | access label rest => exact pause_serial serial found
  | left output => exact serial

theorem System.next_serial (alone : ∀ input s, (start input).run act s = answer s input)
    (serial : system.Serial act answer s)
    (exclusive : ∀ index input, system.clients[index]? = some ⟨input, .waiting⟩ →
      admits system.clients index = true → Vacant system.clients)
    (event : Event I) : (system.next act start admits event).Serial act answer s := by
  cases event with
  | arrive input => exact arrive_serial serial input
  | step index =>
    rw [System.next]
    cases found : system.clients[index]? with
    | none => exact serial
    | some client => exact turn_serial alone serial exclusive found

end Step

section Order

variable {system : System I A R S O}

theorem next_inputs (event : Event I) :
    (system.next act start admits event).clients.map Client.input =
      system.clients.map Client.input ++ event.arrived.toList := by
  cases event with
  | arrive input => simp [System.next, Event.arrived]
  | step index =>
    have set {client : Client I A R O} (found : system.clients[index]? = some client)
        (phase : Phase A R O) : (system.clients.set index ⟨client.input, phase⟩).map Client.input =
          system.clients.map Client.input := by
      obtain ⟨within, here⟩ := List.getElem?_eq_some_iff.mp found
      have bound : index < (system.clients.map Client.input).length := by simpa using within
      have same : (system.clients.map Client.input)[index] = client.input := by simp [here]
      rw [List.map_set, ← same, List.set_getElem_self]
    simp only [Event.arrived, Option.toList, List.append_nil, System.next]
    cases found : system.clients[index]? with
    | none => rfl
    | some client =>
      obtain ⟨input, phase⟩ := client
      cases phase with
      | waiting =>
        by_cases admitted : admits system.clients index = true
        · simp [System.turn, admitted, set found]
        · simp [System.turn, admitted]
      | inside thread => cases thread <;> exact set found _
      | left output => rfl

theorem run_inputs (system : System I A R S O) (events : List (Event I)) :
    (system.run act start admits events).clients.map Client.input =
      system.clients.map Client.input ++ events.filterMap Event.arrived := by
  induction events generalizing system with
  | nil => simp [System.run]
  | cons event rest ih =>
    have later := ih (system.next act start admits event)
    rw [next_inputs, List.append_assoc] at later
    cases event with
    | arrive input => exact later
    | step index => exact later

theorem next_entered (event : Event I) :
    system.entered <+: (system.next act start admits event).entered := by
  cases event with
  | arrive input => exact List.prefix_refl _
  | step index =>
    rw [System.next]
    cases system.clients[index]? with
    | none => exact List.prefix_refl _
    | some client =>
      obtain ⟨input, phase⟩ := client
      cases phase with
      | waiting =>
        by_cases admitted : admits system.clients index = true
        · simp [System.turn, admitted]
        · simp [System.turn, admitted]
      | inside thread => cases thread <;> exact List.prefix_refl _
      | left output => exact List.prefix_refl _

theorem run_append (system : System I A R S O) (first second : List (Event I)) :
    system.run act start admits (first ++ second) =
      (system.run act start admits first).run act start admits second :=
  List.foldl_append

theorem run_entered (system : System I A R S O) (events : List (Event I)) :
    system.entered <+: (system.run act start admits events).entered := by
  induction events generalizing system with
  | nil => exact List.prefix_refl _
  | cons event rest ih => exact (next_entered event).trans (ih _)

-- Whoever has left stays as it is.
theorem next_left {index : Nat} {input : I} {output : O}
    (gone : system.clients[index]? = some ⟨input, .left output⟩) (event : Event I) :
    (system.next act start admits event).clients[index]? = some ⟨input, .left output⟩ := by
  cases event with
  | arrive other =>
    rw [System.next, List.getElem?_append_left (List.getElem?_eq_some_iff.mp gone).1, gone]
  | step other =>
    rw [System.next]
    cases found : system.clients[other]? with
    | none => exact gone
    | some client =>
      by_cases same : other = index
      · subst same
        rw [gone, Option.some.injEq] at found
        subst found
        exact gone
      · have kept (client : Client I A R O) :
            (system.clients.set other client)[index]? = some ⟨input, .left output⟩ := by
          rw [List.getElem?_set_ne same, gone]
        obtain ⟨owner, phase⟩ := client
        cases phase with
        | waiting =>
          by_cases admitted : admits system.clients other = true
          · simp [System.turn, admitted, kept]
          · simp [System.turn, admitted, gone]
        | inside thread => cases thread <;> exact kept _
        | left output => exact gone

theorem run_left {system : System I A R S O} {index : Nat} {input : I} {output : O}
    (gone : system.clients[index]? = some ⟨input, .left output⟩) (events : List (Event I)) :
    (system.run act start admits events).clients[index]? = some ⟨input, .left output⟩ := by
  induction events generalizing system with
  | nil => exact gone
  | cons event rest ih => exact ih (next_left gone event)

end Order

def Phase.isInside : Phase A R O → Bool
  | .inside _ => true
  | _ => false

def Phase.hasLeft : Phase A R O → Bool
  | .left _ => true
  | _ => false

/-- Whoever waits may be let in while nobody is inside. -/
def lock : Admission I A R O := fun clients _ => clients.all fun client => !client.phase.isInside

theorem lock_vacant {clients : List (Client I A R O)} {index : Nat}
    (admitted : lock clients index = true) : Vacant clients := by
  intro client member thread inside
  have outside := List.all_eq_true.mp admitted client member
  simp [inside, Phase.isInside] at outside

theorem lock_run_serial (alone : ∀ input s, (start input).run act s = answer s input) {s : S}
    {system : System I A R S O} (serial : system.Serial act answer s) (events : List (Event I)) :
    (system.run act start lock events).Serial act answer s := by
  induction events generalizing system with
  | nil => exact serial
  | cons event rest ih =>
    have exclusive (index : Nat) (input : I)
        (_ : system.clients[index]? = some ⟨input, .waiting⟩)
        (admitted : lock system.clients index = true) : Vacant system.clients :=
      lock_vacant admitted
    exact ih (System.next_serial alone serial exclusive event)

/-- The first client may be let in, and each other one when the one before it has left. -/
def chain : Admission I A R O
  | _, 0 => true
  | clients, before + 1 => clients[before]?.any fun client => client.phase.hasLeft

/-- Clients are let in as they arrived. -/
structure System.Fifo (act : (label : A) → S → R label × S) (answer : S → I → O × S) (s : S)
    (system : System I A R S O) : Prop where
  serial : system.Serial act answer s
  order : system.entered = List.range system.entered.length

section Chain

variable {s : S} {system : System I A R S O}

theorem System.Fifo.waits (fifo : system.Fifo act answer s) {index : Nat}
    {client : Client I A R O} (found : system.clients[index]? = some client) :
    client.phase = .waiting ↔ system.entered.length ≤ index := by
  have order := fifo.order
  have waits := fifo.serial.waits index client found
  generalize system.entered.length = count at order
  rw [waits, order, List.mem_range, Nat.not_lt]

-- A client that the chain lets in is the next one, and nobody is inside.
theorem System.Fifo.admitted (fifo : system.Fifo act answer s) {index : Nat} {input : I}
    (found : system.clients[index]? = some ⟨input, .waiting⟩)
    (admitted : chain system.clients index = true) :
    index = system.entered.length ∧ Vacant system.clients := by
  have after := (fifo.waits found).mp rfl
  cases index with
  | zero =>
    have none_yet : system.entered = [] := List.eq_nil_of_length_eq_zero (by omega)
    constructor
    · simp [none_yet]
    · rcases fifo.serial.serves with served | ⟨earlier, last, between, split, -⟩
      · exact vacant_of_served fifo.serial.waits served
      · simp [none_yet] at split
  | succ before =>
    cases here : system.clients[before]? with
    | none => simp [chain, here] at admitted
    | some client =>
      have gone : client.phase.hasLeft = true := by simpa [chain, here] using admitted
      have entered : ¬ system.entered.length ≤ before := by
        intro late
        have waiting := (fifo.waits here).mpr late
        simp [waiting, Phase.hasLeft] at gone
      refine ⟨by omega, ?_⟩
      intro other member thread inside
      obtain ⟨i, found⟩ := List.mem_iff_getElem?.mp member
      obtain ⟨owner, phase⟩ := other
      obtain rfl : phase = .inside thread := inside
      obtain ⟨earlier, between, split, -⟩ := fifo.serial.occupant found
      -- Whoever is inside entered last, and that is the one that has left.
      have last : i = before := by
        have count := congrArg List.length split
        have final := congrArg List.getLast? (fifo.order.symm.trans split)
        rw [List.length_append, List.length_singleton] at count
        rw [count, List.range_succ] at final
        simp at final
        omega
      rw [last, here, Option.some.injEq] at found
      simp [found, Phase.hasLeft] at gone

theorem System.initial_fifo (s : S) : (System.initial s : System I A R S O).Fifo act answer s :=
  ⟨System.initial_serial s, rfl⟩

theorem chain_next_fifo (alone : ∀ input s, (start input).run act s = answer s input)
    (fifo : system.Fifo act answer s) (event : Event I) :
    (system.next act start chain event).Fifo act answer s := by
  constructor
  · exact System.next_serial alone fifo.serial (fun index input found admitted =>
      (fifo.admitted found admitted).2) event
  · cases event with
    | arrive input => exact fifo.order
    | step index =>
      rw [System.next]
      cases found : system.clients[index]? with
      | none => exact fifo.order
      | some client =>
        obtain ⟨input, phase⟩ := client
        cases phase with
        | waiting =>
          by_cases admitted : chain system.clients index = true
          · obtain ⟨here, -⟩ := fifo.admitted found admitted
            have entered : (system.turn act start chain index ⟨input, .waiting⟩).entered =
                system.entered ++ [index] := by
              simp [System.turn, admitted]
            simp only [entered, List.length_append, List.length_singleton, List.range_succ,
              ← fifo.order]
            rw [here]
          · simpa [System.turn, admitted] using fifo.order
        | inside thread => cases thread <;> exact fifo.order
        | left output => exact fifo.order

theorem chain_run_fifo (alone : ∀ input s, (start input).run act s = answer s input)
    (fifo : system.Fifo act answer s) (events : List (Event I)) :
    (system.run act start chain events).Fifo act answer s := by
  induction events generalizing system with
  | nil => exact fifo
  | cons event rest ih => exact ih (chain_next_fifo alone fifo event)

theorem System.Fifo.shape (fifo : system.Fifo act answer s) :
    ∃ count between, Served answer system.clients s (List.range count) between ∧
      (system.state = between ∧ (∀ client, system.clients[count]? = some client →
          client.phase = .waiting) ∨ Serving act answer system between count) ∧
      ∀ index client, system.clients[index]? = some client → count < index →
        client.phase = .waiting := by
  rcases fifo.serial.serves with served | ⟨earlier, last, between, split, served, serving⟩
  · rw [fifo.order] at served
    refine ⟨_, _, served, .inl ⟨rfl, fun client found => (fifo.waits found).mpr (Nat.le_refl _)⟩,
      fun index client found after => (fifo.waits found).mpr (by omega)⟩
  · have count := congrArg List.length split
    rw [List.length_append, List.length_singleton] at count
    have order := fifo.order
    rw [split, List.length_append, List.length_singleton, List.range_succ] at order
    obtain ⟨front, back⟩ := List.append_inj' order rfl
    rw [List.cons.injEq] at back
    rw [front] at served
    rw [back.1] at serving
    refine ⟨_, _, served, .inr serving, fun index client found after => ?_⟩
    exact (fifo.waits found).mpr (by omega)

/-- The clients that have left are the first ones, with the answers of a machine that serves
them as they arrived. -/
theorem System.Fifo.outputs (fifo : system.Fifo act answer s) :
    ∃ count inputs, inputs = (system.clients.map Client.input).take count ∧
      system.clients.take count = (inputs.zip (Responder.outputs answer s inputs)).map
        (fun gone => ⟨gone.1, .left gone.2⟩) ∧
      (system.state = Responder.final answer s inputs ∧
          (∀ client, system.clients[count]? = some client → client.phase = .waiting) ∨
        Serving act answer system (Responder.final answer s inputs) count) ∧
      ∀ index client, system.clients[index]? = some client → count < index →
        client.phase = .waiting := by
  obtain ⟨count, between, served, state, waiting⟩ := fifo.shape
  obtain ⟨inputs, final, outputs⟩ := served.outputs
  have within : count ≤ system.clients.length := by
    by_contra beyond
    obtain ⟨input, output, here⟩ := served.left
      (List.mem_range.mpr (show system.clients.length < count by omega))
    simp at here
  have taken : (List.range count).map (system.clients[·]?) =
      (system.clients.take count).map some := by
    apply List.ext_getElem
    · simp [within]
    · intro index left right
      have inside : index < system.clients.length := by
        rw [List.length_map, List.length_range] at left
        omega
      simp [inside]
  have gone : system.clients.take count =
      (inputs.zip (Responder.outputs answer s inputs)).map fun gone =>
        ⟨gone.1, .left gone.2⟩ := by
    rw [taken] at outputs
    apply (List.map_inj_right fun _ _ => Option.some.inj).mp
    rw [outputs, List.map_map]
    rfl
  have same : inputs = (system.clients.map Client.input).take count := by
    rw [← List.map_take, gone, List.map_map]
    have lengths : inputs.length ≤ (Responder.outputs answer s inputs).length := by simp
    exact (List.map_fst_zip lengths).symm
  exact ⟨count, inputs, same, gone, by rwa [final], waiting⟩

def ahead? (clients : List (Client I A R O)) : Option Nat :=
  clients.findIdx? fun client => !client.phase.hasLeft

theorem ahead?_eq_some {clients : List (Client I A R O)} {index : Nat} {client : Client I A R O}
    (found : clients[index]? = some client) (present : client.phase.hasLeft = false)
    (before : ∀ earlier < index, ∃ input output, clients[earlier]? = some ⟨input, .left output⟩) :
    ahead? clients = some index := by
  obtain ⟨within, here⟩ := List.getElem?_eq_some_iff.mp found
  refine List.findIdx?_eq_some_iff_getElem.mpr ⟨within, by simp [here, present], ?_⟩
  intro earlier less
  obtain ⟨input, output, gone⟩ := before earlier less
  obtain ⟨_, left⟩ := List.getElem?_eq_some_iff.mp gone
  simp [left, Phase.hasLeft]

-- Only that client can move.
theorem System.Fifo.idle (fifo : system.Fifo act answer s) {index : Nat}
    (other : ahead? system.clients ≠ some index) :
    system.next act start chain (.step index) = system := by
  rw [System.next]
  cases found : system.clients[index]? with
  | none => rfl
  | some client =>
    obtain ⟨input, phase⟩ := client
    cases phase with
    | waiting =>
      by_cases admitted : chain system.clients index = true
      · obtain ⟨here, vacant⟩ := fifo.admitted found admitted
        have served := fifo.serial.served vacant
        rw [fifo.order, ← here] at served
        exact absurd (ahead?_eq_some found rfl fun earlier less =>
          served.left (List.mem_range.mpr less)) other
      · simp [System.turn, admitted]
    | inside thread =>
      obtain ⟨earlier, between, split, -, served, -⟩ := fifo.serial.occupant found
      have order := fifo.order
      rw [split, List.length_append, List.length_singleton, List.range_succ] at order
      obtain ⟨front, back⟩ := List.append_inj' order rfl
      rw [List.cons.injEq] at back
      rw [front, ← back.1] at served
      exact absurd (ahead?_eq_some found rfl fun earlier less =>
        served.left (List.mem_range.mpr less)) other
    | left output => rfl

def System.forward (act : (label : A) → S → R label × S) (start : I → Thread A R O)
    (system : System I A R S O) : System I A R S O :=
  match ahead? system.clients with
  | none => system
  | some index => system.next act start chain (.step index)

theorem ahead?_set {clients : List (Client I A R O)} {index : Nat} {client : Client I A R O}
    (first : ahead? clients = some index) (present : client.phase.hasLeft = false) :
    ahead? (clients.set index client) = some index := by
  obtain ⟨within, -, before⟩ := List.findIdx?_eq_some_iff_getElem.mp first
  refine List.findIdx?_eq_some_iff_getElem.mpr ⟨by simpa using within, by simp [present], ?_⟩
  intro earlier less
  rw [List.getElem_set_ne (by omega)]
  exact before earlier less

theorem forward_inside {thread : Thread A R O} {index : Nat} {input : I}
    (first : ahead? system.clients = some index)
    (found : system.clients[index]? = some ⟨input, .inside thread⟩) :
    system.forward act start = system.turn act start chain index ⟨input, .inside thread⟩ := by
  simp [System.forward, first, System.next, found]

def Finishes (act : (label : A) → S → R label × S) (start : I → Thread A R O)
    (system : System I A R S O) (index : Nat) (input : I) : Prop :=
  ∃ turns output, ((System.forward act start)^[turns] system).clients =
    system.clients.set index ⟨input, .left output⟩

theorem finishes_of_pause {rest : Thread A R O} {index : Nat} {input : I}
    (first : ahead? system.clients = some index) (within : index < system.clients.length)
    (pauses : (system.forward act start).clients = system.clients.set index ⟨input, .inside rest⟩)
    (later : ∀ {system : System I A R S O}, ahead? system.clients = some index →
      system.clients[index]? = some ⟨input, .inside rest⟩ → Finishes act start system index input) :
    Finishes act start system index input := by
  have still : ahead? (system.forward act start).clients = some index := by
    rw [pauses]
    exact ahead?_set first rfl
  have inside : (system.forward act start).clients[index]? = some ⟨input, .inside rest⟩ := by
    rw [pauses, List.getElem?_set_self within]
  obtain ⟨turns, output, finished⟩ := later still inside
  refine ⟨turns + 1, output, ?_⟩
  rw [Function.iterate_succ_apply, finished, pauses, List.set_set]

theorem finishes {thread : Thread A R O} {system : System I A R S O} {index : Nat} {input : I}
    (first : ahead? system.clients = some index)
    (found : system.clients[index]? = some ⟨input, .inside thread⟩) :
    Finishes act start system index input := by
  induction thread generalizing system with
  | done output => exact ⟨1, output, by simp [forward_inside first found, System.turn]⟩
  | remote rest ih =>
    obtain ⟨within, -⟩ := List.getElem?_eq_some_iff.mp found
    exact finishes_of_pause first within (by rw [forward_inside first found]; rfl) ih
  | access label rest ih =>
    obtain ⟨within, -⟩ := List.getElem?_eq_some_iff.mp found
    exact finishes_of_pause first within (by rw [forward_inside first found]; rfl) (ih _)

theorem chain_ahead {clients : List (Client I A R O)} {index : Nat}
    (first : ahead? clients = some index) : chain clients index = true := by
  obtain ⟨within, -, before⟩ := List.findIdx?_eq_some_iff_getElem.mp first
  cases index with
  | zero => rfl
  | succ earlier =>
    have gone := before earlier (Nat.lt_succ_self _)
    have found : clients[earlier]? = some clients[earlier] := List.getElem?_eq_getElem (by omega)
    simpa [chain, found] using gone

theorem ahead_leaves {index : Nat} (first : ahead? system.clients = some index) :
    ∃ input, Finishes act start system index input := by
  obtain ⟨within, present, -⟩ := List.findIdx?_eq_some_iff_getElem.mp first
  have found := List.getElem?_eq_getElem within
  generalize system.clients[index] = client at found present
  obtain ⟨input, phase⟩ := client
  cases phase with
  | waiting =>
    have admitted := chain_ahead first
    have enters : (system.forward act start).clients =
        system.clients.set index ⟨input, .inside (start input)⟩ := by
      simp [System.forward, first, System.next, found, System.turn, admitted]
    exact ⟨input, finishes_of_pause first within enters finishes⟩
  | inside thread => exact ⟨input, finishes first found⟩
  | left output => simp [Phase.hasLeft] at present

theorem all_leave (system : System I A R S O) :
    ∃ turns, ∀ client ∈ ((System.forward act start)^[turns] system).clients,
      client.phase.hasLeft = true := by
  induction counted : system.clients.countP (fun client => !client.phase.hasLeft)
    generalizing system with
  | zero =>
    refine ⟨0, fun client member => ?_⟩
    have left := List.countP_eq_zero.mp counted client member
    simpa using left
  | succ pending ih =>
    obtain ⟨client, member, present⟩ : ∃ client ∈ system.clients, !client.phase.hasLeft :=
      List.countP_pos_iff.mp (by omega)
    obtain ⟨index, first⟩ : ∃ index, ahead? system.clients = some index := by
      rw [← Option.isSome_iff_exists, ahead?, List.findIdx?_isSome]
      exact List.any_eq_true.mpr ⟨client, member, present⟩
    have leaves : ∃ input, Finishes act start system index input := ahead_leaves first
    obtain ⟨input, turns, output, left⟩ := leaves
    have fewer : ((System.forward act start)^[turns] system).clients.countP
        (fun client => !client.phase.hasLeft) = pending := by
      obtain ⟨within, here, -⟩ := List.findIdx?_eq_some_iff_getElem.mp first
      rw [left, List.countP_set within, here, counted]
      simp [Phase.hasLeft]
    obtain ⟨more, all⟩ := ih _ fewer
    exact ⟨more + turns, by rwa [Function.iterate_add_apply]⟩

end Chain

end FlareStudio.Exclusive
