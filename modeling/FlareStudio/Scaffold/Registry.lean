import FlareStudio.Scaffold.Encoding

set_option autoImplicit false

namespace FlareStudio.Scaffold

open Policy

def EMPTY_BYTES32 : Text := Hex.prefixed (FixedBytes.zero 32).bytes

-- Letters beyond ASCII stay here; none of them becomes a digit or the marker in lower case.
def normalize (h : Text) : Text :=
  if h = [] then EMPTY_BYTES32
  else if (text "0x").isPrefixOf (toLowerCase h) then toLowerCase h
  else text "0x" ++ toLowerCase h

section Registry

variable {H : Type}

structure Framework (H : Type) where
  handlers : List (Text × Text × H)

def Framework.new : Framework H := ⟨[]⟩

def Framework.lookup (framework : Framework H) (opType opCommand : Text) : Option H :=
  let t := normalize opType
  let c := normalize opCommand
  match framework.handlers.find? fun entry => entry.1 = t ∧ entry.2.1 = c with
  | some entry => some entry.2.2
  | none => (framework.handlers.find? fun entry => entry.1 = t ∧ entry.2.1 = EMPTY_BYTES32).map
      fun entry => entry.2.2

-- The first name that is no identifier throws.
def handleWith (toHex : Text → Option Text) (framework : Framework H)
    (registration : Text × Text × H) : Option (Framework H) := do
  let opType ← toHex registration.1
  let opCommand ← toHex registration.2.1
  some ⟨framework.handlers ++ [(opType, opCommand, registration.2.2)]⟩

def TypeScript.handle (framework : Framework H) (registration : Text × Text × H) :
    Option (Framework H) :=
  handleWith (fun name => (TypeScript.stringToBytes32Hex name).toOption) framework registration

def Python.handle (framework : Framework H) (registration : Text × Text × H) :
    Option (Framework H) :=
  handleWith Python.string_to_bytes32_hex framework registration

def register (handle : Framework H → Text × Text × H → Option (Framework H))
    (registrations : List (Text × Text × H)) : Option (Framework H) :=
  registrations.foldlM handle .new

def TypeScript.identifier (name : Text) : Option Bytes32 := padBytes32 (textEncode name)

def Python.identifier (name : Text) : Option Bytes32 := (Python.encode name).bind padBytes32

def wireIdentifier (h : Text) : Option Bytes32 :=
  if h = [] then some (.zero 32)
  else (Hex.decode (TypeScript.stripMarker h)).bind (FixedBytes.ofBytes? 32)

def dispatch (identifier : Text → Option Bytes32) (registrations : List (Text × Text × H))
    (opType opCommand : Option Bytes32) : Option H :=
  ((registrations.find? fun entry =>
      identifier entry.1 = opType ∧ identifier entry.2.1 = opCommand).or
    (registrations.find? fun entry =>
      identifier entry.1 = opType ∧ identifier entry.2.1 = some (.zero 32))).map
    fun entry => entry.2.2

end Registry

theorem prefixed_inj {n : Nat} {a b : FixedBytes n} :
    Hex.prefixed a.bytes = Hex.prefixed b.bytes ↔ a = b := by
  constructor
  · intro same
    have decoded := congrArg (Hex.fixed? n) same
    simpa using decoded
  · rintro rfl
    rfl

theorem stripMarker_of_not {h : Text} (bare : ¬ text "0x" <+: toLowerCase h) :
    TypeScript.stripMarker h = h := by
  unfold TypeScript.stripMarker
  split
  · exact absurd ⟨_, rfl⟩ bare
  · exact absurd ⟨_, rfl⟩ bare
  · rfl

theorem lowerUnit_marker {unit : Nat} (marker : lowerUnit unit = 120) :
    unit = 120 ∨ unit = 88 := by
  unfold lowerUnit at marker
  split_ifs at marker <;> omega

theorem toLowerCase_marked {h : Text} (marked : text "0x" <+: toLowerCase h) :
    toLowerCase h = text "0x" ++ toLowerCase (TypeScript.stripMarker h) := by
  obtain ⟨rest, split⟩ := marked
  obtain ⟨first, tail, rfl, here, split⟩ := List.map_eq_cons_iff.mp split.symm
  obtain ⟨marker, digits, rfl, second, later⟩ := List.map_eq_cons_iff.mp split
  have zero : lowerUnit first = 48 := here
  have digit : first = 48 := by
    unfold lowerUnit at zero
    split_ifs at zero <;> omega
  subst digit
  rcases lowerUnit_marker second with rfl | rfl
  · rfl
  · rfl

theorem normalize_eq_prefixed {h : Text} {word : Bytes32} :
    normalize h = Hex.prefixed word.bytes ↔ wireIdentifier h = some word := by
  by_cases empty : h = []
  · rw [normalize, if_pos empty, wireIdentifier, if_pos empty, EMPTY_BYTES32, prefixed_inj,
      Option.some.injEq]
  · rw [normalize, if_neg empty, wireIdentifier, if_neg empty]
    have lower : (if (text "0x").isPrefixOf (toLowerCase h) then toLowerCase h
        else text "0x" ++ toLowerCase h) = text "0x" ++ toLowerCase (TypeScript.stripMarker h) := by
      by_cases marked : text "0x" <+: toLowerCase h
      · rw [if_pos (by rwa [List.isPrefixOf_iff_prefix]), toLowerCase_marked marked]
      · rw [if_neg (by rwa [List.isPrefixOf_iff_prefix]), stripMarker_of_not marked]
    have spelled : text "0x" ++ toLowerCase (TypeScript.stripMarker h) =
        Hex.prefixed word.bytes ↔
          toLowerCase (TypeScript.stripMarker h) = Hex.encode word.bytes :=
      List.append_right_inj (text "0x")
    rw [lower, spelled, Option.bind_eq_some_iff]
    constructor
    · intro same
      refine ⟨word.bytes, ?_, FixedBytes.ofBytes?_bytes word⟩
      rw [← decode_toLowerCase, same, Hex.decode_encode]
    · rintro ⟨bytes, decoded, sized⟩
      have same : bytes = word.bytes := by
        unfold FixedBytes.ofBytes? at sized
        split_ifs at sized
        rw [← Option.some.inj sized]
      rw [toLowerCase_of_decode decoded, same]

section Lookup

variable {H : Type} {toHex : Text → Option Text} {identifier : Text → Option Bytes32}

def Writes (toHex : Text → Option Text) (identifier : Text → Option Bytes32) : Prop :=
  ∀ name, toHex name = (identifier name).map fun word => Hex.prefixed word.bytes

theorem typeScript_writes : Writes (fun name => (TypeScript.stringToBytes32Hex name).toOption)
    TypeScript.identifier := by
  intro name
  simp only [TypeScript.stringToBytes32Hex, TypeScript.identifier]
  cases padBytes32 (textEncode name) <;> rfl

theorem python_writes : Writes Python.string_to_bytes32_hex Python.identifier := by
  intro name
  simp only [Python.string_to_bytes32_hex, Python.identifier, Option.bind_eq_bind]
  cases Python.encode name with
  | none => rfl
  | some b => cases padded : padBytes32 b <;> simp [padded, Python.bytes_to_hex]

def Holds (identifier : Text → Option Bytes32) (entry registration : Text × Text × H) : Prop :=
  ∃ opType opCommand, identifier registration.1 = some opType ∧
    identifier registration.2.1 = some opCommand ∧
    entry = (Hex.prefixed opType.bytes, Hex.prefixed opCommand.bytes, registration.2.2)

theorem handle_holds (writes : Writes toHex identifier) {framework next : Framework H}
    {registration : Text × Text × H}
    (handled : handleWith toHex framework registration = some next) :
    ∃ entry, Holds identifier entry registration ∧
      next.handlers = framework.handlers ++ [entry] := by
  simp only [handleWith, writes registration.1, writes registration.2.1, Option.bind_eq_bind,
    Option.bind_eq_some_iff, Option.map_eq_some_iff, Option.some.injEq] at handled
  obtain ⟨_, ⟨opType, typed, rfl⟩, _, ⟨opCommand, commanded, rfl⟩, rfl⟩ := handled
  exact ⟨_, ⟨opType, opCommand, typed, commanded, rfl⟩, rfl⟩

theorem foldlM_holds (writes : Writes toHex identifier) {registrations : List (Text × Text × H)}
    {framework last : Framework H}
    (registered : registrations.foldlM (handleWith toHex) framework = some last) :
    ∃ entries, last.handlers = framework.handlers ++ entries ∧
      List.Forall₂ (Holds identifier) entries registrations := by
  induction registrations generalizing framework with
  | nil =>
    cases registered
    exact ⟨[], by simp, .nil⟩
  | cons registration rest ih =>
    simp only [List.foldlM_cons, Option.bind_eq_bind, Option.bind_eq_some_iff] at registered
    obtain ⟨next, handled, registered⟩ := registered
    obtain ⟨entry, holds, here⟩ := handle_holds writes handled
    obtain ⟨entries, later, all⟩ := ih registered
    exact ⟨entry :: entries, by simp [later, here], .cons holds all⟩

theorem find?_holds {entries registrations : List (Text × Text × H)} {p q : Text × Text × H → Bool}
    (holds : List.Forall₂ (Holds identifier) entries registrations)
    (same : ∀ entry registration, Holds identifier entry registration → p entry = q registration) :
    (entries.find? p).map (fun entry => entry.2.2) =
      (registrations.find? q).map fun entry => entry.2.2 := by
  induction holds with
  | nil => rfl
  | @cons entry registration _ _ here _ ih =>
    rw [List.find?_cons, List.find?_cons, same entry registration here]
    cases q registration with
    | true =>
      obtain ⟨_, _, _, _, rfl⟩ := here
      rfl
    | false => exact ih

theorem prefixed_eq_normalize {word : Bytes32} {h : Text} :
    Hex.prefixed word.bytes = normalize h ↔ some word = wireIdentifier h := by
  rw [eq_comm, normalize_eq_prefixed, eq_comm]

theorem lookup_of_writes (writes : Writes toHex identifier)
    {registrations : List (Text × Text × H)} {framework : Framework H}
    (registered : register (handleWith toHex) registrations = some framework)
    (opType opCommand : Text) : framework.lookup opType opCommand =
      dispatch identifier registrations (wireIdentifier opType) (wireIdentifier opCommand) := by
  obtain ⟨entries, all, holds⟩ := foldlM_holds writes registered
  simp only [Framework.new, List.nil_append] at all
  have exact_match := @find?_holds H identifier entries registrations
    (fun entry => entry.1 = normalize opType ∧ entry.2.1 = normalize opCommand)
    (fun entry => identifier entry.1 = wireIdentifier opType ∧
      identifier entry.2.1 = wireIdentifier opCommand) holds (by
    rintro entry registration ⟨_, _, typed, commanded, rfl⟩
    simp only [typed, commanded, prefixed_eq_normalize])
  have wildcard := @find?_holds H identifier entries registrations
    (fun entry => entry.1 = normalize opType ∧ entry.2.1 = EMPTY_BYTES32)
    (fun entry => identifier entry.1 = wireIdentifier opType ∧
      identifier entry.2.1 = some (.zero 32)) holds (by
    rintro entry registration ⟨_, _, typed, commanded, rfl⟩
    simp only [typed, commanded, prefixed_eq_normalize, EMPTY_BYTES32, prefixed_inj,
      Option.some.injEq])
  simp only [Framework.lookup, all, dispatch, Option.map_or, ← exact_match, ← wildcard]
  cases entries.find? fun entry => entry.1 = normalize opType ∧ entry.2.1 = normalize opCommand <;>
    rfl

def fits (identifier : Text → Option Bytes32) (registration : Text × Text × H) : Bool :=
  (identifier registration.1).isSome && (identifier registration.2.1).isSome

theorem handle_of_not_fits (writes : Writes toHex identifier) (framework : Framework H)
    {registration : Text × Text × H} (misfit : fits identifier registration = false) :
    handleWith toHex framework registration = none := by
  unfold fits at misfit
  simp only [handleWith, writes registration.1, writes registration.2.1]
  cases opType : identifier registration.1 with
  | none => rfl
  | some word =>
    have missing : identifier registration.2.1 = none := by simpa [opType] using misfit
    rw [missing]
    rfl

theorem foldlM_fits (writes : Writes toHex identifier) (framework : Framework H)
    (registrations : List (Text × Text × H)) :
    (registrations.foldlM (handleWith toHex) framework).isSome =
      registrations.all (fits identifier) := by
  induction registrations generalizing framework with
  | nil => rfl
  | cons registration rest ih =>
    rw [List.foldlM_cons, List.all_cons]
    cases fit : fits identifier registration with
    | false =>
      rw [handle_of_not_fits writes framework fit]
      rfl
    | true =>
      unfold fits at fit
      rw [Bool.and_eq_true, Option.isSome_iff_exists, Option.isSome_iff_exists] at fit
      obtain ⟨⟨opType, typed⟩, ⟨opCommand, commanded⟩⟩ := fit
      have handled : handleWith toHex framework registration = some ⟨framework.handlers ++
          [(Hex.prefixed opType.bytes, Hex.prefixed opCommand.bytes, registration.2.2)]⟩ := by
        simp [handleWith, writes registration.1, writes registration.2.1, typed, commanded]
      rw [handled]
      exact ih _

def answers (identifier : Text → Option Bytes32) (registrations : List (Text × Text × H))
    (opType opCommand : Text) : Option (Option H) :=
  if registrations.all (fits identifier) then
    some (dispatch identifier registrations (wireIdentifier opType) (wireIdentifier opCommand))
  else none

theorem register_answers (writes : Writes toHex identifier)
    (registrations : List (Text × Text × H)) (opType opCommand : Text) :
    (register (handleWith toHex) registrations).map (fun framework =>
      framework.lookup opType opCommand) =
        answers identifier registrations opType opCommand := by
  have total := foldlM_fits writes .new registrations
  unfold answers
  cases registered : register (handleWith toHex) registrations with
  | none =>
    have misfit : registrations.all (fits identifier) = false := by
      rw [← total]
      exact congrArg Option.isSome registered
    rw [misfit]
    rfl
  | some framework =>
    have fit : registrations.all (fits identifier) = true := by
      rw [← total]
      exact congrArg Option.isSome registered
    rw [fit, if_pos rfl, ← lookup_of_writes writes registered]
    rfl

/-- Whatever texts an action carries, either registry answers by the identifiers they stand for: the
first handler registered for the operation, or else the first for any command of its type. Neither
can be built from a name that is no identifier. -/
theorem registered_dispatches (registrations : List (Text × Text × H)) (opType opCommand : Text) :
    (register TypeScript.handle registrations).map (fun framework =>
      framework.lookup opType opCommand) =
        answers TypeScript.identifier registrations opType opCommand ∧
    (register Python.handle registrations).map (fun framework =>
      framework.lookup opType opCommand) =
        answers Python.identifier registrations opType opCommand :=
  ⟨register_answers typeScript_writes registrations opType opCommand,
    register_answers python_writes registrations opType opCommand⟩

end Lookup

end FlareStudio.Scaffold
