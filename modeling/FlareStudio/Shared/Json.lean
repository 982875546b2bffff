import FlareStudio.Shared.Text

set_option autoImplicit false

-- Trees of lexemes: a number is the digits it is written with and a string is what stands
-- between its quotes, still escaped, since that is what the decoders of typed values read.

namespace FlareStudio

inductive Json where
  | null
  | bool (value : Bool)
  | num (lexeme : Text)
  | str (raw : Text)
  | arr (elements : List Json)
  | obj (members : List (Text × Json))

namespace Json

def quote (raw : Text) : Text := 34 :: raw ++ [34]

mutual

def render : Json → Text
  | .null => text "null"
  | .bool true => text "true"
  | .bool false => text "false"
  | .num lexeme => lexeme
  | .str raw => quote raw
  | .arr elements => 91 :: renderElements elements
  | .obj members => 123 :: renderMembers members

-- With the closing bracket, and a comma before each further element.
def renderElements : List Json → Text
  | [] => [93]
  | element :: rest => render element ++ renderMoreElements rest

def renderMoreElements : List Json → Text
  | [] => [93]
  | element :: rest => 44 :: render element ++ renderMoreElements rest

def renderMembers : List (Text × Json) → Text
  | [] => [125]
  | (key, value) :: rest => quote key ++ 58 :: render value ++ renderMoreMembers rest

def renderMoreMembers : List (Text × Json) → Text
  | [] => [125]
  | (key, value) :: rest => 44 :: quote key ++ 58 :: render value ++ renderMoreMembers rest

end

def isSpace (code : Nat) : Bool := code = 32 || code = 9 || code = 10 || code = 13

def skipSpace (input : Text) : Text := input.dropWhile isSpace

def isDigit (code : Nat) : Bool := 48 ≤ code && code ≤ 57

def isHex (code : Nat) : Bool := (Hex.value? code).isSome

-- The escapes of one letter: quote, backslash, slash, b, f, n, r and t.
def isEscape (code : Nat) : Bool := code ∈ [34, 92, 47, 98, 102, 110, 114, 116]

def scanString : Text → Option (Text × Text)
  | [] => none
  | 34 :: rest => some ([], rest)
  | 92 :: 117 :: a :: b :: c :: d :: rest =>
    if isHex a && isHex b && isHex c && isHex d then
      (scanString rest).map fun scanned => (92 :: 117 :: a :: b :: c :: d :: scanned.1, scanned.2)
    else none
  | 92 :: code :: rest =>
    if isEscape code then (scanString rest).map fun scanned => (92 :: code :: scanned.1, scanned.2)
    else none
  | code :: rest =>
    if code < 32 || code = 92 then none
    else (scanString rest).map fun scanned => (code :: scanned.1, scanned.2)

def scanSign : Text → Text × Text
  | 45 :: rest => ([45], rest)
  | input => ([], input)

def scanInteger : Text → Option (Text × Text)
  | 48 :: rest => some ([48], rest)
  | input => if (input.span isDigit).1 = [] then none else some (input.span isDigit)

def scanFraction : Text → Option (Text × Text)
  | 46 :: rest =>
    if (rest.span isDigit).1 = [] then none
    else some (46 :: (rest.span isDigit).1, (rest.span isDigit).2)
  | input => some ([], input)

def scanExponent : Text → Option (Text × Text)
  | code :: rest =>
    if code = 101 || code = 69 then
      let (sign, digits) :=
        match rest with
        | 43 :: more => ([43], more)
        | more => scanSign more
      if (digits.span isDigit).1 = [] then none
      else some (code :: sign ++ (digits.span isDigit).1, (digits.span isDigit).2)
    else some ([], code :: rest)
  | [] => some ([], [])

def scanNumber (input : Text) : Option (Text × Text) := do
  let (sign, rest) := scanSign input
  let (integer, rest) ← scanInteger rest
  let (fraction, rest) ← scanFraction rest
  let (exponent, rest) ← scanExponent rest
  some (sign ++ integer ++ fraction ++ exponent, rest)

-- The input after a fixed word, which none of the other values starts with.
def afterWord (word input : Text) : Option Text :=
  if word.isPrefixOf input then some (input.drop word.length) else none

mutual

def parseValue : Nat → Text → Option (Json × Text)
  | 0, _ => none
  | fuel + 1, input =>
    match skipSpace input with
    | 123 :: rest =>
      match skipSpace rest with
      | 125 :: rest => some (.obj [], rest)
      | rest => (parseMembers fuel rest).map fun parsed => (.obj parsed.1, parsed.2)
    | 91 :: rest =>
      match skipSpace rest with
      | 93 :: rest => some (.arr [], rest)
      | rest => (parseElements fuel rest).map fun parsed => (.arr parsed.1, parsed.2)
    | 34 :: rest => (scanString rest).map fun scanned => (.str scanned.1, scanned.2)
    | 110 :: rest => (afterWord (text "ull") rest).map fun rest => (.null, rest)
    | 116 :: rest => (afterWord (text "rue") rest).map fun rest => (.bool true, rest)
    | 102 :: rest => (afterWord (text "alse") rest).map fun rest => (.bool false, rest)
    | rest => (scanNumber rest).map fun scanned => (.num scanned.1, scanned.2)

def parseElements : Nat → Text → Option (List Json × Text)
  | 0, _ => none
  | fuel + 1, input => do
    let (element, rest) ← parseValue fuel input
    match skipSpace rest with
    | 93 :: rest => some ([element], rest)
    | 44 :: rest =>
      let (elements, rest) ← parseElements fuel rest
      some (element :: elements, rest)
    | _ => none

def parseMembers : Nat → Text → Option (List (Text × Json) × Text)
  | 0, _ => none
  | fuel + 1, input =>
    match skipSpace input with
    | 34 :: rest => do
      let (key, rest) ← scanString rest
      match skipSpace rest with
      | 58 :: rest =>
        let (value, rest) ← parseValue fuel rest
        match skipSpace rest with
        | 125 :: rest => some ([(key, value)], rest)
        | 44 :: rest =>
          let (members, rest) ← parseMembers fuel rest
          some ((key, value) :: members, rest)
        | _ => none
      | _ => none
    | _ => none

end

-- Every nested call has consumed a code unit, so the length of the input bounds them.
def parse (input : Text) : Option Json := do
  let (value, rest) ← parseValue (input.length + 1) input
  if skipSpace rest = [] then some value else none

-- How deeply arrays and objects are nested.
mutual

def depth : Json → Nat
  | .arr elements => depthElements elements + 1
  | .obj members => depthMembers members + 1
  | _ => 0

def depthElements : List Json → Nat
  | [] => 0
  | element :: rest => max (depth element) (depthElements rest)

def depthMembers : List (Text × Json) → Nat
  | [] => 0
  | (_, value) :: rest => max (depth value) (depthMembers rest)

end

-- What may follow a number: nothing that would lengthen it.
def Delimited (rest : Text) : Prop :=
  ∀ code ∈ rest.head?, isDigit code = false ∧ code ≠ 46 ∧ code ≠ 101 ∧ code ≠ 69

def RawString (raw : Text) : Prop := ∀ rest, scanString (raw ++ 34 :: rest) = some (raw, rest)

structure RawNumber (lexeme : Text) : Prop where
  head : ∃ code more, lexeme = code :: more ∧ (code = 45 ∨ isDigit code = true)
  scans : ∀ rest, Delimited rest → scanNumber (lexeme ++ rest) = some (lexeme, rest)

mutual

def WellFormed : Json → Prop
  | .num lexeme => RawNumber lexeme
  | .str raw => RawString raw
  | .arr elements => ElementsFormed elements
  | .obj members => MembersFormed members
  | _ => True

def ElementsFormed : List Json → Prop
  | [] => True
  | element :: rest => WellFormed element ∧ ElementsFormed rest

def MembersFormed : List (Text × Json) → Prop
  | [] => True
  | (key, value) :: rest => RawString key ∧ WellFormed value ∧ MembersFormed rest

end

theorem elementsFormed_iff (elements : List Json) :
    ElementsFormed elements ↔ ∀ element ∈ elements, WellFormed element := by
  induction elements with
  | nil => simp [ElementsFormed]
  | cons element rest ih => simp [ElementsFormed, ih]

theorem membersFormed_iff (members : List (Text × Json)) :
    MembersFormed members ↔ ∀ member ∈ members, RawString member.1 ∧ WellFormed member.2 := by
  induction members with
  | nil => simp [MembersFormed]
  | cons member rest ih => simp [MembersFormed, ih, and_assoc]

theorem skipSpace_cons {code : Nat} (visible : isSpace code = false) (rest : Text) :
    skipSpace (code :: rest) = code :: rest := by
  simp [skipSpace, visible]

theorem render_head (j : Json) (formed : WellFormed j) :
    ∃ code more, render j = code :: more ∧ isSpace code = false ∧ code ≠ 93 := by
  cases j with
  | null => exact ⟨110, _, rfl, rfl, by decide⟩
  | bool value => cases value with
    | true => exact ⟨116, _, rfl, rfl, by decide⟩
    | false => exact ⟨102, _, rfl, rfl, by decide⟩
  | num lexeme =>
    obtain ⟨code, more, rfl, start⟩ := (show RawNumber lexeme from formed).head
    refine ⟨code, more, rfl, ?_, ?_⟩
    · unfold isSpace
      rcases start with rfl | digit
      · decide
      · simp only [isDigit, Bool.and_eq_true, decide_eq_true_eq] at digit
        simp only [Bool.or_eq_false_iff, decide_eq_false_iff_not]
        omega
    · rcases start with rfl | digit
      · decide
      · simp only [isDigit, Bool.and_eq_true, decide_eq_true_eq] at digit
        omega
  | str raw => exact ⟨34, _, rfl, rfl, by decide⟩
  | arr elements => exact ⟨91, _, rfl, rfl, by decide⟩
  | obj members => exact ⟨123, _, rfl, rfl, by decide⟩

theorem parseValue_num {lexeme rest : Text} (number : RawNumber lexeme) (delimited : Delimited rest)
    (fuel : Nat) : parseValue (fuel + 1) (lexeme ++ rest) = some (.num lexeme, rest) := by
  have scanned := number.scans rest delimited
  obtain ⟨code, more, rfl, start⟩ := number.head
  have visible : isSpace code = false := by
    obtain ⟨_, _, same, visible, -⟩ := render_head (.num (code :: more)) number
    cases same
    exact visible
  have range : code = 45 ∨ 48 ≤ code ∧ code ≤ 57 := by
    simpa [isDigit] using start
  rw [List.cons_append] at scanned ⊢
  rw [parseValue, skipSpace_cons visible]
  split
  case h_7 => rw [scanned]; rfl
  all_goals
    rename_i same
    simp only [List.cons.injEq] at same
    omega

theorem parseValue_arr {code : Nat} (visible : isSpace code = false) (nonempty : code ≠ 93)
    (fuel : Nat) (rest : Text) : parseValue (fuel + 1) (91 :: code :: rest) =
      (parseElements fuel (code :: rest)).map fun parsed => (.arr parsed.1, parsed.2) := by
  rw [parseValue, skipSpace_cons (by decide)]
  simp only [skipSpace_cons visible]
  split
  · rename_i same
    exact absurd (List.cons.inj same).1 nonempty
  · rfl

theorem parseValue_obj (fuel : Nat) (rest : Text) : parseValue (fuel + 1) (123 :: 34 :: rest) =
      (parseMembers fuel (34 :: rest)).map fun parsed => (.obj parsed.1, parsed.2) := by
  rw [parseValue, skipSpace_cons (by decide)]
  simp only [skipSpace_cons (show isSpace 34 = false by decide)]

theorem delimited_cons {code : Nat} (other : code = 44 ∨ code = 93 ∨ code = 125) (rest : Text) :
    Delimited (code :: rest) := by
  intro head member
  cases Option.mem_some.mp member
  rcases other with rfl | rfl | rfl <;> decide

mutual

-- Each value is read with as much fuel as it is long, and what follows is left alone.
theorem parseValue_render (j : Json) (formed : WellFormed j) (rest : Text)
    (delimited : Delimited rest) (fuel : Nat) (enough : (render j).length ≤ fuel) :
    parseValue fuel (render j ++ rest) = some (j, rest) := by
  obtain ⟨_, _, head, -, -⟩ := render_head j formed
  obtain ⟨fuel, rfl⟩ : ∃ less, fuel = less + 1 := by
    rw [head, List.length_cons] at enough
    exact ⟨fuel - 1, by omega⟩
  cases j with
  | null => simp [render, text, parseValue, skipSpace, isSpace, afterWord]
  | bool value =>
    cases value <;> simp [render, text, parseValue, skipSpace, isSpace, afterWord]
  | num lexeme => exact parseValue_num formed delimited fuel
  | str raw =>
    have scanned := (show RawString raw from formed) rest
    simp [render, quote, parseValue, skipSpace, isSpace, scanned]
  | arr elements =>
    cases elements with
    | nil => simp [render, renderElements, parseValue, skipSpace, isSpace]
    | cons element more =>
      have parsed := parseElements_render (element :: more) (by simp) formed rest fuel
        (by simpa [render] using enough)
      obtain ⟨code, tail, head, visible, nonempty⟩ := render_head element formed.1
      have first : renderElements (element :: more) ++ rest =
          code :: (tail ++ renderMoreElements more ++ rest) := by
        simp [renderElements, head]
      rw [render, List.cons_append, first, parseValue_arr visible nonempty, ← first, parsed]
      rfl
  | obj members =>
    cases members with
    | nil => simp [render, renderMembers, parseValue, skipSpace, isSpace]
    | cons member more =>
      obtain ⟨key, value⟩ := member
      have parsed := parseMembers_render ((key, value) :: more) (by simp) formed rest fuel
        (by simpa [render] using enough)
      have first : renderMembers ((key, value) :: more) ++ rest =
          34 :: (key ++ 34 :: 58 :: (render value ++ renderMoreMembers more ++ rest)) := by
        simp [renderMembers, quote]
      rw [render, List.cons_append, first, parseValue_obj, ← first, parsed]
      rfl

theorem parseElements_render (elements : List Json) (nonempty : elements ≠ [])
    (formed : ElementsFormed elements) (rest : Text) (fuel : Nat)
    (enough : (renderElements elements).length ≤ fuel) :
    parseElements fuel (renderElements elements ++ rest) = some (elements, rest) := by
  match elements with
  | [] => exact absurd rfl nonempty
  | [element] =>
    have length : (renderElements [element]).length = (render element).length + 1 := by
      simp [renderElements, renderMoreElements]
    obtain ⟨fuel, rfl⟩ : ∃ less, fuel = less + 1 := ⟨fuel - 1, by omega⟩
    have value := parseValue_render element formed.1 (93 :: rest) (delimited_cons (by simp) _) fuel
      (by omega)
    simp [renderElements, renderMoreElements, parseElements, value, skipSpace, isSpace]
  | element :: next :: others =>
    have length : (renderElements (element :: next :: others)).length =
        (render element).length + (renderElements (next :: others)).length + 1 := by
      simp [renderElements, renderMoreElements]
      ring
    obtain ⟨fuel, rfl⟩ : ∃ less, fuel = less + 1 := ⟨fuel - 1, by omega⟩
    have value := parseValue_render element formed.1
      (44 :: (renderElements (next :: others) ++ rest)) (delimited_cons (by simp) _) fuel (by omega)
    have later := parseElements_render (next :: others) (by simp) formed.2 rest fuel (by omega)
    have split : renderElements (element :: next :: others) ++ rest =
        render element ++ 44 :: (renderElements (next :: others) ++ rest) := by
      simp [renderElements, renderMoreElements]
    rw [split]
    simp [parseElements, value, skipSpace, isSpace, later]

theorem parseMembers_render (members : List (Text × Json)) (nonempty : members ≠ [])
    (formed : MembersFormed members) (rest : Text) (fuel : Nat)
    (enough : (renderMembers members).length ≤ fuel) :
    parseMembers fuel (renderMembers members ++ rest) = some (members, rest) := by
  match members with
  | [] => exact absurd rfl nonempty
  | [(key, value)] =>
    have length : (renderMembers [(key, value)]).length =
        key.length + (render value).length + 4 := by
      simp [renderMembers, renderMoreMembers, quote]
      ring
    obtain ⟨fuel, rfl⟩ : ∃ less, fuel = less + 1 := ⟨fuel - 1, by omega⟩
    have scanned := formed.1 (58 :: (render value ++ 125 :: rest))
    have parsed := parseValue_render value formed.2.1 (125 :: rest) (delimited_cons (by simp) _)
      fuel (by omega)
    simp [renderMembers, renderMoreMembers, quote, parseMembers, scanned, parsed, skipSpace,
      isSpace]
  | (key, value) :: next :: others =>
    have length : (renderMembers ((key, value) :: next :: others)).length =
        key.length + (render value).length + (renderMembers (next :: others)).length + 4 := by
      simp [renderMembers, renderMoreMembers, quote]
      ring
    obtain ⟨fuel, rfl⟩ : ∃ less, fuel = less + 1 := ⟨fuel - 1, by omega⟩
    have scanned := formed.1 (58 :: (render value ++
      44 :: (renderMembers (next :: others) ++ rest)))
    have parsed := parseValue_render value formed.2.1
      (44 :: (renderMembers (next :: others) ++ rest)) (delimited_cons (by simp) _) fuel (by omega)
    have later := parseMembers_render (next :: others) (by simp) formed.2.2 rest fuel (by omega)
    have split : renderMembers ((key, value) :: next :: others) ++ rest =
        34 :: (key ++ 34 :: 58 :: (render value ++
          44 :: (renderMembers (next :: others) ++ rest))) := by
      simp [renderMembers, renderMoreMembers, quote]
    rw [split]
    simp [parseMembers, scanned, parsed, skipSpace, isSpace, later]

end

/-- What is rendered is read back, whatever the nesting. -/
theorem parse_render (j : Json) (formed : WellFormed j) : parse (render j) = some j := by
  have parsed := parseValue_render j formed [] (by simp [Delimited]) ((render j).length + 1)
    (by omega)
  rw [List.append_nil] at parsed
  simp [parse, parsed, skipSpace]

-- What is scanned as a part of any string that starts with it.
def Passes (raw : Text) : Prop :=
  ∀ input, scanString (raw ++ input) =
    (scanString input).map fun scanned => (raw ++ scanned.1, scanned.2)

theorem Passes.append {first second : Text} (front : Passes first) (back : Passes second) :
    Passes (first ++ second) := by
  intro input
  rw [List.append_assoc, front, back, Option.map_map]
  congr 1
  funext scanned
  simp

theorem Passes.rawString {raw : Text} (passes : Passes raw) : RawString raw := by
  intro rest
  rw [passes, scanString]
  simp

theorem passes_plain {raw : Text} (plain : ∀ code ∈ raw, 32 ≤ code ∧ code ≠ 34 ∧ code ≠ 92) :
    Passes raw := by
  intro input
  induction raw with
  | nil => simp
  | cons code more ih =>
    obtain ⟨visible, notQuote, notEscape⟩ := plain code List.mem_cons_self
    have later := ih fun code member => plain code (List.mem_cons_of_mem _ member)
    rw [List.cons_append, scanString]
    · simp [later, notEscape, visible, Function.comp_def]
    · exact notQuote
    · rintro a b c d rest rfl
      exact absurd rfl notEscape
    · rintro second rest rfl
      exact absurd rfl notEscape

theorem passes_escape {letter : Nat} (known : isEscape letter = true) : Passes [92, letter] := by
  intro input
  have other : letter ≠ 117 := by
    rintro rfl
    exact absurd known (by decide)
  rw [List.cons_append, List.cons_append, List.nil_append, scanString]
  · simp [known]
  · intro a b c d rest same
    exact absurd same other

theorem passes_unicode {a b c d : Nat} (hex : isHex a && isHex b && isHex c && isHex d) :
    Passes [92, 117, a, b, c, d] := by
  intro input
  have spelled : [92, 117, a, b, c, d] ++ input = 92 :: 117 :: a :: b :: c :: d :: input := rfl
  rw [spelled, scanString, if_pos hex]
  rfl

theorem span_digits {digits rest : Text} (all : ∀ code ∈ digits, isDigit code = true)
    (ends : ∀ code ∈ rest.head?, isDigit code = false) :
    (digits ++ rest).span isDigit = (digits, rest) := by
  rw [List.span_eq_takeWhile_dropWhile, List.takeWhile_append_of_pos all,
    List.dropWhile_append_of_pos all]
  cases rest with
  | nil => simp
  | cons code more =>
    have stop := ends code (by simp)
    simp [stop]

theorem rawNumber_decimal (value : Nat) : RawNumber (decimal value) := by
  have digits : ∀ code ∈ decimal value, isDigit code = true := by
    intro code member
    have range := decimal_digit member
    simpa [isDigit] using range
  obtain ⟨code, more, shape⟩ : ∃ code more, decimal value = code :: more := by
    by_cases zero : value = 0
    · exact ⟨48, [], by rw [zero]; rfl⟩
    · obtain ⟨code, more, shape, -⟩ := decimal_head zero
      exact ⟨code, more, shape⟩
  have first : isDigit code = true := digits code (by simp [shape])
  refine ⟨⟨code, more, shape, .inr first⟩, fun rest delimited => ?_⟩
  have sign : scanSign (decimal value ++ rest) = ([], decimal value ++ rest) := by
    rw [shape, List.cons_append, scanSign]
    rintro tail ⟨⟩
    exact absurd first (by decide)
  have integer : scanInteger (decimal value ++ rest) = some (decimal value, rest) := by
    by_cases zero : value = 0
    · rw [zero]
      rfl
    · obtain ⟨head, tail, split, nonzero⟩ := decimal_head zero
      have spanned := span_digits digits fun code member => (delimited code member).1
      rw [split, List.cons_append] at spanned ⊢
      rw [scanInteger, spanned]
      · simp
      · rintro tail ⟨⟩
        exact nonzero rfl
  have fraction : scanFraction rest = some ([], rest) := by
    cases rest with
    | nil => rfl
    | cons code more =>
      rw [scanFraction]
      rintro rest ⟨⟩
      exact (delimited 46 (by simp)).2.1 rfl
  have exponent : scanExponent rest = some ([], rest) := by
    cases rest with
    | nil => rfl
    | cons code more =>
      obtain ⟨-, -, lower, upper⟩ := delimited code (by simp)
      simp [scanExponent, lower, upper]
  simp [scanNumber, sign, integer, fraction, exponent]

-- ASCII that stands for itself in a string.
def PlainString (raw : Text) : Prop :=
  ∀ code ∈ raw, 32 ≤ code ∧ code < 128 ∧ code ≠ 34 ∧ code ≠ 92

mutual

def Plain : Json → Prop
  | .num lexeme => ∃ value, lexeme = decimal value
  | .str raw => PlainString raw
  | .arr elements => PlainElements elements
  | .obj members => PlainMembers members
  | _ => True

def PlainElements : List Json → Prop
  | [] => True
  | element :: rest => Plain element ∧ PlainElements rest

def PlainMembers : List (Text × Json) → Prop
  | [] => True
  | (key, value) :: rest => PlainString key ∧ Plain value ∧ PlainMembers rest

end

theorem plainElements_iff (elements : List Json) :
    PlainElements elements ↔ ∀ element ∈ elements, Plain element := by
  induction elements with
  | nil => simp [PlainElements]
  | cons element rest ih => simp [PlainElements, ih]

theorem plainString_text {literal : String}
    (plain : ∀ code ∈ text literal, 32 ≤ code ∧ code < 128 ∧ code ≠ 34 ∧ code ≠ 92 := by decide) :
    PlainString (text literal) := plain

theorem plainString_prefixed (bytes : Bytes) : PlainString (Hex.prefixed bytes) := by
  intro code member
  simp only [Hex.prefixed, Hex.encode, List.mem_cons, List.mem_flatMap, List.not_mem_nil,
    or_false] at member
  rcases member with rfl | rfl | ⟨byte, -, rfl | rfl⟩
  · decide
  · decide
  all_goals
    have small := byte.toNat_lt
    unfold Hex.digit
    split_ifs <;> omega

theorem PlainString.rawString {raw : Text} (plain : PlainString raw) : RawString raw :=
  (passes_plain fun code member =>
    ⟨(plain code member).1, (plain code member).2.2.1, (plain code member).2.2.2⟩).rawString

mutual

theorem Plain.wellFormed (j : Json) (plain : Plain j) : WellFormed j := by
  cases j with
  | null | bool => trivial
  | num lexeme =>
    obtain ⟨value, rfl⟩ := plain
    exact rawNumber_decimal value
  | str raw => exact PlainString.rawString plain
  | arr elements => exact PlainElements.elementsFormed elements plain
  | obj members => exact PlainMembers.membersFormed members plain

theorem PlainElements.elementsFormed (elements : List Json) (plain : PlainElements elements) :
    ElementsFormed elements := by
  cases elements with
  | nil => trivial
  | cons element rest =>
    exact ⟨Plain.wellFormed element plain.1, PlainElements.elementsFormed rest plain.2⟩

theorem PlainMembers.membersFormed (members : List (Text × Json)) (plain : PlainMembers members) :
    MembersFormed members := by
  cases members with
  | nil => trivial
  | cons member rest =>
    obtain ⟨key, value⟩ := member
    exact ⟨plain.1.rawString, Plain.wellFormed value plain.2.1,
      PlainMembers.membersFormed rest plain.2.2⟩

end

def Ascii (units : Text) : Prop := ∀ code ∈ units, code < 128

instance (units : Text) : Decidable (Ascii units) :=
  inferInstanceAs (Decidable (∀ code ∈ units, code < 128))

section Ascii

variable {first second : Text}

theorem Ascii.append (front : Ascii first) (back : Ascii second) : Ascii (first ++ second) := by
  intro code member
  rcases List.mem_append.mp member with inside | inside
  · exact front code inside
  · exact back code inside

theorem Ascii.cons {code : Nat} (small : code < 128) (rest : Ascii first) :
    Ascii (code :: first) := by
  intro other member
  rcases List.mem_cons.mp member with rfl | inside
  · exact small
  · exact rest other inside

theorem PlainString.ascii_quote {raw : Text} (plain : PlainString raw) : Ascii (quote raw) :=
  .cons (by decide) (.append (fun code member => (plain code member).2.1) (by decide))

end Ascii

mutual

theorem Plain.ascii (j : Json) (plain : Plain j) : Ascii (render j) := by
  cases j with
  | null => decide
  | bool value => cases value <;> decide
  | num lexeme =>
    obtain ⟨value, rfl⟩ := plain
    intro code member
    have range := decimal_digit member
    omega
  | str raw => exact PlainString.ascii_quote plain
  | arr elements =>
    apply Ascii.cons (by decide)
    cases elements with
    | nil => decide
    | cons element rest =>
      exact .append (Plain.ascii element plain.1) (PlainElements.ascii rest plain.2)
  | obj members =>
    apply Ascii.cons (by decide)
    cases members with
    | nil => decide
    | cons member rest =>
      obtain ⟨key, value⟩ := member
      apply Ascii.append (.append plain.1.ascii_quote (.cons (by decide) ?_))
      · exact PlainMembers.ascii rest plain.2.2
      · exact Plain.ascii value plain.2.1

theorem PlainElements.ascii (elements : List Json) (plain : PlainElements elements) :
    Ascii (renderMoreElements elements) := by
  cases elements with
  | nil => decide
  | cons element rest =>
    apply Ascii.cons (by decide)
    exact .append (Plain.ascii element plain.1) (PlainElements.ascii rest plain.2)

theorem PlainMembers.ascii (members : List (Text × Json)) (plain : PlainMembers members) :
    Ascii (renderMoreMembers members) := by
  cases members with
  | nil => decide
  | cons member rest =>
    obtain ⟨key, value⟩ := member
    apply Ascii.cons (by decide)
    apply Ascii.append (.append plain.1.ascii_quote (.cons (by decide) ?_))
    · exact PlainMembers.ascii rest plain.2.2
    · exact Plain.ascii value plain.2.1

end

end Json

end FlareStudio
