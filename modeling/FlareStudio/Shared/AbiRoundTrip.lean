import FlareStudio.Shared.Abi

set_option autoImplicit false

namespace FlareStudio.Abi

mutual

def Value.HasType : Value → Ty → Prop
  | .uint value, .uint bits => bits ≤ 256 ∧ value < 2 ^ bits
  | .address _, .address | .bytes32 _, .bytes32 | .bool _, .bool | .bytes _, .bytes => True
  | .array elements, .array element =>
      elements.length < 2 ^ 256 ∧ HaveTypes elements (List.replicate elements.length element)
  | .tuple components, .tuple types => HaveTypes components types
  | _, _ => False

def HaveTypes : List Value → List Ty → Prop
  | [], [] => True
  | value :: values, ty :: types => value.HasType ty ∧ HaveTypes values types
  | _, _ => False

end

def partOf (value : Value) : Part := ⟨value.isDynamic, encodeValue value⟩

theorem encodeParts_cons (value : Value) (rest : List Value) :
    encodeParts (value :: rest) = partOf value :: encodeParts rest := by
  rw [encodeParts, partOf]

mutual

theorem isDynamic_eq (value : Value) (ty : Ty) (typed : value.HasType ty) :
    value.isDynamic = ty.isDynamic := by
  cases value <;> cases ty <;> simp only [Value.HasType] at typed <;>
    try rfl
  case tuple.tuple components types =>
    rw [Value.isDynamic, Ty.isDynamic]
    exact anyDynamic_eq components types typed

theorem anyDynamic_eq (values : List Value) (types : List Ty) (typed : HaveTypes values types) :
    anyDynamic values = anyDynamicTy types := by
  cases values with
  | nil => cases types <;> simp_all [HaveTypes, anyDynamic, anyDynamicTy]
  | cons value rest =>
    cases types with
    | nil => simp [HaveTypes] at typed
    | cons ty types =>
      rw [HaveTypes] at typed
      rw [anyDynamic, anyDynamicTy, isDynamic_eq value ty typed.1, anyDynamic_eq rest types typed.2]

end

theorem le_length_padUint (value : Nat) : 32 ≤ (padUint value).length := by
  rw [padUint, List.length_leftpad]
  exact Nat.le_max_left _ _

theorem headSize_cons (part : Part) (parts : List Part) :
    headSize (part :: parts) = part.headSize + headSize parts := by
  simp [headSize]

theorem tails_cons (part : Part) (parts : List Part) :
    tails (part :: parts) = part.tail ++ tails parts := by
  simp [tails]

theorem headSize_le_length (parts : List Part) (offset : Nat) :
    headSize parts ≤ (heads offset parts).length := by
  induction parts generalizing offset with
  | nil => exact Nat.zero_le _
  | cons part rest ih =>
    have later := ih (offset + part.tail.length)
    have wide := le_length_padUint offset
    rw [headSize_cons, heads, List.length_append, Part.headSize]
    split_ifs <;> omega

theorem length_heads (parts : List Part) (offset : Nat)
    (fits : offset + (tails parts).length < 2 ^ 256) :
    (heads offset parts).length = headSize parts := by
  induction parts generalizing offset with
  | nil => rfl
  | cons part rest ih =>
    rw [tails_cons, List.length_append] at fits
    have later := ih (offset + part.tail.length) (by omega)
    have word : (padUint offset).length = 32 := padUint_length (by omega)
    rw [headSize_cons, heads, List.length_append, Part.headSize, later]
    split_ifs <;> omega

theorem length_layout {parts : List Part}
    (fits : headSize parts + (tails parts).length < 2 ^ 256) :
    (layout parts).length = headSize parts + (tails parts).length := by
  rw [layout, List.length_append, length_heads parts _ fits]

theorem layout_fits {parts : List Part} (fits : (layout parts).length < 2 ^ 256) :
    headSize parts + (tails parts).length < 2 ^ 256 := by
  have wide := headSize_le_length parts (headSize parts)
  rw [layout, List.length_append] at fits
  omega

theorem length_layout_static {parts : List Part}
    (static : ∀ part ∈ parts, part.isDynamic = false) :
    (layout parts).length = headSize parts := by
  rw [layout_static parts static, headSize, List.length_flatMap]
  congr 1
  apply List.map_congr_left
  intro part member
  simp [Part.headSize, static part member]

theorem static_encodeParts {values : List Value} (static : anyDynamic values = false) :
    ∀ part ∈ encodeParts values, part.isDynamic = false := by
  rw [anyDynamic_eq_any, List.any_eq_false] at static
  rw [encodeParts_eq_map]
  intro part member
  obtain ⟨value, listed, rfl⟩ := List.mem_map.mp member
  simpa using static value listed

theorem Ty.headSize_dynamic {ty : Ty} (dynamic : ty.isDynamic = true) : ty.headSize = 32 := by
  cases ty with
  | tuple components =>
    rw [Ty.isDynamic] at dynamic
    rw [Ty.headSize, if_pos dynamic]
  | _ => rfl

mutual

theorem length_encodeValue (value : Value) (ty : Ty) (typed : value.HasType ty)
    (static : ty.isDynamic = false) : (encodeValue value).length = ty.headSize := by
  cases value <;> cases ty <;> simp only [Value.HasType] at typed <;>
    try (simp [Ty.isDynamic] at static; done)
  case uint.uint value bits =>
    apply padUint_length
    exact lt_of_lt_of_le typed.2 (Nat.pow_le_pow_right (by decide) typed.1)
  case address.address value => exact value.word_length (by decide)
  case bytes32.bytes32 value => exact value.length_bytes
  case bool.bool value =>
    apply padUint_length
    cases value <;> decide
  case tuple.tuple components types =>
    rw [Ty.isDynamic] at static
    have fixed : anyDynamic components = false := by
      rw [anyDynamic_eq components types typed]
      exact static
    rw [encodeValue, length_layout_static (static_encodeParts fixed),
      headSize_encodeParts components types typed, Ty.headSize, static]
    rfl

theorem headSize_encodeParts (values : List Value) (types : List Ty)
    (typed : HaveTypes values types) : headSize (encodeParts values) = headSizes types := by
  cases values with
  | nil => cases types <;> simp_all [HaveTypes, encodeParts, headSize, headSizes]
  | cons value rest =>
    cases types with
    | nil => simp [HaveTypes] at typed
    | cons ty types =>
      rw [HaveTypes] at typed
      have later := headSize_encodeParts rest types typed.2
      have dynamic := isDynamic_eq value ty typed.1
      rw [encodeParts_cons, headSize_cons, headSizes, later, Part.headSize, partOf, dynamic]
      by_cases moved : ty.isDynamic = true
      · rw [if_pos moved, Ty.headSize_dynamic moved]
      · rw [if_neg moved, length_encodeValue value ty typed.1 (by simpa using moved)]

end

theorem length_tuple {components : List Value} {types : List Ty}
    (typed : HaveTypes components types)
    (fits : headSizes types + (tails (encodeParts components)).length < 2 ^ 256) :
    (encodeValue (.tuple components)).length =
      headSizes types + (tails (encodeParts components)).length := by
  have head := headSize_encodeParts components types typed
  rw [encodeValue, length_layout] <;> rw [head]
  exact fits

theorem readAll_eq (element : Ty) (frame : Bytes) (count position : Nat) :
    readAll element.isDynamic element.headSize (decodeValue element) frame count position =
      decodeComponents (List.replicate count element) frame position := by
  induction count generalizing position with
  | zero => rw [readAll, List.replicate_zero, decodeComponents]
  | succ count ih => rw [readAll, List.replicate_succ, decodeComponents, ih]

theorem headSizes_replicate (count : Nat) (element : Ty) :
    headSizes (List.replicate count element) = count * element.headSize := by
  induction count with
  | zero => rw [List.replicate_zero, headSizes, Nat.zero_mul]
  | succ count ih => rw [List.replicate_succ, headSizes, ih, Nat.succ_mul, Nat.add_comm]

mutual

theorem decodeValue_encodeValue (value : Value) (ty : Ty) (typed : value.HasType ty)
    (fits : (encodeValue value).length < 2 ^ 256) (rest : Bytes) :
    decodeValue ty (encodeValue value ++ rest) = some value := by
  cases value <;> cases ty <;> simp only [Value.HasType] at typed
  case uint.uint value bits => exact decodeValue_uint typed.1 typed.2 rest
  case address.address value => exact decodeValue_address value rest
  case bytes32.bytes32 value =>
    rw [decodeValue, encodeValue, readWord_append, Option.map_some]
  case bool.bool value =>
    cases value <;> simp [decodeValue, encodeValue, readUint_append, Option.bind_eq_bind]
  case bytes.bytes value =>
    apply decodeValue_bytes
    rw [encodeValue, List.length_append, padRight, List.length_append] at fits
    omega
  case array.array elements element =>
    obtain ⟨counted, typed⟩ := typed
    rw [encodeValue, List.length_append, padUint_length counted] at fits
    have within : (layout (encodeParts elements)).length < 2 ^ 256 := by omega
    have sized := headSize_encodeParts elements _ typed
    rw [headSizes_replicate] at sized
    have wide := headSize_le_length (encodeParts elements) (headSize (encodeParts elements))
    have enough : 32 + elements.length * element.headSize ≤
        (padUint elements.length ++ (layout (encodeParts elements) ++ rest)).length := by
      rw [List.length_append, List.length_append, padUint_length counted, layout,
        List.length_append]
      omega
    have read := decodeComponents_encodeParts elements _ typed [] [] rest
      (headSize (encodeParts elements)) (by simp) (layout_fits within)
    simp only [List.nil_append, List.append_nil, List.length_nil] at read
    rw [encodeValue, List.append_assoc]
    simp only [decodeValue, readUint_append counted, Option.bind_eq_bind, Option.bind_some,
      if_pos enough]
    rw [List.drop_left' (padUint_length counted), readAll_eq, layout, read, Option.map_some]
  case tuple.tuple components types =>
    rw [encodeValue] at fits ⊢
    rw [decodeValue_tuple]
    have read := decodeComponents_encodeParts components types typed [] [] rest
      (headSize (encodeParts components)) (by simp) (layout_fits fits)
    simp only [List.nil_append, List.append_nil, List.length_nil] at read
    rw [layout, read, Option.map_some]

-- The heads to come start after `before`; the tails already laid out are `between`.
theorem decodeComponents_encodeParts (values : List Value) (types : List Ty)
    (typed : HaveTypes values types) (before between rest : Bytes) (offset : Nat)
    (points : offset = before.length + headSize (encodeParts values) + between.length)
    (fits : offset + (tails (encodeParts values)).length < 2 ^ 256) :
    decodeComponents types (before ++ heads offset (encodeParts values) ++ between ++
      tails (encodeParts values) ++ rest) before.length = some values := by
  cases values with
  | nil =>
    cases types with
    | nil => rw [decodeComponents]
    | cons => simp [HaveTypes] at typed
  | cons value later =>
    cases types with
    | nil => simp [HaveTypes] at typed
    | cons ty types =>
      rw [HaveTypes] at typed
      obtain ⟨typed, rest_typed⟩ := typed
      have dynamic := isDynamic_eq value ty typed
      rw [encodeParts_cons] at points fits ⊢
      rw [headSize_cons] at points
      rw [tails_cons, List.length_append] at fits
      rw [heads, tails_cons]
      by_cases moved : ty.isDynamic = true
      · have body : (partOf value).tail = encodeValue value := by
          simp [Part.tail, partOf, dynamic, moved]
        have slot : (partOf value).headSize = 32 := by
          simp [Part.headSize, partOf, dynamic, moved]
        rw [body] at fits ⊢
        rw [slot] at points
        have small : offset < 2 ^ 256 := by omega
        have word : (padUint offset).length = 32 := padUint_length small
        have reads := decodeValue_encodeValue value ty typed (by omega)
          (tails (encodeParts later) ++ rest)
        have ahead := length_heads (encodeParts later) (offset + (encodeValue value).length)
          (by omega)
        have next := decodeComponents_encodeParts later types rest_typed
          (before ++ padUint offset) (between ++ encodeValue value) rest
          (offset + (encodeValue value).length)
          (by simp only [List.length_append, word]; omega) (by omega)
        have flag : (partOf value).isDynamic = true := dynamic.trans moved
        rw [if_pos flag]
        apply decodeComponents_dynamic offset moved
        · simp only [List.append_assoc, List.drop_left]
          exact readUint_append small _
        · have reached : (before ++ padUint offset ++ heads (offset + (encodeValue value).length)
              (encodeParts later) ++ between).length = offset := by
            simp only [List.length_append, word, ahead]
            omega
          have landed : (before ++ padUint offset ++ heads (offset + (encodeValue value).length)
              (encodeParts later) ++ between ++ (encodeValue value ++
                (tails (encodeParts later) ++ rest))).drop offset =
              encodeValue value ++ (tails (encodeParts later) ++ rest) := List.drop_left' reached
          simp only [List.append_assoc] at landed ⊢
          rw [landed]
          exact reads
        · rw [Ty.headSize_dynamic moved]
          simp only [List.length_append, word, List.append_assoc] at next ⊢
          exact next
      · have fixed : ty.isDynamic = false := by simpa using moved
        have body : (partOf value).tail = [] := by simp [Part.tail, partOf, dynamic, fixed]
        have sized := length_encodeValue value ty typed fixed
        have slot : (partOf value).headSize = (encodeValue value).length := by
          simp [Part.headSize, partOf, dynamic, fixed]
        rw [body] at fits ⊢
        rw [slot] at points
        have reads := decodeValue_encodeValue value ty typed (by omega)
          (heads offset (encodeParts later) ++ (between ++ (tails (encodeParts later) ++ rest)))
        have next := decodeComponents_encodeParts later types rest_typed
          (before ++ encodeValue value) between rest offset
          (by simp only [List.length_append]; omega) (by simpa using fits)
        have flag : ¬ (partOf value).isDynamic = true := by
          rw [partOf, dynamic]
          exact moved
        rw [if_neg flag]
        simp only [List.length_nil, Nat.add_zero, List.nil_append]
        apply decodeComponents_static fixed
        · simp only [List.append_assoc, List.drop_left]
          exact reads
        · simp only [List.length_append, sized, List.append_assoc] at next ⊢
          exact next

end

theorem decode_encode {values : List Value} {types : List Ty} (typed : HaveTypes values types)
    (fits : (encode values).length < 2 ^ 256) : decode types (encode values) = some values := by
  have read := decodeComponents_encodeParts values types typed [] [] []
    (headSize (encodeParts values)) (by simp) (layout_fits fits)
  simpa [decode, encode, layout] using read

end FlareStudio.Abi
