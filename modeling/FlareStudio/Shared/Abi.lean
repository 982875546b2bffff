import FlareStudio.Shared.Bytes

set_option autoImplicit false

-- The head and tail layout of the ABI specification over an untyped tree of values, which is all
-- an encoder looks at, and the decoder that a type drives.

namespace FlareStudio.Abi

inductive Value where
  | uint (value : Nat)
  | address (value : Address)
  | bytes32 (value : Bytes32)
  | bool (value : Bool)
  | bytes (value : Bytes)
  | array (elements : List Value)
  | tuple (components : List Value)

mutual

def Value.isDynamic : Value → Bool
  | .bytes _ | .array _ => true
  | .tuple components => anyDynamic components
  | _ => false

def anyDynamic : List Value → Bool
  | [] => false
  | value :: rest => value.isDynamic || anyDynamic rest

end

structure Part where
  isDynamic : Bool
  body : Bytes

namespace Part

def headSize (part : Part) : Nat := if part.isDynamic then 32 else part.body.length

def tail (part : Part) : Bytes := if part.isDynamic then part.body else []

end Part

def headSize (parts : List Part) : Nat := (parts.map Part.headSize).sum

def tails (parts : List Part) : Bytes := parts.flatMap Part.tail

def heads : Nat → List Part → Bytes
  | _, [] => []
  | offset, part :: rest =>
    (if part.isDynamic then padUint offset else part.body) ++
      heads (offset + part.tail.length) rest

def layout (parts : List Part) : Bytes := heads (headSize parts) parts ++ tails parts

def padRight (bytes : Bytes) : Bytes :=
  bytes ++ List.replicate ((32 - bytes.length % 32) % 32) 0

mutual

def encodeValue : Value → Bytes
  | .uint value => padUint value
  | .address value => value.word
  | .bytes32 value => value.bytes
  | .bool value => padUint value.toNat
  | .bytes value => padUint value.length ++ padRight value
  | .array elements => padUint elements.length ++ layout (encodeParts elements)
  | .tuple components => layout (encodeParts components)

def encodeParts : List Value → List Part
  | [] => []
  | value :: rest => ⟨value.isDynamic, encodeValue value⟩ :: encodeParts rest

end

def encode (arguments : List Value) : Bytes := layout (encodeParts arguments)

theorem layout_static (parts : List Part) (static : ∀ part ∈ parts, part.isDynamic = false) :
    layout parts = parts.flatMap Part.body := by
  have noTails : tails parts = [] := by
    rw [tails, List.flatMap_eq_nil_iff]
    intro part member
    simp [Part.tail, static part member]
  have inPlace (parts : List Part) (offset : Nat)
      (static : ∀ part ∈ parts, part.isDynamic = false) :
      heads offset parts = parts.flatMap Part.body := by
    induction parts generalizing offset with
    | nil => rfl
    | cons part rest ih =>
      have here := static part List.mem_cons_self
      have later := ih (offset + part.tail.length) fun part member =>
        static part (List.mem_cons_of_mem _ member)
      simp [heads, here, later]
  rw [layout, noTails, inPlace parts _ static, List.append_nil]

theorem encodeParts_eq_map (values : List Value) :
    encodeParts values = values.map fun value => ⟨value.isDynamic, encodeValue value⟩ := by
  induction values with
  | nil => rfl
  | cons value rest ih => simp [encodeParts, ih]

theorem anyDynamic_eq_any (values : List Value) :
    anyDynamic values = values.any Value.isDynamic := by
  induction values with
  | nil => rfl
  | cons value rest ih => simp [anyDynamic, ih]

theorem layout_encodeParts_static (values : List Value)
    (static : ∀ value ∈ values, value.isDynamic = false) :
    layout (encodeParts values) = values.flatMap encodeValue := by
  rw [encodeParts_eq_map, layout_static, List.flatMap_map]
  simpa using static

inductive Ty where
  | uint (bits : Nat)
  | address
  | bytes32
  | bool
  | bytes
  | array (element : Ty)
  | tuple (components : List Ty)

mutual

def Ty.isDynamic : Ty → Bool
  | .bytes | .array _ => true
  | .tuple components => anyDynamicTy components
  | _ => false

def anyDynamicTy : List Ty → Bool
  | [] => false
  | ty :: rest => ty.isDynamic || anyDynamicTy rest

end

mutual

def Ty.headSize : Ty → Nat
  | .tuple components => if anyDynamicTy components then 32 else headSizes components
  | _ => 32

def headSizes : List Ty → Nat
  | [] => 0
  | ty :: rest => ty.headSize + headSizes rest

end

def readWord (data : Bytes) : Option Bytes32 := FixedBytes.ofBytes? 32 (data.take 32)

def readUint (data : Bytes) : Option Nat := (readWord data).map fun word => ofBigEndian word.bytes

-- A component starts in place, or at the offset that stands in its place.
def component (isDynamic : Bool) (frame : Bytes) (position : Nat) : Option Bytes :=
  if isDynamic then (readUint (frame.drop position)).map frame.drop
  else some (frame.drop position)

def readAll (isDynamic : Bool) (size : Nat) (read : Bytes → Option Value) (frame : Bytes) :
    Nat → Nat → Option (List Value)
  | 0, _ => some []
  | count + 1, position => do
    let value ← (component isDynamic frame position).bind read
    let rest ← readAll isDynamic size read frame count (position + size)
    some (value :: rest)

mutual

-- Out-of-range words are refused, as Solidity's decoder does; go-ethereum's crops an address to its
-- last twenty bytes, and reads the same of every word that an encoder writes.
def decodeValue : Ty → Bytes → Option Value
  | .uint bits, data => do
    let value ← readUint data
    if value < 2 ^ bits then some (.uint value) else none
  | .address, data => do
    let word ← readWord data
    if word.bytes.take 12 = List.replicate 12 0 then
      (FixedBytes.ofBytes? 20 (word.bytes.drop 12)).map .address
    else none
  | .bytes32, data => (readWord data).map .bytes32
  | .bool, data => do
    let value ← readUint data
    if value = 0 then some (.bool false) else if value = 1 then some (.bool true) else none
  | .bytes, data => do
    let length ← readUint data
    if 32 + length ≤ data.length then some (.bytes ((data.drop 32).take length)) else none
  | .array element, data => do
    let count ← readUint data
    if 32 + count * element.headSize ≤ data.length then
      (readAll element.isDynamic element.headSize (decodeValue element) (data.drop 32) count 0).map
        .array
    else none
  | .tuple components, data => (decodeComponents components data 0).map .tuple

def decodeComponents : List Ty → Bytes → Nat → Option (List Value)
  | [], _, _ => some []
  | ty :: rest, frame, position => do
    let value ← (component ty.isDynamic frame position).bind (decodeValue ty)
    let values ← decodeComponents rest frame (position + ty.headSize)
    some (value :: values)

end

def decode (types : List Ty) (data : Bytes) : Option (List Value) := decodeComponents types data 0

theorem readWord_append (word : Bytes32) (rest : Bytes) :
    readWord (word.bytes ++ rest) = some word := by
  rw [readWord, List.take_left' word.length_bytes, FixedBytes.ofBytes?_bytes]

theorem readUint_append {value : Nat} (fits : value < 2 ^ 256) (rest : Bytes) :
    readUint (padUint value ++ rest) = some value := by
  rw [readUint, readWord_append ⟨padUint value, padUint_length fits⟩, Option.map_some,
    ofBigEndian_padUint]

theorem decodeValue_uint {value bits : Nat} (bounded : bits ≤ 256) (fits : value < 2 ^ bits)
    (rest : Bytes) : decodeValue (.uint bits) (padUint value ++ rest) = some (.uint value) := by
  have small : value < 2 ^ 256 := lt_of_lt_of_le fits (Nat.pow_le_pow_right (by decide) bounded)
  simp only [decodeValue, readUint_append small, Option.bind_eq_bind, Option.bind_some, if_pos fits]

theorem decodeValue_address (value : Address) (rest : Bytes) :
    decodeValue .address (value.word ++ rest) = some (.address value) := by
  have read := readWord_append ⟨value.word, value.word_length (by decide)⟩ rest
  have padding : value.word = List.replicate 12 0 ++ value.bytes := by
    rw [FixedBytes.word, List.leftpad, value.length_bytes]
  simp only [decodeValue, read, Option.bind_eq_bind, Option.bind_some]
  rw [padding, List.take_left' (by decide), if_pos rfl, List.drop_left' (by decide),
    FixedBytes.ofBytes?_bytes, Option.map_some]

theorem decodeValue_bytes {value : Bytes} (fits : value.length < 2 ^ 256) (rest : Bytes) :
    decodeValue .bytes (encodeValue (.bytes value) ++ rest) = some (.bytes value) := by
  have header := padUint_length fits
  have read := readUint_append fits (padRight value ++ rest)
  rw [encodeValue, List.append_assoc]
  simp only [decodeValue, read, Option.bind_eq_bind, Option.bind_some]
  rw [List.drop_left' header, if_pos]
  · simp [padRight]
  · simp only [List.length_append, header, padRight]
    omega

theorem decodeValue_tuple (components : List Ty) (data : Bytes) :
    decodeValue (.tuple components) data = (decodeComponents components data 0).map .tuple := by
  rw [decodeValue]

section Components

variable {ty : Ty} {rest : List Ty} {frame : Bytes} {position : Nat} {value : Value}
  {values : List Value}

theorem decodeComponents_static (static : ty.isDynamic = false)
    (here : decodeValue ty (frame.drop position) = some value)
    (later : decodeComponents rest frame (position + ty.headSize) = some values) :
    decodeComponents (ty :: rest) frame position = some (value :: values) := by
  rw [decodeComponents, static]
  simp [component, here, later]

theorem decodeComponents_dynamic (offset : Nat) (dynamic : ty.isDynamic = true)
    (points : readUint (frame.drop position) = some offset)
    (here : decodeValue ty (frame.drop offset) = some value)
    (later : decodeComponents rest frame (position + ty.headSize) = some values) :
    decodeComponents (ty :: rest) frame position = some (value :: values) := by
  rw [decodeComponents, dynamic]
  simp [component, points, here, later]

end Components

end FlareStudio.Abi
