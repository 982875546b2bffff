import FlareStudio.Shared.Text

set_option autoImplicit false

-- Parsers as zod composes them, each with the message of zod's default error map. Only the first
-- issue is kept, so a parser stops where zod would go on collecting. What a check establishes
-- stays with the value as a subtype.

namespace FlareStudio

inductive JsNumber where
  | finite (value : Rat)
  | infinity (negative : Bool)
deriving DecidableEq

def JsNumber.Positive : JsNumber → Prop
  | .finite value => 0 < value
  | .infinity negative => negative = false

instance : DecidablePred JsNumber.Positive
  | .finite _ => inferInstanceAs (Decidable (_ < _))
  | .infinity _ => inferInstanceAs (Decidable (_ = _))

-- NaN has a type name of its own for zod, and so have dates, maps, functions and the like.
inductive JsValue where
  | undefined
  | null
  | boolean (value : Bool)
  | number (value : JsNumber)
  | string (units : Text)
  | array (elements : List JsValue)
  | object (members : List (Text × JsValue))
  | other (typeName : Text)

namespace Zod

structure Issue where
  path : List Text
  message : Text
deriving DecidableEq

abbrev Parser (α : Type) : Type := List Text → JsValue → Except Issue α

variable {α : Type}

def typeName : JsValue → Text
  | .undefined => text "undefined"
  | .null => text "null"
  | .boolean _ => text "boolean"
  | .number _ => text "number"
  | .string _ => text "string"
  | .array _ => text "array"
  | .object _ => text "object"
  | .other name => name

def invalidType (expected : String) (path : List Text) : JsValue → Except Issue α
  | .undefined => .error ⟨path, text "Required"⟩
  | value =>
    .error ⟨path, text "Expected " ++ text expected ++ text ", received " ++ typeName value⟩

def boolean : Parser Bool
  | _, .boolean value => .ok value
  | path, value => invalidType "boolean" path value

def number : Parser JsNumber
  | _, .number value => .ok value
  | path, value => invalidType "number" path value

def string : Parser Text
  | _, .string units => .ok units
  | path, value => invalidType "string" path value

def object : Parser (List (Text × JsValue))
  | _, .object members => .ok members
  | path, value => invalidType "object" path value

def field (members : List (Text × JsValue)) (key : String) : JsValue :=
  (members.lookup (text key)).getD .undefined

def at_ (parser : Parser α) (path : List Text) (members : List (Text × JsValue)) (key : String) :
    Except Issue α :=
  parser (path ++ [text key]) (field members key)

def default (value : α) (parser : Parser α) : Parser α
  | _, .undefined => .ok value
  | path, found => parser path found

def optional (parser : Parser α) : Parser (Option α)
  | _, .undefined => .ok none
  | path, found => (parser path found).map some

def refine (holds : α → Prop) [DecidablePred holds] (message : String) (parser : Parser α) :
    Parser {value : α // holds value} := fun path found => do
  let value ← parser path found
  if checked : holds value then .ok ⟨value, checked⟩ else .error ⟨path, text message⟩

def literal (expected : Int) : Parser Unit
  | path, .number (.finite value) =>
    if value = expected then .ok ()
    else .error ⟨path, text "Invalid literal value, expected " ++ decimal expected.natAbs⟩
  | path, _ => .error ⟨path, text "Invalid literal value, expected " ++ decimal expected.natAbs⟩

def int : Parser Int := fun path found => do
  match ← number path found with
  | .finite value =>
    if value.den = 1 then .ok value.num
    else .error ⟨path, text "Expected integer, received float"⟩
  | .infinity _ => .error ⟨path, text "Expected integer, received float"⟩

def positiveInt : Parser {value : Int // 0 < value} :=
  refine (0 < ·) "Number must be greater than 0" int

def positive : Parser {value : JsNumber // value.Positive} :=
  refine JsNumber.Positive "Number must be greater than 0" number

def intBetween (low high : Nat) : Parser {value : Nat // low ≤ value ∧ value ≤ high} :=
  fun path found => do
    let value ← int path found
    if above : (low : Int) ≤ value then
      if below : value ≤ high then .ok ⟨value.toNat, by omega⟩
      else .error ⟨path, text "Number must be less than or equal to " ++ decimal high⟩
    else .error ⟨path, text "Number must be greater than or equal to " ++ decimal low⟩

def stringMax (high : Nat) : Parser {units : Text // units.length ≤ high} :=
  fun path found => do
    let units ← string path found
    if below : units.length ≤ high then .ok ⟨units, below⟩
    else .error ⟨path, text "String must contain at most " ++ decimal high ++ text " character(s)"⟩

def stringBetween (low high : Nat) :
    Parser {units : Text // low ≤ units.length ∧ units.length ≤ high} :=
  fun path found => do
    let units ← string path found
    if above : low ≤ units.length then
      if below : units.length ≤ high then .ok ⟨units, above, below⟩
      else
        .error ⟨path, text "String must contain at most " ++ decimal high ++ text " character(s)"⟩
    else
      .error ⟨path, text "String must contain at least " ++ decimal low ++ text " character(s)"⟩

def elements (parser : Parser α) (path : List Text) : Nat → List JsValue → Except Issue (List α)
  | _, [] => .ok []
  | index, element :: rest => do
    let value ← parser (path ++ [decimal index]) element
    let values ← elements parser path (index + 1) rest
    .ok (value :: values)

def array (parser : Parser α) : Parser (List α)
  | path, .array values => elements parser path 0 values
  | path, value => invalidType "array" path value

def nonemptyArray (parser : Parser α) : Parser {values : List α // values ≠ []}
  | path, .array [] => .error ⟨path, text "Array must contain at least 1 element(s)"⟩
  | path, .array (first :: rest) => do
    let value ← parser (path ++ [decimal 0]) first
    let values ← elements parser path 1 rest
    .ok ⟨value :: values, List.cons_ne_nil value values⟩
  | path, value => invalidType "array" path value

-- The options of a discriminated union, by the literals of their discriminator.
def discriminatedUnion (discriminator : String)
    (options : List (String × (List Text → List (Text × JsValue) → Except Issue α))) : Parser α :=
  fun path found => do
    let members ← object path found
    let kind := field members discriminator
    let chosen := options.find? fun option =>
      match kind with
      | .string units => units = text option.1
      | _ => false
    match chosen with
    | some option => option.2 path members
    | none =>
      .error ⟨path ++ [text discriminator], text "Invalid discriminator value. Expected " ++
        (text " | ").intercalate (options.map fun option => text "'" ++ text option.1 ++ text "'")⟩

end Zod

end FlareStudio
