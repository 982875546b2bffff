import FlareStudio.Shared.Magnitude
import FlareStudio.Shared.Zod

set_option autoImplicit false

namespace FlareStudio

inductive Thrown where
  | typeError
  | rangeError
deriving DecidableEq

namespace Number

def ofMagnitude (negative : Bool) : Magnitude → Number
  | .finite value => .finite negative value
  | .infinity => .infinite negative

def magnitude : Number → Magnitude
  | .finite _ value => .finite value
  | .infinite _ => .infinity

def isNegative : Number → Bool
  | .finite negative _ => negative
  | .infinite negative => negative

def times (number : Number) (factor : ℕ) : Number :=
  ofMagnitude number.isNegative (number.magnitude.times factor)

end Number

def trim (units : Text) : Text := ((units.dropWhile isSpace).reverse.dropWhile isSpace).reverse

-- The radix and the digits after 0x, 0o or 0b, with the letter in either case.
def radixDigits? : Text → Option (ℕ × Text)
  | 48 :: letter :: digits =>
    if letter = 120 ∨ letter = 88 then some (16, digits)
    else if letter = 111 ∨ letter = 79 then some (8, digits)
    else if letter = 98 ∨ letter = 66 then some (2, digits)
    else none
  | _ => none

def digitValue? (radix unit : ℕ) : Option ℕ := (Hex.value? unit).filter (· < radix)

def ofRadix (radix : ℕ) (digits : Text) : Option Number :=
  if digits ≠ [] ∧ digits.all fun unit => (digitValue? radix unit).isSome then
    some (.ofNat
      (digits.foldl (fun value unit => value * radix + (digitValue? radix unit).getD 0) 0))
  else none

def signed : Text → Bool × Text
  | 43 :: rest => (false, rest)
  | 45 :: rest => (true, rest)
  | units => (false, units)

-- The exponent that ends a literal, if there is one.
def exponent? : Text → Option (Option ℤ)
  | [] => some none
  | mark :: rest =>
    let (negative, digits) := signed rest
    if (mark = 101 ∨ mark = 69) ∧ digits ≠ [] ∧ digits.all Json.isDigit then
      some (some (if negative then -ofDecimal digits else ofDecimal digits))
    else none

def decimalLiteral? (negative : Bool) (units : Text) : Option Number :=
  if units = text "Infinity" then some (.infinite negative)
  else
    let (integer, rest) := units.span Json.isDigit
    let (fraction, rest) := Numeral.readFraction rest
    if integer = [] ∧ fraction = [] then none
    else (exponent? rest).map fun exponent =>
      Numeral.toNumber ⟨negative, integer, fraction, exponent⟩

def stringToNumber (units : Text) : Option Number :=
  let trimmed := trim units
  if trimmed = [] then some (.ofNat 0)
  else
    match radixDigits? trimmed with
    | some (radix, digits) => ofRadix radix digits
    | none => decimalLiteral? (signed trimmed).1 (signed trimmed).2

theorem not_isSpace_of_isDigit {unit : ℕ} (digit : Json.isDigit unit = true) :
    isSpace unit = false := by
  simp only [Json.isDigit, Bool.and_eq_true, decide_eq_true_eq] at digit
  simp [isSpace]
  omega

theorem trim_digits {units : Text} (digits : ∀ unit ∈ units, Json.isDigit unit = true) :
    trim units = units := by
  have keep {list : Text} (all : ∀ unit ∈ list, Json.isDigit unit = true) :
      list.dropWhile isSpace = list := by
    cases list with
    | nil => rfl
    | cons unit rest =>
      rw [List.dropWhile_cons_of_neg]
      rw [not_isSpace_of_isDigit (all unit List.mem_cons_self)]
      exact Bool.false_ne_true
  rw [trim, keep digits, keep (fun unit member => digits unit (List.mem_reverse.mp member)),
    List.reverse_reverse]

theorem signed_digits {units : Text} (digits : ∀ unit ∈ units, Json.isDigit unit = true) :
    signed units = (false, units) := by
  cases units with
  | nil => rfl
  | cons unit rest =>
    have digit := digits unit List.mem_cons_self
    rw [signed]
    · rintro _ ⟨⟩
      exact absurd digit (by decide)
    · rintro _ ⟨⟩
      exact absurd digit (by decide)

theorem radixDigits?_decimal (value : ℕ) : radixDigits? (decimal value) = none := by
  by_cases zero : value = 0
  · rw [zero]
    rfl
  · obtain ⟨code, more, split, nonzero⟩ := decimal_head zero
    rw [split, radixDigits?]
    rintro _ _ ⟨⟩
    exact nonzero rfl

theorem stringToNumber_decimal (value : ℕ) :
    stringToNumber (decimal value) = some (.ofNat value) := by
  have digits := Numeral.isDigit_decimal value
  have nonempty := Numeral.decimal_ne_nil value
  have finite : decimal value ≠ text "Infinity" := by
    intro same
    have letter := digits 73 (by rw [same]; decide)
    exact absurd letter (by decide)
  have spanned : (decimal value).span Json.isDigit = (decimal value, []) := by
    have all := @Json.span_digits (decimal value) [] digits nofun
    rwa [List.append_nil] at all
  simp only [stringToNumber, trim_digits digits, nonempty, if_false, radixDigits?_decimal,
    signed_digits digits, decimalLiteral?, finite, spanned, Numeral.readFraction, false_and,
    exponent?, Option.map_some, Number.ofNat]

-- What becomes of a value that is of another class than a plain object, or no object at all, by the
-- name of its type.
structure Host where
  toText : Text → Except Thrown Text
  toNumber : Text → Except Thrown (Option Number)
  isTruthy : Text → Bool

def JsNumber.toNumber : JsNumber → Number
  | .infinity negative => .infinite negative
  | .finite value =>
    if finite : Double.nearest |value| < 2 ^ (1024 : ℤ) then
      .finite (value < 0) ⟨Double.nearest |value|,
        Double.representable_nearest (abs_nonneg value) finite⟩
    else .infinite (value < 0)

namespace JsValue

variable (host : Host)

mutual

def toText : JsValue → Except Thrown Text
  | .undefined => .ok (FlareStudio.text "undefined")
  | .null => .ok (FlareStudio.text "null")
  | .boolean true => .ok (FlareStudio.text "true")
  | .boolean false => .ok (FlareStudio.text "false")
  | .number value => .ok value.toNumber.toText
  | .string units => .ok units
  | .array elements => joinElements elements
  | .object members =>
    -- a member of that name hides the inherited method, and is none itself
    if members.any fun member => member.1 = FlareStudio.text "toString" then .error .typeError
    else .ok (FlareStudio.text "[object Object]")
  | .other name =>
    if name = FlareStudio.text "nan" then .ok (FlareStudio.text "NaN") else host.toText name

-- Array.prototype.join, which leaves undefined and null out.
def joinElements : List JsValue → Except Thrown Text
  | [] => .ok []
  | element :: rest => do
    let first ← match element with
      | .undefined => .ok []
      | .null => .ok []
      | element => toText element
    let more ← joinMore rest
    .ok (first ++ more)

def joinMore : List JsValue → Except Thrown Text
  | [] => .ok []
  | element :: rest => do
    let first ← match element with
      | .undefined => .ok []
      | .null => .ok []
      | element => toText element
    let more ← joinMore rest
    .ok (44 :: first ++ more)

end

def toNumber : JsValue → Except Thrown (Option Number)
  | .undefined => .ok none
  | .null => .ok (some (.ofNat 0))
  | .boolean value => .ok (some (.ofNat (if value then 1 else 0)))
  | .number value => .ok (some value.toNumber)
  | .string units => .ok (stringToNumber units)
  | .other name => if name = FlareStudio.text "nan" then .ok none else host.toNumber name
  | value => (toText host value).map stringToNumber

def isTruthy : JsValue → Bool
  | .undefined => false
  | .null => false
  | .boolean value => value
  | .number value => value ≠ .finite 0
  | .string units => units ≠ []
  | .array _ => true
  | .object _ => true
  | .other name => name ≠ FlareStudio.text "nan" && host.isTruthy name

end JsValue

end FlareStudio
