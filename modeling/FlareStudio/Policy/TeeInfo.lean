import FlareStudio.Policy.Ecies

set_option autoImplicit false

namespace FlareStudio.Policy.TeeInfo

open Ecies

structure TeePublicKeyPoint where
  x : Text
  y : Text

def sectionPoint (root : List (Text × JsValue)) (key : String) : Option TeePublicKeyPoint :=
  match Zod.field root key with
  | .object members =>
    match Zod.field members "publicKey" with
    | .object candidate =>
      match Zod.field candidate "x", Zod.field candidate "y" with
      | .string x, .string y => some ⟨x, y⟩
      | _, _ => none
    | _ => none
  | _ => none

def findPublicKey : JsValue → Option TeePublicKeyPoint
  | .object root => ["machineData", "teeInfo"].findSome? (sectionPoint root)
  | _ => none

def stripHex : Text → Text
  | 48 :: 120 :: rest => rest
  | 48 :: 88 :: rest => rest
  | value => value

-- A length divided by two, as a number in a message shows it.
def half (length : Nat) : String :=
  toString (length / 2) ++ if length % 2 = 0 then "" else ".5"

def teePublicKeyFromInfo (info : JsValue) : Except String Text :=
  match findPublicKey info with
  | none => .error ("extension proxy /info has no machineData.publicKey -- the machine is " ++
      "probably not registered yet, or the proxy is serving a different extension")
  | some point =>
    let x := stripHex point.x
    let y := stripHex point.y
    if x.length ≠ 64 ∨ y.length ≠ 64 then
      .error ("unexpected public key coordinates: x is " ++ half x.length ++ " bytes, y is " ++
        half y.length ++ " bytes; both must be 32")
    else .ok (text "0x04" ++ x ++ y)

def HasPoint (root : List (Text × JsValue)) (key : String) (point : TeePublicKeyPoint) : Prop :=
  ∃ members candidate, Zod.field root key = .object members ∧
    Zod.field members "publicKey" = .object candidate ∧
    Zod.field candidate "x" = .string point.x ∧ Zod.field candidate "y" = .string point.y

/-- The registered machine's key counts, and the answering node's where there is none. -/
def Reports (info : JsValue) (point : TeePublicKeyPoint) : Prop :=
  ∃ root, info = .object root ∧
    (HasPoint root "machineData" point ∨
      (∀ other, ¬ HasPoint root "machineData" other) ∧ HasPoint root "teeInfo" point)

theorem sectionPoint_iff {root : List (Text × JsValue)} {key : String}
    {point : TeePublicKeyPoint} : sectionPoint root key = some point ↔ HasPoint root key point := by
  constructor
  · intro found
    unfold sectionPoint at found
    split at found
    · rename_i members section_
      split at found
      · rename_i candidate publicKey
        split at found
        · rename_i x y first second
          cases found
          exact ⟨members, candidate, section_, publicKey, first, second⟩
        · cases found
      · cases found
    · cases found
  · rintro ⟨members, candidate, section_, publicKey, first, second⟩
    simp only [sectionPoint, section_, publicKey, first, second]

theorem findPublicKey_iff {info : JsValue} {point : TeePublicKeyPoint} :
    findPublicKey info = some point ↔ Reports info point := by
  cases info with
  | object root =>
    have unwrapped : Reports (.object root) point ↔ (HasPoint root "machineData" point ∨
        (∀ other, ¬ HasPoint root "machineData" other) ∧ HasPoint root "teeInfo" point) := by
      constructor
      · rintro ⟨_, same, held⟩
        cases same
        exact held
      · intro held
        exact ⟨root, rfl, held⟩
    simp only [unwrapped, ← sectionPoint_iff, findPublicKey, List.findSome?_cons,
      List.findSome?_nil]
    cases sectionPoint root "machineData" with
    | none => cases sectionPoint root "teeInfo" <;> simp
    | some machine => simp
  | _ => simp [findPublicKey, Reports]

section

variable {info : JsValue} {point : TeePublicKeyPoint}

/-- The answer is refused, or the key is 0x04 and 128 hexadecimal digits, which the encryption
reads as the two coordinates that the document reports. -/
def Faithful (curve : Secp256k1) (info : JsValue) : Prop :=
  (∃ message, teePublicKeyFromInfo info = .error message) ∨
  ∃ (digits : Text) (point : TeePublicKeyPoint) (x y : Bytes32),
    teePublicKeyFromInfo info = .ok (text "0x04" ++ digits) ∧
    digits.length = 128 ∧ digits.all isHexDigit = true ∧ Reports info point ∧
    Hex.decode (stripHex point.x) = some x.bytes ∧ Hex.decode (stripHex point.y) = some y.bytes ∧
    normalizeTeePublicKey curve (.hex (text "0x04" ++ digits)) = .ok (4 :: x.bytes ++ y.bytes)

theorem decode_append {front rest : Text} {bytes : Bytes}
    (decoded : Hex.decode front = some bytes) :
    Hex.decode (front ++ rest) = (Hex.decode rest).map (bytes ++ ·) := by
  induction front using Hex.decode.induct generalizing bytes with
  | case1 =>
    cases decoded
    simp
  | case2 => cases decoded
  | case3 high low front ih =>
    simp only [Hex.decode, Option.bind_eq_bind, Option.bind_eq_some_iff, Option.some.injEq]
      at decoded
    obtain ⟨h, first, l, second, tail, later, rfl⟩ := decoded
    simp only [List.cons_append, Hex.decode, first, second, ih later, Option.bind_eq_bind,
      Option.bind_some]
    cases Hex.decode rest <;> rfl

theorem teePublicKeyFromInfo_of_reports (reports : Reports info point)
    (left : (stripHex point.x).length = 64) (right : (stripHex point.y).length = 64) :
    teePublicKeyFromInfo info = .ok (text "0x04" ++ (stripHex point.x ++ stripHex point.y)) := by
  rw [teePublicKeyFromInfo, findPublicKey_iff.mpr reports]
  simp [left, right]

theorem teePublicKeyFromInfo_refuses (missing : ∀ point, Reports info point →
    (stripHex point.x).length ≠ 64 ∨ (stripHex point.y).length ≠ 64) :
    ∃ message, teePublicKeyFromInfo info = .error message := by
  rw [teePublicKeyFromInfo]
  cases found : findPublicKey info with
  | none => exact ⟨_, rfl⟩
  | some point => exact ⟨_, if_pos (missing point (findPublicKey_iff.mp found))⟩

theorem denotes_coordinate {digits : Text} (hex : digits.all isHexDigit = true)
    (length : digits.length = 64) : ∃ value : Bytes32, Hex.decode digits = some value.bytes := by
  obtain ⟨bytes, decoded⟩ := decode_hexDigits (n := 32) hex length
  have sized := Hex.decode_length decoded
  exact ⟨⟨bytes, by omega⟩, decoded⟩

theorem normalize_joined (curve : Secp256k1) {first second : Text} {x y : Bytes32}
    (left : Hex.decode first = some x.bytes) (right : Hex.decode second = some y.bytes) :
    normalizeTeePublicKey curve (.hex (text "0x04" ++ (first ++ second))) =
      .ok (4 :: x.bytes ++ y.bytes) := by
  have joined : Hex.decode (text "04" ++ (first ++ second)) = some (4 :: (x.bytes ++ y.bytes)) := by
    rw [decode_append (show Hex.decode (text "04") = some [4] from rfl), decode_append left, right]
    rfl
  have denotes : (Encoded.hex (text "0x04" ++ (first ++ second))).Denotes
      (4 :: (x.bytes ++ y.bytes)) := joined
  rw [normalizeTeePublicKey, toBytes_of_denotes denotes]
  exact if_pos ⟨by simp [pubkeyLen], rfl⟩

/-- The key is faithful or refused exactly where the coordinates of the reported point, when both
are 64 characters long without their marker, consist of hexadecimal digits. -/
theorem faithful_iff (curve : Secp256k1) (info : JsValue) :
    Faithful curve info ↔ ∀ point, Reports info point →
      (stripHex point.x).length = 64 → (stripHex point.y).length = 64 →
      (stripHex point.x ++ stripHex point.y).all isHexDigit = true := by
  constructor
  · rintro faithful point reports left right
    have answer := teePublicKeyFromInfo_of_reports reports left right
    rcases faithful with ⟨message, refused⟩ | ⟨digits, _, _, _, given, -, hex, -⟩
    · rw [answer] at refused
      cases refused
    · rw [answer, Except.ok.injEq, List.append_cancel_left_eq] at given
      rwa [given]
  · intro hexadecimal
    by_cases joined : ∃ point, Reports info point ∧
        (stripHex point.x).length = 64 ∧ (stripHex point.y).length = 64
    · obtain ⟨point, reports, left, right⟩ := joined
      have hex := hexadecimal point reports left right
      have both := hex
      rw [List.all_append, Bool.and_eq_true] at both
      obtain ⟨x, first⟩ := denotes_coordinate both.1 left
      obtain ⟨y, second⟩ := denotes_coordinate both.2 right
      refine .inr ⟨_, point, x, y, teePublicKeyFromInfo_of_reports reports left right, ?_, hex,
        reports, first, second, normalize_joined curve first second⟩
      rw [List.length_append, left, right]
    · refine .inl (teePublicKeyFromInfo_refuses fun point reports => ?_)
      by_contra both
      rw [not_or, not_ne_iff, not_ne_iff] at both
      exact joined ⟨point, reports, both.1, both.2⟩

end

def malformedInfo : JsValue :=
  .object [(text "machineData", .object [(text "publicKey", .object [
    (text "x", .string (List.replicate 64 90)), (text "y", .string (List.replicate 64 90))])])]

theorem malformed_becomes_zero :
    teePublicKeyFromInfo malformedInfo = .ok (text "0x04" ++ List.replicate 128 90) ∧
      normalizeTeePublicKey .sample (.hex (text "0x04" ++ List.replicate 128 90)) =
        .ok (4 :: List.replicate 64 0) ∧
      ¬ Faithful .sample malformedInfo := by
  have answer : teePublicKeyFromInfo malformedInfo =
      .ok (text "0x04" ++ List.replicate 128 90) := by rfl
  refine ⟨answer, by decide +kernel, ?_⟩
  rintro (⟨message, refused⟩ | ⟨digits, _, _, _, given, -, hex, -⟩)
  · rw [answer] at refused
    cases refused
  · rw [answer, Except.ok.injEq, List.append_cancel_left_eq] at given
    rw [← given] at hex
    exact absurd hex (by decide)

end FlareStudio.Policy.TeeInfo
