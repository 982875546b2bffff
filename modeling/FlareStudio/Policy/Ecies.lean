import FlareStudio.Policy.Checksum
import FlareStudio.Policy.Plaintext
import FlareStudio.Shared.Aes
import FlareStudio.Shared.Sha256

set_option autoImplicit false

namespace FlareStudio.Policy.Ecies

def keyLen : Nat := 16

def ivLen : Nat := 16

def tagLen : Nat := 32

def pubkeyLen : Nat := 65

def subarray (bytes : Bytes) (start stop : Nat) : Bytes := (bytes.take stop).drop start

-- Uint8Array.prototype.set, where the part fits.
def set (out part : Bytes) (offset : Nat) : Bytes :=
  out.take offset ++ part ++ out.drop (offset + part.length)

def place (state : Bytes × Nat) (part : Bytes) : Bytes × Nat :=
  (set state.1 part state.2, state.2 + part.length)

def concat (parts : List Bytes) : Bytes :=
  let total := (parts.map List.length).sum
  (parts.foldl place (List.replicate total 0, 0)).1

theorem foldl_place (parts : List Bytes) (filled : Bytes) :
    (parts.foldl place (filled ++ List.replicate (parts.map List.length).sum 0, filled.length)).1 =
      filled ++ parts.flatten := by
  induction parts generalizing filled with
  | nil => simp
  | cons part rest ih =>
    have placed : place (filled ++ List.replicate ((part :: rest).map List.length).sum 0,
        filled.length) part = (filled ++ part ++ List.replicate (rest.map List.length).sum 0,
          (filled ++ part).length) := by
      rw [place, set, List.take_left, ← List.drop_drop, List.drop_left, List.drop_replicate,
        List.map_cons, List.sum_cons, Nat.add_sub_cancel_left, List.length_append]
    rw [List.foldl_cons, placed, ih, List.flatten_cons, List.append_assoc]

@[simp]
theorem concat_eq (parts : List Bytes) : concat parts = parts.flatten :=
  foldl_place parts []

-- Number.parseInt with radix 16, of strings short enough to be read exactly. none is NaN.
def parseInt16 (units : Text) : Option Int :=
  let trimmed := units.dropWhile isSpace
  let (sign, unsigned) := match trimmed with
    | 45 :: rest => ((-1 : Int), rest)
    | 43 :: rest => (1, rest)
    | _ => (1, trimmed)
  let bare := match unsigned with
    | 48 :: 120 :: rest => rest
    | 48 :: 88 :: rest => rest
    | _ => unsigned
  let digits := bare.takeWhile isHexDigit
  if digits = [] then none
  else
    let magnitude := digits.foldl (fun value unit => value * 16 + (Hex.value? unit).getD 0) 0
    some (sign * magnitude)

-- Storing a number in a Uint8Array keeps it modulo 256, and stores NaN as 0.
def readByte (pair : Text) : UInt8 := UInt8.ofInt ((parseInt16 pair).getD 0)

-- Hex | Uint8Array
inductive Encoded where
  | hex (units : Text)
  | bytes (bytes : Bytes)

def stripMarker : Text → Text
  | 48 :: 120 :: rest => rest
  | units => units

def hexBytes (hex : Text) : Bytes :=
  (List.range (hex.length / 2)).map fun i => readByte ((hex.drop (i * 2)).take 2)

def toBytes : Encoded → Bytes
  | .bytes bytes => bytes
  | .hex units => hexBytes (stripMarker units)

def toHex (bytes : Bytes) : Text := Hex.prefixed bytes

def Encoded.Denotes : Encoded → Bytes → Prop
  | .bytes given, value => given = value
  | .hex units, value => Hex.decode (stripMarker units) = some value

theorem parseInt16_digits {high low h l : Nat} (first : Hex.value? high = some h)
    (second : Hex.value? low = some l) : parseInt16 [high, low] = some ↑(h * 16 + l) := by
  have range {code value : Nat} (known : Hex.value? code = some value) :
      48 ≤ code ∧ code ≤ 57 ∨ 97 ≤ code ∧ code ≤ 102 ∨ 65 ≤ code ∧ code ≤ 70 := by
    unfold Hex.value? at known
    split_ifs at known <;> omega
  have spaceless : isSpace high = false := by
    have := range first
    simp [isSpace]
    omega
  have unsigned : high ≠ 45 ∧ high ≠ 43 := by
    have := range first
    omega
  have unmarked : low ≠ 120 ∧ low ≠ 88 := by
    have := range second
    omega
  have digits : isHexDigit high = true ∧ isHexDigit low = true := by
    simp [isHexDigit, first, second]
  simp [parseInt16, spaceless, unsigned, unmarked, digits, first, second]

theorem readByte_digits {high low h l : Nat} (first : Hex.value? high = some h)
    (second : Hex.value? low = some l) : readByte [high, low] = UInt8.ofNat (h * 16 + l) := by
  rw [readByte, parseInt16_digits first second, Option.getD_some]
  apply UInt8.toNat_inj.mp
  simp only [UInt8.ofInt, UInt8.toNat_ofNat']
  omega

theorem hexBytes_cons_cons (high low : Nat) (rest : Text) :
    hexBytes (high :: low :: rest) = readByte [high, low] :: hexBytes rest := by
  have half : (high :: low :: rest).length / 2 = rest.length / 2 + 1 := by
    simp only [List.length_cons]
    omega
  rw [hexBytes, half, List.range_succ_eq_map, List.map_cons, List.map_map]
  congr 1
  apply List.map_congr_left
  intro i _
  simp [Nat.succ_mul]

theorem hexBytes_of_decode {hex : Text} {bytes : Bytes} (decoded : Hex.decode hex = some bytes) :
    hexBytes hex = bytes := by
  induction hex using Hex.decode.induct generalizing bytes with
  | case1 => simpa [Hex.decode, hexBytes] using decoded
  | case2 => cases decoded
  | case3 high low rest ih =>
    simp only [Hex.decode, Option.bind_eq_bind, Option.bind_eq_some_iff, Option.some.injEq]
      at decoded
    obtain ⟨h, first, l, second, tail, later, rfl⟩ := decoded
    rw [hexBytes_cons_cons, readByte_digits first second, ih later]

theorem toBytes_of_denotes {value : Encoded} {bytes : Bytes} (denotes : value.Denotes bytes) :
    toBytes value = bytes := by
  cases value with
  | bytes => exact denotes
  | hex units => exact hexBytes_of_decode denotes

theorem denotes_toHex (bytes : Bytes) : (Encoded.hex (toHex bytes)).Denotes bytes :=
  Hex.decode_encode bytes

-- DataView.prototype.setUint32, big-endian.
def counterBytes (counter : Nat) : Bytes := (bigEndian (counter % 2 ^ 32)).leftpad 4 0

def kdfLoop (z : Bytes) (outputLen : Nat) (out : Bytes) (written counter : Nat) : Bytes :=
  if written < outputLen then
    let block := (sha256 (concat [counterBytes counter, z])).bytes
    let take := min block.length (outputLen - written)
    kdfLoop z outputLen (set out (subarray block 0 take) written) (written + take) (counter + 1)
  else out
termination_by outputLen - written
decreasing_by
  simp only [FixedBytes.length_bytes]
  omega

def concatKDF (z : Bytes) (outputLen : Nat) : Bytes :=
  kdfLoop z outputLen (List.replicate outputLen 0) 0 1

theorem length_set {out part : Bytes} {offset : Nat} (fits : offset + part.length ≤ out.length) :
    (set out part offset).length = out.length := by
  simp only [set, List.length_append, List.length_take, List.length_drop]
  omega

theorem length_kdfLoop {z out : Bytes} {outputLen written counter : Nat}
    (sized : out.length = outputLen) :
    (kdfLoop z outputLen out written counter).length = outputLen := by
  induction out, written, counter using kdfLoop.induct z outputLen with
  | case1 out written counter more block take ih =>
    rw [kdfLoop, if_pos more]
    apply ih
    rw [length_set, sized]
    simp only [subarray, List.drop_zero, List.length_take, take]
    omega
  | case2 out written counter done => rwa [kdfLoop, if_neg done]

@[simp]
theorem length_concatKDF (z : Bytes) (outputLen : Nat) :
    (concatKDF z outputLen).length = outputLen :=
  length_kdfLoop List.length_replicate

structure Keys where
  encryptionKey : FixedBytes 16
  macKey : Bytes32

def deriveKeys (z : Bytes) : Keys :=
  let derived := concatKDF z (2 * keyLen)
  { encryptionKey := ⟨subarray derived 0 keyLen, by simp [derived, subarray, keyLen]⟩
    macKey := sha256 (subarray derived keyLen (2 * keyLen)) }

structure Secp256k1 where
  IsPrivateKey : Bytes → Prop
  getPublicKey (privateKey : Bytes) (isCompressed : Bool) : Bytes
  -- ProjectivePoint.fromHex(bytes).toRawBytes(false)
  decompress : Bytes → Except String Bytes
  getSharedSecret (privateKey publicKey : Bytes) : Except String Bytes

/-- The documented behaviour on private keys: how points are laid out, that a compressed point
stands for the same point, and that either half of a pair of keys gives the shared point. -/
structure Secp256k1.Lawful (curve : Secp256k1) : Prop where
  uncompressed {d : Bytes} (valid : curve.IsPrivateKey d) :
    ∃ point : FixedBytes 64, curve.getPublicKey d false = 4 :: point.bytes
  compressed {d : Bytes} (valid : curve.IsPrivateKey d) :
    ∃ (sign : UInt8) (x : FixedBytes 32), (sign = 2 ∨ sign = 3) ∧
      curve.getPublicKey d true = sign :: x.bytes
  decompress {d : Bytes} (valid : curve.IsPrivateKey d) :
    curve.decompress (curve.getPublicKey d true) = .ok (curve.getPublicKey d false)
  shared {d e : Bytes} (left : curve.IsPrivateKey d) (right : curve.IsPrivateKey e) :
    ∃ point : FixedBytes 64,
      curve.getSharedSecret d (curve.getPublicKey e false) = .ok (4 :: point.bytes)
  symmetric {d e : Bytes} (left : curve.IsPrivateKey d) (right : curve.IsPrivateKey e) :
    curve.getSharedSecret d (curve.getPublicKey e false) =
      curve.getSharedSecret e (curve.getPublicKey d false)

def Secp256k1.encodings (curve : Secp256k1) (privateKey : Bytes) : List Bytes :=
  [curve.getPublicKey privateKey false, (curve.getPublicKey privateKey false).drop 1,
    curve.getPublicKey privateKey true]

def sharedSecretX (curve : Secp256k1) (privateKey publicKey : Bytes) : Except String Bytes := do
  let point ← curve.getSharedSecret privateKey publicKey
  return subarray point 1 (1 + 32)

def firstByte : Bytes → String
  | [] => "??"
  | byte :: _ => String.ofList (Nat.toDigits 16 byte.toNat)

def normalizeTeePublicKey (curve : Secp256k1) (publicKey : Encoded) : Except String Bytes :=
  let raw := toBytes publicKey
  if raw.length = pubkeyLen ∧ raw.head? = some 4 then .ok raw
  else if raw.length = 64 then .ok (concat [[4], raw])
  else if raw.length = 33 ∧ (raw.head? = some 2 ∨ raw.head? = some 3) then curve.decompress raw
  else .error ("unrecognised secp256k1 public key: " ++ toString raw.length ++
    " bytes starting 0x" ++ firstByte raw)

def machineKey : Bytes :=
  bigEndian 0xfad9c8855b740a0b7ed4c221dbad0f33a83a49cad6b3fe8d5817ac83d38b6a19

def ephemeralKey : Bytes :=
  bigEndian 0x4c0883a69102937d6231471b5dbb6204fe5129617082792ae468d01a3f362318

def machineX : Bytes :=
  bigEndian 0x9a7df67f79246283fdc93af76d4f8cdd62c4886e8cd870944e817dd0b97934fd

def machinePoint : Bytes :=
  4 :: machineX ++ bigEndian 0xd7719d0810951e03418205868a5c1b40b192451367f28e0088dd75e15de40c05

def ephemeralX : Bytes :=
  bigEndian 0x4e3b81af9c2234cad09d679ce6035ed1392347ce64ce405f5dcd36228a25de6e

def ephemeralPoint : Bytes :=
  4 :: ephemeralX ++ bigEndian 0x47fd35c4215d1edf53e6f83de344615ce719bdb0fd878f6ed76f06dd277956de

def sharedPoint : Bytes :=
  4 :: bigEndian 0x355681bafb91ccd38e833ce15d4fd7262fe7a17c286eb4529135aebeb2038fdf ++
    bigEndian 0xeca7868e987a1e82f840768fcdd43efd7fb0b8dc163731ad4b0944a63074b5c7

def machineSquare : Bytes :=
  4 :: bigEndian 0x1f2b48d54327595eb6b2485da94244cab958b7df0b7d8553b0e50cb056510dbe ++
    bigEndian 0xe42ef1ecfedd590302d2bc464ee17fc54a349dc98178b71ede4267383c62bb12

def ephemeralSquare : Bytes :=
  4 :: bigEndian 0xba1d95b37f93ad2ac2659618493b6e0a066f1100443a1485aa2418b737b0c40d ++
    bigEndian 0x86fa3d8b94e7e9d6d9a0a0485d0804ad0faafa47c3477a0dd460030a26cbb261

-- The values of the curve at two private keys; the library's answers elsewhere do not matter.
def Secp256k1.sample : Secp256k1 where
  IsPrivateKey key := key = machineKey ∨ key = ephemeralKey
  getPublicKey key isCompressed :=
    match isCompressed with
    | true => if key = machineKey then 3 :: machineX else 2 :: ephemeralX
    | false => if key = machineKey then machinePoint else ephemeralPoint
  decompress raw :=
    if raw = 3 :: machineX then .ok machinePoint
    else if raw = 2 :: ephemeralX then .ok ephemeralPoint
    else .error "Point is not on curve"
  getSharedSecret key point :=
    if key = machineKey ∧ point = machinePoint then .ok machineSquare
    else if key = ephemeralKey ∧ point = ephemeralPoint then .ok ephemeralSquare
    else if key = machineKey ∧ point = ephemeralPoint then .ok sharedPoint
    else if key = ephemeralKey ∧ point = machinePoint then .ok sharedPoint
    else .error "Point is not on curve"

theorem Secp256k1.sample_lawful : Secp256k1.sample.Lawful where
  uncompressed valid := by
    rcases valid with rfl | rfl
    · exact ⟨⟨machinePoint.drop 1, by decide +kernel⟩, by decide +kernel⟩
    · exact ⟨⟨ephemeralPoint.drop 1, by decide +kernel⟩, by decide +kernel⟩
  compressed valid := by
    rcases valid with rfl | rfl
    · exact ⟨3, ⟨machineX, by decide +kernel⟩, .inr rfl, by decide +kernel⟩
    · exact ⟨2, ⟨ephemeralX, by decide +kernel⟩, .inl rfl, by decide +kernel⟩
  decompress valid := by
    rcases valid with rfl | rfl
    · rfl
    · rfl
  shared left right := by
    rcases left with rfl | rfl
    · rcases right with rfl | rfl
      · exact ⟨⟨machineSquare.drop 1, by decide +kernel⟩, by rfl⟩
      · exact ⟨⟨sharedPoint.drop 1, by decide +kernel⟩, by rfl⟩
    · rcases right with rfl | rfl
      · exact ⟨⟨sharedPoint.drop 1, by decide +kernel⟩, by rfl⟩
      · exact ⟨⟨ephemeralSquare.drop 1, by decide +kernel⟩, by rfl⟩
  symmetric left right := by
    rcases left with rfl | rfl
    · rcases right with rfl | rfl
      · rfl
      · rfl
    · rcases right with rfl | rfl
      · rfl
      · rfl

inductive Message where
  | text (units : Text)
  | bytes (bytes : Bytes)

def Message.encoded : Message → Bytes
  | .text units => textEncode units
  | .bytes given => given

-- The ephemeral key and the IV are what randomPrivateKey and getRandomValues return.
def eciesEncrypt (curve : Secp256k1) (ephemeralPrivate : Bytes) (iv : FixedBytes 16)
    (teePublicKey : Encoded) (plaintext : Message) : Except String Text := do
  let recipient ← normalizeTeePublicKey curve teePublicKey
  let message := plaintext.encoded
  let ephemeralPublic := curve.getPublicKey ephemeralPrivate false
  let keys := deriveKeys (← sharedSecretX curve ephemeralPrivate recipient)
  let ciphertext := Aes.ctr keys.encryptionKey iv.bytes message
  let tag := hmac keys.macKey.bytes (concat [iv.bytes, ciphertext])
  return toHex (concat [ephemeralPublic, iv.bytes, ciphertext, tag.bytes])

def constantTimeEqual (a b : Bytes) : Bool :=
  if a.length ≠ b.length then false
  else (List.zipWith (· ^^^ ·) a b).foldl (· ||| ·) 0 == 0

def eciesDecrypt (curve : Secp256k1) (privateKey ciphertext : Encoded) : Except String Bytes := do
  let key := toBytes privateKey
  let data := toBytes ciphertext
  if data.length < pubkeyLen + ivLen + tagLen then
    throw ("ciphertext too short: " ++ toString data.length ++ " bytes")
  if data.head? ≠ some 4 then
    throw "ciphertext does not begin with an uncompressed ephemeral key"
  let ephemeralPublic := subarray data 0 pubkeyLen
  let body := subarray data pubkeyLen (data.length - tagLen)
  let tag := subarray data (data.length - tagLen) data.length
  let keys := deriveKeys (← sharedSecretX curve key ephemeralPublic)
  let expected := hmac keys.macKey.bytes body
  if !constantTimeEqual expected.bytes tag then
    throw "ECIES tag mismatch: wrong key or tampered ciphertext"
  let iv := subarray body 0 ivLen
  return Aes.ctr keys.encryptionKey iv (subarray body ivLen body.length)

section

variable {curve : Secp256k1} {d ephemeralPrivate : Bytes} {iv : FixedBytes 16}

theorem foldl_or_eq_zero (bytes : Bytes) (start : UInt8) :
    bytes.foldl (· ||| ·) start = 0 ↔ start = 0 ∧ ∀ byte ∈ bytes, byte = 0 := by
  induction bytes generalizing start with
  | nil => simp
  | cons byte rest ih =>
    rw [List.foldl_cons, ih, UInt8.or_eq_zero_iff, List.forall_mem_cons, and_assoc]

theorem constantTimeEqual_iff {a b : Bytes} : constantTimeEqual a b = true ↔ a = b := by
  by_cases sized : a.length = b.length
  · rw [constantTimeEqual, if_neg (by simpa using sized), beq_iff_eq, foldl_or_eq_zero]
    constructor
    · rintro ⟨-, zeros⟩
      apply List.ext_getElem sized
      intro i left right
      have same := zeros (a[i] ^^^ b[i])
        (List.mem_iff_getElem.mpr ⟨i, by simp [left, right], by simp⟩)
      simpa using same
    · rintro rfl
      simp
  · rw [constantTimeEqual, if_pos sized]
    constructor
    · intro never
      cases never
    · rintro rfl
      exact absurd rfl sized

theorem subarray_left (front rest : Bytes) : subarray (front ++ rest) 0 front.length = front := by
  rw [subarray, List.take_left, List.drop_zero]

theorem subarray_right (front rest : Bytes) :
    subarray (front ++ rest) front.length (front ++ rest).length = rest := by
  rw [subarray, List.take_length, List.drop_left]

theorem subarray_middle (front middle rest : Bytes) :
    subarray (front ++ middle ++ rest) front.length (front ++ middle).length = middle := by
  rw [subarray, List.take_left, List.drop_left]

theorem normalize_encodings (lawful : curve.Lawful) (valid : curve.IsPrivateKey d)
    {given : Bytes} (accepted : given ∈ curve.encodings d) {key : Encoded}
    (denotes : key.Denotes given) :
    normalizeTeePublicKey curve key = .ok (curve.getPublicKey d false) := by
  obtain ⟨point, uncompressed⟩ := lawful.uncompressed valid
  obtain ⟨sign, x, signed, compressed⟩ := lawful.compressed valid
  rw [normalizeTeePublicKey, toBytes_of_denotes denotes]
  simp only [Secp256k1.encodings, List.mem_cons, List.not_mem_nil, or_false] at accepted
  rcases accepted with rfl | rfl | rfl
  · rw [uncompressed]
    exact if_pos ⟨by simp [pubkeyLen], rfl⟩
  · rw [uncompressed, List.drop_one, List.tail_cons, if_neg (by simp [pubkeyLen]),
      if_pos point.length_bytes, concat_eq]
    simp
  · rw [← lawful.decompress valid, compressed]
    rw [if_neg (by simp [pubkeyLen]), if_neg (by simp), if_pos ⟨by simp, by simpa using signed⟩]

def layout (ephemeralPublic : Bytes) (iv : FixedBytes 16) (ciphertext : Bytes) (tag : Bytes32) :
    Bytes :=
  ephemeralPublic ++ (iv.bytes ++ ciphertext) ++ tag.bytes

theorem eciesEncrypt_eq {key : Encoded} {recipient point : Bytes} (iv : FixedBytes 16)
    (plaintext : Message) (normalized : normalizeTeePublicKey curve key = .ok recipient)
    (shared : curve.getSharedSecret ephemeralPrivate recipient = .ok point) :
    let keys := deriveKeys (subarray point 1 (1 + 32))
    let ciphertext := Aes.ctr keys.encryptionKey iv.bytes plaintext.encoded
    eciesEncrypt curve ephemeralPrivate iv key plaintext =
      .ok (toHex (layout (curve.getPublicKey ephemeralPrivate false) iv ciphertext
        (hmac keys.macKey.bytes (iv.bytes ++ ciphertext)))) := by
  simp [eciesEncrypt, normalized, sharedSecretX, shared, layout, pure, Except.pure, bind,
    Except.bind]

theorem eciesDecrypt_eq {secret sent : Encoded} {coordinates : FixedBytes 64}
    {point ciphertext : Bytes} (holds : toBytes secret = d)
    (shared : curve.getSharedSecret d (4 :: coordinates.bytes) = .ok point)
    (received : toBytes sent = layout (4 :: coordinates.bytes) iv ciphertext
      (hmac (deriveKeys (subarray point 1 (1 + 32))).macKey.bytes (iv.bytes ++ ciphertext))) :
    eciesDecrypt curve secret sent =
      .ok (Aes.ctr (deriveKeys (subarray point 1 (1 + 32))).encryptionKey iv.bytes ciphertext) := by
  set keys := deriveKeys (subarray point 1 (1 + 32)) with derived
  set tag := hmac keys.macKey.bytes (iv.bytes ++ ciphertext) with tagged
  set data := layout (4 :: coordinates.bytes) iv ciphertext tag with laid
  have width : (4 :: coordinates.bytes).length = pubkeyLen := by simp [pubkeyLen]
  have stop : data.length - tagLen =
      ((4 :: coordinates.bytes) ++ (iv.bytes ++ ciphertext)).length := by
    simp [laid, layout, tagLen]
    omega
  have long : ¬ data.length < pubkeyLen + ivLen + tagLen := by
    simp [laid, layout, pubkeyLen, ivLen, tagLen]
    omega
  have marker : data.head? = some 4 := rfl
  have ephemeralPublic : subarray data 0 pubkeyLen = 4 :: coordinates.bytes := by
    rw [laid, layout, List.append_assoc, ← width, subarray_left]
  have body : subarray data pubkeyLen (data.length - tagLen) = iv.bytes ++ ciphertext := by
    rw [stop, ← width, laid, layout, subarray_middle]
  have last : subarray data (data.length - tagLen) data.length = tag.bytes := by
    rw [stop, laid, layout, subarray_right]
  have first : subarray (iv.bytes ++ ciphertext) 0 ivLen = iv.bytes := by
    simpa [ivLen] using subarray_left iv.bytes ciphertext
  have rest : subarray (iv.bytes ++ ciphertext) ivLen (iv.bytes ++ ciphertext).length =
      ciphertext := by
    simpa [ivLen] using subarray_right iv.bytes ciphertext
  have verified : constantTimeEqual tag.bytes tag.bytes = true := constantTimeEqual_iff.mpr rfl
  have run : eciesDecrypt curve secret sent = .ok (Aes.ctr keys.encryptionKey iv.bytes
      (subarray (iv.bytes ++ ciphertext) ivLen (iv.bytes ++ ciphertext).length)) := by
    rw [eciesDecrypt, holds, received]
    simp [long, marker, ephemeralPublic, body, last, sharedSecretX, shared, ← derived, ← tagged,
      verified, first, pure, Except.pure, bind, Except.bind]
  rw [run, rest]

/-- What is sealed to any encoding of a public key, with any ephemeral key and IV, is laid out
as go-ethereum expects, and the private key opens it, from hexadecimal or from bytes. -/
theorem eciesDecrypt_eciesEncrypt (lawful : curve.Lawful) (machine : curve.IsPrivateKey d)
    (ephemeral : curve.IsPrivateKey ephemeralPrivate) {given : Bytes}
    (accepted : given ∈ curve.encodings d) {key : Encoded} (denotes : key.Denotes given)
    {secret : Encoded} (holds : secret.Denotes d) (iv : FixedBytes 16) (plaintext : Message) :
    ∃ (ciphertext : Bytes) (tag : Bytes32),
      let sent := curve.getPublicKey ephemeralPrivate false ++ iv.bytes ++ ciphertext ++ tag.bytes
      (curve.getPublicKey ephemeralPrivate false).length = 65 ∧
      ciphertext.length = plaintext.encoded.length ∧
      eciesEncrypt curve ephemeralPrivate iv key plaintext = .ok (toHex sent) ∧
      eciesDecrypt curve secret (.hex (toHex sent)) = .ok plaintext.encoded ∧
      ∀ received : Encoded, received.Denotes sent →
        eciesDecrypt curve secret received = .ok plaintext.encoded := by
  obtain ⟨coordinates, ephemeralPublic⟩ := lawful.uncompressed ephemeral
  obtain ⟨point, shared⟩ := lawful.shared ephemeral machine
  have agreed : curve.getSharedSecret d (4 :: coordinates.bytes) = .ok (4 :: point.bytes) := by
    rw [← ephemeralPublic, ← lawful.symmetric ephemeral machine, shared]
  have sealed := eciesEncrypt_eq iv plaintext
    (normalize_encodings lawful machine accepted denotes) shared
  set keys := deriveKeys (subarray (4 :: point.bytes) 1 (1 + 32))
  set ciphertext := Aes.ctr keys.encryptionKey iv.bytes plaintext.encoded with enciphered
  set tag := hmac keys.macKey.bytes (iv.bytes ++ ciphertext)
  have laid : layout (curve.getPublicKey ephemeralPrivate false) iv ciphertext tag =
      curve.getPublicKey ephemeralPrivate false ++ iv.bytes ++ ciphertext ++ tag.bytes := by
    rw [layout, List.append_assoc _ iv.bytes]
  have opens {received : Encoded} (same : received.Denotes
      (curve.getPublicKey ephemeralPrivate false ++ iv.bytes ++ ciphertext ++ tag.bytes)) :
      eciesDecrypt curve secret received = .ok plaintext.encoded := by
    have arrived : toBytes received = layout (4 :: coordinates.bytes) iv ciphertext tag := by
      rw [toBytes_of_denotes same, ← laid, ephemeralPublic]
    rw [eciesDecrypt_eq (toBytes_of_denotes holds) agreed arrived, enciphered, Aes.ctr_ctr]
  refine ⟨ciphertext, tag, ?_, Aes.length_ctr .., ?_, opens (denotes_toHex _), fun _ => opens⟩
  · simp [ephemeralPublic]
  · rw [sealed, laid]

theorem sample_roundTrip :
    ∃ sent, eciesEncrypt .sample ephemeralKey (.replicate 16 7)
        (.hex (toHex (3 :: machineX))) (.text (text "the will")) = .ok sent ∧
      eciesDecrypt .sample (.bytes machineKey) (.hex sent) = .ok (ascii "the will") := by
  have opened := eciesDecrypt_eciesEncrypt Secp256k1.sample_lawful (.inl rfl) (.inr rfl)
    (show 3 :: machineX ∈ Secp256k1.sample.encodings machineKey by decide +kernel)
    (denotes_toHex _) (show (Encoded.bytes machineKey).Denotes machineKey from rfl)
    (.replicate 16 7) (.text (text "the will"))
  obtain ⟨ciphertext, tag, -, -, sealed, opens, -⟩ := opened
  have spelled : (Message.text (text "the will")).encoded = ascii "the will" := by decide +kernel
  exact ⟨_, sealed, opens.trans (congrArg Except.ok spelled)⟩

-- A ciphertext of the vectors, which the enclave's node opens.
def vector : Bytes :=
  bigEndian 0x04eab4d914fa3d61a2cc44adc098aced1865ed8b7a711c5c0e614716cea68e8f64e9f512baa7c142 ++
    bigEndian 0xb498758ad8ad751fb5ebc7139fafbf9e0ed652416c6ff1b9170f0079bac5d2f4c802ac1fe44916e2 ++
    bigEndian 0xeccb92e0355165aaa998ca25a01cf8e4d6acf943b0debdc647dfb86e4ce86a7f207cfb0fc78dd040 ++
    bigEndian 0x54c0d4025a48979abe970888b100674477650e2dde157ffab60f6e99b3dafdeb900b474bddc4a7a8 ++
    bigEndian 0x0a4f3835514bf5ba60524032c8fece7bcfc4e0fc01e9d6b5f1ea3373533e2dd4d253f0095a33c193 ++
    bigEndian 0x28e0cf6dcf1f2796f70faacaa786e292a7ed47a9d256f16b2ca18e4a8cfda228dfa4fbd778ea972d ++
    bigEndian 0x266e11fdc8d787ba341d1488312e6324199c38443ec61338fed1cab6800351882871c9c26d

-- The shared point is the one of the vector's ephemeral key.
example : (eciesDecrypt { Secp256k1.sample with getSharedSecret := fun _ _ => .ok (4 ::
      bigEndian 0x18498febf2678eb26ca1886bc346cba73e573482e2a5ccae4b1c5db7c22e43a0 ++
      bigEndian 0xc6ddee79a9287b5da2497c858ccf74dbe01cf64acdcf76beabfcc2bddda654d8) }
    (.bytes machineKey) (.bytes vector)).toOption =
    some (ascii ("\x7b\"salt\":\"0x11111111111111111111111111111111111111111111111111111111" ++
      "11111111\",\"shares\":[\x7b\"recipient\":\"0x1111111111111111111111111111111111111111\"," ++
      "\"shareBps\":10000\x7d]\x7d")) := by
  decide +kernel

end

end FlareStudio.Policy.Ecies
