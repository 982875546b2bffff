import FlareStudio.Policy.Canonical
import FlareStudio.Policy.Checksum
import FlareStudio.Shared.Buffer

set_option autoImplicit false

namespace FlareStudio.Orchestrator

open Policy Policy.Canonical

open Extension (base64 base64Digit marshal hexJson shareJson EvaluatePolicyResponse)

structure ActionResult where
  status : Nat
  log : Text
  data : Option Text

-- /^0x[0-9a-fA-F]*$/
def isHexText : Text → Bool
  | 48 :: 120 :: digits => digits.all isHexDigit
  | _ => false

def parsePayload (json : Text) : Except Text Value :=
  match parse json with
  | some value => .ok value
  | none => .error (text "enclave payload was not JSON after decoding (" ++ json.take 60 ++
      [0x2026] ++ text ") -- check whether the proxy changed its encoding")

def decodeActionData (result : ActionResult) : Except Text Value :=
  if result.status ≠ 1 then
    .error (text "enclave returned status " ++ decimal result.status ++ text ": " ++ result.log)
  else match result.data with
    | none => .error (text "enclave returned a successful result with no data")
    | some data =>
      if data = [] ∨ data = text "0x" then
        .error (text "enclave returned a successful result with no data")
      else
        let json := if isHexText data then Buffer.toUtf8 (Buffer.fromHex (data.drop 2))
          else Buffer.toUtf8 (Buffer.fromBase64 data)
        parsePayload json

def undecoded (shown : Text) : Text := text "could not decode signature: " ++ shown ++ [0x2026]

def asHexBytes (value : Text) : Except Text Text :=
  if isHexText value then .ok value
  else
    let bytes := Buffer.fromBase64 value
    if bytes = [] then .error (undecoded (value.take 24)) else .ok (Hex.prefixed bytes)

structure EvaluationResult where
  policy : Text
  shares : List EnclaveShare
  salt : Text
  signature : Text

def EvaluationResult.value (evaluation : EvaluationResult) : Value :=
  .object [(text "policy", .string evaluation.policy),
    (text "shares", .array (evaluation.shares.map shareValue)),
    (text "salt", .string evaluation.salt), (text "signature", .string evaluation.signature)]

theorem sextet_base64Digit {value : Nat} (small : value < 64) :
    Buffer.sextet (base64Digit value) = some value := by
  unfold base64Digit Buffer.sextet
  split_ifs <;> first | omega | (congr 1; omega)

theorem sextets_base64Digit {value : Nat} (small : value < 64) (rest : Text) :
    Buffer.sextets (base64Digit value :: rest) = value :: Buffer.sextets rest :=
  Buffer.sextets_cons (sextet_base64Digit small) rest

theorem ofNat_of_toNat {value : Nat} (byte : UInt8) (same : value % 256 = byte.toNat) :
    UInt8.ofNat value = byte := by
  apply UInt8.toNat_inj.mp
  rw [UInt8.toNat_ofNat']
  exact same

theorem fromBase64_base64 (bytes : Bytes) : Buffer.fromBase64 (base64 bytes) = bytes := by
  rw [Buffer.fromBase64]
  induction bytes using Extension.base64.induct with
  | case1 => rfl
  | case2 a =>
    have first := a.toNat_lt
    rw [base64, sextets_base64Digit (by omega), sextets_base64Digit (by omega),
      Buffer.sextets_padding, Buffer.joinSextets]
    rw [ofNat_of_toNat a (by omega)]
  | case3 a b =>
    have first := a.toNat_lt
    have second := b.toNat_lt
    rw [base64, sextets_base64Digit (by omega), sextets_base64Digit (by omega),
      sextets_base64Digit (by omega), Buffer.sextets_padding, Buffer.joinSextets]
    rw [ofNat_of_toNat a (by omega), ofNat_of_toNat b (by omega)]
  | case4 a b c rest ih =>
    have first := a.toNat_lt
    have second := b.toNat_lt
    have third := c.toNat_lt
    rw [base64, sextets_base64Digit (by omega), sextets_base64Digit (by omega),
      sextets_base64Digit (by omega), sextets_base64Digit (by omega), Buffer.joinSextets, ih]
    rw [ofNat_of_toNat a (by omega), ofNat_of_toNat b (by omega),
      ofNat_of_toNat c (by omega)]

def Spells (units : Text) (bytes : Bytes) : Prop :=
  units = base64 bytes ∨ ∃ digits, units = 48 :: 120 :: digits ∧ Hex.decode digits = some bytes

theorem isHexText_hex {digits : Text} {bytes : Bytes} (decoded : Hex.decode digits = some bytes) :
    isHexText (48 :: 120 :: digits) = true :=
  all_isHexDigit decoded

theorem isHexText_of_head {first : Nat} (other : first ≠ 48) (rest : Text) :
    isHexText (first :: rest) = false := by
  rw [isHexText]
  rintro digits same
  cases same
  exact other rfl

theorem isHexText_of_padded {units : Text} (padded : 61 ∈ units) : isHexText units = false := by
  rw [Bool.eq_false_iff]
  intro hexadecimal
  unfold isHexText at hexadecimal
  split at hexadecimal
  · rename_i digits
    simp only [List.mem_cons] at padded
    rcases padded with same | same | inside
    · cases same
    · cases same
    · exact absurd (List.all_eq_true.mp hexadecimal 61 inside) (by decide)
  · cases hexadecimal

theorem base64_head (first : UInt8) (rest : Bytes) :
    ∃ more, base64 (first :: rest) = base64Digit (first.toNat / 4) :: more :=
  match rest with
  | [] => ⟨_, rfl⟩
  | [_] => ⟨_, rfl⟩
  | _ :: _ :: _ => ⟨_, rfl⟩

theorem base64_padded {bytes : Bytes} (uneven : bytes.length % 3 ≠ 0) : 61 ∈ base64 bytes := by
  induction bytes using Extension.base64.induct with
  | case1 => exact absurd rfl uneven
  | case2 => simp [base64]
  | case3 => simp [base64]
  | case4 a b c rest ih =>
    have inside := ih (by simp only [List.length_cons] at uneven; omega)
    simp [base64, inside]

section

variable {response : EvaluatePolicyResponse} {spelled : Text}

def signedJson (response : EvaluatePolicyResponse) (signature : Text) : Json :=
  .obj [(text "policy", hexJson response.policy),
    (text "shares", .arr (response.shares.map shareJson)), (text "salt", hexJson response.salt),
    (text "signature", .str signature)]

example (response : EvaluatePolicyResponse) :
    signedJson response (base64 response.signature) = response.json := rfl

def shareOf (share : Extension.Share) : EnclaveShare :=
  ⟨Hex.prefixed share.recipient.bytes, share.shareBps.toNat⟩

def evaluationOf (response : EvaluatePolicyResponse) (signature : Text) : EvaluationResult :=
  ⟨Hex.prefixed response.policy.bytes, response.shares.map shareOf,
    Hex.prefixed response.salt.bytes, signature⟩

theorem plain_signedJson (response : EvaluatePolicyResponse) (plain : Json.PlainString spelled) :
    (signedJson response spelled).Plain := by
  refine ⟨Json.plainString_text, Json.plainString_prefixed _, Json.plainString_text, ?_,
    Json.plainString_text, Json.plainString_prefixed _, Json.plainString_text, plain, trivial⟩
  refine (Json.plainElements_iff _).mpr fun element inside => ?_
  obtain ⟨share, -, rfl⟩ := List.mem_map.mp inside
  exact ⟨Json.plainString_text, Json.plainString_prefixed _, Json.plainString_text, ⟨_, rfl⟩,
    trivial⟩

theorem plainString_base64 (bytes : Bytes) : Json.PlainString (base64 bytes) := by
  have digit (value : Nat) (small : value < 64) : 32 ≤ base64Digit value ∧
      base64Digit value < 128 ∧ base64Digit value ≠ 34 ∧ base64Digit value ≠ 92 := by
    unfold base64Digit
    split_ifs <;> omega
  induction bytes using Extension.base64.induct with
  | case1 => exact List.forall_mem_nil _
  | case2 a =>
    have first := a.toNat_lt
    simp only [base64, Json.PlainString, List.forall_mem_cons]
    exact ⟨digit _ (by omega), digit _ (by omega), by decide, by decide, List.forall_mem_nil _⟩
  | case3 a b =>
    have first := a.toNat_lt
    have second := b.toNat_lt
    simp only [base64, Json.PlainString, List.forall_mem_cons]
    exact ⟨digit _ (by omega), digit _ (by omega), digit _ (by omega), by decide,
      List.forall_mem_nil _⟩
  | case4 a b c rest ih =>
    have first := a.toNat_lt
    have second := b.toNat_lt
    have third := c.toNat_lt
    simp only [base64, Json.PlainString, List.forall_mem_cons]
    exact ⟨digit _ (by omega), digit _ (by omega), digit _ (by omega), digit _ (by omega), ih⟩

theorem plainString_spelled {bytes : Bytes} (spells : Spells spelled bytes) :
    Json.PlainString spelled := by
  rcases spells with rfl | ⟨digits, rfl, decoded⟩
  · exact plainString_base64 bytes
  · have denoted : Hex.fixed? bytes.length (48 :: 120 :: digits) = some ⟨bytes, rfl⟩ := by
      simp [Hex.fixed?, decoded, FixedBytes.ofBytes?]
    exact fixed?_plain denoted

theorem read_decimal {value : Nat} (small : value < 2 ^ 53) :
    (Numeral.read (decimal value)).toNumber = .ofNat value := by
  rw [← Number.toText_natCast small, Number.toNumber_toText, Number.ofNat_eq small]
  rfl

theorem revive_shareJson (share : Extension.Share) :
    revive (shareJson share) = shareValue (shareOf share) := by
  have recipient := unescape_of_plain (Json.plainString_prefixed share.recipient.bytes)
  have proportion := read_decimal (share.shareBps.toNat_lt.trans (by decide))
  simp only [shareJson, hexJson, revive, reviveMembers, recipient, proportion]
  rfl

theorem revive_signedJson (plain : Json.PlainString spelled) :
    revive (signedJson response spelled) = (evaluationOf response spelled).value := by
  have policy := unescape_of_plain (Json.plainString_prefixed response.policy.bytes)
  have salt := unescape_of_plain (Json.plainString_prefixed response.salt.bytes)
  have signature := unescape_of_plain plain
  have shares : (response.shares.map shareJson).map revive =
      (response.shares.map shareOf).map shareValue := by
    rw [List.map_map, List.map_map]
    exact List.map_congr_left fun share _ => revive_shareJson share
  simp only [signedJson, hexJson, revive, reviveMembers, reviveElements_eq, policy, salt, signature,
    shares]
  rfl

theorem signedJson_head (response : EvaluatePolicyResponse) (spelled : Text) :
    ∃ rest, marshal (signedJson response spelled) = 123 :: rest :=
  ⟨_, rfl⟩

theorem isHexText_body (response : EvaluatePolicyResponse) (spelled : Text) :
    isHexText (base64 (marshal (signedJson response spelled))) = false := by
  obtain ⟨rest, body⟩ := signedJson_head response spelled
  obtain ⟨more, units⟩ := base64_head 123 rest
  rw [body, units]
  exact isHexText_of_head (by decide) more

theorem isHexText_signature (signed : response.signature.length = 65) :
    isHexText (base64 response.signature) = false :=
  isHexText_of_padded (base64_padded (by rw [signed]; decide))

theorem toUtf8_marshal {json : Json} (plain : json.Plain) :
    Buffer.toUtf8 (marshal json) = json.render := by
  rw [← Extension.marshal_text plain]
  apply Buffer.toUtf8_ascii
  intro byte inside
  have small := plain.ascii json byte.toNat
  rw [← Extension.marshal_text plain] at small
  exact small (List.mem_map_of_mem inside)

theorem parse_signedJson (response : EvaluatePolicyResponse) (plain : Json.PlainString spelled) :
    parse (Buffer.toUtf8 (marshal (signedJson response spelled))) =
      some (evaluationOf response spelled).value := by
  have formed := plain_signedJson response plain
  rw [toUtf8_marshal formed, parse, Json.parse_render _ (formed.wellFormed _), Option.map_some,
    revive_signedJson plain]

theorem decodeActionData_of_spells {data : Text} (plain : Json.PlainString spelled)
    (delivered : Spells data (marshal (signedJson response spelled))) (log : Text) :
    decodeActionData ⟨1, log, some data⟩ = .ok (evaluationOf response spelled).value := by
  have parsed := parse_signedJson response plain
  obtain ⟨body, split⟩ := signedJson_head response spelled
  rcases delivered with rfl | ⟨digits, rfl, decoded⟩
  · have guess := isHexText_body response spelled
    have nonempty : ¬ (base64 (marshal (signedJson response spelled)) = [] ∨
        base64 (marshal (signedJson response spelled)) = text "0x") := by
      obtain ⟨more, units⟩ := base64_head 123 body
      rw [split, units]
      rintro (empty | marker)
      · cases empty
      · exact absurd (List.head_eq_of_cons_eq marker) (by decide)
    simp [decodeActionData, parsePayload, nonempty, guess, fromBase64_base64, parsed]
  · have guess := isHexText_hex decoded
    have nonempty : 48 :: 120 :: digits ≠ text "0x" := by
      intro marker
      obtain rfl : digits = [] := List.tail_eq_of_cons_eq (List.tail_eq_of_cons_eq marker)
      rw [split] at decoded
      cases decoded
    simp [decodeActionData, parsePayload, nonempty, guess, Buffer.fromHex_of_decode decoded, parsed]

theorem asHexBytes_of_spells (signed : response.signature.length = 65)
    (spells : Spells spelled response.signature) :
    ∃ signature, asHexBytes spelled = .ok signature ∧
      Hex.fixed? 65 signature = some ⟨response.signature, signed⟩ := by
  rcases spells with rfl | ⟨digits, rfl, decoded⟩
  · refine ⟨Hex.prefixed response.signature, ?_, Hex.fixed?_prefixed ⟨response.signature, signed⟩⟩
    have nonempty : response.signature ≠ [] := by
      rintro empty
      rw [empty] at signed
      cases signed
    simp [asHexBytes, isHexText_signature signed, fromBase64_base64, nonempty]
  · refine ⟨48 :: 120 :: digits, ?_, ?_⟩
    · rw [asHexBytes, if_pos (isHexText_hex decoded)]
    · simp [Hex.fixed?, decoded, FixedBytes.ofBytes?, signed]

/-- What the orchestrator reads is what the enclave signed, in either encoding of the answer and
of the signature in it. -/
theorem decodes_signed (signed : response.signature.length = 65)
    (spells : Spells spelled response.signature) {data : Text}
    (delivered : Spells data (marshal (signedJson response spelled))) (log : Text) :
    ∃ (evaluation : EvaluationResult) (signature : Text),
      decodeActionData ⟨1, log, some data⟩ = .ok evaluation.value ∧
      asHexBytes evaluation.signature = .ok signature ∧
      Hex.fixed? 20 evaluation.policy = some response.policy ∧
      List.Forall₂ EnclaveShare.Denotes evaluation.shares response.shares ∧
      Hex.fixed? 32 evaluation.salt = some response.salt ∧
      Hex.fixed? 65 signature = some ⟨response.signature, signed⟩ ∧
      isHexText (base64 (marshal (signedJson response spelled))) = false ∧
      isHexText (base64 response.signature) = false := by
  obtain ⟨signature, normalized, denoted⟩ := asHexBytes_of_spells signed spells
  refine ⟨evaluationOf response spelled, signature,
    decodeActionData_of_spells (plainString_spelled spells) delivered log, normalized,
    Hex.fixed?_prefixed _, ?_, Hex.fixed?_prefixed _, denoted, isHexText_body response spelled,
    isHexText_signature signed⟩
  refine List.forall₂_map_left_iff.mpr (List.forall₂_same.mpr fun share _ => ?_)
  exact ⟨Hex.fixed?_prefixed _, rfl⟩

end

def sampleResponse : EvaluatePolicyResponse :=
  ⟨.replicate 20 1, [⟨.replicate 20 2, 6000⟩, ⟨.replicate 20 3, 4000⟩], .replicate 32 4,
    List.replicate 65 5⟩

theorem sample_decodes_signed : ∃ evaluation signature,
    decodeActionData ⟨1, text "ok", some (base64 (marshal sampleResponse.json))⟩ =
      .ok (EvaluationResult.value evaluation) ∧
    asHexBytes evaluation.signature = .ok signature ∧
    List.Forall₂ EnclaveShare.Denotes evaluation.shares sampleResponse.shares ∧
    Hex.fixed? 65 signature = some (.replicate 65 5) := by
  obtain ⟨evaluation, signature, decoded, normalized, -, shares, -, denoted, -⟩ :=
    @decodes_signed sampleResponse _ (by decide) (.inl rfl) _ (.inl rfl) (text "ok")
  exact ⟨evaluation, signature, decoded, normalized, shares, denoted⟩

end FlareStudio.Orchestrator
