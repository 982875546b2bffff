import FlareStudio.Extension.Extension
import FlareStudio.Policy.Compile

set_option autoImplicit false

namespace FlareStudio.Policy

open Json (Ascii PlainString Passes)

abbrev IsHigh (unit : Nat) : Prop := 0xd800 ≤ unit ∧ unit < 0xdc00

abbrev IsLow (unit : Nat) : Prop := 0xdc00 ≤ unit ∧ unit < 0xe000

def pairCode (high low : Nat) : Nat := 0x10000 + (high - 0xd800) * 0x400 + (low - 0xdc00)

def utf8Unit (unit : Nat) : Text :=
  Extension.utf8 (if 0xd800 ≤ unit ∧ unit < 0xe000 then 0xfffd else unit)

def utf8Units : Text → Text
  | [] => []
  | [unit] => utf8Unit unit
  | high :: low :: rest =>
    if IsHigh high ∧ IsLow low then Extension.utf8 (pairCode high low) ++ utf8Units rest
    else utf8Unit high ++ utf8Units (low :: rest)

-- TextEncoder().encode, which eciesEncrypt applies to a string.
def textEncode (units : Text) : Bytes := (utf8Units units).map UInt8.ofNat

theorem utf8Units_cons {unit : Nat} (single : ¬ IsHigh unit) (rest : Text) :
    utf8Units (unit :: rest) = utf8Unit unit ++ utf8Units rest := by
  cases rest with
  | nil => simp [utf8Units]
  | cons next rest => rw [utf8Units, if_neg fun both => single both.1]

theorem utf8Unit_ascii {unit : Nat} (small : unit < 128) : utf8Unit unit = [unit] := by
  rw [utf8Unit, if_neg (by omega), Extension.utf8, if_pos small]

theorem utf8Units_ascii_append {front : Text} (ascii : Ascii front) (rest : Text) :
    utf8Units (front ++ rest) = front ++ utf8Units rest := by
  induction front with
  | nil => rfl
  | cons unit more ih =>
    have small := ascii unit List.mem_cons_self
    have later := ih fun code member => ascii code (List.mem_cons_of_mem _ member)
    rw [List.cons_append, utf8Units_cons (by omega), utf8Unit_ascii small, later]
    rfl

theorem utf8Units_ascii {units : Text} (ascii : Ascii units) : utf8Units units = units := by
  have encoded := utf8Units_ascii_append ascii []
  simpa [utf8Units] using encoded

-- What the bytes of a string stand for, unit by unit and pair by pair.
def spelled : Text → Text
  | [] => []
  | [unit] => utf8Units (escapeUnit unit)
  | high :: low :: rest =>
    if IsHigh high ∧ IsLow low then Extension.utf8 (pairCode high low) ++ spelled rest
    else utf8Units (escapeUnit high) ++ spelled (low :: rest)

structure Escaped (raw : Text) : Prop where
  ascii : Ascii raw
  passes : Passes raw
  backslash : 92 ∈ raw

theorem escaped_letter {letter : Nat} (small : letter < 128)
    (known : Json.isEscape letter = true) : Escaped [92, letter] where
  ascii := .cons (by decide) (.cons small nofun)
  passes := Json.passes_escape known
  backslash := List.mem_cons_self

theorem escaped_unicode {unit : Nat} (small : unit < 0x10000) : Escaped (unicodeEscape unit) := by
  have digit {value : Nat} (within : value < 16) :
      Json.isHex (Hex.digit value) = true ∧ Hex.digit value < 128 := by
    rw [Json.isHex, Hex.value?_digit value within]
    unfold Hex.digit
    exact ⟨rfl, by split_ifs <;> omega⟩
  obtain ⟨first, a⟩ := digit (show unit / 4096 < 16 by omega)
  obtain ⟨second, b⟩ := digit (show unit / 256 % 16 < 16 by omega)
  obtain ⟨third, c⟩ := digit (show unit / 16 % 16 < 16 by omega)
  obtain ⟨fourth, d⟩ := digit (show unit % 16 < 16 by omega)
  constructor
  · exact .append (by decide) (.cons a (.cons b (.cons c (.cons d nofun))))
  · exact Json.passes_unicode (by simp [first, second, third, fourth])
  · exact List.mem_append_left _ (by decide)

-- A unit is escaped, or it stands for itself.
theorem escapeUnit_cases {unit : Nat} (small : unit < 0x10000) :
    Escaped (escapeUnit unit) ∨
      (escapeUnit unit = [unit] ∧ 32 ≤ unit ∧ unit ≠ 34 ∧ unit ≠ 92 ∧ ¬ IsHigh unit) := by
  unfold escapeUnit
  split_ifs with quote
  · left
    rcases quote with rfl | rfl
    · exact escaped_letter (by decide) (by decide)
    · exact escaped_letter (by decide) (by decide)
  · exact .inl (escaped_letter (by decide) (by decide))
  · exact .inl (escaped_letter (by decide) (by decide))
  · exact .inl (escaped_letter (by decide) (by decide))
  · exact .inl (escaped_letter (by decide) (by decide))
  · exact .inl (escaped_letter (by decide) (by decide))
  · exact .inl (escaped_unicode small)
  · right
    exact ⟨rfl, by omega, by omega, by omega, by omega⟩

theorem utf8Units_escapeUnit {unit : Nat} (small : unit < 0x10000) (rest : Text) :
    utf8Units (escapeUnit unit ++ rest) = utf8Units (escapeUnit unit) ++ utf8Units rest := by
  rcases escapeUnit_cases small with escaped | ⟨itself, -, -, -, single⟩
  · rw [utf8Units_ascii_append escaped.ascii, utf8Units_ascii escaped.ascii]
  · rw [itself]
    exact utf8Units_cons single rest

theorem utf8Units_escape {units : Text} (small : ∀ unit ∈ units, unit < 0x10000) (rest : Text) :
    utf8Units (escape units ++ rest) = spelled units ++ utf8Units rest := by
  induction units using escape.induct with
  | case1 => rfl
  | case2 unit => exact utf8Units_escapeUnit (small unit List.mem_cons_self) rest
  | case3 high low more pair ih =>
    have later := ih fun unit member =>
      small unit (List.mem_cons_of_mem _ (List.mem_cons_of_mem _ member))
    have both : IsHigh high ∧ IsLow low := ⟨⟨pair.1, pair.2.1⟩, pair.2.2⟩
    rw [escape, if_pos pair, spelled, if_pos both, List.cons_append, List.cons_append, utf8Units,
      if_pos both, later, List.append_assoc]
  | case4 high low more other ih =>
    have later := ih fun unit member => small unit (List.mem_cons_of_mem _ member)
    have apart : ¬ (IsHigh high ∧ IsLow low) := fun both =>
      other ⟨both.1.1, both.1.2, both.2⟩
    rw [escape, if_neg other, spelled, if_neg apart, List.append_assoc,
      utf8Units_escapeUnit (small high List.mem_cons_self), later, List.append_assoc]

theorem utf8_high {code unit : Nat} (large : 128 ≤ code) (member : unit ∈ Extension.utf8 code) :
    128 ≤ unit := by
  unfold Extension.utf8 at member
  split_ifs at member <;>
    simp only [List.mem_cons, List.not_mem_nil, or_false] at member <;> omega

theorem utf8_small {code unit : Nat} (valid : code < 0x110000)
    (member : unit ∈ Extension.utf8 code) : unit < 256 := by
  unfold Extension.utf8 at member
  split_ifs at member <;>
    simp only [List.mem_cons, List.not_mem_nil, or_false] at member <;> omega

structure Spelling (raw : Text) : Prop where
  passes : Passes raw
  small : ∀ unit ∈ raw, unit < 256

theorem Spelling.append {first second : Text} (front : Spelling first) (back : Spelling second) :
    Spelling (first ++ second) where
  passes := front.passes.append back.passes
  small unit member := (List.mem_append.mp member).elim (front.small unit) (back.small unit)

theorem spelling_utf8 {code : Nat} (large : 128 ≤ code) (valid : code < 0x110000) :
    Spelling (Extension.utf8 code) where
  passes := by
    apply Json.passes_plain
    intro unit member
    have high := utf8_high large member
    omega
  small _ := utf8_small valid

theorem spelling_escapeUnit {unit : Nat} (small : unit < 0x10000) :
    Spelling (utf8Units (escapeUnit unit)) := by
  rcases escapeUnit_cases small with escaped | ⟨itself, visible, quote, slash, -⟩
  · rw [utf8Units_ascii escaped.ascii]
    exact ⟨escaped.passes, fun code member => (escaped.ascii code member).trans (by decide)⟩
  · rw [itself, utf8Units]
    by_cases plain : unit < 128
    · rw [utf8Unit_ascii plain]
      constructor
      · apply Json.passes_plain
        intro code member
        rw [List.mem_singleton] at member
        omega
      · intro code member
        rw [List.mem_singleton] at member
        omega
    · exact spelling_utf8 (by split_ifs <;> omega) (by split_ifs <;> omega)

theorem pairCode_bounds {high low : Nat} (pair : IsHigh high ∧ IsLow low) :
    128 ≤ pairCode high low ∧ pairCode high low < 0x110000 := by
  unfold pairCode
  omega

theorem spelling_spelled {units : Text} (small : ∀ unit ∈ units, unit < 0x10000) :
    Spelling (spelled units) := by
  induction units using spelled.induct with
  | case1 => exact ⟨Json.passes_plain nofun, nofun⟩
  | case2 unit => exact spelling_escapeUnit (small unit List.mem_cons_self)
  | case3 high low rest pair ih =>
    have later := ih fun unit member =>
      small unit (List.mem_cons_of_mem _ (List.mem_cons_of_mem _ member))
    obtain ⟨large, valid⟩ := pairCode_bounds pair
    rw [spelled, if_pos pair]
    exact (spelling_utf8 large valid).append later
  | case4 high low rest other ih =>
    have later := ih fun unit member => small unit (List.mem_cons_of_mem _ member)
    rw [spelled, if_neg other]
    exact (spelling_escapeUnit (small high List.mem_cons_self)).append later

theorem escapeUnit_plain {unit : Nat} (plain : 32 ≤ unit ∧ unit < 128 ∧ unit ≠ 34 ∧ unit ≠ 92) :
    escapeUnit unit = [unit] := by
  unfold escapeUnit
  split_ifs <;> first | rfl | omega

theorem escape_plain {units : Text} (plain : PlainString units) : escape units = units := by
  induction units using escape.induct with
  | case1 => rfl
  | case2 unit => exact escapeUnit_plain (plain unit List.mem_cons_self)
  | case3 high low more pair ih =>
    have small := (plain high List.mem_cons_self).2.1
    omega
  | case4 high low more other ih =>
    have later := ih fun unit member => plain unit (List.mem_cons_of_mem _ member)
    rw [escape, if_neg other, later, escapeUnit_plain (plain high List.mem_cons_self)]
    rfl

theorem PlainString.ascii {units : Text} (plain : PlainString units) : Ascii units :=
  fun unit member => (plain unit member).2.1

theorem spelled_plain {units : Text} (plain : PlainString units) : spelled units = units := by
  have small : ∀ unit ∈ units, unit < 0x10000 := fun unit member =>
    (plain unit member).2.1.trans (by decide)
  have encoded := utf8Units_escape small []
  rw [escape_plain plain, List.append_nil, utf8Units, List.append_nil,
    utf8Units_ascii (PlainString.ascii plain)] at encoded
  exact encoded.symm

theorem utf8_ne_nil (code : Nat) : ∃ unit, unit ∈ Extension.utf8 code := by
  unfold Extension.utf8
  split_ifs <;> exact ⟨_, List.mem_cons_self⟩

-- Bytes that are all plain can only be spelled by themselves.
theorem eq_of_spelled_plain {units : Text} (small : ∀ unit ∈ units, unit < 0x10000)
    (plain : PlainString (spelled units)) : spelled units = units := by
  have single {unit : Nat} (small : unit < 0x10000)
      (plain : PlainString (utf8Units (escapeUnit unit))) :
      utf8Units (escapeUnit unit) = [unit] := by
    rcases escapeUnit_cases small with escaped | ⟨itself, -, -, -, -⟩
    · rw [utf8Units_ascii escaped.ascii] at plain
      exact absurd rfl (plain 92 escaped.backslash).2.2.2
    · rw [itself, utf8Units] at plain ⊢
      by_cases ascii : unit < 128
      · exact utf8Unit_ascii ascii
      · obtain ⟨code, member⟩ :=
          utf8_ne_nil (if 0xd800 ≤ unit ∧ unit < 0xe000 then 0xfffd else unit)
        have high := utf8_high (by split_ifs <;> omega) member
        have low := (plain code member).2.1
        omega
  induction units using spelled.induct with
  | case1 => rfl
  | case2 unit => exact single (small unit List.mem_cons_self) plain
  | case3 high low rest pair ih =>
    rw [spelled, if_pos pair] at plain
    obtain ⟨code, member⟩ := utf8_ne_nil (pairCode high low)
    have large := utf8_high (pairCode_bounds pair).1 member
    have small := (plain code (List.mem_append_left _ member)).2.1
    omega
  | case4 high low rest other ih =>
    rw [spelled, if_neg other] at plain ⊢
    have first := single (small high List.mem_cons_self) fun code member =>
      plain code (List.mem_append_left _ member)
    have later := ih (fun unit member => small unit (List.mem_cons_of_mem _ member))
      fun code member => plain code (List.mem_append_right _ member)
    rw [first, later]
    rfl

theorem decode_plain {digits : Text} {bytes : Bytes} (decoded : Hex.decode digits = some bytes) :
    PlainString digits := by
  have digit {code value : Nat} (known : Hex.value? code = some value) :
      32 ≤ code ∧ code < 128 ∧ code ≠ 34 ∧ code ≠ 92 := by
    unfold Hex.value? at known
    split_ifs at known <;> omega
  induction digits using Hex.decode.induct generalizing bytes with
  | case1 =>
    intro code member
    cases member
  | case2 => cases decoded
  | case3 high low rest ih =>
    simp only [Hex.decode, Option.bind_eq_bind, Option.bind_eq_some_iff] at decoded
    obtain ⟨_, first, _, second, tail, decodedTail, -⟩ := decoded
    intro code member
    rcases List.mem_cons.mp member with rfl | member
    · exact digit first
    rcases List.mem_cons.mp member with rfl | member
    · exact digit second
    · exact ih decodedTail code member

theorem fixed?_plain {n : Nat} {units : Text} {value : FixedBytes n}
    (decoded : Hex.fixed? n units = some value) : PlainString units := by
  unfold Hex.fixed? at decoded
  split at decoded
  · rename_i marker digits
    split_ifs at decoded with known
    obtain ⟨bytes, decoded, -⟩ := Option.bind_eq_some_iff.mp decoded
    intro code member
    rcases List.mem_cons.mp member with rfl | member
    · decide
    rcases List.mem_cons.mp member with rfl | member
    · omega
    · exact decode_plain decoded code member
  · cases decoded

theorem fixed?_spelled {n : Nat} {units : Text} (small : ∀ unit ∈ units, unit < 0x10000) :
    Hex.fixed? n (spelled units) = Hex.fixed? n units := by
  cases decoded : Hex.fixed? n units with
  | some value => rw [spelled_plain (fixed?_plain decoded), decoded]
  | none =>
    cases spelling : Hex.fixed? n (spelled units) with
    | none => rfl
    | some value =>
      rw [eq_of_spelled_plain small (fixed?_plain spelling), decoded] at spelling
      cases spelling

def shareTree (share : EnclaveShare) : Json :=
  .obj [(text "recipient", .str share.recipient), (text "shareBps", .num (decimal share.shareBps))]

def configTree (salt : Text) (shares : List EnclaveShare) : Json :=
  .obj [(text "salt", .str salt), (text "shares", .arr (shares.map shareTree))]

-- A share of the browser's and the share the enclave reads from it.
def EnclaveShare.Denotes (share : EnclaveShare) (read : Extension.Share) : Prop :=
  Hex.fixed? 20 share.recipient = some read.recipient ∧ share.shareBps = read.shareBps.toNat

section Tree

variable {shares : List EnclaveShare} {read : List Extension.Share} {salt : Text}

theorem sortElements_json (plain : ∀ share ∈ shares, PlainString share.recipient) :
    sortElements (shares.map EnclaveShare.json) = shares.map shareTree := by
  induction shares with
  | nil => rfl
  | cons share rest ih =>
    have later := ih fun other member => plain other (List.mem_cons_of_mem _ member)
    have recipient := escape_plain (plain share List.mem_cons_self)
    have here : sortKeys share.json = shareTree share := by
      simp only [EnclaveShare.json, sortKeys, sortMembers, recipient]
      rfl
    rw [List.map_cons, sortElements, here, later, List.map_cons]

theorem canonicalize_json (plain : ∀ share ∈ shares, PlainString share.recipient) :
    canonicalize (EnclaveConfig.json ⟨salt, shares⟩) =
      (configTree (escape salt) shares).render := by
  have tree : sortKeys (EnclaveConfig.json ⟨salt, shares⟩) = configTree (escape salt) shares := by
    simp only [EnclaveConfig.json, sortKeys, sortMembers, sortElements_json plain]
    rfl
  rw [canonicalize, tree]

def beforeSalt : Text := 123 :: Json.quote (text "salt") ++ [58, 34]

def afterSalt (shares : List EnclaveShare) : Text :=
  34 :: 44 :: Json.quote (text "shares") ++ 58 :: (Json.arr (shares.map shareTree)).render ++ [125]

theorem render_configTree :
    (configTree salt shares).render = beforeSalt ++ (salt ++ afterSalt shares) := by
  simp [configTree, Json.render, Json.renderMembers, Json.renderMoreMembers, Json.quote,
    beforeSalt, afterSalt]

theorem plain_shares (plain : ∀ share ∈ shares, PlainString share.recipient) :
    (Json.arr (shares.map shareTree)).Plain := by
  apply (Json.plainElements_iff _).mpr
  intro element member
  obtain ⟨share, inside, rfl⟩ := List.mem_map.mp member
  exact ⟨Json.plainString_text, plain share inside, Json.plainString_text, ⟨_, rfl⟩, trivial⟩

theorem ascii_afterSalt (plain : ∀ share ∈ shares, PlainString share.recipient) :
    Ascii (afterSalt shares) := by
  have array := (plain_shares plain).ascii
  have key : Ascii (34 :: 44 :: Json.quote (text "shares")) := by decide
  exact (key.append (.cons (by decide) array)).append (by decide)

theorem textEncode_canonicalize (units : ∀ unit ∈ salt, unit < 0x10000)
    (plain : ∀ share ∈ shares, PlainString share.recipient) :
    (textEncode (canonicalize (EnclaveConfig.json ⟨salt, shares⟩))).text =
      (configTree (spelled salt) shares).render := by
  have after := ascii_afterSalt plain
  have encoded : utf8Units (canonicalize (EnclaveConfig.json ⟨salt, shares⟩)) =
      (configTree (spelled salt) shares).render := by
    rw [canonicalize_json plain, render_configTree, render_configTree,
      utf8Units_ascii_append (by decide), utf8Units_escape units, utf8Units_ascii after]
  rw [textEncode, encoded, Bytes.text, List.map_map]
  apply (List.map_congr_left ?_).trans (List.map_id _)
  intro code member
  have small : code < 256 := by
    rw [render_configTree, List.mem_append, List.mem_append] at member
    rcases member with member | member | member
    · exact (show Ascii beforeSalt by decide) code member |>.trans (by decide)
    · exact (spelling_spelled units).small code member
    · exact (after code member).trans (by decide)
  simp only [Function.comp_apply, UInt8.toNat_ofNat', id_eq]
  omega

theorem wellFormed_configTree (units : ∀ unit ∈ salt, unit < 0x10000)
    (plain : ∀ share ∈ shares, PlainString share.recipient) :
    (configTree (spelled salt) shares).WellFormed := by
  have saltKey : PlainString (text "salt") := Json.plainString_text
  have sharesKey : PlainString (text "shares") := Json.plainString_text
  exact ⟨saltKey.rawString, (spelling_spelled units).passes.rawString, sharesKey.rawString,
    (plain_shares plain).wellFormed, trivial⟩

theorem depth_configTree : (configTree salt shares).depth ≤ 3 := by
  have elements : Json.depthElements (shares.map shareTree) ≤ 1 := by
    induction shares with
    | nil => simp [Json.depthElements]
    | cons share rest ih =>
      simp only [List.map_cons, Json.depthElements, shareTree, Json.depth, Json.depthMembers]
      omega
  simp only [configTree, Json.depth, Json.depthMembers]
  omega

open Extension in
theorem unmarshalShare_shareTree {share : EnclaveShare} {found : Extension.Share}
    (denotes : share.Denotes found) :
    unmarshalShare ⟨.zero 20, 0⟩ (shareTree share) = some found := by
  obtain ⟨recipient, shareBps⟩ := denotes
  have recipientKey : isField "recipient" (text "recipient") = true := by decide +kernel
  have otherKey : isField "recipient" (text "shareBps") = false := by decide +kernel
  have shareBpsKey : isField "shareBps" (text "shareBps") = true := by decide +kernel
  have digits : (decimal share.shareBps).all Json.isDigit = true := by
    rw [List.all_eq_true]
    intro code member
    have range := decimal_digit member
    simpa [Json.isDigit] using range
  have small : share.shareBps < 2 ^ 16 := shareBps ▸ found.shareBps.toNat_lt
  simp only [shareTree, unmarshalShare, List.foldlM_cons, List.foldlM_nil, unmarshalShareField,
    recipientKey, otherKey, shareBpsKey, if_true, unmarshalHex, recipient, unmarshalUint16, digits,
    ofDecimal_decimal, small, and_self, Option.map_some]
  simp [shareBps]

open Extension in
theorem unmarshalElements_shareTree (denotes : List.Forall₂ EnclaveShare.Denotes shares read)
    (backing : List Extension.Share) :
    unmarshalElements backing backing.length (shares.map shareTree) = some (backing ++ read) := by
  induction denotes generalizing backing with
  | nil => simp [unmarshalElements]
  | @cons share found shares read here _ ih =>
    have later := ih (backing ++ [found])
    rw [List.length_append, List.length_singleton, List.append_assoc] at later
    have fresh : backing.getD backing.length ⟨.zero 20, 0⟩ = ⟨.zero 20, 0⟩ := by simp
    have past : backing.drop (backing.length + 1) = [] := List.drop_eq_nil_of_le (by omega)
    rw [List.map_cons, unmarshalElements, fresh, unmarshalShare_shareTree here, List.take_length,
      past]
    exact later

theorem plain_of_denotes (denotes : List.Forall₂ EnclaveShare.Denotes shares read) :
    ∀ share ∈ shares, PlainString share.recipient := by
  induction denotes with
  | nil => nofun
  | cons here _ ih =>
    intro share member
    rcases List.mem_cons.mp member with rfl | member
    · exact fixed?_plain here.1
    · exact ih share member

open Extension in
theorem unmarshalTree_configTree (denotes : List.Forall₂ EnclaveShare.Denotes shares read) :
    unmarshalTree (configTree salt shares) =
      (Hex.fixed? 32 salt).map fun word => ⟨read, word⟩ := by
  have saltOther : isField "shares" (text "salt") = false := by decide +kernel
  have saltKey : isField "salt" (text "salt") = true := by decide +kernel
  have sharesKey : isField "shares" (text "shares") = true := by decide +kernel
  have array : ∃ slice, unmarshalShares ⟨[], 0⟩ (.arr (shares.map shareTree)) = some slice ∧
      slice.shares = read := by
    cases denotes with
    | nil => exact ⟨⟨[], 0⟩, rfl, rfl⟩
    | @cons share found shares read here later =>
      have elements := unmarshalElements_shareTree (.cons here later) []
      rw [List.map_cons] at elements ⊢
      rw [List.length_nil, List.nil_append] at elements
      refine ⟨⟨found :: read, _⟩, by simp only [unmarshalShares, elements]; rfl, ?_⟩
      simp [Slice.shares, later.length_eq]
  obtain ⟨slice, unmarshalled, holds⟩ := array
  simp only [configTree, unmarshalTree, List.foldlM_cons, List.foldlM_nil, unmarshalField,
    saltOther, saltKey, sharesKey, if_true, unmarshalHex]
  cases Hex.fixed? 32 salt with
  | none => rfl
  | some word => simp [unmarshalled, holds]

theorem unmarshal_plaintext (units : ∀ unit ∈ salt, unit < 0x10000)
    (denotes : List.Forall₂ EnclaveShare.Denotes shares read) :
    Extension.unmarshal (textEncode (canonicalize (EnclaveConfig.json ⟨salt, shares⟩))) =
      (Hex.fixed? 32 salt).map fun word => ⟨read, word⟩ := by
  have plain := plain_of_denotes denotes
  have depth : (configTree (spelled salt) shares).depth ≤ Extension.maxNestingDepth :=
    depth_configTree.trans (by decide)
  rw [Extension.unmarshal, textEncode_canonicalize units plain,
    Json.parse_render _ (wellFormed_configTree units plain)]
  simp only [Option.bind_eq_bind, Option.bind_some, if_pos depth]
  rw [unmarshalTree_configTree denotes, fixed?_spelled units]

end Tree

end FlareStudio.Policy
