import FlareStudio.Extension.Extension
import FlareStudio.Shared.AbiRoundTrip

set_option autoImplicit false

namespace FlareStudio.Extension

def toHash (name : String) : Bytes32 :=
  ⟨(ascii name ++ List.replicate 32 0).take 32, by simp⟩

structure TeeInstructionParams where
  opType : Bytes32
  opCommand : Bytes32
  message : Bytes
  cosigners : List Address
  cosignersThreshold : Nat
  claimBackAddress : Address

-- A bytes32 literal, padded on the right as ToHash pads it.
def OP_TYPE_POLICY : Bytes32 := toHash "POLICY"

def OP_COMMAND_STORE : Bytes32 := toHash "STORE"

def OP_COMMAND_EVALUATE : Bytes32 := toHash "EVALUATE"

-- abi.encode(StorePolicyMessage({policy: _policy, ciphertext: _ciphertext}))
def storeMessage (policy : Address) (ciphertext : Bytes) : Bytes :=
  Abi.encode [.tuple [.address policy, .bytes ciphertext]]

-- abi.encode(EvaluatePolicyMessage({policy: _policy, triggeredAt: _triggeredAt}))
def evaluateMessage (policy : Address) (triggeredAt : Nat) : Bytes :=
  Abi.encode [.tuple [.address policy, .uint triggeredAt]]

def sendStorePolicy (sender _policy : Address) (_ciphertext : Bytes) : TeeInstructionParams where
  opType := OP_TYPE_POLICY
  opCommand := OP_COMMAND_STORE
  message := storeMessage _policy _ciphertext
  cosigners := []
  cosignersThreshold := 0
  claimBackAddress := sender

def sendEvaluatePolicy (sender _policy : Address) (_triggeredAt : Nat) : TeeInstructionParams where
  opType := OP_TYPE_POLICY
  opCommand := OP_COMMAND_EVALUATE
  message := evaluateMessage _policy _triggeredAt
  cosigners := []
  cosignersThreshold := 0
  claimBackAddress := sender

def DataFixed.json (df : DataFixed) : Json :=
  .obj [(text "opType", hexJson df.opType), (text "opCommand", hexJson df.opCommand),
    (text "originalMessage", .str (Hex.prefixed df.originalMessage))]

namespace TeeInstructionParams

def dataFixed (params : TeeInstructionParams) : DataFixed :=
  ⟨params.opType, params.opCommand, params.message⟩

-- What a node hands on of an instruction. Nothing in it names the account that sent it.
def action (params : TeeInstructionParams) : Action :=
  ⟨.replicate 32 0x12, "submit", marshal params.dataFixed.json⟩

def request (params : TeeInstructionParams) : Request := .action params.action

end TeeInstructionParams

def decodeStoreMessage (message : Bytes) : Except String StorePolicyRequest :=
  match Abi.decode [.tuple [.address, .bytes]] message with
  | some [.tuple [.address policy, .bytes ciphertext]] => .ok ⟨policy, ciphertext⟩
  | _ => .error "abi: improperly formatted input"

def decodeEvaluateMessage (message : Bytes) : Except String EvaluatePolicyRequest :=
  match Abi.decode [.tuple [.address, .uint 256]] message with
  | some [.tuple [.address policy, .uint triggeredAt]] => .ok ⟨policy, some triggeredAt⟩
  | _ => .error "abi: improperly formatted input"

def parseDataFixed (message : Bytes) : Except String DataFixed :=
  match Json.parse message.text with
  | some (.obj [(_, .str opType), (_, .str opCommand), (_, .str originalMessage)]) =>
    match Hex.fixed? 32 opType, Hex.fixed? 32 opCommand, Hex.decode (originalMessage.drop 2) with
    | some opType, some opCommand, some originalMessage => .ok ⟨opType, opCommand, originalMessage⟩
    | _, _, _ => .error "json: invalid hex"
  | _ => .error "json: cannot unmarshal"

def hexString (bytes : Bytes) : String := String.ofList ((Hex.prefixed bytes).map Char.ofNat)

def wire : Library where
  parse := parseDataFixed
  decodeStore := decodeStoreMessage
  decodeEvaluate := decodeEvaluateMessage
  toHash := toHash
  hashHex hash := hexString hash.bytes
  addressHex policy := hexString policy.bytes
  unmarshalError _ := "invalid character"

section Arrival

open Abi

variable {ciphertext : Bytes} {triggeredAt : Nat}

theorem decodeStore_storeMessage (policy : Address) (fits : ciphertext.length < 2 ^ 256) :
    wire.decodeStore (storeMessage policy ciphertext) = .ok ⟨policy, ciphertext⟩ := by
  have word := policy.word_length (by decide)
  have offset : (padUint 64).length = 32 := padUint_length (by norm_num)
  have outer : storeMessage policy ciphertext = padUint 32 ++
      (policy.word ++ (padUint 64 ++ encodeValue (.bytes ciphertext))) := by
    simp [storeMessage, Abi.encode, layout, encodeParts, encodeValue, heads, tails, headSize,
      Part.headSize, Part.tail, Value.isDynamic, anyDynamic, word]
  have inner : decodeComponents [.address, .bytes]
      (policy.word ++ (padUint 64 ++ encodeValue (.bytes ciphertext))) 0 =
        some [.address policy, .bytes ciphertext] := by
    apply decodeComponents_static rfl (decodeValue_address policy _)
    apply decodeComponents_dynamic 64 rfl
    · rw [show 0 + Ty.address.headSize = 32 from rfl, List.drop_left' word]
      exact readUint_append (by norm_num) _
    · rw [← List.append_assoc, List.drop_left' (by rw [List.length_append, word, offset])]
      simpa using decodeValue_bytes fits []
    · rfl
  have read : Abi.decode [.tuple [.address, .bytes]] (storeMessage policy ciphertext) =
      some [.tuple [.address policy, .bytes ciphertext]] := by
    apply decodeComponents_dynamic 32 rfl
    · rw [outer]
      exact readUint_append (by norm_num) _
    · rw [outer, List.drop_left' (padUint_length (by norm_num)), decodeValue_tuple, inner]
      rfl
    · rfl
  simp only [wire, decodeStoreMessage, read]

theorem decodeEvaluate_evaluateMessage (policy : Address) (fits : triggeredAt < 2 ^ 256) :
    wire.decodeEvaluate (evaluateMessage policy triggeredAt) =
      .ok ⟨policy, some triggeredAt⟩ := by
  have body : evaluateMessage policy triggeredAt = policy.word ++ padUint triggeredAt := by
    simp [evaluateMessage, Abi.encode, layout_encodeParts_static, encodeValue, Value.isDynamic,
      anyDynamic]
  have length : (evaluateMessage policy triggeredAt).length = 64 := by
    rw [body, List.length_append, policy.word_length (by decide), padUint_length fits]
  have typed : HaveTypes [.tuple [.address policy, .uint triggeredAt]]
      [.tuple [.address, .uint 256]] := ⟨⟨trivial, ⟨le_rfl, fits⟩, trivial⟩, trivial⟩
  have read : Abi.decode [.tuple [.address, .uint 256]] (evaluateMessage policy triggeredAt) =
      some [.tuple [.address policy, .uint triggeredAt]] :=
    decode_encode typed (length.trans_lt (by norm_num))
  simp only [wire, decodeEvaluateMessage, read]

theorem parseDataFixed_json (df : DataFixed) : wire.parse (marshal df.json) = .ok df := by
  have plain : df.json.Plain :=
    ⟨Json.plainString_text, Json.plainString_prefixed _, Json.plainString_text,
      Json.plainString_prefixed _, Json.plainString_text, Json.plainString_prefixed _, trivial⟩
  simp only [wire, parseDataFixed, parse_marshal plain]
  simp only [DataFixed.json, hexJson, Hex.fixed?_prefixed]
  simp [Hex.prefixed]

/-- The packages read what the contract writes. -/
structure Library.Reads (lib : Library) : Prop where
  store : ∀ policy ciphertext, ciphertext.length < 2 ^ 256 →
    lib.decodeStore (storeMessage policy ciphertext) = .ok ⟨policy, ciphertext⟩
  evaluate : ∀ policy (triggeredAt : Nat), triggeredAt < 2 ^ 256 →
    lib.decodeEvaluate (evaluateMessage policy triggeredAt) = .ok ⟨policy, some triggeredAt⟩
  opType : lib.toHash OPTypePolicy = OP_TYPE_POLICY
  storeCommand : lib.toHash OPCommandStore = OP_COMMAND_STORE
  evaluateCommand : lib.toHash OPCommandEvaluate = OP_COMMAND_EVALUATE

-- The id and the tag are the node's own, as is how the message is written.
def Carries (lib : Library) (request : Request) (params : TeeInstructionParams) : Prop :=
  ∃ action, request = .action action ∧ lib.parse action.message = .ok params.dataFixed

theorem wire_reads : wire.Reads where
  store policy _ fits := decodeStore_storeMessage policy fits
  evaluate policy _ fits := decodeEvaluate_evaluateMessage policy fits
  opType := rfl
  storeCommand := rfl
  evaluateCommand := rfl

theorem wire_carries (params : TeeInstructionParams) : Carries wire params.request params :=
  ⟨params.action, rfl, parseDataFixed_json _⟩

section Dispatch

variable (chainID : Int) (node : Node) (e : State) (sender policy : Address)

theorem answer_sendStorePolicy (ciphertext : Bytes) :
    answer wire chainID e (node, (sendStorePolicy sender policy ciphertext).request) =
      let params := sendStorePolicy sender policy ciphertext
      let (ar, after) := processStore wire node e params.action params.dataFixed
      (.reply ⟨200, .result ar⟩, after) := by
  have parsed : wire.parse (sendStorePolicy sender policy ciphertext).action.message =
      .ok (sendStorePolicy sender policy ciphertext).dataFixed := parseDataFixed_json _
  have type : (sendStorePolicy sender policy ciphertext).dataFixed.opType =
      wire.toHash OPTypePolicy := rfl
  have command : (sendStorePolicy sender policy ciphertext).dataFixed.opCommand =
      wire.toHash OPCommandStore := rfl
  simp only [answer, TeeInstructionParams.request, handle, processAction, parsed, if_pos type,
    processPolicy, if_pos command]

theorem answer_sendEvaluatePolicy (triggeredAt : Nat) :
    answer wire chainID e (node, (sendEvaluatePolicy sender policy triggeredAt).request) =
      let params := sendEvaluatePolicy sender policy triggeredAt
      let (ar, after) := processEvaluate wire chainID node e params.action params.dataFixed
      (.reply ⟨200, .result ar⟩, after) := by
  have parsed : wire.parse (sendEvaluatePolicy sender policy triggeredAt).action.message =
      .ok (sendEvaluatePolicy sender policy triggeredAt).dataFixed := parseDataFixed_json _
  have type : (sendEvaluatePolicy sender policy triggeredAt).dataFixed.opType =
      wire.toHash OPTypePolicy := rfl
  have command : (sendEvaluatePolicy sender policy triggeredAt).dataFixed.opCommand =
      wire.toHash OPCommandEvaluate := rfl
  have other : wire.toHash OPCommandEvaluate ≠ wire.toHash OPCommandStore := by decide +kernel
  simp only [answer, TeeInstructionParams.request, handle, processAction, parsed, if_pos type,
    processPolicy, command, if_neg other, if_true]

variable {chainID node e policy}

theorem sendStorePolicy_held {ciphertext : Bytes} {cfg : PrivateConfig}
    (opened : openStore wire node (storeMessage policy ciphertext) = .ok (policy, cfg)) :
    (answer wire chainID e
      (node, (sendStorePolicy sender policy ciphertext).request)).2.policies.lookup policy =
        some cfg := by
  have message : (sendStorePolicy sender policy ciphertext).dataFixed.originalMessage =
      storeMessage policy ciphertext := rfl
  rw [answer_sendStorePolicy]
  simp only [processStore, message, opened, AList.lookup_insert]

theorem sendEvaluatePolicy_answered {triggeredAt : Nat} {resp : EvaluatePolicyResponse}
    (produced : openEvaluate wire chainID node e (evaluateMessage policy triggeredAt) = .ok resp) :
    ∃ action df, (answer wire chainID e
      (node, (sendEvaluatePolicy sender policy triggeredAt).request)).1 =
        .reply ⟨200, .result (buildResult action df (marshal resp.json) 1 "")⟩ := by
  have message : (sendEvaluatePolicy sender policy triggeredAt).dataFixed.originalMessage =
      evaluateMessage policy triggeredAt := rfl
  rw [answer_sendEvaluatePolicy]
  simp only [processEvaluate, message, produced]
  exact ⟨_, _, rfl⟩

end Dispatch

end Arrival

def samplePolicy : Address := .replicate 20 0x11

def ownerAccount : Address := .replicate 20 0xaa

def strangerAccount : Address := .replicate 20 0xbb

def sampleTime : Nat := 1700000000

def familyConfig : PrivateConfig :=
  ⟨[⟨.replicate 20 0x22, 7000⟩, ⟨.replicate 20 0x33, 3000⟩], .replicate 32 0xaa⟩

def charityConfig : PrivateConfig :=
  ⟨[⟨.replicate 20 0x44, 5000⟩, ⟨.replicate 20 0x55, 5000⟩], .replicate 32 0xbb⟩

def PrivateConfig.json (cfg : PrivateConfig) : Json :=
  .obj [(text "salt", hexJson cfg.salt), (text "shares", .arr (cfg.shares.map shareJson))]

def hexBytes (digits : String) : Bytes := (Hex.decode (text digits)).getD []

def familyMessage : Bytes :=
  hexBytes "19014450ba66dfe791ae6c91dd787a48dfb602d63ab4280006c9f7b7b2b1c32db7de" ++
    hexBytes "73b36bdc7a127a2e14bc85daae32743420feb8a717d82cbbb885c3b97bcdc095"

def charityMessage : Bytes :=
  hexBytes "19014450ba66dfe791ae6c91dd787a48dfb602d63ab4280006c9f7b7b2b1c32db7de" ++
    hexBytes "3bafb2965f493e966d088aca43fb49a7bcb2e1e9c7ab541887605b80dff8accd"

-- What the key of machineAccount signs for the two messages.
def signatures : List (Bytes × Bytes) := [
  (familyMessage,
    hexBytes "9739ff1e416a719b95941ce5ab0c29ea5bb682c9445a1e05aceeb641bda90a2d" ++
      hexBytes "373ef61c4088c0b7a6da2442ccee44aeb50146202570fade667f202ac993752f01"),
  (charityMessage,
    hexBytes "3fa8359b3f7aca75bc81a4833639d766841f675a16d82f47a6b79b3cdcf5cbda" ++
      hexBytes "52bd171396a0865c8f43c409d49fb0e2510c2014360d44175fcdf2eac6e6338600")]

def machineAccount : Address := ⟨hexBytes "a94f5374fce5edbc8e2a8697c15331677e6ebf0b", by decide⟩

def machine : Node where
  decrypt ciphertext :=
    if ciphertext = ascii "sealed family" then .ok (marshal familyConfig.json)
    else if ciphertext = ascii "sealed charity" then .ok (marshal charityConfig.json)
    else .error "ecies: invalid message"
  sign message := (signatures.lookup message).elim (.error "signing failed") .ok

def familyResponse : EvaluatePolicyResponse where
  policy := samplePolicy
  shares := familyConfig.shares
  salt := familyConfig.salt
  signature := hexBytes "9739ff1e416a719b95941ce5ab0c29ea5bb682c9445a1e05aceeb641bda90a2d" ++
    hexBytes "373ef61c4088c0b7a6da2442ccee44aeb50146202570fade667f202ac993752f1c"

def charityResponse : EvaluatePolicyResponse where
  policy := samplePolicy
  shares := charityConfig.shares
  salt := charityConfig.salt
  signature := hexBytes "3fa8359b3f7aca75bc81a4833639d766841f675a16d82f47a6b79b3cdcf5cbda" ++
    hexBytes "52bd171396a0865c8f43c409d49fb0e2510c2014360d44175fcdf2eac6e633861b"

theorem sampleDomain : (domainSeparator samplePolicy 114).bytes =
    hexBytes "4450ba66dfe791ae6c91dd787a48dfb602d63ab4280006c9f7b7b2b1c32db7de" := by
  decide +kernel

theorem familyMessage_eq : eip712Preimage samplePolicy 114
    (computeCommitment familyConfig.shares familyConfig.salt) familyConfig.shares sampleTime =
      familyMessage := by
  rw [eip712Preimage, sampleDomain]
  decide +kernel

theorem charityMessage_eq : eip712Preimage samplePolicy 114
    (computeCommitment charityConfig.shares charityConfig.salt) charityConfig.shares sampleTime =
      charityMessage := by
  rw [eip712Preimage, sampleDomain]
  decide +kernel

section Sample

variable {e : State}

theorem family_opened : openStore wire machine (storeMessage samplePolicy (ascii "sealed family")) =
    .ok (samplePolicy, familyConfig) := by
  decide +kernel

theorem charity_opened :
    openStore wire machine (storeMessage samplePolicy (ascii "sealed charity")) =
      .ok (samplePolicy, charityConfig) := by
  decide +kernel

theorem familyResponse_produced (held : e.policies.lookup samplePolicy = some familyConfig) :
    openEvaluate wire 114 machine e (evaluateMessage samplePolicy sampleTime) =
      .ok familyResponse := by
  have decoded := decodeEvaluate_evaluateMessage samplePolicy (show sampleTime < 2 ^ 256 by decide)
  have signed : signViaNode machine familyMessage = .ok familyResponse.signature := by
    decide +kernel
  rw [← familyMessage_eq] at signed
  exact openEvaluate_of_held decoded (by decide) (by decide) held signed

theorem charityResponse_produced (held : e.policies.lookup samplePolicy = some charityConfig) :
    openEvaluate wire 114 machine e (evaluateMessage samplePolicy sampleTime) =
      .ok charityResponse := by
  have decoded := decodeEvaluate_evaluateMessage samplePolicy (show sampleTime < 2 ^ 256 by decide)
  have signed : signViaNode machine charityMessage = .ok charityResponse.signature := by
    decide +kernel
  rw [← charityMessage_eq] at signed
  exact openEvaluate_of_held decoded (by decide) (by decide) held signed

end Sample

end FlareStudio.Extension
