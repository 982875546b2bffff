import FlareStudio.Policy.Checksum
import FlareStudio.Policy.Plaintext

set_option autoImplicit false

namespace FlareStudio.EndToEnd

open Policy

def EnclaveAccepts (compiled : CompiledPolicy) : Prop :=
  ∃ cfg, Extension.unmarshal (textEncode compiled.plaintext) = some cfg ∧
    Extension.validateShares cfg.shares = .ok ()

-- A recipient the schema has let through, and the share the enclave reads for it.
def ReadAs (recipient : Recipient) (share : Extension.Share) : Prop :=
  Hex.fixed? 20 recipient.address.val = some share.recipient ∧
    recipient.shareBps.val = share.shareBps.toNat

theorem recipients_read (recipients : List Recipient) :
    ∃ shares, List.Forall₂ ReadAs recipients shares := by
  induction recipients with
  | nil => exact ⟨[], .nil⟩
  | cons recipient rest ih =>
    obtain ⟨shares, later⟩ := ih
    obtain ⟨value, denotes⟩ := isAddress_denotes recipient.address.property
    have small := recipient.shareBps.property.2
    refine ⟨⟨value, .ofNat recipient.shareBps.val⟩ :: shares, .cons ⟨denotes, ?_⟩ later⟩
    rw [UInt16.toNat_ofNat']
    omega

section Split

variable {recipients : List Recipient} {shares : List Extension.Share}

theorem denotes_of_readAs (read : List.Forall₂ ReadAs recipients shares) (name : Text) :
    List.Forall₂ EnclaveShare.Denotes (enclaveShares ⟨name, recipients.map Recipient.toPrivate⟩)
      shares := by
  rw [enclaveShares, List.map_map, List.forall₂_map_left_iff]
  exact read

theorem total_of_readAs (read : List.Forall₂ ReadAs recipients shares) :
    (shares.map fun share => share.shareBps.toNat).sum = totalShareBps recipients := by
  induction read with
  | nil => rfl
  | cons here _ ih =>
    simp only [totalShareBps, List.map_cons, List.sum_cons] at ih ⊢
    rw [ih, here.2]

theorem nonzero_of_readAs (read : List.Forall₂ ReadAs recipients shares) :
    (∀ share ∈ shares, share.recipient ≠ .zero 20) ↔
      ∀ recipient ∈ recipients, Hex.fixed? 20 recipient.address.val ≠ some (.zero 20) := by
  induction read with
  | nil => simp
  | cons here _ ih => simp [here.1, ih]

theorem validateShares_iff_nonzero (read : List.Forall₂ ReadAs recipients shares)
    (nonempty : recipients ≠ []) (whole : totalShareBps recipients = 10000) :
    Extension.validateShares shares = .ok () ↔
      ∀ recipient ∈ recipients, Hex.fixed? 20 recipient.address.val ≠ some (.zero 20) := by
  have some : shares ≠ [] := by
    rintro rfl
    exact nonempty (List.forall₂_nil_right_iff.mp read)
  rw [Extension.validateShares_eq_ok, total_of_readAs read, whole, nonzero_of_readAs read]
  simp [some]

end Split

theorem compiles_read {viem : Viem} {ir : PolicyIR} {salt : Text} {compiled : CompiledPolicy}
    (compiles : Compiles viem ir salt compiled) :
    ∃ shares, List.Forall₂ ReadAs ir.transfer.recipients shares ∧
      List.Forall₂ EnclaveShare.Denotes (enclaveShares compiled.privateConfig) shares ∧
      totalShareBps ir.transfer.recipients = 10000 := by
  obtain ⟨shares, read⟩ := recipients_read ir.transfer.recipients
  obtain ⟨whole, -⟩ := ir.split (List.head_mem ir.val.actions.property)
  refine ⟨shares, read, ?_, whole⟩
  rw [enclaveShares, compiles.recipients]
  exact denotes_of_readAs read compiled.privateConfig.name

theorem units_of_fixed {n : Nat} {units : Text} {value : FixedBytes n}
    (decoded : Hex.fixed? n units = some value) : ∀ unit ∈ units, unit < 0x10000 :=
  fun unit member => (fixed?_plain decoded unit member).2.1.trans (by decide)

/-- The enclave accepts what the compiler emits exactly when no recipient of the compiled action is
the zero address, which the schema lets through and the enclave refuses. -/
theorem enclave_accepts_iff {viem : Viem} {input : JsValue} {salt : Text} {word : Bytes32}
    {ir : PolicyIR} {compiled : CompiledPolicy} (bytes32 : Hex.fixed? 32 salt = some word)
    (parsed : policyIrSchema input = .ok ir) (accepted : compile viem input salt = .ok compiled) :
    EnclaveAccepts compiled ↔
      ∀ recipient ∈ ir.transfer.recipients,
        Hex.fixed? 20 recipient.address.val ≠ some (.zero 20) := by
  obtain ⟨ir', parsed', -, compiles⟩ := compile_compiles accepted
  rw [parsed, Except.ok.injEq] at parsed'
  subst parsed'
  obtain ⟨shares, read, denotes, whole⟩ := compiles_read compiles
  have decoded : Extension.unmarshal (textEncode compiled.plaintext) = some ⟨shares, word⟩ := by
    rw [compiles.plaintext, compiles.enclaveConfig,
      unmarshal_plaintext (units_of_fixed bytes32) denotes, bytes32]
    rfl
  rw [← validateShares_iff_nonzero read (Action.recipients_ne_nil _) whole, EnclaveAccepts, decoded]
  simp

def burnInput : JsValue := splitInput [recipientInput "0" 7000, recipientInput "3" 3000]

/-- The policy compiles, and the enclave will never hold it. -/
theorem zero_recipient_refused :
    ∃ compiled, compile .lowercase (policyInput [burnInput]) sampleSalt = .ok compiled ∧
      ¬ EnclaveAccepts compiled := by
  have checked : (compile .lowercase (policyInput [burnInput]) sampleSalt).map
      (fun compiled => (Extension.unmarshal (textEncode compiled.plaintext)).map fun cfg =>
        Extension.validateShares cfg.shares) =
      .ok (some (.error "share 0 has a zero recipient")) := by decide +kernel
  obtain ⟨compiled, accepted, checked⟩ := Checked.map_eq_ok checked
  refine ⟨compiled, accepted, ?_⟩
  intro ⟨cfg, decoded, valid⟩
  rw [decoded, Option.map_some, valid] at checked
  cases checked

theorem family_accepted :
    ∃ compiled, compile .lowercase (policyInput [familyInput]) sampleSalt = .ok compiled ∧
      EnclaveAccepts compiled := by
  have salted : (Hex.fixed? 32 sampleSalt).isSome = true := by decide +kernel
  have nonzero : (policyIrSchema (policyInput [familyInput])).map (fun ir =>
      decide (∀ recipient ∈ ir.transfer.recipients,
        Hex.fixed? 20 recipient.address.val ≠ some (.zero 20))) = .ok true := by decide +kernel
  have compiles : (compile .lowercase (policyInput [familyInput]) sampleSalt).map
      (fun compiled => compiled.enclaveConfig.shares.length) = .ok 2 := by decide +kernel
  obtain ⟨word, salted⟩ := Option.isSome_iff_exists.mp salted
  obtain ⟨ir, parsed, nonzero⟩ := Checked.map_eq_ok nonzero
  obtain ⟨compiled, accepted, -⟩ := Checked.map_eq_ok compiles
  exact ⟨compiled, accepted,
    (enclave_accepts_iff salted parsed accepted).mpr (of_decide_eq_true nonzero)⟩

end FlareStudio.EndToEnd
