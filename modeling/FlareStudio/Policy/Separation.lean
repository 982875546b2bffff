import FlareStudio.Policy.Compile

set_option autoImplicit false

namespace FlareStudio.Policy

/-- Two runs that return agree on what is observed where they agree on what is known. -/
def DependsOnly {ι ε ο α β : Type} (run : ι → Except ε ο) (known : ι → α) (observed : ο → β) :
    Prop :=
  ∀ input input' output output', run input = .ok output → run input' = .ok output' →
    known input = known input' → observed output = observed output'

-- An input with a salt, and what of the parsed policy and the salt is known.
abbrev Source : Type := JsValue × Text

def known {α : Type} (view : PolicyIR → Text → α) (source : Source) : Except Zod.Issue α :=
  (policyIrSchema source.1).map fun ir => view ir source.2

def compileSource (viem : Viem) (source : Source) : Except CompileError CompiledPolicy :=
  compile viem source.1 source.2

def PublicArgs.uncommitted (args : PublicArgs) : PublicArgs := { args with commitment := [] }

theorem PublicArgs.eq_of_uncommitted {args args' : PublicArgs}
    (same : args.uncommitted = args'.uncommitted)
    (commitment : args.commitment = args'.commitment) : args = args' := by
  cases args
  cases args'
  simp_all [uncommitted]

def publicView (ir : PolicyIR) (_ : Text) : Text × Trigger × List Condition :=
  (ir.val.asset, ir.val.trigger, ir.val.conditions)

def PolicyIR.written (ir : PolicyIR) : List (Text × Nat) :=
  ir.transfer.recipients.map fun recipient => (recipient.address.val, recipient.shareBps.val)

-- The recipients by their 20 bytes. The schema lets no other text through.
def PolicyIR.denoted (ir : PolicyIR) : List (Option Address × Nat) :=
  ir.written.map fun share => (Hex.fixed? 20 share.1, share.2)

def denotedView (ir : PolicyIR) (salt : Text) : List (Option Address × Nat) × Text :=
  (ir.denoted, salt)

def writtenView (ir : PolicyIR) (salt : Text) : List (Text × Nat) × Text := (ir.written, salt)

/-- The public half knows nothing of the recipients but the commitment, which knows nothing but
them and the salt, and neither does what is sealed to the enclave. -/
structure Separated (viem : Viem) : Prop where
  publicHalf : DependsOnly (compileSource viem) (known publicView) fun compiled =>
    compiled.publicArgs.uncommitted
  commitment : DependsOnly (compileSource viem) (known denotedView) fun compiled =>
    compiled.publicArgs.commitment
  sealedHalf : DependsOnly (compileSource viem) (known writtenView) CompiledPolicy.plaintext

section Encoding

def Distribution.SameValue (first second : Distribution) : Prop :=
  Hex.fixed? 20 first.recipient = Hex.fixed? 20 second.recipient ∧ first.amount = second.amount

/-- What viem encodes of an address is its value, however it is spelled. -/
def Viem.ReadsByValue (viem : Viem) : Prop :=
  ∀ distributions distributions' salt encoded encoded',
    List.Forall₂ Distribution.SameValue distributions distributions' →
    viem.encodeAbiParameters distributions salt = .ok encoded →
    viem.encodeAbiParameters distributions' salt = .ok encoded' → encoded = encoded'

theorem lowercaseValue_eq_ok {distribution : Distribution} {value : Address × Nat}
    (read : lowercaseValue distribution = .ok value) : distribution.Denotes value := by
  unfold lowercaseValue at read
  split at read
  · cases read
  · rename_i recipient decoded
    split_ifs at read with checked
    cases read
    exact ⟨decoded, by omega⟩

theorem lowercaseValues_sameValue {distributions distributions' : List Distribution}
    {values values' : List (Address × Nat)}
    (same : List.Forall₂ Distribution.SameValue distributions distributions')
    (read : lowercaseValues distributions = .ok values)
    (read' : lowercaseValues distributions' = .ok values') : values = values' := by
  induction same generalizing values values' with
  | nil => exact Except.ok.inj (read.symm.trans read')
  | cons here _ ih =>
    simp only [lowercaseValues, Checked.bind_reaches, Except.ok.injEq] at read read'
    obtain ⟨value, first, rest, others, rfl⟩ := read
    obtain ⟨value', first', rest', others', rfl⟩ := read'
    obtain ⟨recipient, amount⟩ := lowercaseValue_eq_ok first
    obtain ⟨recipient', amount'⟩ := lowercaseValue_eq_ok first'
    have addresses : value.1 = value'.1 := by
      apply Option.some.inj
      rw [← recipient, ← recipient', here.1]
    have amounts : value.2 = value'.2 := by
      apply Int.ofNat.inj
      exact amount.symm.trans (here.2.trans amount')
    rw [Prod.ext addresses amounts, ih others others']

theorem lowercase_readsByValue : Viem.lowercase.ReadsByValue := by
  intro distributions distributions' salt encoded encoded' same encodes encodes'
  simp only [Viem.lowercase, Checked.bind_reaches] at encodes encodes'
  obtain ⟨values, read, word, decoded, written⟩ := encodes
  obtain ⟨values', read', word', decoded', written'⟩ := encodes'
  rw [lowercaseValues_sameValue same read read'] at written
  cases decoded.symm.trans decoded'
  exact Except.ok.inj (written.symm.trans written')

end Encoding

section Runs

variable {viem : Viem} {α β : Type}

theorem dependsOnly_of_compiles {view : PolicyIR → Text → α} {observed : CompiledPolicy → β}
    (same : ∀ ir ir' salt salt' compiled compiled', Compiles viem ir salt compiled →
      Compiles viem ir' salt' compiled' → view ir salt = view ir' salt' →
      observed compiled = observed compiled') :
    DependsOnly (compileSource viem) (known view) observed := by
  intro source source' compiled compiled' accepted accepted' agree
  obtain ⟨ir, parsed, -, compiles⟩ := compile_compiles accepted
  obtain ⟨ir', parsed', -, compiles'⟩ := compile_compiles accepted'
  have views : view ir source.2 = view ir' source'.2 := by
    simpa [known, parsed, parsed', Except.map] using agree
  exact same _ _ _ _ _ _ compiles compiles' views

theorem shareCommitmentSet_eq {ir : PolicyIR} {salt : Text} {compiled : CompiledPolicy}
    (compiles : Compiles viem ir salt compiled) : shareCommitmentSet compiled.privateConfig =
      ir.written.map fun share => ⟨share.1, share.2⟩ := by
  rw [shareCommitmentSet, compiles.recipients, PolicyIR.written, List.map_map, List.map_map]
  rfl

theorem enclaveShares_eq {ir : PolicyIR} {salt : Text} {compiled : CompiledPolicy}
    (compiles : Compiles viem ir salt compiled) : enclaveShares compiled.privateConfig =
      ir.written.map fun share => ⟨share.1, share.2⟩ := by
  rw [enclaveShares, compiles.recipients, PolicyIR.written, List.map_map, List.map_map]
  rfl

theorem sameValue_of_denoted {ir ir' : PolicyIR} (same : ir.denoted = ir'.denoted) :
    List.Forall₂ Distribution.SameValue (ir.written.map fun share => ⟨share.1, share.2⟩)
      (ir'.written.map fun share => ⟨share.1, share.2⟩) := by
  rw [PolicyIR.denoted, PolicyIR.denoted, ← List.forall₂_eq_eq_eq, List.forall₂_map_left_iff,
    List.forall₂_map_right_iff] at same
  rw [List.forall₂_map_left_iff, List.forall₂_map_right_iff]
  apply same.imp
  intro share share' pair
  obtain ⟨recipients, amounts⟩ := Prod.mk.inj pair
  exact ⟨recipients, congrArg Int.ofNat amounts⟩

theorem publicHalf_dependsOnly : DependsOnly (compileSource viem) (known publicView)
    fun compiled => compiled.publicArgs.uncommitted := by
  apply dependsOnly_of_compiles
  intro ir ir' salt salt' compiled compiled' compiles compiles' views
  obtain ⟨asset, trigger, conditions⟩ : ir.val.asset = ir'.val.asset ∧
      ir.val.trigger = ir'.val.trigger ∧ ir.val.conditions = ir'.val.conditions := by
    simpa [publicView] using views
  simp only [PublicArgs.uncommitted, compiles.assetSymbol, compiles.trigger, compiles.conditions,
    compiles'.assetSymbol, compiles'.trigger, compiles'.conditions, asset, trigger, conditions]

theorem commitment_dependsOnly (byValue : viem.ReadsByValue) :
    DependsOnly (compileSource viem) (known denotedView) fun compiled =>
      compiled.publicArgs.commitment := by
  apply dependsOnly_of_compiles
  intro ir ir' salt salt' compiled compiled' compiles compiles' views
  obtain ⟨denoted, salts⟩ := Prod.mk.inj views
  have computed := compiles.commitment
  have computed' := compiles'.commitment
  rw [shareCommitmentSet_eq compiles, computeCommitment, Checked.bind_reaches] at computed
  rw [shareCommitmentSet_eq compiles', computeCommitment, Checked.bind_reaches] at computed'
  obtain ⟨encoded, encodes, hashed⟩ := computed
  obtain ⟨encoded', encodes', hashed'⟩ := computed'
  rw [← salts] at encodes'
  rw [byValue _ _ _ _ _ (sameValue_of_denoted denoted) encodes encodes'] at hashed
  exact Except.ok.inj (hashed.symm.trans hashed')

theorem plaintext_dependsOnly :
    DependsOnly (compileSource viem) (known writtenView) CompiledPolicy.plaintext := by
  apply dependsOnly_of_compiles
  intro ir ir' salt salt' compiled compiled' compiles compiles' views
  obtain ⟨written, salts⟩ := Prod.mk.inj views
  rw [compiles.plaintext, compiles'.plaintext, compiles.enclaveConfig, compiles'.enclaveConfig,
    enclaveShares_eq compiles, enclaveShares_eq compiles', written, salts]

/-- No run of the compiler lets the private half into the public one, or anything but the split and
the salt into what the enclave gets. -/
theorem compile_separated (viem : Viem) (byValue : viem.ReadsByValue) : Separated viem :=
  ⟨publicHalf_dependsOnly, commitment_dependsOnly byValue, plaintext_dependsOnly⟩

end Runs

-- The family's policy under another name, with a label and keys that the schema does not know.
def relabelledInput : JsValue :=
  .object [(text "version", .number (.finite 1)), (text "name", .string (text "My children")),
    (text "asset", .string (text "FXRP")), (text "note", .string (text "private")),
    (text "trigger", .object [(text "kind", .string (text "manualHeartbeat")),
      (text "intervalSeconds", .number (.finite 86400)), (text "demoMode", .boolean true),
      (text "since", .null)]),
    (text "conditions", .array []),
    (text "actions", .array [splitInput [
      .object [(text "address", .string (text "0x" ++ List.replicate 40 50)),
        (text "shareBps", .number (.finite 7000)), (text "label", .string (text "Anna"))],
      recipientInput "3" 3000]])]

def familySource : Source := (policyInput [familyInput], sampleSalt)

def relabelledSource : Source := (relabelledInput, sampleSalt)

theorem relabelled_separated :
    ∃ compiled compiled', compileSource .lowercase familySource = .ok compiled ∧
      compileSource .lowercase relabelledSource = .ok compiled' ∧
      compiled.privateConfig ≠ compiled'.privateConfig ∧
      compiled.publicArgs = compiled'.publicArgs ∧ compiled.plaintext = compiled'.plaintext := by
  have separated := compile_separated .lowercase lowercase_readsByValue
  have name : (compileSource .lowercase familySource).map
      (fun compiled => compiled.privateConfig.name) = .ok (text "Test policy") := by decide +kernel
  have name' : (compileSource .lowercase relabelledSource).map
      (fun compiled => compiled.privateConfig.name) = .ok (text "My children") := by decide +kernel
  have views : known publicView familySource = known publicView relabelledSource := by
    decide +kernel
  have written : known writtenView familySource = known writtenView relabelledSource := by
    decide +kernel
  have denoted : known denotedView familySource = known denotedView relabelledSource := by
    decide +kernel
  obtain ⟨compiled, accepted, name⟩ := Checked.map_eq_ok name
  obtain ⟨compiled', accepted', name'⟩ := Checked.map_eq_ok name'
  have halves := separated.publicHalf _ _ _ _ accepted accepted' views
  have commitments := separated.commitment _ _ _ _ accepted accepted' denoted
  refine ⟨compiled, compiled', accepted, accepted', ?_, ?_,
    separated.sealedHalf _ _ _ _ accepted accepted' written⟩
  · intro same
    rw [same, name'] at name
    revert name
    decide
  · exact PublicArgs.eq_of_uncommitted halves commitments

end FlareStudio.Policy
