import FlareStudio.Policy.Checksum

set_option autoImplicit false

namespace FlareStudio.Policy

inductive AddressFormat where
  | xrpl
  | btc
  | doge
deriving DecidableEq

structure SupportedAsset where
  symbol : Text
  name : Text
  assetManagerKey : Text
  onChainSymbol : Option Text
  decimals : Nat
  fdcSourceId : Text
  ftsoFeedId : Text
  addressFormat : AddressFormat
  minimumHeartbeat : Nat
  live : Bool
deriving DecidableEq

namespace Registry

def FXRP : SupportedAsset where
  symbol := text "FXRP"
  name := text "XRP"
  assetManagerKey := text "AssetManagerFXRP"
  onChainSymbol := some (text "FTestXRP")
  decimals := 6
  fdcSourceId := text "testXRP"
  ftsoFeedId := text "0x015852502f55534400000000000000000000000000"
  addressFormat := .xrpl
  minimumHeartbeat := 100000
  live := true

def FBTC : SupportedAsset where
  symbol := text "FBTC"
  name := text "Bitcoin"
  assetManagerKey := text "AssetManagerFBTC"
  onChainSymbol := none
  decimals := 8
  fdcSourceId := text "testBTC"
  ftsoFeedId := text "0x014254432f55534400000000000000000000000000"
  addressFormat := .btc
  minimumHeartbeat := 1000
  live := false

def ASSETS : List (Text × SupportedAsset) := [(text "FXRP", FXRP), (text "FBTC", FBTC)]

-- What a property of the literal can be: one of its own entries, or a function (or, for __proto__,
-- the prototype itself) that comes with every object.
inductive Property where
  | entry (asset : SupportedAsset)
  | inherited (name : Text)
deriving DecidableEq

def property? (name : Text) : Option Property :=
  match ASSETS.lookup name with
  | some asset => some (.entry asset)
  | none => if name ∈ objectPrototype then some (.inherited name) else none

-- Nothing inherited has a symbol.
def Property.symbol : Property → Option Text
  | .entry asset => some asset.symbol
  | .inherited _ => none

-- Every property there is is truthy, so it is returned.
def getAsset (symbol : Text) : Except Text Property :=
  match property? symbol with
  | some found => .ok found
  | none =>
    .error (text "Unknown asset \"" ++ symbol ++ text "\". Known: " ++
      (text ", ").intercalate (ASSETS.map Prod.fst) ++
      text ". Adding an asset should be one entry in assets.ts and nothing else.")

def Registered (symbol : Text) : Prop := ∃ asset ∈ ASSETS.map Prod.snd, asset.symbol = symbol

theorem symbol_of_mem {key : Text} {asset : SupportedAsset} (member : (key, asset) ∈ ASSETS) :
    asset.symbol = key := by
  simp only [ASSETS, List.mem_cons, Prod.mk.injEq, List.not_mem_nil, or_false] at member
  rcases member with ⟨rfl, rfl⟩ | ⟨rfl, rfl⟩ <;> rfl

theorem symbol_of_lookup {key : Text} {asset : SupportedAsset}
    (found : ASSETS.lookup key = some asset) : asset.symbol = key := by
  obtain ⟨before, after, split, -⟩ := List.lookup_eq_some_iff.mp found
  exact symbol_of_mem (split ▸ List.mem_append_right _ List.mem_cons_self)

theorem registered_iff {symbol : Text} : Registered symbol ↔ symbol ∈ Policy.ASSETS := by
  simp [Registered, ASSETS, Policy.ASSETS, FXRP, FBTC, eq_comm]

theorem registered_fxrp : Registered (text "FXRP") := ⟨FXRP, List.mem_cons_self, rfl⟩

theorem lookup_eq_none {key : Text} : ASSETS.lookup key = none ↔ ¬ Registered key := by
  simp [registered_iff, List.lookup_eq_none_iff, ASSETS, Policy.ASSETS]

theorem not_registered_of_inherited {name : Text} (inherited : name ∈ objectPrototype) :
    ¬ Registered name := by
  rw [registered_iff]
  revert name
  decide +kernel

theorem getAsset_eq (symbol : Text) : Policy.getAsset symbol =
    ((getAsset symbol).map fun _ => ()).mapError CompileError.unknownAsset := by
  unfold Policy.getAsset getAsset property?
  rcases found : ASSETS.lookup symbol with _ | asset
  · have unknown := mt registered_iff.mpr (lookup_eq_none.mp found)
    by_cases inherited : symbol ∈ objectPrototype
    · simp only [inherited, or_true, if_true]
      rfl
    · simp only [unknown, inherited, or_self, if_false]
      rfl
  · have known : symbol ∈ Policy.ASSETS := by
      by_contra unknown
      rw [lookup_eq_none.mpr (mt registered_iff.mp unknown)] at found
      cases found
    rw [if_pos (.inl known)]
    rfl

theorem getAsset_symbol_iff (symbol : Text) :
    (∀ found, getAsset symbol = .ok found → found.symbol = some symbol) ↔
      symbol ∉ objectPrototype := by
  unfold getAsset property?
  constructor
  · intro faithful inherited
    have unregistered := lookup_eq_none.mpr (not_registered_of_inherited inherited)
    simp only [unregistered, inherited, if_true, Except.ok.injEq, forall_eq'] at faithful
    cases faithful
  · intro fresh found
    rcases entry : ASSETS.lookup symbol with _ | asset
    · simp [fresh]
    · rintro ⟨⟩
      exact congrArg some (symbol_of_lookup entry)

theorem accepts_iff (symbol : Text) :
    Policy.getAsset symbol = .ok () ↔ Registered symbol ∨ symbol ∈ objectPrototype := by
  rw [registered_iff]
  unfold Policy.getAsset
  split_ifs with known <;> simp [known]

-- A policy with nothing wrong but, perhaps, its asset.
structure OtherwiseValid (input : JsValue) (ir : PolicyIR) (salt : Text) : Prop where
  parsed : policyIrSchema input = .ok ir
  addresses : ∀ recipient ∈ ir.transfer.recipients, PassesChecksum recipient.address.val
  salt : IsSalt salt

def Accepts (viem : Viem) (input : JsValue) (salt : Text) : Prop :=
  ∃ compiled, compile viem input salt = .ok compiled

/-- What a property access finds is an asset unless it is inherited, and the compiler accepts it
either way. -/
theorem only_registered_iff {viem : Viem} (checks : viem.ChecksAddresses) (symbol : Text) :
    ((∀ found, getAsset symbol = .ok found → found.symbol = some symbol) ↔
      symbol ∉ objectPrototype) ∧
    ∀ input ir salt, OtherwiseValid input ir salt → ir.val.asset = symbol →
      ((Accepts viem input salt ↔ Registered symbol) ↔ symbol ∉ objectPrototype) := by
  refine ⟨getAsset_symbol_iff symbol, ?_⟩
  rintro input ir salt valid rfl
  have outcome := compile_ok_iff checks valid.salt valid.parsed
  rw [accepts_iff, and_iff_left valid.addresses] at outcome
  rw [Accepts, outcome]
  constructor
  · intro only inherited
    exact not_registered_of_inherited inherited (only.mp (.inr inherited))
  · intro fresh
    exact or_iff_left fresh

theorem family_otherwiseValid :
    ∃ ir, OtherwiseValid (policyInput [familyInput]) ir sampleSalt ∧
      ir.val.asset = text "FXRP" := by
  have checked : (policyIrSchema (policyInput [familyInput])).map
      (fun ir => decide ((∀ recipient ∈ ir.transfer.recipients,
        PassesChecksum recipient.address.val) ∧ ir.val.asset = text "FXRP")) = .ok true := by
    decide +kernel
  obtain ⟨ir, parsed, checked⟩ := Checked.map_eq_ok checked
  obtain ⟨addresses, asset⟩ := of_decide_eq_true checked
  exact ⟨ir, ⟨parsed, addresses, by decide⟩, asset⟩

theorem family_only_registered :
    Accepts .checksummed (policyInput [familyInput]) sampleSalt ↔ Registered (text "FXRP") := by
  obtain ⟨ir, valid, asset⟩ := family_otherwiseValid
  have only := (only_registered_iff Viem.checksummed_checksAddresses (text "FXRP")).2
  exact (only _ ir _ valid asset).mpr (by decide +kernel)

theorem constructor_accepted :
    getAsset (text "constructor") = .ok (.inherited (text "constructor")) ∧
    (Property.inherited (text "constructor")).symbol = none ∧
    Accepts .checksummed (assetInput "constructor" [] [familyInput]) sampleSalt ∧
    ¬ Registered (text "constructor") := by
  have accepted : (compile .checksummed (assetInput "constructor" [] [familyInput]) sampleSalt).map
      (fun compiled => compiled.publicArgs.assetSymbol) = .ok (text "constructor") := by
    decide +kernel
  obtain ⟨compiled, accepted, -⟩ := Checked.map_eq_ok accepted
  exact ⟨by decide +kernel, rfl, ⟨compiled, accepted⟩,
    not_registered_of_inherited (by decide +kernel)⟩

end Registry

end FlareStudio.Policy
