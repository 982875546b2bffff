import FlareStudio.Extension.Holdings

set_option autoImplicit false

-- PolicyInstructionSender asks the registry for one machine at random for every instruction.
-- Each machine has a key and a map of its own; what one of them was handed says nothing about
-- another.

namespace FlareStudio.Extension

open Checked

structure Ecies where
  publicKey : Bytes → Bytes
  eciesEncrypt : (recipient entropy plaintext : Bytes) → Bytes
  decrypt : (secret ciphertext : Bytes) → Except String Bytes
  decrypt_eciesEncrypt : ∀ secret entropy plaintext,
    decrypt secret (eciesEncrypt (publicKey secret) entropy plaintext) = .ok plaintext
  eciesEncrypt_ne_nil : ∀ recipient entropy plaintext, eciesEncrypt recipient entropy plaintext ≠ []

/-- The machines registered for the extension, their keys and what their nodes sign, and how an
instruction gets to them: the packages read it in the action that the relay makes of it. -/
structure Fleet where
  lib : Library
  relay : (instructionId : Bytes32) → TeeInstructionParams → Action
  reads : lib.Reads
  carries : ∀ instructionId params, Carries lib (.action (relay instructionId params)) params
  ecies : Ecies
  registered : List Address
  secret : Address → Bytes
  sign : Address → Bytes → Except String Bytes

namespace Fleet

def publicKey (fleet : Fleet) (teeId : Address) : Bytes :=
  fleet.ecies.publicKey (fleet.secret teeId)

def node (fleet : Fleet) (teeId : Address) : Node where
  decrypt := fleet.ecies.decrypt (fleet.secret teeId)
  sign := fleet.sign teeId

end Fleet

inductive Instruction where
  | sendStorePolicy (instructionId : Bytes32) (sender policy : Address) (ciphertext : Bytes)
  | sendEvaluatePolicy (instructionId : Bytes32) (sender policy : Address) (triggeredAt : Nat)

def Instruction.instructionId : Instruction → Bytes32
  | .sendStorePolicy instructionId .. | .sendEvaluatePolicy instructionId .. => instructionId

def Instruction.params : Instruction → TeeInstructionParams
  | .sendStorePolicy _ sender policy ciphertext =>
    Extension.sendStorePolicy sender policy ciphertext
  | .sendEvaluatePolicy _ sender policy triggeredAt =>
    Extension.sendEvaluatePolicy sender policy triggeredAt

-- The machine is the registry's answer to getRandomTeeIds(_getExtensionId(), 1).
abbrev Sent := Address × Instruction

namespace Fleet

variable (fleet : Fleet) (chainID : Int)

def input (sent : Sent) : Input :=
  (fleet.node sent.1, .action (fleet.relay sent.2.instructionId sent.2.params))

def step (teeId : Address) (e : State) (instruction : Instruction) : Response × State :=
  answer fleet.lib chainID e (fleet.input (teeId, instruction))

def run (sent : List Sent) : Address → State :=
  sent.foldl (Responder.handed (fleet.step chainID)) fun _ => new

def Drawn (sent : List Sent) : Prop := ∀ each ∈ sent, each.1 ∈ fleet.registered

-- The STORE of a payload that was sealed to the key of the machine `owner`.
def sealedStore (owner : Address) (instructionId : Bytes32) (sender policy : Address)
    (entropy plaintext : Bytes) : Instruction :=
  .sendStorePolicy instructionId sender policy
    (fleet.ecies.eciesEncrypt (fleet.publicKey owner) entropy plaintext)

structure Acceptable (owner policy : Address) (entropy plaintext : Bytes) : Prop where
  nonzero : policy ≠ .zero 20
  fits : (fleet.ecies.eciesEncrypt (fleet.publicKey owner) entropy plaintext).length < 2 ^ 256
  valid : ∃ cfg, unmarshal plaintext = some cfg ∧ validateShares cfg.shares = .ok ()

/-- Every STORE of a payload sealed to a registered machine's key reaches a machine that can open
it, and every later EVALUATE for the policy one that holds it. -/
structure Reached (sent : List Sent) : Prop where
  opened : ∀ teeId owner storeId sender policy entropy plaintext, owner ∈ fleet.registered →
    (teeId, fleet.sealedStore owner storeId sender policy entropy plaintext) ∈ sent →
      (fleet.node teeId).decrypt
        (fleet.ecies.eciesEncrypt (fleet.publicKey owner) entropy plaintext) = .ok plaintext
  held : ∀ earlier later teeId askId asker policy triggeredAt,
    sent = earlier ++ (teeId, .sendEvaluatePolicy askId asker policy triggeredAt) :: later →
    ∀ handed owner storeId sender entropy plaintext, owner ∈ fleet.registered →
      (handed, fleet.sealedStore owner storeId sender policy entropy plaintext) ∈ earlier →
      fleet.Acceptable owner policy entropy plaintext →
        ((fleet.run chainID earlier teeId).policies.lookup policy).isSome

/-- What holds of every run: a STORE that is drawn to the machine its payload was sealed to is
opened there and held for the EVALUATEs drawn to that machine, and an EVALUATE finds the policy
nowhere but where a STORE for it was drawn to and went through. -/
structure Routed (sent : List Sent) : Prop where
  opened : ∀ teeId storeId sender policy entropy plaintext,
    (teeId, fleet.sealedStore teeId storeId sender policy entropy plaintext) ∈ sent →
      (fleet.node teeId).decrypt
        (fleet.ecies.eciesEncrypt (fleet.publicKey teeId) entropy plaintext) = .ok plaintext
  held : ∀ earlier later teeId askId asker policy triggeredAt,
    sent = earlier ++ (teeId, .sendEvaluatePolicy askId asker policy triggeredAt) :: later →
    ∀ storeId sender entropy plaintext,
      (teeId, fleet.sealedStore teeId storeId sender policy entropy plaintext) ∈ earlier →
      fleet.Acceptable teeId policy entropy plaintext →
        ((fleet.run chainID earlier teeId).policies.lookup policy).isSome
  nowhereElse : ∀ earlier later teeId askId asker policy triggeredAt,
    sent = earlier ++ (teeId, .sendEvaluatePolicy askId asker policy triggeredAt) :: later →
      (((fleet.run chainID earlier teeId).policies.lookup policy).isSome ↔
        ∃ instruction, (teeId, instruction) ∈ earlier ∧
          (stored fleet.lib policy (fleet.input (teeId, instruction))).isSome)

variable {fleet chainID}

theorem run_eq_after (sent : List Sent) (teeId : Address) :
    fleet.run chainID sent teeId = after fleet.lib chainID new
      ((sent.filterMap (Responder.addressedTo teeId)).map fun instruction =>
        fleet.input (teeId, instruction)) := by
  rw [run, Responder.bank_final, after]
  generalize sent.filterMap (Responder.addressedTo teeId) = instructions
  generalize new = e
  induction instructions generalizing e with
  | nil => rfl
  | cons instruction rest ih => exact ih _

theorem mem_addressedTo {sent : List Sent} {teeId : Address} {instruction : Instruction} :
    instruction ∈ sent.filterMap (Responder.addressedTo teeId) ↔ (teeId, instruction) ∈ sent := by
  simp only [List.mem_filterMap, Responder.addressedTo]
  constructor
  · intro ⟨⟨target, found⟩, member, addressed⟩
    split_ifs at addressed with same
    cases addressed
    exact same ▸ member
  · intro member
    exact ⟨_, member, if_pos rfl⟩

theorem held_iff (sent : List Sent) (teeId policy : Address) :
    ((fleet.run chainID sent teeId).policies.lookup policy).isSome ↔
      ∃ instruction, (teeId, instruction) ∈ sent ∧
        (stored fleet.lib policy (fleet.input (teeId, instruction))).isSome := by
  rw [run_eq_after, lookup_after, new, AList.lookup_empty, Option.or_none, List.getLast?_isSome]
  constructor
  · intro nonempty
    obtain ⟨cfg, wrote⟩ := List.exists_mem_of_ne_nil _ nonempty
    obtain ⟨input, member, holds⟩ := List.mem_filterMap.mp wrote
    obtain ⟨instruction, addressed, rfl⟩ := List.mem_map.mp member
    exact ⟨instruction, mem_addressedTo.mp addressed, Option.isSome_of_eq_some holds⟩
  · intro ⟨instruction, member, holds⟩
    obtain ⟨cfg, holds⟩ := Option.isSome_iff_exists.mp holds
    have addressed := List.mem_map_of_mem (f := fun instruction =>
      fleet.input (teeId, instruction)) (mem_addressedTo.mpr member)
    exact List.ne_nil_of_mem (List.mem_filterMap.mpr ⟨_, addressed, holds⟩)

theorem sealedStore_stored {teeId sender policy : Address} {storeId : Bytes32}
    {entropy plaintext : Bytes}
    (acceptable : fleet.Acceptable teeId policy entropy plaintext) :
    (stored fleet.lib policy (fleet.input
      (teeId, fleet.sealedStore teeId storeId sender policy entropy plaintext))).isSome := by
  obtain ⟨nonzero, fits, cfg, parsed, valid⟩ := acceptable
  have opened : openStore fleet.lib (fleet.node teeId) (storeMessage policy
      (fleet.ecies.eciesEncrypt (fleet.publicKey teeId) entropy plaintext)) = .ok (policy, cfg) :=
    openStore_of_decrypt (fleet.reads.store policy _ fits) nonzero
      (fleet.ecies.eciesEncrypt_ne_nil _ _ _) (fleet.ecies.decrypt_eciesEncrypt _ _ _) parsed valid
  have carried : Carries fleet.lib (.action (fleet.relay storeId (fleet.sealedStore teeId storeId
      sender policy entropy plaintext).params)) (sendStorePolicy sender policy
        (fleet.ecies.eciesEncrypt (fleet.publicKey teeId) entropy plaintext)) := fleet.carries _ _
  exact Option.isSome_of_eq_some (sendStorePolicy_stored fleet.reads carried opened)

theorem routed (sent : List Sent) : fleet.Routed chainID sent := by
  constructor
  · intro teeId storeId sender policy entropy plaintext _
    exact fleet.ecies.decrypt_eciesEncrypt _ _ _
  · intro earlier later teeId askId asker policy triggeredAt _ storeId sender entropy plaintext
      member acceptable
    exact (held_iff earlier teeId policy).mpr ⟨_, member, sealedStore_stored acceptable⟩
  · intro earlier later teeId askId asker policy triggeredAt _
    exact held_iff earlier teeId policy

/-- The registry's draws decide where a policy is held; with one machine they cannot miss it. -/
theorem routing {sent : List Sent} (drawn : fleet.Drawn sent) :
    fleet.Routed chainID sent ∧ ∀ only, fleet.registered = [only] → fleet.Reached chainID sent := by
  have routed : fleet.Routed chainID sent := routed sent
  constructor
  · exact routed
  intro only alone
  have same {teeId : Address} (registered : teeId ∈ fleet.registered) : teeId = only := by
    rw [alone, List.mem_singleton] at registered
    exact registered
  constructor
  · intro teeId owner storeId sender policy entropy plaintext registered member
    have drawnTo : teeId = owner := (same (drawn _ member)).trans (same registered).symm
    subst drawnTo
    exact routed.opened _ _ _ _ _ _ member
  · intro earlier later teeId askId asker policy triggeredAt split handed owner storeId sender
      entropy plaintext registered member acceptable
    have asked : (teeId, .sendEvaluatePolicy askId asker policy triggeredAt) ∈ sent := by
      simp [split]
    have before :
        (handed, fleet.sealedStore owner storeId sender policy entropy plaintext) ∈ sent := by
      simp [split, member]
    have askedOf : teeId = owner := (same (drawn _ asked)).trans (same registered).symm
    have handedTo : handed = owner := (same (drawn _ before)).trans (same registered).symm
    subst askedOf handedTo
    exact routed.held _ _ _ _ _ _ _ split _ _ _ _ member acceptable

end Fleet

-- A payload is tagged with the key it is for, and opens under no other.
def sampleEcies : Ecies where
  publicKey secret := secret
  eciesEncrypt recipient _ plaintext := 0x04 :: (recipient ++ plaintext)
  decrypt secret ciphertext :=
    if ciphertext.take (secret.length + 1) = 0x04 :: secret then
      .ok (ciphertext.drop (secret.length + 1))
    else .error "ecies: invalid message"
  decrypt_eciesEncrypt secret entropy plaintext := by simp
  eciesEncrypt_ne_nil recipient entropy plaintext := List.cons_ne_nil _ _

def secondMachine : Address := .replicate 20 0xcc

def twoMachines : Fleet where
  lib := wire
  relay instructionId params := { params.action with id := instructionId }
  reads := wire_reads
  carries _ _ := ⟨_, rfl, parseDataFixed_json _⟩
  ecies := sampleEcies
  registered := [machineAccount, secondMachine]
  secret teeId := .replicate 32 (if teeId = machineAccount then 0x45 else 0x46)
  sign _ := machine.sign

def sealedFamily : Instruction :=
  twoMachines.sealedStore machineAccount (.replicate 32 1) ownerAccount samplePolicy []
    (marshal familyConfig.json)

def familyEvaluation : Instruction :=
  .sendEvaluatePolicy (.replicate 32 2) ownerAccount samplePolicy sampleTime

theorem sealedFamily_acceptable :
    twoMachines.Acceptable machineAccount samplePolicy [] (marshal familyConfig.json) where
  nonzero := by decide
  fits := by decide +kernel
  valid := ⟨familyConfig, by decide +kernel, by decide +kernel⟩

/-- The STORE is drawn to a machine with another key; or it is drawn to the right one, and the
EVALUATE to a machine that never saw it. -/
theorem draws_miss_the_machine :
    ¬ twoMachines.Reached 114 [(secondMachine, sealedFamily)] ∧
      ¬ twoMachines.Reached 114
        [(machineAccount, sealedFamily), (secondMachine, familyEvaluation)] := by
  constructor
  · intro reached
    have opened := reached.opened secondMachine machineAccount _ ownerAccount samplePolicy []
      (marshal familyConfig.json) (by decide) List.mem_cons_self
    exact absurd opened (by decide +kernel)
  · intro reached
    have held := reached.held [(machineAccount, sealedFamily)] [] secondMachine _ ownerAccount
      samplePolicy sampleTime rfl machineAccount machineAccount _ ownerAccount []
      (marshal familyConfig.json) (by decide) List.mem_cons_self sealedFamily_acceptable
    have untouched : twoMachines.run 114 [(machineAccount, sealedFamily)] secondMachine = new := rfl
    rw [untouched] at held
    cases held

theorem draws_reach_the_machine :
    twoMachines.Drawn [(machineAccount, sealedFamily), (machineAccount, familyEvaluation)] ∧
      twoMachines.Routed 114 [(machineAccount, sealedFamily), (machineAccount, familyEvaluation)] :=
  have drawn : twoMachines.Drawn
      [(machineAccount, sealedFamily), (machineAccount, familyEvaluation)] := by
    intro each member
    simp only [List.mem_cons, List.not_mem_nil, or_false] at member
    rcases member with rfl | rfl <;> exact List.mem_cons_self
  ⟨drawn, (Fleet.routing drawn).1⟩

end FlareStudio.Extension
