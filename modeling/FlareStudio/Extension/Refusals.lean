import FlareStudio.Contracts.Payout
import FlareStudio.Extension.Wire

set_option autoImplicit false

namespace FlareStudio.Extension

open Checked Reentrant
open ConfidentialPolicy (weights)

-- The loop of execute over the shares ends on the total that it then requires.
def PassesTotalCheck (shares : List Share) : Prop :=
  ∀ answers state, Program.run answers (ConfidentialPolicy.sumShares 0 shares) state =
    .ok (ConfidentialPolicy.TOTAL_BPS, state)

/-- The split is accepted for what it is, and where execute's check of the total passes. -/
structure DecidesValidity (shares : List Share) : Prop where
  exactly : validateShares shares = .ok () ↔
    shares ≠ [] ∧ (∀ share ∈ shares, share.recipient ≠ .zero 20) ∧ (weights shares).sum = 10000
  anticipates : shares ≠ [] → (∀ share ∈ shares, share.recipient ≠ .zero 20) →
    (validateShares shares = .ok () ↔ PassesTotalCheck shares)

theorem passesTotalCheck_iff {shares : List Share} :
    PassesTotalCheck shares ↔ (weights shares).sum = 10000 := by
  constructor
  · intro passes
    let start : ConfidentialPolicy.State :=
      ⟨⟨false, .zero 20, .zero 20, .zero 32, .zero 20, .zero 20, [], .active, 0⟩, [], []⟩
    obtain ⟨exchanges, returns⟩ := Outcome.Returns.of_run (passes (fun _ => .success) start)
    obtain ⟨-, total, -⟩ := ConfidentialPolicy.sumShares_returns returns
    rw [← Nat.zero_add (weights shares).sum, ← total]
    rfl
  · intro whole answers state
    rw [ConfidentialPolicy.sumShares_runs (by rw [whole]; decide), whole]
    rfl

theorem validateShares_weights {shares : List Share} : validateShares shares = .ok () ↔
    shares ≠ [] ∧ (∀ share ∈ shares, share.recipient ≠ .zero 20) ∧
      (weights shares).sum % 2 ^ 32 = 10000 := validateShares_eq_ok

theorem around_iff {total : Nat} : total % 2 ^ 32 = 10000 ∧ total ≠ 10000 ↔
    ∃ rounds, total = 10000 + (rounds + 1) * 2 ^ 32 := by
  constructor
  · intro ⟨reached, other⟩
    exact ⟨total / 2 ^ 32 - 1, by omega⟩
  · intro ⟨rounds, around⟩
    omega

/-- The uint32 total is right unless it has gone around to 10000. -/
theorem decidesValidity_iff (shares : List Share) : DecidesValidity shares ↔
    (∃ share ∈ shares, share.recipient = .zero 20) ∨
      ∀ rounds, (weights shares).sum ≠ 10000 + (rounds + 1) * 2 ^ 32 := by
  have valid := @validateShares_weights shares
  by_cases nonzero : ∀ share ∈ shares, share.recipient ≠ .zero 20
  · have none : ¬ ∃ share ∈ shares, share.recipient = .zero 20 := by simpa using nonzero
    rw [or_iff_right none]
    constructor
    · intro decides rounds around
      obtain ⟨reached, other⟩ := around_iff.mpr ⟨rounds, around⟩
      have nonempty : shares ≠ [] := by
        rintro rfl
        cases reached
      exact other (decides.exactly.mp (valid.mpr ⟨nonempty, nonzero, reached⟩)).2.2
    · intro within
      have same : (weights shares).sum % 2 ^ 32 = 10000 ↔ (weights shares).sum = 10000 := by
        constructor
        · intro reached
          by_contra other
          obtain ⟨rounds, around⟩ := around_iff.mp ⟨reached, other⟩
          exact within rounds around
        · intro whole
          omega
      rw [same] at valid
      refine ⟨valid, ?_⟩
      intro nonempty _
      rw [valid, passesTotalCheck_iff, and_iff_right nonempty, and_iff_right nonzero]
  · have zero : ∃ share ∈ shares, share.recipient = .zero 20 := by simpa using nonzero
    rw [or_iff_left_of_imp (fun _ => zero)]
    refine iff_of_true ⟨?_, fun _ absent => absurd absent nonzero⟩ zero
    rw [valid]
    exact ⟨fun accepted => absurd accepted.2.1 nonzero, fun whole => absurd whole.2.1 nonzero⟩

def roundShare : Share := ⟨.replicate 20 0x22, 65535⟩

def wrappedSplit : List Share := List.replicate 65537 roundShare ++ [⟨.replicate 20 0x33, 10001⟩]

theorem sum_weights_replicate (count : Nat) (share : Share) (rest : List Share) :
    (weights (List.replicate count share ++ rest)).sum =
      count * share.shareBps.toNat + (weights rest).sum := by
  rw [weights, List.map_append, List.map_replicate, List.sum_append, List.sum_replicate,
    smul_eq_mul, weights]

/-- Shares that add up to 2 ^ 32 + 10000 basis points are taken for a whole split. -/
theorem wrappedSplit_accepted : validateShares wrappedSplit = .ok () ∧
    ¬ PassesTotalCheck wrappedSplit ∧ ¬ DecidesValidity wrappedSplit := by
  have total : (weights wrappedSplit).sum = 10000 + (0 + 1) * 2 ^ 32 := by
    have each : roundShare.shareBps.toNat = 65535 := rfl
    have last : (weights [⟨.replicate 20 0x33, 10001⟩]).sum = 10001 := rfl
    rw [wrappedSplit, sum_weights_replicate, each, last]
    norm_num
  have nonzero : ∀ share ∈ wrappedSplit, share.recipient ≠ .zero 20 := by
    intro share member
    rw [wrappedSplit, List.mem_append, List.mem_replicate, List.mem_singleton] at member
    obtain ⟨-, rfl⟩ | rfl := member
    · decide
    · decide
  obtain ⟨reached, other⟩ := around_iff.mpr ⟨0, total⟩
  have nonempty : wrappedSplit ≠ [] := by
    rw [wrappedSplit]
    exact List.append_ne_nil_of_right_ne_nil _ (List.cons_ne_nil _ _)
  have accepted : validateShares wrappedSplit = .ok () :=
    validateShares_weights.mpr ⟨nonempty, nonzero, reached⟩
  refine ⟨accepted, ?_, ?_⟩
  · rw [passesTotalCheck_iff]
    exact other
  · intro decides
    exact other (decides.exactly.mp accepted).2.2

inductive Refusal where
  | unreadable (err : String)
  | noShares
  | zeroRecipient (total : Nat)
  | wrongTotal (total : Nat)
deriving DecidableEq

namespace Refusal

def message : Refusal → String
  | .unreadable err => "parsing decrypted policy: " ++ err
  | .noShares => "policy has no shares"
  | .zeroRecipient total => s!"share {total} has a zero recipient"
  | .wrongTotal total => s!"shares sum to {total} bps, expected 10000"

-- The first six characters of the message tell the kinds of refusal apart.
def opening : Refusal → String
  | .unreadable _ => "parsin"
  | .noShares => "policy"
  | .zeroRecipient _ => "share "
  | .wrongTotal _ => "shares"

theorem take_append {label rest opening : String} (starts : label.toList.take 6 = opening.toList)
    (long : opening.toList.length = 6) : (label ++ rest).toList.take 6 = opening.toList := by
  have enough : 6 ≤ label.toList.length := by
    rw [← long, ← starts, List.length_take]
    exact Nat.min_le_right _ _
  rw [String.toList_append, List.take_append_of_le_length enough, starts]

theorem take_message (refusal : Refusal) :
    refusal.message.toList.take 6 = refusal.opening.toList := by
  cases refusal with
  | unreadable err =>
    change ("parsing decrypted policy: " ++ err).toList.take 6 = "parsin".toList
    exact take_append (by decide +kernel) (by decide +kernel)
  | noShares => decide +kernel
  | zeroRecipient total =>
    have whole : (zeroRecipient total).message =
        "share " ++ (toString total ++ " has a zero recipient") := String.append_assoc
    rw [whole, opening]
    exact take_append (by decide +kernel) (by decide +kernel)
  | wrongTotal total =>
    have whole : (wrongTotal total).message =
        "shares sum to " ++ (toString total ++ " bps, expected 10000") := String.append_assoc
    rw [whole, opening]
    exact take_append (by decide +kernel) (by decide +kernel)

theorem message_injective : Function.Injective message := by
  intro first second same
  have opened : first.opening = second.opening := by
    apply String.toList_inj.mp
    rw [← take_message, same, take_message]
  cases first <;> cases second
  case unreadable.unreadable => rw [(String.append_right_inj _).mp same]
  case noShares.noShares => rfl
  case zeroRecipient.zeroRecipient =>
    have middle := (String.append_left_inj " has a zero recipient").mp same
    rw [Nat.repr_inj.mp ((String.append_right_inj "share ").mp middle)]
  case wrongTotal.wrongTotal =>
    have middle := (String.append_left_inj " bps, expected 10000").mp same
    rw [Nat.repr_inj.mp ((String.append_right_inj "shares sum to ").mp middle)]
  all_goals exact absurd opened (by simp [opening])

end Refusal

/-- Why a split is refused. The totals are those of a uint32. -/
inductive SharesRefused : List Share → Refusal → Prop
  | noShares : SharesRefused [] .noShares
  | zeroRecipient {before after : List Share} {share : Share}
      (nonzero : ∀ share ∈ before, share.recipient ≠ .zero 20)
      (zero : share.recipient = .zero 20) :
      SharesRefused (before ++ share :: after) (.zeroRecipient ((weights before).sum % 2 ^ 32))
  | wrongTotal {shares : List Share} (nonempty : shares ≠ [])
      (nonzero : ∀ share ∈ shares, share.recipient ≠ .zero 20)
      (other : (weights shares).sum % 2 ^ 32 ≠ 10000) :
      SharesRefused shares (.wrongTotal ((weights shares).sum % 2 ^ 32))

inductive RefusedFor (lib : Library) (plaintext : Bytes) : Refusal → Prop
  | unreadable (unread : unmarshal plaintext = none) :
      RefusedFor lib plaintext (.unreadable (lib.unmarshalError plaintext))
  | shares {cfg : PrivateConfig} {refusal : Refusal} (read : unmarshal plaintext = some cfg)
      (refused : SharesRefused cfg.shares refusal) : RefusedFor lib plaintext refusal

theorem sumShares_zero {before after : List Share} {share : Share}
    (nonzero : ∀ share ∈ before, share.recipient ≠ .zero 20) (zero : share.recipient = .zero 20)
    (total : UInt32) : sumShares total (before ++ share :: after) =
      .error (Refusal.zeroRecipient ((total.toNat + (weights before).sum) % 2 ^ 32)).message := by
  induction before generalizing total with
  | nil =>
    have same : (total.toNat + (weights []).sum) % 2 ^ 32 = total.toNat :=
      Nat.mod_eq_of_lt total.toNat_lt
    rw [List.nil_append, sumShares, if_pos zero, same]
    rfl
  | cons first rest ih =>
    have later := ih (fun share member => nonzero share (List.mem_cons_of_mem _ member))
      (total + first.shareBps.toUInt32)
    have same : ((total + first.shareBps.toUInt32).toNat + (weights rest).sum) % 2 ^ 32 =
        (total.toNat + (weights (first :: rest)).sum) % 2 ^ 32 := by
      rw [weights, weights, List.map_cons, List.sum_cons, UInt32.toNat_add, UInt16.toNat_toUInt32]
      omega
    rw [List.cons_append, sumShares, if_neg (nonzero first List.mem_cons_self), later, same]

theorem validateShares_nonempty {shares : List Share} (nonempty : shares ≠ []) :
    validateShares shares = (sumShares 0 shares).bind fun total =>
      require (total = 10000) (Refusal.wrongTotal total.toNat).message := by
  rw [validateShares, require, if_pos nonempty]
  rfl

theorem validateShares_refused {shares : List Share} {refusal : Refusal}
    (refused : SharesRefused shares refusal) : validateShares shares = .error refusal.message := by
  cases refused with
  | noShares => rfl
  | @zeroRecipient before after share nonzero zero =>
    have failed := @sumShares_zero before after share nonzero zero 0
    rw [UInt32.toNat_zero, Nat.zero_add] at failed
    rw [validateShares_nonempty (List.append_ne_nil_of_right_ne_nil _ (List.cons_ne_nil _ _)),
      failed]
    rfl
  | wrongTotal nonempty nonzero other =>
    obtain ⟨sum, summed, value⟩ := sumShares_ok nonzero 0
    rw [UInt32.toNat_zero, Nat.zero_add] at value
    have wrong : sum ≠ 10000 := by
      intro reached
      rw [reached] at value
      exact other value.symm
    rw [validateShares_nonempty nonempty, summed, Except.bind, require, if_neg wrong, value]
    rfl

theorem valid_or_refused (shares : List Share) :
    validateShares shares = .ok () ∨ ∃ refusal, SharesRefused shares refusal := by
  by_cases nonempty : shares = []
  · subst nonempty
    exact .inr ⟨_, .noShares⟩
  cases found : shares.find? fun share => decide (share.recipient = .zero 20) with
  | some share =>
    obtain ⟨zero, before, after, split, nonzero⟩ := List.find?_eq_some_iff_append.mp found
    subst split
    exact .inr ⟨_, .zeroRecipient (by simpa using nonzero) (by simpa using zero)⟩
  | none =>
    have nonzero : ∀ share ∈ shares, share.recipient ≠ .zero 20 := by
      simpa using List.find?_eq_none.mp found
    by_cases whole : (weights shares).sum % 2 ^ 32 = 10000
    · exact .inl (validateShares_weights.mpr ⟨nonempty, nonzero, whole⟩)
    · exact .inr ⟨_, .wrongTotal nonempty nonzero whole⟩

structure DecryptedStore (lib : Library) (policy : Address) (id : Bytes32)
    (submissionTag : String) where
  node : Node
  message : Bytes
  df : DataFixed
  ciphertext : Bytes
  plaintext : Bytes
  parsed : lib.parse message = .ok df
  type : df.opType = lib.toHash OPTypePolicy
  command : df.opCommand = lib.toHash OPCommandStore
  decoded : lib.decodeStore df.originalMessage = .ok ⟨policy, ciphertext⟩
  nonzero : policy ≠ .zero 20
  nonempty : ciphertext ≠ []
  decrypted : node.decrypt ciphertext = .ok plaintext

def Accepted (plaintext : Bytes) (count : Nat) : Prop :=
  ∃ cfg, unmarshal plaintext = some cfg ∧ validateShares cfg.shares = .ok () ∧
    cfg.shares.length = count

def Refused (plaintext : Bytes) : Prop := ∀ count, ¬ Accepted plaintext count

namespace DecryptedStore

variable {lib : Library} {policy : Address} {id : Bytes32} {submissionTag : String}

def action (store : DecryptedStore lib policy id submissionTag) : Action :=
  ⟨id, submissionTag, store.message⟩

def reply (store : DecryptedStore lib policy id submissionTag) (chainID : Int) (e : State) :
    Reply :=
  (processAction lib chainID store.node e store.action).1

/-- The two are answered alike, unless one is accepted and the other refused or their share counts
differ. -/
structure Alike (first second : DecryptedStore lib policy id submissionTag) : Prop where
  accepted : ∀ count, Accepted first.plaintext count → Accepted second.plaintext count →
    ∀ chainID e e', first.reply chainID e = second.reply chainID e'
  refused : Refused first.plaintext → Refused second.plaintext →
    ∀ chainID e e', first.reply chainID e = second.reply chainID e'

section Reply

variable (store : DecryptedStore lib policy id submissionTag) (chainID : Int) (e : State)

theorem reply_eq : store.reply chainID e =
    ⟨200, .result (processStore lib store.node e store.action store.df).1⟩ := by
  simp only [reply, processAction, action, store.parsed, if_pos store.type, processPolicy,
    if_pos store.command]

theorem openStore_decrypted : openStore lib store.node store.df.originalMessage =
    (ofOption ("parsing decrypted policy: " ++ lib.unmarshalError store.plaintext)
      (unmarshal store.plaintext)).bind fun cfg =>
        (validateShares cfg.shares).bind fun _ => .ok (policy, cfg) := by
  simp only [openStore, store.decoded, wrapped, Except.mapError, require, if_pos store.nonzero,
    if_pos store.nonempty, store.decrypted, bind, Except.bind]

theorem reply_accepted {count : Nat} (accepted : Accepted store.plaintext count) :
    store.reply chainID e = ⟨200, .result ⟨id, submissionTag, Version, lib.toHash OPTypePolicy,
      lib.toHash OPCommandStore, marshal (StorePolicyResponse.json ⟨policy, true, count⟩), 1,
      "ok"⟩⟩ := by
  obtain ⟨cfg, read, valid, rfl⟩ := accepted
  have opened := openStore_of_decrypt store.decoded store.nonzero store.nonempty store.decrypted
    read valid
  rw [reply_eq, processStore, opened, ← store.type, ← store.command]
  rfl

theorem reply_refused {refusal : Refusal} (refused : RefusedFor lib store.plaintext refusal) :
    store.reply chainID e = ⟨200, .result ⟨id, submissionTag, Version, lib.toHash OPTypePolicy,
      lib.toHash OPCommandStore, [], 0, "error: " ++ refusal.message⟩⟩ := by
  have opened : openStore lib store.node store.df.originalMessage = .error refusal.message := by
    rw [openStore_decrypted]
    cases refused with
    | unreadable unread =>
      rw [unread]
      rfl
    | shares read refused =>
      rw [read, ofOption, Except.bind, validateShares_refused refused]
      rfl
  rw [reply_eq, processStore, opened, ← store.type, ← store.command]
  rfl

end Reply

theorem refused_iff {lib : Library} {plaintext : Bytes} :
    Refused plaintext ↔ ∃ refusal, RefusedFor lib plaintext refusal := by
  constructor
  · intro refused
    cases read : unmarshal plaintext with
    | none => exact ⟨_, .unreadable read⟩
    | some cfg =>
      rcases valid_or_refused cfg.shares with valid | ⟨refusal, found⟩
      · exact absurd ⟨cfg, read, valid, rfl⟩ (refused cfg.shares.length)
      · exact ⟨refusal, .shares read found⟩
  · rintro ⟨refusal, refused⟩ count ⟨cfg, read, valid, -⟩
    cases refused with
    | unreadable unread =>
      rw [unread] at read
      cases read
    | shares other found =>
      cases read.symm.trans other
      rw [validateShares_refused found] at valid
      cases valid

-- The reason can be read off the log.
theorem Alike.same_refusal {first second : DecryptedStore lib policy id submissionTag}
    (alike : first.Alike second) {refusal refusal' : Refusal}
    (reason : RefusedFor lib first.plaintext refusal)
    (reason' : RefusedFor lib second.plaintext refusal') : refusal = refusal' := by
  have same := alike.refused (refused_iff.mpr ⟨_, reason⟩) (refused_iff.mpr ⟨_, reason'⟩) 0
    new new
  rw [reply_refused _ _ _ reason, reply_refused _ _ _ reason'] at same
  have logs : "error: " ++ refusal.message = "error: " ++ refusal'.message := by
    simpa using same
  exact Refusal.message_injective ((String.append_right_inj _).mp logs)

/-- Two STOREs are answered alike exactly when they are not refused for different reasons. -/
theorem alike_iff (first second : DecryptedStore lib policy id submissionTag) :
    first.Alike second ↔ ∀ refusal refusal', RefusedFor lib first.plaintext refusal →
      RefusedFor lib second.plaintext refusal' → refusal = refusal' := by
  constructor
  · intro alike refusal refusal' reason reason'
    exact alike.same_refusal reason reason'
  · intro same
    constructor
    · intro count accepted accepted' chainID e e'
      rw [reply_accepted _ _ _ accepted, reply_accepted _ _ _ accepted']
    · intro refused refused' chainID e e'
      obtain ⟨refusal, reason⟩ := refused_iff.mp refused
      obtain ⟨refusal', reason'⟩ := refused_iff.mp refused'
      rw [reply_refused _ _ _ reason, reply_refused _ _ _ reason', same _ _ reason reason']

end DecryptedStore

-- A split whose second share was left without a recipient.
def unassigned (shareBps : UInt16) : PrivateConfig :=
  ⟨[⟨.replicate 20 0x22, shareBps⟩, ⟨.zero 20, 10000 - shareBps⟩], .replicate 32 0xaa⟩

def unassignedMachine : Node where
  decrypt ciphertext :=
    .ok (marshal (unassigned (if ciphertext = [1] then 7000 else 3000)).json)
  sign _ := .error "signing failed"

def unassignedStore (box : UInt8) (shareBps : UInt16)
    (opens : shareBps = if [box] = [(1 : UInt8)] then 7000 else 3000) :
    DecryptedStore wire samplePolicy (.replicate 32 0x12) "submit" where
  node := unassignedMachine
  message := (sendStorePolicy ownerAccount samplePolicy [box]).action.message
  df := (sendStorePolicy ownerAccount samplePolicy [box]).dataFixed
  ciphertext := [box]
  plaintext := marshal (unassigned shareBps).json
  parsed := parseDataFixed_json _
  type := rfl
  command := rfl
  decoded := decodeStore_storeMessage samplePolicy (by simp)
  nonzero := by decide
  nonempty := List.cons_ne_nil _ _
  decrypted := by rw [opens, unassignedMachine]

def firstStore := unassignedStore 1 7000 rfl

def secondStore := unassignedStore 2 3000 rfl

/-- The log of a STORE names what the shares before the refused one add up to. -/
theorem partial_sum_logged :
    RefusedFor wire firstStore.plaintext (.zeroRecipient 7000) ∧
      RefusedFor wire secondStore.plaintext (.zeroRecipient 3000) ∧
      ¬ firstStore.Alike secondStore := by
  have first : unmarshal firstStore.plaintext = some (unassigned 7000) := by decide +kernel
  have second : unmarshal secondStore.plaintext = some (unassigned 3000) := by decide +kernel
  have refused (shareBps : UInt16) : SharesRefused (unassigned shareBps).shares
      (.zeroRecipient ((weights [⟨.replicate 20 0x22, shareBps⟩]).sum % 2 ^ 32)) := by
    apply @SharesRefused.zeroRecipient [⟨.replicate 20 0x22, shareBps⟩] []
    · intro share member
      rw [List.mem_singleton.mp member]
      exact show (FixedBytes.replicate 20 0x22 : Address) ≠ .zero 20 by decide
    · rfl
  have seventy := @RefusedFor.shares wire _ _ _ first (refused 7000)
  have thirty := @RefusedFor.shares wire _ _ _ second (refused 3000)
  refine ⟨seventy, thirty, fun alike => ?_⟩
  cases alike.same_refusal seventy thirty

end FlareStudio.Extension
