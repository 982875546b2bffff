import FlareStudio.Policy.Checksum

set_option autoImplicit false

namespace FlareStudio.Web

open Policy

structure Handoff where
  instructionId : Bytes32
  txHash : Bytes32
  handedAt : Nat
deriving DecidableEq

structure VaultEntry where
  policy : Text
  chainId : Nat
  name : Text
  templateId : Text
  assetSymbol : Text
  salt : Text
  privateConfig : PrivateConfig
  ciphertext : Option Text
  handoff : Option Handoff
  triggerKind : Text
  triggerAddress : Address
  deployTx : Bytes32
  deployedAt : Nat
deriving DecidableEq

-- What localStorage has under the vault's key. A list that was written reads back the same; an
-- item is unreadable if it is not JSON or not an array.
inductive VaultItem where
  | absent
  | unreadable
  | entries (list : List VaultEntry)
deriving DecidableEq

namespace Vault

def read : VaultItem → List VaultEntry
  | .absent | .unreadable => []
  | .entries list => list

-- `setItem` says whether localStorage takes the item, which it may not for lack of space.
def write {ε : Type} (setItem : Except ε Unit) (list : List VaultEntry) : Except ε VaultItem :=
  setItem.map fun _ => .entries list

def others (policy : Text) (list : List VaultEntry) : List VaultEntry :=
  list.filter fun entry => toLowerCase entry.policy ≠ toLowerCase policy

def saveEntry {ε : Type} (setItem : Except ε Unit) (entry : VaultEntry) (item : VaultItem) :
    Except ε VaultItem :=
  write setItem (others entry.policy (read item) ++ [entry])

def saved (entry : VaultEntry) (item : VaultItem) : VaultItem :=
  .entries (others entry.policy (read item) ++ [entry])

theorem saveEntry_eq {ε : Type} (setItem : Except ε Unit) (entry : VaultEntry)
    (item : VaultItem) : saveEntry setItem entry item = setItem.map fun _ => saved entry item :=
  rfl

theorem mem_read_saved {entry found : VaultEntry} {item : VaultItem} :
    found ∈ read (saved entry item) ↔
      (found ∈ read item ∧ toLowerCase found.policy ≠ toLowerCase entry.policy) ∨
        found = entry := by
  simp [saved, read, others]

theorem saved_again {first second : VaultEntry} (same : second.policy = first.policy)
    (item : VaultItem) : saved second (saved first item) = saved second item := by
  simp [saved, read, others, same, List.filter_append, List.filter_filter]

end Vault

end FlareStudio.Web
