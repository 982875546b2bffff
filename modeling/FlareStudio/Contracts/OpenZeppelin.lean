import FlareStudio.Shared.Abi
import FlareStudio.Shared.Keccak

set_option autoImplicit false

namespace FlareStudio

inductive ECDSAError where
  | invalidSignature
  | invalidSignatureLength (length : Nat)
  | invalidSignatureS (s : Bytes32)
deriving DecidableEq

def eip712DomainTypehash : Bytes32 :=
  keccak256 (ascii
    "EIP712Domain(string name,string version,uint256 chainId,address verifyingContract)")

-- The library's contracts are not part of the repository: what they compute is a parameter, and
-- the equations are what EIP-712 and EIP-191 prescribe for it.
structure OpenZeppelin where
  hashTypedDataV4 : (name version : Bytes) → (chainId : Nat) → (self : Address) →
    (structHash : Bytes32) → Bytes32
  toEthSignedMessageHash : Bytes32 → Bytes32
  recover : (hash : Bytes32) → (signature : Bytes) → Except ECDSAError Address
  hashTypedDataV4_eq : ∀ name version chainId self structHash,
    hashTypedDataV4 name version chainId self structHash =
      keccak256 (0x19 :: 0x01 ::
        (keccak256 (Abi.encode [.bytes32 eip712DomainTypehash, .bytes32 (keccak256 name),
          .bytes32 (keccak256 version), .uint chainId, .address self])).bytes ++
        structHash.bytes)
  toEthSignedMessageHash_eq : ∀ digest,
    toEthSignedMessageHash digest =
      keccak256 (0x19 :: ascii "Ethereum Signed Message:\n32" ++ digest.bytes)

def OpenZeppelin.ofRecover (recover : Bytes32 → Bytes → Except ECDSAError Address) :
    OpenZeppelin where
  hashTypedDataV4 name version chainId self structHash :=
    keccak256 (0x19 :: 0x01 ::
      (keccak256 (Abi.encode [.bytes32 eip712DomainTypehash, .bytes32 (keccak256 name),
        .bytes32 (keccak256 version), .uint chainId, .address self])).bytes ++
      structHash.bytes)
  toEthSignedMessageHash digest :=
    keccak256 (0x19 :: ascii "Ethereum Signed Message:\n32" ++ digest.bytes)
  recover := recover
  hashTypedDataV4_eq _ _ _ _ _ := rfl
  toEthSignedMessageHash_eq _ := rfl

end FlareStudio
