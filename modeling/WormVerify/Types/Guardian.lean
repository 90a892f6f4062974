import WormVerify.Wire

/-! # Guardian identity: hashing, addresses and quorum -/

namespace WormVerify.Types

/-- The functions of the hashing and secp256k1 crates that the service calls. -/
structure Crypto where
  Message : Type
  Signature : Type
  RecoveryId : Type
  PublicKey : Type
  keccak256 : List UInt8 → Bytes 32
  parseMessage : Bytes 32 → Message
  parseStandardSlice : Bytes 64 → Option Signature
  parseRecoveryId : UInt8 → Option RecoveryId
  recover : Message → Signature → RecoveryId → Option PublicKey
  serialize : PublicKey → Bytes 65

variable (crypto : Crypto)

def fromPubkey (pubkey : Bytes 64) : GuardianAddress :=
  (crypto.keccak256 pubkey.val).lastBytes 20 address_le_hash

/-- The digest that guardians sign: `keccak256(keccak256(body))`. -/
def bodyDigest (body : List UInt8) : Bytes 32 :=
  crypto.keccak256 (crypto.keccak256 body).val

def quorum (numGuardians : Nat) : Nat :=
  numGuardians * 2 / 3 + 1

theorem quorum_pos (numGuardians : Nat) : 0 < quorum numGuardians := by
  rw [quorum]
  omega

theorem quorum_le {numGuardians : Nat} (nonempty : 0 < numGuardians) :
    quorum numGuardians ≤ numGuardians := by
  rw [quorum]
  omega

structure GuardianSet where
  index : UInt32
  keys : List GuardianAddress
  /-- The time from which the set is no longer usable; zero means never. -/
  expirationTime : UInt64
  deriving DecidableEq

def GuardianSet.isActive (set : GuardianSet) (now : UInt64) : Bool :=
  set.expirationTime == 0 || decide (now < set.expirationTime)

end WormVerify.Types
