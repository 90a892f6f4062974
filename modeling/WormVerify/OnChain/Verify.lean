import WormVerify.OnChain.Vaa

/-! # The program's signature verification -/

namespace WormVerify.OnChain

open Checked

variable (syscalls : Syscalls)

def guardianAddressFromPubkey (pubkey : Bytes 64) : GuardianAddress :=
  (syscalls.keccakHash pubkey.val).lastBytes 20 address_le_hash

def recoverAddress (hash : Bytes 32) (rs : Bytes 64) (recoveryId : UInt8) :
    Checked WormError GuardianAddress := do
  let pubkey ← okOr (syscalls.secp256k1Recover hash recoveryId rs) .recoveryFailed
  return guardianAddressFromPubkey syscalls pubkey

/-- The signature loop of `verifyQuorum`. -/
def verifySignatures (hash : Bytes 32) (guardianKeys : List GuardianAddress) :
    (signatures : List GuardianSignature) → (valid : Nat) → Checked WormError Nat
  | [], valid => .ok valid
  | signature :: rest, valid => do
      let expected ← okOr guardianKeys[signature.position]? .guardianIndexOutOfRange
      let recovered ← recoverAddress syscalls hash signature.rs signature.recoveryId
      require (recovered = expected) .invalidGuardianSignature
      verifySignatures hash guardianKeys rest (valid + 1)

def verifyQuorum (vaa : ParsedVaa) (guardianKeys : List GuardianAddress) :
    Checked WormError Unit := do
  require (guardianKeys ≠ []) .emptyGuardianSet
  let needed := quorum guardianKeys.length
  let valid ← verifySignatures syscalls vaa.hash guardianKeys vaa.signatures 0
  require (needed ≤ valid) .quorumNotMet

end WormVerify.OnChain
