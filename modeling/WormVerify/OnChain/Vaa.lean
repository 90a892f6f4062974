import WormVerify.Wire

/-! # The program's VAA parser

The program parses at fixed offsets after one check of the whole length.
-/

namespace WormVerify.OnChain

open Checked

def supportedVersion : UInt8 := 1

def signatureEntryLen : Nat := 1 + 64 + 1

def bodyHeaderLen : Nat := 4 + 4 + 2 + 32 + 8 + 1

def maxGuardians : Nat := 19

def maxPayloadLen : Nat := 1024

inductive WormError
  | invalidVaa
  | unsupportedVersion
  | guardianSetMismatch
  | guardianSetExpired
  | emptyGuardianSet
  | guardianSetTooLarge
  | guardianIndexOutOfRange
  | signaturesOutOfOrder
  | recoveryFailed
  | invalidGuardianSignature
  | quorumNotMet
  | vaaAlreadyConsumed
  | payloadTooLarge
  | unauthorized
  | invalidGovernanceChain
  | invalidGuardianSetIndex
  | overflow
  deriving DecidableEq, Repr

structure Syscalls where
  keccakHash : List UInt8 → Bytes 32
  secp256k1Recover : (hash : Bytes 32) → (recoveryId : UInt8) → (signature : Bytes 64) →
    Option (Bytes 64)

structure ParsedVaa where
  version : UInt8
  guardianSetIndex : UInt32
  signatures : List GuardianSignature
  timestamp : UInt32
  nonce : UInt32
  emitterChain : UInt16
  emitterAddress : Bytes 32
  sequence : UInt64
  consistencyLevel : UInt8
  payload : List UInt8
  hash : Bytes 32
  deriving DecidableEq

def quorum (numGuardians : Nat) : Nat :=
  numGuardians * 2 / 3 + 1

def readWord (α : Type) [MachineWord α] (data : List UInt8) (offset : Nat) :
    Checked WormError α := do
  let stop ← addUsize offset (MachineWord.width α)
  let slice ← okOr (getRange data offset stop) .invalidVaa
  let buf ← Bytes.copyFromSlice (MachineWord.width α) slice
  return fromBeBytes buf.val

def readU16 : List UInt8 → Nat → Checked WormError UInt16 := readWord UInt16

def readU32 : List UInt8 → Nat → Checked WormError UInt32 := readWord UInt32

def readU64 : List UInt8 → Nat → Checked WormError UInt64 := readWord UInt64

section

variable (syscalls : Syscalls)

/-- The digest that guardians sign: `keccak256(keccak256(body))`. -/
def bodyDigest (body : List UInt8) : Bytes 32 :=
  let first := syscalls.keccakHash body
  syscalls.keccakHash first.val

/-- The ordering check of the signature loop. -/
def requireAscending (lastIndex : Option UInt8) (guardianIndex : UInt8) :
    Checked WormError Unit :=
  match lastIndex with
  | some prev => require (guardianIndex > prev) .signaturesOutOfOrder
  | none => .ok ()

/-- The signature loop of `ParsedVaa.parse`, from round `i` on. -/
def parseSignatures (data : List UInt8) :
    (remaining i : Nat) → (lastIndex : Option UInt8) →
      (signatures : List GuardianSignature) → Checked WormError (List GuardianSignature)
  | 0, _, _, signatures => .ok signatures
  | remaining + 1, i, lastIndex, signatures => do
      let offset ← mulUsize i signatureEntryLen
      let base ← addUsize 6 offset
      let guardianIndex ← index data base
      requireAscending lastIndex guardianIndex
      let rsStart ← addUsize base 1
      let rsStop ← addUsize base 65
      let rsSlice ← slice data rsStart rsStop
      let rs ← Bytes.copyFromSlice 64 rsSlice
      let recoveryIdAt ← addUsize base 65
      let recoveryId ← index data recoveryIdAt
      parseSignatures data remaining (i + 1) (some guardianIndex)
        (signatures ++ [{ guardianIndex, rs, recoveryId }])

def ParsedVaa.parse (data : List UInt8) : Checked WormError ParsedVaa := do
  let version ← okOr data.head? .invalidVaa
  require (version = supportedVersion) .unsupportedVersion
  let guardianSetIndex ← readU32 data 1
  let numSignatures ← okOr data[5]? .invalidVaa
  let sigsStart := 6
  let sigsLen ← mulUsize numSignatures.toNat signatureEntryLen
  let bodyStart ← okOr (checkedAddUsize sigsStart sigsLen) .overflow
  require (bodyStart ≤ data.length) .invalidVaa
  let signatures ← parseSignatures data numSignatures.toNat 0 none []
  let body ← okOr (getFrom data bodyStart) .invalidVaa
  require (bodyHeaderLen ≤ body.length) .invalidVaa
  let timestamp ← readU32 body 0
  let nonce ← readU32 body 4
  let emitterChain ← readU16 body 8
  let addressSlice ← slice body 10 42
  let emitterAddress ← Bytes.copyFromSlice 32 addressSlice
  let sequence ← readU64 body 42
  let consistencyLevel ← index body 50
  let payload ← sliceFrom body bodyHeaderLen
  require (payload.length ≤ maxPayloadLen) .payloadTooLarge
  let hash := bodyDigest syscalls body
  return { version, guardianSetIndex, signatures, timestamp, nonce, emitterChain,
           emitterAddress, sequence, consistencyLevel, payload, hash }

end

end WormVerify.OnChain
