import WormVerify.Types.Guardian

/-! # VAA encoding, parsing and signature verification -/

namespace WormVerify.Types

open Checked

def supportedVersion : UInt8 := 1

def signatureEntryLen : Nat := 66

def bodyHeaderLen : Nat := 51

def maxGuardians : Nat := 19

def maxPayloadLen : Nat := 1024

inductive VaaError
  | malformed
  | unsupportedVersion (version : UInt8)
  | signaturesOutOfOrder
  | payloadTooLarge (got max : Nat)
  | emptyGuardianSet
  | guardianIndexOutOfRange (index : UInt8)
  | recoveryFailed
  | invalidGuardianSignature (index : UInt8)
  | quorumNotMet (got needed : Nat)
  | overflow
  deriving DecidableEq, Repr

structure VaaBody where
  timestamp : UInt32
  nonce : UInt32
  emitterChain : UInt16
  emitterAddress : Bytes 32
  sequence : UInt64
  consistencyLevel : UInt8
  payload : List UInt8
  deriving DecidableEq

namespace VaaBody

def encode (body : VaaBody) : List UInt8 :=
  toBeBytes body.timestamp ++ toBeBytes body.nonce ++ toBeBytes body.emitterChain ++
    body.emitterAddress.val ++ toBeBytes body.sequence ++ [body.consistencyLevel] ++
    body.payload

def digest (crypto : Crypto) (body : VaaBody) : Bytes 32 :=
  bodyDigest crypto body.encode

end VaaBody

structure Vaa where
  version : UInt8
  guardianSetIndex : UInt32
  signatures : List GuardianSignature
  body : VaaBody
  deriving DecidableEq

/-! ## Encoding -/

/-- The signature count is cut to one byte, as the cast in the source does. -/
def Vaa.encode (vaa : Vaa) : List UInt8 :=
  [vaa.version] ++ toBeBytes vaa.guardianSetIndex ++ [UInt8.ofNat vaa.signatures.length] ++
    encodeSignatures vaa.signatures ++ vaa.body.encode

/-! ## Parsing -/

def readWord (α : Type) [MachineWord α] (bytes : List UInt8) (cur : Nat) :
    Checked VaaError (α × Nat) := do
  let stop ← addUsize cur (MachineWord.width α)
  let slice ← okOr (getRange bytes cur stop) .malformed
  let next ← addUsize cur (MachineWord.width α)
  let array ← Bytes.copyFromSlice (MachineWord.width α) slice
  return (fromBeBytes array.val, next)

def readU16 : List UInt8 → Nat → Checked VaaError (UInt16 × Nat) := readWord UInt16

def readU32 : List UInt8 → Nat → Checked VaaError (UInt32 × Nat) := readWord UInt32

def readU64 : List UInt8 → Nat → Checked VaaError (UInt64 × Nat) := readWord UInt64

def parseBody (bytes : List UInt8) : Checked VaaError VaaBody := do
  require (bodyHeaderLen ≤ bytes.length) .malformed
  let (timestamp, cur) ← readU32 bytes 0
  let (nonce, cur) ← readU32 bytes cur
  let (emitterChain, cur) ← readU16 bytes cur
  let addressStop ← addUsize cur 32
  let addressSlice ← slice bytes cur addressStop
  let emitterAddress ← Bytes.copyFromSlice 32 addressSlice
  let cur ← addUsize cur 32
  let (sequence, cur) ← readU64 bytes cur
  let consistencyLevel ← index bytes cur
  let cur ← addUsize cur 1
  let payload ← sliceFrom bytes cur
  require (payload.length ≤ maxPayloadLen) (.payloadTooLarge payload.length maxPayloadLen)
  return { timestamp, nonce, emitterChain, emitterAddress, sequence, consistencyLevel, payload }

/-- The ordering check of the parser and of the verifier. -/
def requireAscending (lastIndex : Option UInt8) (guardianIndex : UInt8) :
    Checked VaaError Unit :=
  match lastIndex with
  | some prev => if guardianIndex ≤ prev then fail .signaturesOutOfOrder else .ok ()
  | none => .ok ()

/-- The signature loop of `Vaa.parse`. -/
def parseSignatures (bytes : List UInt8) :
    (remaining cur : Nat) → (lastIndex : Option UInt8) →
      (signatures : List GuardianSignature) →
      Checked VaaError (List GuardianSignature × Nat)
  | 0, cur, _, signatures => .ok (signatures, cur)
  | remaining + 1, cur, lastIndex, signatures => do
      let stop ← addUsize cur signatureEntryLen
      let entry ← okOr (getRange bytes cur stop) .malformed
      let guardianIndex ← index entry 0
      requireAscending lastIndex guardianIndex
      let rsSlice ← slice entry 1 65
      let rs ← Bytes.copyFromSlice 64 rsSlice
      let recoveryId ← index entry 65
      let next ← addUsize cur signatureEntryLen
      parseSignatures bytes remaining next (some guardianIndex)
        (signatures ++ [{ guardianIndex, rs, recoveryId }])

def Vaa.parse (bytes : List UInt8) : Checked VaaError Vaa := do
  let version ← okOr bytes.head? .malformed
  require (version = supportedVersion) (.unsupportedVersion version)
  let cur ← addUsize 0 1
  let (guardianSetIndex, cur) ← readU32 bytes cur
  let numSigs ← okOr bytes[cur]? .malformed
  let cur ← addUsize cur 1
  let (signatures, cur) ← parseSignatures bytes numSigs.toNat cur none []
  let bodyBytes ← okOr (getFrom bytes cur) .malformed
  let body ← parseBody bodyBytes
  return { version, guardianSetIndex, signatures, body }

/-! ## Verification -/

section Verification

variable (crypto : Crypto)

def recoverAddress (message : crypto.Message) (rs : Bytes 64) (recoveryId : UInt8) :
    Checked VaaError GuardianAddress := do
  let signature ← okOr (crypto.parseStandardSlice rs) .recoveryFailed
  let rid ← okOr (crypto.parseRecoveryId recoveryId) .recoveryFailed
  let pubkey ← okOr (crypto.recover message signature rid) .recoveryFailed
  return fromPubkey crypto ((crypto.serialize pubkey).lastBytes 64 key_le_serialized)

def recoverGuardian (digest : Bytes 32) (signature : GuardianSignature) :
    Checked VaaError GuardianAddress :=
  recoverAddress crypto (crypto.parseMessage digest) signature.rs signature.recoveryId

/-- The signature loop of `Vaa.verify`. -/
def verifySignatures (message : crypto.Message) (guardians : List GuardianAddress) :
    (signatures : List GuardianSignature) → (valid : Nat) → (lastIndex : Option UInt8) →
      Checked VaaError Nat
  | [], valid, _ => .ok valid
  | signature :: rest, valid, lastIndex => do
      requireAscending lastIndex signature.guardianIndex
      let expected ← okOr guardians[signature.position]?
        (.guardianIndexOutOfRange signature.guardianIndex)
      let recovered ← recoverAddress crypto message signature.rs signature.recoveryId
      require (recovered = expected) (.invalidGuardianSignature signature.guardianIndex)
      verifySignatures message guardians rest (valid + 1) (some signature.guardianIndex)

def Vaa.verify (vaa : Vaa) (guardians : List GuardianAddress) : Checked VaaError Unit := do
  require (guardians ≠ []) .emptyGuardianSet
  let digest := vaa.body.digest crypto
  let message := crypto.parseMessage digest
  let valid ← verifySignatures crypto message guardians vaa.signatures 0 none
  let needed := quorum guardians.length
  require (needed ≤ valid) (.quorumNotMet valid needed)

end Verification

end WormVerify.Types
