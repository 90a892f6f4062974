import WormVerify.OnChain.Codec
import WormVerify.OnChain.Verify
import WormVerify.Types.Verification

/-! # The program and the service agree

Both sides parse and verify VAAs with code of their own. Given the same hash
function and the same key recovery, they accept the same VAAs under the same
keys.
-/

namespace WormVerify

open Checked

def Types.Crypto.recoverKey (crypto : Types.Crypto) (digest : Bytes 32) (rs : Bytes 64)
    (recoveryId : UInt8) : Option (Bytes 64) := do
  let signature ← crypto.parseStandardSlice rs
  let rid ← crypto.parseRecoveryId recoveryId
  let pubkey ← crypto.recover (crypto.parseMessage digest) signature rid
  return (crypto.serialize pubkey).lastBytes 64 key_le_serialized

structure SameFunctions (crypto : Types.Crypto) (syscalls : OnChain.Syscalls) : Prop where
  keccak : ∀ data, syscalls.keccakHash data = crypto.keccak256 data
  recover : ∀ digest rs recoveryId,
    syscalls.secp256k1Recover digest recoveryId rs = crypto.recoverKey digest rs recoveryId

def wormError : Types.VaaError → OnChain.WormError
  | .malformed => .invalidVaa
  | .unsupportedVersion _ => .unsupportedVersion
  | .signaturesOutOfOrder => .signaturesOutOfOrder
  | .payloadTooLarge _ _ => .payloadTooLarge
  | .emptyGuardianSet => .emptyGuardianSet
  | .guardianIndexOutOfRange _ => .guardianIndexOutOfRange
  | .recoveryFailed => .recoveryFailed
  | .invalidGuardianSignature _ => .invalidGuardianSignature
  | .quorumNotMet _ _ => .quorumNotMet
  | .overflow => .overflow

section

variable {crypto : Types.Crypto} {syscalls : OnChain.Syscalls}

namespace SameFunctions

variable (same : SameFunctions crypto syscalls)

include same

theorem bodyDigest_eq (body : List UInt8) :
    OnChain.bodyDigest syscalls body = Types.bodyDigest crypto body := by
  simp only [OnChain.bodyDigest, Types.bodyDigest, same.keccak]

theorem recoverAddress_eq (digest : Bytes 32) (rs : Bytes 64) (recoveryId : UInt8) :
    OnChain.recoverAddress syscalls digest rs recoveryId =
      mapError wormError
        (Types.recoverAddress crypto (crypto.parseMessage digest) rs recoveryId) := by
  rw [OnChain.recoverAddress, same.recover, Types.Crypto.recoverKey, Types.recoverAddress]
  cases crypto.parseStandardSlice rs with
  | none => rfl
  | some signature =>
      cases crypto.parseRecoveryId recoveryId with
      | none => rfl
      | some rid =>
          cases found : crypto.recover (crypto.parseMessage digest) signature rid with
          | none => simp [found, okOr, fail, mapError, wormError]
          | some pubkey =>
              simp [found, okOr, OnChain.guardianAddressFromPubkey, Types.fromPubkey,
                same.keccak]

/-- On signatures that the parser has put in order, the loops agree. -/
theorem verifySignatures_eq (digest : Bytes 32) (keys : List GuardianAddress)
    {signatures : List GuardianSignature} {lastIndex : Option UInt8}
    (ascending : Ascending.After GuardianSignature.position (Types.lastPosition lastIndex)
      signatures) (valid : Nat) :
    OnChain.verifySignatures syscalls digest keys signatures valid =
      mapError wormError (Types.verifySignatures crypto (crypto.parseMessage digest) keys
        signatures valid lastIndex) := by
  induction signatures generalizing valid lastIndex with
  | nil => rfl
  | cons signature rest induction =>
      have ordered : Types.requireAscending lastIndex signature.guardianIndex = .ok () :=
        Types.requireAscending_eq_ok.mpr ascending.1
      have above : Ascending.After GuardianSignature.position
          (Types.lastPosition (some signature.guardianIndex)) rest := ascending.2
      have tail : OnChain.verifySignatures syscalls digest keys rest (valid + 1) =
          mapError wormError (Types.verifySignatures crypto (crypto.parseMessage digest) keys
            rest (valid + 1) (some signature.guardianIndex)) :=
        induction above (valid + 1)
      simp only [OnChain.verifySignatures, Types.verifySignatures, ordered, ok_bind,
        mapError_bind, mapError_okOr, mapError_require, ← same.recoverAddress_eq, ← tail]
      rfl

theorem verifyQuorum_eq {vaa : Types.Vaa}
    (ascending : Ascending GuardianSignature.position vaa.signatures)
    (keys : List GuardianAddress) :
    OnChain.verifyQuorum syscalls (.ofVaa syscalls vaa) keys =
      mapError wormError (vaa.verify crypto keys) := by
  have start : Ascending.After GuardianSignature.position (Types.lastPosition none)
      vaa.signatures := (Ascending.after_none_iff _ _).mpr ascending
  have loop : OnChain.verifySignatures syscalls (vaa.body.digest crypto) keys vaa.signatures 0 =
      mapError wormError (Types.verifySignatures crypto
        (crypto.parseMessage (vaa.body.digest crypto)) keys vaa.signatures 0 none) :=
    same.verifySignatures_eq _ keys start 0
  simp only [OnChain.verifyQuorum, Types.Vaa.verify, mapError_bind, mapError_require, ← loop]
  rw [OnChain.ParsedVaa.ofVaa, same.bodyDigest_eq]
  rfl

end SameFunctions

theorem OnChain.ParsedVaa.parse_eq_ok_iff {data : List UInt8} {parsed : OnChain.ParsedVaa} :
    OnChain.ParsedVaa.parse syscalls data = .ok parsed ↔
      ∃ vaa, Types.Vaa.parse data = .ok vaa ∧ parsed = .ofVaa syscalls vaa := by
  simp only [OnChain.ParsedVaa.parse_eq_ok, Types.Vaa.parse_eq_ok, and_assoc]

/-- The program and the service agree on every byte string and every list of
keys, down to the kind of the verification error. -/
theorem program_agrees_with_service (same : SameFunctions crypto syscalls)
    (data : List UInt8) (keys : List GuardianAddress) :
    ((∃ parsed, OnChain.ParsedVaa.parse syscalls data = .ok parsed) ↔
        ∃ vaa, Types.Vaa.parse data = .ok vaa) ∧
      ∀ parsed vaa, OnChain.ParsedVaa.parse syscalls data = .ok parsed →
        Types.Vaa.parse data = .ok vaa →
        parsed.version = vaa.version ∧
        parsed.guardianSetIndex = vaa.guardianSetIndex ∧
        parsed.signatures = vaa.signatures ∧
        parsed.timestamp = vaa.body.timestamp ∧
        parsed.nonce = vaa.body.nonce ∧
        parsed.emitterChain = vaa.body.emitterChain ∧
        parsed.emitterAddress = vaa.body.emitterAddress ∧
        parsed.sequence = vaa.body.sequence ∧
        parsed.consistencyLevel = vaa.body.consistencyLevel ∧
        parsed.payload = vaa.body.payload ∧
        parsed.hash = vaa.body.digest crypto ∧
        (OnChain.verifyQuorum syscalls parsed keys = .ok () ↔
          vaa.verify crypto keys = .ok ()) ∧
        (∀ error, vaa.verify crypto keys = fail error →
          OnChain.verifyQuorum syscalls parsed keys = fail (wormError error)) ∧
        ∀ error, OnChain.verifyQuorum syscalls parsed keys = fail error →
          ∃ cause, vaa.verify crypto keys = fail cause ∧ wormError cause = error := by
  constructor
  · simp only [OnChain.ParsedVaa.parse_eq_ok_iff]
    constructor
    · intro parsing
      rcases parsing with ⟨_, vaa, parsed, _⟩
      exact ⟨vaa, parsed⟩
    · intro parsing
      rcases parsing with ⟨vaa, parsed⟩
      exact ⟨_, vaa, parsed, rfl⟩
  · intro parsed vaa programParsed serviceParsed
    rcases OnChain.ParsedVaa.parse_eq_ok_iff.mp programParsed with ⟨_, again, rfl⟩
    cases serviceParsed.symm.trans again
    have ascending := (Types.Vaa.parse_eq_ok.mp serviceParsed).2.ascending
    have verdict := same.verifyQuorum_eq ascending keys
    refine ⟨rfl, rfl, rfl, rfl, rfl, rfl, rfl, rfl, rfl, rfl, same.bodyDigest_eq _, ?_, ?_, ?_⟩
    · rw [verdict, mapError_eq_ok]
    · intro error failed
      rw [verdict, failed, mapError_fail]
    · intro error failed
      rw [verdict, mapError_eq_fail] at failed
      exact failed

end

def OnChain.Sample.syscalls : OnChain.Syscalls where
  keccakHash := Types.Sample.hash
  secp256k1Recover digest recoveryId rs :=
    if recoveryId < 4 then Types.Sample.recoverKey digest rs recoveryId else none

theorem OnChain.Sample.sameFunctions :
    SameFunctions Types.Sample.crypto OnChain.Sample.syscalls where
  keccak _ := rfl
  recover digest rs recoveryId := by
    change (if recoveryId < 4 then Types.Sample.recoverKey digest rs recoveryId else none) =
      (if recoveryId < 4 then some recoveryId else none).bind fun rid =>
        (Types.Sample.recoverKey digest rs rid).bind some
    by_cases small : recoveryId < 4 <;> simp [small]

theorem program_agrees_on_signed_message :
    (OnChain.ParsedVaa.ofVaa OnChain.Sample.syscalls Types.Sample.vaa).hash =
        Types.Sample.body.digest Types.Sample.crypto ∧
      OnChain.verifyQuorum OnChain.Sample.syscalls
        (.ofVaa OnChain.Sample.syscalls Types.Sample.vaa)
        [Types.Sample.guardian, Types.Sample.otherGuardian] = .ok () := by
  have programParsed : OnChain.ParsedVaa.parse OnChain.Sample.syscalls
      Types.Sample.vaa.encode = .ok (.ofVaa OnChain.Sample.syscalls Types.Sample.vaa) := by
    decide +kernel
  have serviceParsed : Types.Vaa.parse Types.Sample.vaa.encode = .ok Types.Sample.vaa := by
    decide +kernel
  have agreement := (program_agrees_with_service OnChain.Sample.sameFunctions
    Types.Sample.vaa.encode [Types.Sample.guardian, Types.Sample.otherGuardian]).2 _ _
    programParsed serviceParsed
  rcases agreement with ⟨_, _, _, _, _, _, _, _, _, _, hash, verdict, _⟩
  exact ⟨hash, verdict.mpr (by decide +kernel)⟩

end WormVerify
