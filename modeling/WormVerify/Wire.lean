import WormVerify.Foundation.Bytes
import WormVerify.Foundation.Ascending

/-! # Guardian signatures on the wire

The program and the service each declare these types, with the same fields.
-/

namespace WormVerify

/-- An Ethereum-style address, the last 20 bytes of a public key's hash. -/
abbrev GuardianAddress := Bytes 20

theorem address_le_hash : 20 ≤ 32 := by decide

theorem key_le_serialized : 64 ≤ 65 := by decide

structure GuardianSignature where
  guardianIndex : UInt8
  rs : Bytes 64
  recoveryId : UInt8
  deriving DecidableEq

namespace GuardianSignature

def position (signature : GuardianSignature) : Nat := signature.guardianIndex.toNat

/-- `guardian_index u8 || rs [u8; 64] || recovery_id u8`. -/
def encode (signature : GuardianSignature) : List UInt8 :=
  signature.guardianIndex :: signature.rs.val ++ [signature.recoveryId]

@[simp] theorem encode_length (signature : GuardianSignature) :
    signature.encode.length = 66 := by
  simp [encode, signature.rs.property]

theorem chunkAt_encode {data : List UInt8} {start : Nat} {signature : GuardianSignature} :
    Checked.ChunkAt data start signature.encode ↔
      Checked.ChunkAt data start [signature.guardianIndex] ∧
        Checked.ChunkAt data (start + 1) signature.rs.val ∧
        Checked.ChunkAt data (start + 65) [signature.recoveryId] := by
  have shape : signature.encode =
      [signature.guardianIndex] ++ signature.rs.val ++ [signature.recoveryId] := rfl
  simp only [shape, Checked.chunkAt_append, List.length_append, List.length_singleton,
    signature.rs.property, and_assoc]

theorem eq_encode_iff {entry : List UInt8} {signature : GuardianSignature} :
    entry = signature.encode ↔
      entry.length = 66 ∧ Checked.ChunkAt entry 0 [signature.guardianIndex] ∧
        Checked.ChunkAt entry 1 signature.rs.val ∧
        Checked.ChunkAt entry 65 [signature.recoveryId] := by
  rw [← List.append_nil signature.encode, Checked.eq_append_iff, List.drop_eq_nil_iff,
    encode_length, chunkAt_encode]
  constructor
  · intro parts
    have long := parts.1.2.2.length_le (by simp)
    simp only [List.length_singleton] at long
    exact ⟨by omega, parts.1⟩
  · intro parts
    exact ⟨parts.2, by omega⟩

theorem position_lt (signature : GuardianSignature) : signature.position < 256 :=
  signature.guardianIndex.toNat_lt

end GuardianSignature

def encodeSignatures (signatures : List GuardianSignature) : List UInt8 :=
  signatures.flatMap GuardianSignature.encode

@[simp] theorem encodeSignatures_nil : encodeSignatures [] = [] := rfl

@[simp] theorem encodeSignatures_cons (head : GuardianSignature)
    (tail : List GuardianSignature) :
    encodeSignatures (head :: tail) = head.encode ++ encodeSignatures tail := rfl

@[simp] theorem encodeSignatures_length (signatures : List GuardianSignature) :
    (encodeSignatures signatures).length = 66 * signatures.length := by
  induction signatures with
  | nil => rfl
  | cons head tail induction => simp [induction]; omega

end WormVerify
