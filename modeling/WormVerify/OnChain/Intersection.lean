import WormVerify.OnChain.Quorum
import Mathlib.Data.Finset.Card
import Mathlib.Data.Fintype.Card

/-! # What two accepted VAAs share

The parser keeps the guardian indices of a VAA distinct, and the verifier counts
them. Two quorums of one guardian list then overlap in more than a third of it.
-/

namespace WormVerify

theorem two_mul_le_card_add_card_inter [Fintype α] [DecidableEq α] {bound : Nat}
    {left right : Finset α} (leftLarge : bound ≤ left.card) (rightLarge : bound ≤ right.card) :
    2 * bound ≤ Fintype.card α + (left ∩ right).card := by
  have total := Finset.card_union_add_card_inter left right
  have inside := Finset.card_le_univ (left ∪ right)
  omega

namespace OnChain

open Checked

section

variable (syscalls : Syscalls)

instance (hash : Bytes 32) (keys : List GuardianAddress) (signature : GuardianSignature) :
    Decidable (SignedBy syscalls hash keys signature) :=
  match found : keys[signature.position]? with
  | none => isFalse fun signed => by simp [SignedBy, found] at signed
  | some guardian =>
      decidable_of_iff
        (recoverAddress syscalls hash signature.rs signature.recoveryId = .ok guardian)
        (by simp [SignedBy, found])

/-- The indices of the guardians who signed the digest: a signature at the index
recovers to the key at the index. -/
def signers (hash : Bytes 32) (keys : List GuardianAddress)
    (signatures : List GuardianSignature) : Finset (Fin keys.length) :=
  Finset.univ.filter fun index => ∃ signature ∈ signatures,
    signature.position = index ∧ SignedBy syscalls hash keys signature

def sharedSigners (keys : List GuardianAddress) (data other : List UInt8)
    (parsed otherParsed : ParsedVaa) : Finset (Fin keys.length) :=
  signers syscalls (bodyDigest syscalls (ParsedVaa.bodyBytes data)) keys parsed.signatures ∩
    signers syscalls (bodyDigest syscalls (ParsedVaa.bodyBytes other)) keys
      otherParsed.signatures

end

section

variable {syscalls : Syscalls}

theorem length_le_card_signers {hash : Bytes 32} {keys : List GuardianAddress}
    {signatures : List GuardianSignature}
    (ascending : Ascending GuardianSignature.position signatures)
    (signed : ∀ signature ∈ signatures, SignedBy syscalls hash keys signature) :
    signatures.length ≤ (signers syscalls hash keys signatures).card := by
  have distinct := List.toFinset_card_of_nodup ascending.key_nodup
  rw [List.length_map] at distinct
  rw [← distinct, ← Finset.card_map Fin.valEmbedding]
  apply Finset.card_le_card
  intro position member
  rcases List.mem_map.mp (List.mem_toFinset.mp member) with ⟨signature, signatureMem, rfl⟩
  rcases signed signature signatureMem with ⟨guardian, found, recovers⟩
  have inside := (List.getElem?_eq_some_iff.mp found).1
  exact Finset.mem_map.mpr ⟨⟨signature.position, inside⟩,
    Finset.mem_filter.mpr ⟨Finset.mem_univ _, signature, signatureMem, rfl, guardian, found,
      recovers⟩, rfl⟩

theorem quorum_le_card_signers {keys : List GuardianAddress} {data : List UInt8}
    {parsed : ParsedVaa} (parsing : ParsedVaa.parse syscalls data = .ok parsed)
    (accepted : verifyQuorum syscalls parsed keys = .ok ()) :
    quorum keys.length ≤ (signers syscalls
      (bodyDigest syscalls (ParsedVaa.bodyBytes data)) keys parsed.signatures).card := by
  rcases verifyQuorum_eq_ok.mp accepted with ⟨_, enough, signed⟩
  rw [ParsedVaa.hash_eq parsing] at signed
  exact Nat.le_trans enough (length_le_card_signers (ParsedVaa.ascending parsing) signed)

/-- Two VAAs accepted against one guardian list were both signed at more than a
third of its indices. -/
theorem accepted_quorums_intersect (keys : List GuardianAddress) {data other : List UInt8}
    {parsed otherParsed : ParsedVaa}
    (parsing : ParsedVaa.parse syscalls data = .ok parsed)
    (otherParsing : ParsedVaa.parse syscalls other = .ok otherParsed)
    (accepted : verifyQuorum syscalls parsed keys = .ok ())
    (otherAccepted : verifyQuorum syscalls otherParsed keys = .ok ()) :
    2 * quorum keys.length - keys.length ≤
        (sharedSigners syscalls keys data other parsed otherParsed).card ∧
      keys.length < 3 * (2 * quorum keys.length - keys.length) ∧
      keys.length < 3 * (sharedSigners syscalls keys data other parsed otherParsed).card := by
  have overlap := two_mul_le_card_add_card_inter (quorum_le_card_signers parsing accepted)
    (quorum_le_card_signers otherParsing otherAccepted)
  rw [Fintype.card_fin] at overlap
  have third : keys.length < 3 * (2 * quorum keys.length - keys.length) := by
    rw [quorum]
    omega
  rw [sharedSigners]
  omega

end

def Sample.renumbered : Types.Vaa := { Types.Sample.vaa with guardianSetIndex := 1 }

theorem accepted_quorums_intersect_renumbered :
    2 < 3 * (sharedSigners Sample.syscalls [Types.Sample.guardian, Types.Sample.otherGuardian]
      Types.Sample.vaa.encode Sample.renumbered.encode
      (.ofVaa Sample.syscalls Types.Sample.vaa)
      (.ofVaa Sample.syscalls Sample.renumbered)).card :=
  (@accepted_quorums_intersect Sample.syscalls
    [Types.Sample.guardian, Types.Sample.otherGuardian] Types.Sample.vaa.encode
    Sample.renumbered.encode (.ofVaa Sample.syscalls Types.Sample.vaa)
    (.ofVaa Sample.syscalls Sample.renumbered) (by decide +kernel) (by decide +kernel)
    (by decide +kernel) (by decide +kernel)).2.2

end OnChain

end WormVerify
