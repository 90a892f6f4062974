import WormVerify.Agreement
import WormVerify.Infra.Soundness

/-! # Use of the assembled VAAs

An assembled VAA leaves the service as bytes. Both parsers bound the payload,
and the number of signatures is one byte, while the engine bounds neither.
-/

namespace WormVerify

open Infra Service

/-- The encoding of the VAA is read back by the service, and the program accepts
it with the keys. -/
def Usable (syscalls : OnChain.Syscalls) (keys : List GuardianAddress) (vaa : Types.Vaa) :
    Prop :=
  Types.Vaa.parse vaa.encode = .ok vaa ∧
    ∃ parsed, OnChain.ParsedVaa.parse syscalls vaa.encode = .ok parsed ∧
      OnChain.verifyQuorum syscalls parsed keys = .ok ()

/-! ## A message with too large a payload -/

namespace Infra.Sample

open Types.Sample

def guardianAlone : Types.GuardianSet := ⟨0, [guardian], 0⟩

def oversizing : List (Action (aggregator Types.Sample.crypto)) :=
  .start (.observe 0 oversizedBody) :: List.replicate 6 (.serve 0 0) ++
    .start (.submit oversizedDigest ⟨0, oversizedSignatureBytes, 1⟩) ::
      List.replicate 7 (.serve 1 0)

def oversized : (aggregator Types.Sample.crypto).Pool :=
  (schedule (Immutable _) ⟨.new (.new guardianAlone), []⟩ oversizing).get (by decide +kernel)

theorem oversized_reachable :
    Reachable (Immutable Types.Sample.crypto) (.new (.new guardianAlone)) oversized :=
  schedule_reachable (Option.some_get _).symm

end Infra.Sample

/-! ## What makes a VAA usable -/

section

variable {crypto : Types.Crypto} {syscalls : OnChain.Syscalls}

theorem usable_iff_wellFormed (same : SameFunctions crypto syscalls)
    {keys : List GuardianAddress} {vaa : Types.Vaa}
    (verified : vaa.verify crypto keys = .ok ()) :
    Usable syscalls keys vaa ↔ vaa.WellFormed := by
  constructor
  · intro usable
    exact (Types.Vaa.parse_eq_ok.mp usable.1).2
  · intro wellFormed
    have serviceParsed : Types.Vaa.parse vaa.encode = .ok vaa :=
      Types.Vaa.parse_eq_ok.mpr ⟨rfl, wellFormed⟩
    refine ⟨serviceParsed, _,
      OnChain.ParsedVaa.parse_eq_ok_iff.mpr ⟨vaa, serviceParsed, rfl⟩, ?_⟩
    rw [same.verifyQuorum_eq wellFormed.ascending, Checked.mapError_eq_ok]
    exact verified

/-- A quorum of ascending one-byte indices fits the count byte, except at 383
guardians, where it takes all 256 indices. -/
theorem quorum_fits_iff {signatures : List GuardianSignature} {numGuardians : Nat}
    (ascending : Ascending GuardianSignature.position signatures)
    (exactly : signatures.length = Types.quorum numGuardians) :
    signatures.length ≤ 255 ↔ numGuardians ≠ 383 := by
  have atMost : signatures.length ≤ 256 :=
    Ascending.length_le_of_lt ascending fun signature _ => signature.position_lt
  rw [Types.quorum] at exactly
  omega

/-- What the engine stores is usable unless the payload is too large or the
signatures are too many for their count byte. -/
theorem assembled_vaas_usable (same : SameFunctions crypto syscalls)
    (guardians : InMemoryGuardianRegistry) {pool : (aggregator crypto).Pool}
    (reachable : Reachable (Immutable crypto) (.new guardians) pool) {id : Core.MessageId}
    {record : Core.VaaRecord} (stored : pool.world.vaa? id = some record) :
    ∃ set, pool.world.guardianSet? record.vaa.guardianSetIndex = some set ∧
      (Usable syscalls set.keys record.vaa ↔
        record.vaa.body.payload.length ≤ Types.maxPayloadLen ∧ set.keys.length ≠ 383) := by
  have sound := (immutable_claims reachable).1.records id record stored
  rcases sound.guardians with ⟨set, registered, exactly, verified⟩
  have ascending := (Types.Vaa.verify_eq_ok.mp verified).2.1
  refine ⟨set, registered, ?_⟩
  rw [usable_iff_wellFormed same verified, ← quorum_fits_iff ascending exactly]
  constructor
  · intro wellFormed
    exact ⟨wellFormed.payload, wellFormed.count⟩
  · intro bounds
    exact ⟨sound.version, bounds.2, ascending, bounds.1⟩

end

theorem assembled_vaas_usable_completion :
    ∃ record set, Infra.Sample.completed.world.vaa? Types.Sample.digest = some record ∧
      Infra.Sample.completed.world.guardianSet? record.vaa.guardianSetIndex = some set ∧
      Usable OnChain.Sample.syscalls set.keys record.vaa := by
  have stored : ∃ record, Infra.Sample.completed.world.vaa? Types.Sample.digest = some record :=
    Option.isSome_iff_exists.mp (by decide +kernel)
  rcases stored with ⟨record, found⟩
  rcases assembled_vaas_usable OnChain.Sample.sameFunctions (.new Infra.Sample.guardianSet)
    Infra.Sample.completed_reachable found with ⟨set, registered, usable⟩
  refine ⟨record, set, found, registered, usable.mpr ?_⟩
  have fits : (Infra.Sample.completed.world.vaa? Types.Sample.digest).all fun record =>
      record.vaa.body.payload.length ≤ Types.maxPayloadLen ∧
        (Infra.Sample.completed.world.guardianSet? record.vaa.guardianSetIndex).all
          fun set => set.keys.length ≠ 383 := by
    decide +kernel
  simpa [found, registered] using fits

/-- The engine assembles a VAA whose encoding the service does not read back. -/
theorem oversized_vaa_not_usable :
    ¬∀ guardians pool, Reachable (Immutable Types.Sample.crypto) (.new guardians) pool →
      ∀ id record set, pool.world.vaa? id = some record →
        pool.world.guardianSet? record.vaa.guardianSetIndex = some set →
        Usable OnChain.Sample.syscalls set.keys record.vaa := by
  intro allUsable
  have stored : (Infra.Sample.oversized.world.vaa? Types.Sample.oversizedDigest).any fun record =>
      record.vaa.guardianSetIndex = 0 ∧
        Types.Vaa.parse record.vaa.encode ≠ .ok record.vaa := by
    decide +kernel
  rcases (Option.any_eq_true _ _).mp stored with ⟨record, found, rejected⟩
  rcases of_decide_eq_true rejected with ⟨index, unread⟩
  have registered : Infra.Sample.oversized.world.guardianSet? 0 =
      some Infra.Sample.guardianAlone := by
    decide +kernel
  have usable := allUsable _ _ Infra.Sample.oversized_reachable _ record _ found
    (index ▸ registered)
  exact unread usable.1

end WormVerify
