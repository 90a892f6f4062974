import WormVerify.OnChain.Lineage

/-! # When a guardian set is accepted -/

namespace WormVerify.OnChain

open Checked

section

variable {syscalls : Syscalls} {canonicalBump : Pda → UInt8}

theorem isActive_of_zero {set : GuardianSet} (never : set.expirationTime = 0) (now : Int64) :
    set.isActive now = true := by
  simp [GuardianSet.isActive, never]

theorem isActive_iff {set : GuardianSet} (expires : set.expirationTime ≠ 0) (now : Int64) :
    set.isActive now = true ↔ now.toInt < set.expirationTime.toInt := by
  simp [GuardianSet.isActive, expires, Int64.lt_iff_toInt_lt]

/-- Under a lineage a set is active while it is current, and after that for
the genesis time to live. -/
theorem Lineage.isActive_iff {genesis : Genesis} {config : BridgeConfig} {ledger : Ledger}
    {journal : List Entry} (lineage : Lineage canonicalBump genesis config ledger journal)
    {index : UInt32} {set : GuardianSet} (found : ledger (.guardianSet index) = some set)
    (now : Int64) :
    set.isActive now = true ↔ index = config.currentGuardianSetIndex ∨
      ∃ time, supersededAt? journal index = some time ∧
        now.toInt < time.toInt + genesis.guardianSetTtlSeconds.toNat := by
  by_cases current : index = config.currentGuardianSetIndex
  · have never := lineage.current set (current ▸ found)
    simp [current, isActive_of_zero never now]
  · rcases lineage.superseded index set found current with ⟨time, timeIs, expires, notZero⟩
    rw [OnChain.isActive_iff notZero, expires]
    simp [current, timeIs]

/-- A call that meets all other conditions succeeds exactly when the set of its
header exists and is current, or was superseded less than the time to live
ago. -/
theorem acceptance_window (transactions : List Transaction)
    (positive : ∀ transaction ∈ transactions, 0 < transaction.now) (call : Transaction)
    (index : UInt32) (vaaBytes : List UInt8) (parsed : ParsedVaa)
    (calls : call.instruction = .verifyVaa index parsed.hash vaaBytes)
    (parsing : ParsedVaa.parse syscalls vaaBytes = .ok parsed)
    (header : parsed.guardianSetIndex = index)
    (unconsumed :
      (program syscalls canonicalBump).state transactions (.consumed parsed.hash) = none)
    (quorate : ∀ set : GuardianSet,
      (program syscalls canonicalBump).state transactions (.guardianSet index) = some set →
      verifyQuorum syscalls parsed set.keys = .ok ()) :
    (∃ result, (program syscalls canonicalBump).execute
        ((program syscalls canonicalBump).state transactions) call = .ok result) ↔
      ∃ (genesis : Genesis) (config : BridgeConfig) (set : GuardianSet),
        genesis? ((program syscalls canonicalBump).journal transactions) = some genesis ∧
        (program syscalls canonicalBump).state transactions .config = some config ∧
        (program syscalls canonicalBump).state transactions (.guardianSet index) = some set ∧
        (index = config.currentGuardianSetIndex ∨
          ∃ time, supersededAt? ((program syscalls canonicalBump).journal transactions) index =
              some time ∧
            call.now.toInt < time.toInt + genesis.guardianSetTtlSeconds.toNat) := by
  have ordered : Ordered canonicalBump ((program syscalls canonicalBump).state transactions)
      ((program syscalls canonicalBump).journal transactions) :=
    ordered_run transactions positive
  rcases call with ⟨signers, now, instruction⟩
  subst calls
  change (∃ result, verifyVaa canonicalBump syscalls _ now index parsed.hash vaaBytes =
    .ok result) ↔ _
  constructor
  · intro succeeds
    rcases succeeds with ⟨⟨next, event⟩, verified⟩
    rcases verifyVaa_eq_ok.mp verified with ⟨config, set, _, configured, setAt, _, _, _, _, _,
      _, _, active, _⟩
    rcases ordered with unborn | ⟨genesis, _, lineage⟩
    · cases unborn.unconfigured.symm.trans configured
    · cases lineage.configured.symm.trans configured
      exact ⟨genesis, config, set, lineage.begun, configured, setAt,
        (lineage.isActive_iff setAt now).mp active⟩
  · intro parts
    rcases parts with ⟨genesis, config, set, begun, configured, setAt, window⟩
    rcases ordered with unborn | ⟨_, _, lineage⟩
    · cases unborn.unconfigured.symm.trans configured
    · cases lineage.configured.symm.trans configured
      cases lineage.begun.symm.trans begun
      exact ⟨_, verifyVaa_eq_ok.mpr ⟨config, set, parsed, configured, setAt, unconsumed,
        lineage.configBump, lineage.bump index set setAt, parsing, header, rfl,
        lineage.index index set setAt, (lineage.isActive_iff setAt now).mpr window,
        quorate set setAt, rfl, rfl⟩⟩

end

def Sample.call (now : Int64) : Transaction :=
  ⟨[], now, .verifyVaa 0 Types.Sample.digest Types.Sample.vaa.encode⟩

theorem acceptance_window_rotation :
    (∃ result, Sample.program.execute (Sample.program.state Sample.rotation)
      (Sample.call 3799) = .ok result) ∧
    ¬∃ result, Sample.program.execute (Sample.program.state Sample.rotation)
      (Sample.call 3800) = .ok result := by
  let parsed := ParsedVaa.ofVaa Sample.syscalls Types.Sample.vaa
  have parsing : ParsedVaa.parse Sample.syscalls Types.Sample.vaa.encode = .ok parsed := by
    decide +kernel
  have hash : parsed.hash = Types.Sample.digest := by decide +kernel
  have unconsumed : Sample.program.state Sample.rotation (.consumed parsed.hash) = none := by
    decide +kernel
  let keys := [Types.Sample.guardian, Types.Sample.otherGuardian]
  let set : GuardianSet := ⟨0, keys, 100, 3800, 255⟩
  have setAt : Sample.program.state Sample.rotation (.guardianSet 0) = some set := by
    decide +kernel
  have quorate (other : GuardianSet)
      (found : Sample.program.state Sample.rotation (.guardianSet 0) = some other) :
      verifyQuorum Sample.syscalls parsed other.keys = .ok () := by
    cases setAt.symm.trans found
    decide +kernel
  have window (now : Int64) := @acceptance_window Sample.syscalls (fun _ => 255)
    Sample.rotation (by decide) (Sample.call now) 0 Types.Sample.vaa.encode parsed
    (by rw [hash]; rfl) parsing rfl unconsumed quorate
  let genesis : Genesis := ⟨Bytes.ofNat 32 1, 3600, 0⟩
  let config : BridgeConfig := ⟨Bytes.ofNat 32 1, 1, 1, 3600, 0, 255⟩
  have begun : genesis? (Sample.program.journal Sample.rotation) = some genesis := by
    decide +kernel
  have configured : Sample.program.state Sample.rotation .config = some config := by
    decide +kernel
  have superseded : supersededAt? (Sample.program.journal Sample.rotation) 0 = some 200 := by
    decide +kernel
  constructor
  · exact (window 3799).mpr ⟨genesis, config, set, begun, configured, setAt,
      .inr ⟨200, superseded, by decide⟩⟩
  · intro succeeds
    rcases (window 3800).mp succeeds with ⟨_, _, _, begunAt, configuredAt, _, current | past⟩
    · cases configured.symm.trans configuredAt
      exact absurd current (by decide)
    · rcases past with ⟨time, timeIs, early⟩
      cases begun.symm.trans begunAt
      cases superseded.symm.trans timeIs
      exact absurd early (by decide)

end WormVerify.OnChain
