import WormVerify.OnChain.Program
import WormVerify.OnChain.Codec

/-! # What a committed instruction does

One lemma for each instruction says when it succeeds and what it writes. The
invariants of the program are derived from these lemmas alone.
-/

namespace WormVerify.OnChain

open Checked

@[simp] theorem load_eq_ok {ledger : Ledger} {pda : Pda} {account : pda.Account} :
    load ledger pda = .ok account ↔ ledger pda = some account := by
  simp [load]

@[simp] theorem requireVacant_eq_ok {ledger : Ledger} {pda : Pda} {result : Unit} :
    requireVacant ledger pda = .ok result ↔ ledger pda = none := by
  simp [requireVacant]

@[simp] theorem requireSigner_eq_ok {signers : List Pubkey} {key : Pubkey} {result : Unit} :
    requireSigner signers key = .ok result ↔ key ∈ signers := by
  simp [requireSigner]

theorem sub_successor {index newIndex : UInt32} (advances : newIndex.toNat = index.toNat + 1) :
    (subU32 newIndex 1 : Checked ProgramError UInt32) = .ok index := by
  have atLeast : (1 : UInt32) ≤ newIndex := by
    rw [UInt32.le_iff_toNat_le, advances]
    exact Nat.le_add_left 1 index.toNat
  rw [subU32_of_le atLeast, Except.ok.injEq, ← UInt32.toNat_inj,
    UInt32.toNat_sub_of_le _ _ atLeast, advances]
  rfl

section

variable {canonicalBump : Pda → UInt8}

@[simp] theorem requireBump_eq_ok {pda : Pda} {bump : UInt8} {result : Unit} :
    requireBump canonicalBump pda bump = .ok result ↔ bump = canonicalBump pda := by
  simp [requireBump]

def freshSet (canonicalBump : Pda → UInt8) (now : Int64) (index : UInt32)
    (keys : List GuardianAddress) : GuardianSet where
  index := index
  keys := keys
  creationTime := now
  expirationTime := 0
  bump := canonicalBump (.guardianSet index)

variable {ledger next : Ledger} {now : Int64} {signers : List Pubkey} {event : Option Event}

theorem initializeBridge_eq_ok {authority : Pubkey} {chainId : UInt16} {ttl index : UInt32}
    {keys : List GuardianAddress} :
    initializeBridge canonicalBump ledger now authority chainId ttl index keys =
        .ok (next, event) ↔
      ledger .config = none ∧ ledger (.guardianSet index) = none ∧ keys ≠ [] ∧
        keys.length ≤ maxGuardians ∧ event = none ∧
        next = (ledger.store .config
          ⟨authority, chainId, index, ttl, 0, canonicalBump .config⟩).store
          (.guardianSet index) (freshSet canonicalBump now index keys) := by
  simp only [initializeBridge, bind_eq_ok, requireVacant_eq_ok, require_eq_ok, pure_eq_ok,
    Except.ok.injEq, Prod.mk.injEq, exists_const]
  constructor
  · intro parts
    rcases parts with ⟨noConfig, noSet, nonempty, small, nextIs, eventIs⟩
    exact ⟨noConfig, noSet, nonempty, small, eventIs.symm, nextIs.symm⟩
  · intro parts
    rcases parts with ⟨noConfig, noSet, nonempty, small, eventIs, nextIs⟩
    exact ⟨noConfig, noSet, nonempty, small, nextIs.symm, eventIs.symm⟩

/-- The emitter's counter as the handler finds it, created with all its fields
zero and then claimed for the emitter. -/
def claimedTracker (canonicalBump : Pda → UInt8) (ledger : Ledger) (emitter : Pubkey) :
    EmitterSequence :=
  let tracker : EmitterSequence := (ledger (.emitter emitter)).getD ⟨.default, 0, 0⟩
  if tracker.emitter = .default then
    { tracker with emitter, bump := canonicalBump (.emitter emitter) }
  else
    tracker

@[simp] theorem claimedTracker_sequence (emitter : Pubkey) :
    (claimedTracker canonicalBump ledger emitter).sequence =
      ((ledger (.emitter emitter)).getD ⟨.default, 0, 0⟩).sequence := by
  rw [claimedTracker]
  split <;> rfl

theorem postMessage_eq_ok {emitter : Pubkey} {nonce : UInt32} {consistencyLevel : UInt8}
    {payload : List UInt8} :
    postMessage canonicalBump ledger signers now emitter nonce consistencyLevel payload =
        .ok (next, event) ↔
      ∃ (tracker : EmitterSequence) (successor : UInt64),
        tracker = claimedTracker canonicalBump ledger emitter ∧
        emitter ∈ signers ∧ ledger (.message emitter tracker.sequence) = none ∧
        payload.length ≤ maxPayloadLen ∧
        successor.toNat = tracker.sequence.toNat + 1 ∧
        event = some (.messagePosted emitter tracker.sequence nonce) ∧
        next = (ledger.store (.emitter emitter) { tracker with sequence := successor }).store
          (.message emitter tracker.sequence)
          ⟨emitter, tracker.sequence, nonce, consistencyLevel, now, payload,
            canonicalBump (.message emitter tracker.sequence)⟩ := by
  have handler : postMessage canonicalBump ledger signers now emitter nonce consistencyLevel
      payload = (do
        requireSigner signers emitter
        requireVacant ledger (.message emitter
          ((ledger (.emitter emitter)).getD ⟨.default, 0, 0⟩ : EmitterSequence).sequence)
        require (payload.length ≤ maxPayloadLen) (.worm .payloadTooLarge)
        let tracker := claimedTracker canonicalBump ledger emitter
        let successor ← okOr (checkedAddU64 tracker.sequence 1) (.worm .overflow)
        return ((ledger.store (.emitter emitter) { tracker with sequence := successor }).store
          (.message emitter tracker.sequence)
          ⟨emitter, tracker.sequence, nonce, consistencyLevel, now, payload,
            canonicalBump (.message emitter tracker.sequence)⟩,
          some (.messagePosted emitter tracker.sequence nonce))) := rfl
  have sequence := @claimedTracker_sequence canonicalBump ledger emitter
  rw [handler, ← sequence]
  generalize claimedTracker canonicalBump ledger emitter = tracker
  simp only [bind_eq_ok, requireSigner_eq_ok, requireVacant_eq_ok, require_eq_ok, okOr_eq_ok,
    checkedAddU64_eq_some, pure_eq_ok, Except.ok.injEq, Prod.mk.injEq, exists_const,
    exists_and_left, exists_eq_left]
  constructor
  · intro parts
    rcases parts with ⟨signed, vacant, small, successor, advances, nextIs, eventIs⟩
    exact ⟨signed, vacant, small, successor, advances, eventIs.symm, nextIs.symm⟩
  · intro parts
    rcases parts with ⟨signed, vacant, small, successor, advances, eventIs, nextIs⟩
    exact ⟨signed, vacant, small, successor, advances, nextIs.symm, eventIs.symm⟩

theorem postMessage_frame {emitter : Pubkey} {nonce : UInt32} {consistencyLevel : UInt8}
    {payload : List UInt8}
    (posted : postMessage canonicalBump ledger signers now emitter nonce consistencyLevel
      payload = .ok (next, event)) {pda : Pda} (notCounter : ∀ key, pda ≠ .emitter key)
    (notMessage : ∀ key sequence, pda ≠ .message key sequence) : next pda = ledger pda := by
  rcases postMessage_eq_ok.mp posted with ⟨_, _, _, _, _, _, _, _, rfl⟩
  rw [Ledger.store_other _ _ (notMessage _ _), Ledger.store_other _ _ (notCounter _)]

theorem upgradeGuardianSet_eq_ok {authority : Pubkey} {newIndex : UInt32}
    {keys : List GuardianAddress} :
    upgradeGuardianSet canonicalBump ledger signers now authority newIndex keys =
        .ok (next, event) ↔
      ∃ (config : BridgeConfig) (old : GuardianSet) (expirationTime : Int64),
        ledger .config = some config ∧
        ledger (.guardianSet config.currentGuardianSetIndex) = some old ∧
        ledger (.guardianSet newIndex) = none ∧
        authority ∈ signers ∧ authority = config.governanceAuthority ∧
        config.bump = canonicalBump .config ∧
        old.bump = canonicalBump (.guardianSet config.currentGuardianSetIndex) ∧
        keys ≠ [] ∧ keys.length ≤ maxGuardians ∧
        newIndex.toNat = config.currentGuardianSetIndex.toNat + 1 ∧
        expirationTime.toInt = now.toInt + config.guardianSetTtlSeconds.toNat ∧
        event = some (.guardianSetUpgraded config.currentGuardianSetIndex newIndex
          (UInt8.ofNat keys.length)) ∧
        next = ((ledger.store (.guardianSet config.currentGuardianSetIndex)
          { old with expirationTime }).store (.guardianSet newIndex)
            (freshSet canonicalBump now newIndex keys)).store .config
              { config with currentGuardianSetIndex := newIndex } := by
  simp only [upgradeGuardianSet, bind_eq_ok, requireVacant_eq_ok, require_eq_ok,
    requireSigner_eq_ok, requireBump_eq_ok, addU32_eq_ok, okOr_eq_ok, checkedAddI64_eq_some,
    toInt_i64FromU32, pure_eq_ok, Except.ok.injEq, Prod.mk.injEq, exists_const]
  constructor
  · intro parts
    rcases parts with ⟨signed, config, configAt, old, oldAt, vacant, authorized, configBump,
      oldBump, nonempty, small, successor, advances, rfl, expirationTime, expires, oldIndex,
      oldIndexIs, nextIs, eventIs⟩
    rw [sub_successor advances] at oldIndexIs
    cases oldIndexIs
    exact ⟨config, old, expirationTime, load_eq_ok.mp configAt, load_eq_ok.mp oldAt, vacant,
      signed, authorized, configBump, oldBump, nonempty, small, advances, expires,
      eventIs.symm, nextIs.symm⟩
  · intro parts
    rcases parts with ⟨config, old, expirationTime, configAt, oldAt, vacant, signed,
      authorized, configBump, oldBump, nonempty, small, advances, expires, eventIs, nextIs⟩
    exact ⟨signed, config, load_eq_ok.mpr configAt, old, load_eq_ok.mpr oldAt, vacant,
      authorized, configBump, oldBump, nonempty, small, newIndex, advances, rfl,
      expirationTime, expires, config.currentGuardianSetIndex, sub_successor advances,
      nextIs.symm, eventIs.symm⟩

theorem verifyVaa_eq_ok {syscalls : Syscalls} {index : UInt32} {vaaHash : Bytes 32}
    {vaaBytes : List UInt8} :
    verifyVaa canonicalBump syscalls ledger now index vaaHash vaaBytes = .ok (next, event) ↔
      ∃ (config : BridgeConfig) (set : GuardianSet) (parsed : ParsedVaa),
        ledger .config = some config ∧
        ledger (.guardianSet index) = some set ∧
        ledger (.consumed vaaHash) = none ∧
        config.bump = canonicalBump .config ∧
        set.bump = canonicalBump (.guardianSet index) ∧
        ParsedVaa.parse syscalls vaaBytes = .ok parsed ∧
        parsed.guardianSetIndex = index ∧ parsed.hash = vaaHash ∧ set.index = index ∧
        set.isActive now = true ∧ verifyQuorum syscalls parsed set.keys = .ok () ∧
        event = some (.vaaVerified parsed.emitterChain parsed.emitterAddress parsed.sequence
          parsed.hash) ∧
        next = ledger.store (.consumed vaaHash)
          ⟨parsed.hash, parsed.sequence, canonicalBump (.consumed vaaHash)⟩ := by
  simp only [verifyVaa, bind_eq_ok, requireVacant_eq_ok, require_eq_ok, requireBump_eq_ok,
    mapError_eq_ok, pure_eq_ok, Except.ok.injEq, Prod.mk.injEq, exists_const]
  constructor
  · intro parts
    rcases parts with ⟨config, configAt, set, setAt, vacant, configBump, setBump, parsed,
      parsing, header, hash, index, active, _, quorum, nextIs, eventIs⟩
    exact ⟨config, set, parsed, load_eq_ok.mp configAt, load_eq_ok.mp setAt, vacant,
      configBump, setBump, parsing, header, hash, index, active, quorum, eventIs.symm,
      nextIs.symm⟩
  · intro parts
    rcases parts with ⟨config, set, parsed, configAt, setAt, vacant, configBump, setBump,
      parsing, header, hash, index, active, quorum, eventIs, nextIs⟩
    exact ⟨config, load_eq_ok.mpr configAt, set, load_eq_ok.mpr setAt, vacant, configBump,
      setBump, parsed, parsing, header, hash, index, active, ⟨⟩, quorum, nextIs.symm,
      eventIs.symm⟩

theorem verifyVaa_frame {syscalls : Syscalls} {index : UInt32} {vaaHash : Bytes 32}
    {vaaBytes : List UInt8}
    (verified : verifyVaa canonicalBump syscalls ledger now index vaaHash vaaBytes =
      .ok (next, event)) {pda : Pda} (notConsumed : pda ≠ .consumed vaaHash) :
    next pda = ledger pda := by
  rcases verifyVaa_eq_ok.mp verified with ⟨_, _, _, _, _, _, _, _, _, _, _, _, _, _, _, rfl⟩
  exact Ledger.store_other _ _ notConsumed

end

end WormVerify.OnChain
