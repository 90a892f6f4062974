import WormVerify.OnChain.Parts

/-! # What stays

Accounts are never closed and never written anew. Of an existing account only
the current index, the counter of an emitter and the expiration of a guardian
set ever change, the first two upwards only, and only with the signature of the
authority or the emitter.
-/

namespace WormVerify.OnChain

open Checked

/-- Every account of the first ledger is in the second one, the same up to the
fields that may change. -/
structure Grows (before after : Ledger) : Prop where
  config : ∀ config : BridgeConfig, before .config = some config →
    ∃ index, config.currentGuardianSetIndex ≤ index ∧
      after .config = some { config with currentGuardianSetIndex := index }
  guardianSet : ∀ index (set : GuardianSet), before (.guardianSet index) = some set →
    ∃ expirationTime, after (.guardianSet index) = some { set with expirationTime }
  consumed : ∀ hash (mark : ConsumedVaa), before (.consumed hash) = some mark →
    after (.consumed hash) = some mark
  emitter : ∀ key (tracker : EmitterSequence), before (.emitter key) = some tracker →
    ∃ sequence, tracker.sequence ≤ sequence ∧
      after (.emitter key) = some { tracker with sequence }
  message : ∀ key sequence (message : PostedMessage),
    before (.message key sequence) = some message → after (.message key sequence) = some message

namespace Grows

theorem refl (ledger : Ledger) : Grows ledger ledger where
  config _ found := ⟨_, UInt32.le_refl _, found⟩
  guardianSet _ _ found := ⟨_, found⟩
  consumed _ _ found := found
  emitter _ _ found := ⟨_, UInt64.le_refl _, found⟩
  message _ _ _ found := found

theorem trans {first second third : Ledger} (earlier : Grows first second)
    (later : Grows second third) : Grows first third where
  config config found := by
    rcases earlier.config config found with ⟨index, above, middle⟩
    rcases later.config _ middle with ⟨last, higher, final⟩
    exact ⟨last, UInt32.le_trans above higher, final⟩
  guardianSet index set found := by
    rcases earlier.guardianSet index set found with ⟨_, middle⟩
    rcases later.guardianSet index _ middle with ⟨last, final⟩
    exact ⟨last, final⟩
  consumed hash mark found := later.consumed hash mark (earlier.consumed hash mark found)
  emitter key tracker found := by
    rcases earlier.emitter key tracker found with ⟨sequence, above, middle⟩
    rcases later.emitter key _ middle with ⟨last, higher, final⟩
    exact ⟨last, UInt64.le_trans above higher, final⟩
  message key sequence message found :=
    later.message key sequence message (earlier.message key sequence message found)

end Grows

section

variable {syscalls : Syscalls} {canonicalBump : Pda → UInt8} {ledger next : Ledger}
  {journal : List Entry} {transaction : Transaction} {event : Option Event}

theorem consumed_stays
    (committed : execute syscalls canonicalBump ledger transaction = .ok (next, event))
    {hash : Bytes 32} {mark : ConsumedVaa} (found : ledger (.consumed hash) = some mark) :
    next (.consumed hash) = some mark := by
  rcases consumed_of_commit hash committed with ⟨_, same⟩ | ⟨_, vacant, _⟩
  · exact same.trans found
  · cases vacant.symm.trans found

theorem emitter_grows {emitter : Pubkey}
    (log : MessageLog canonicalBump emitter ledger (posts emitter journal))
    (committed : execute syscalls canonicalBump ledger transaction = .ok (next, event))
    {tracker : EmitterSequence} (found : ledger (.emitter emitter) = some tracker) :
    ∃ sequence, tracker.sequence ≤ sequence ∧
      next (.emitter emitter) = some { tracker with sequence } := by
  have nonempty : posts emitter journal ≠ [] := by
    intro none
    have counter := log.counter
    rw [if_pos none, found] at counter
    cases counter
  have trackerIs : tracker = counterAt canonicalBump emitter (posts emitter journal).length := by
    have counter := log.counter
    rw [if_neg nonempty, found] at counter
    exact Option.some.inj counter
  by_cases own : transaction.PostsAs emitter
  · rcases transaction with ⟨signers, now, instruction⟩
    cases instruction with
    | postMessage poster nonce level payload =>
        cases own
        rcases postMessage_eq_ok.mp committed with ⟨_, successor, rfl, _, _, _, advances, _, rfl⟩
        rw [log.claimedTracker_eq, ← trackerIs] at advances ⊢
        refine ⟨successor, ?_, ?_⟩
        · rw [UInt64.le_iff_toNat_le, advances]
          exact Nat.le_succ _
        · rw [Ledger.store_other _ _ (by simp), Ledger.store_same]
    | initializeBridge authority chainId ttl index keys => exact own.elim
    | upgradeGuardianSet authority newIndex keys => exact own.elim
    | verifyVaa index vaaHash vaaBytes => exact own.elim
  · exact ⟨tracker.sequence, UInt64.le_refl _,
      (sameEmitter_of_commit committed own).1.trans found⟩

theorem guardians_grow
    (committed : execute syscalls canonicalBump ledger transaction = .ok (next, event)) :
    (∀ config : BridgeConfig, ledger .config = some config →
      ∃ index, config.currentGuardianSetIndex ≤ index ∧
        next .config = some { config with currentGuardianSetIndex := index }) ∧
    ∀ index (set : GuardianSet), ledger (.guardianSet index) = some set →
      ∃ expirationTime, next (.guardianSet index) = some { set with expirationTime } := by
  cases governing : governs transaction with
  | false =>
      rcases guardianPart_eq.mp (guardianPart_frame governing committed) with ⟨config, sets⟩
      exact ⟨fun _ found => ⟨_, UInt32.le_refl _, config.trans found⟩,
        fun index _ found => ⟨_, (sets index).trans found⟩⟩
  | true =>
      rcases transaction with ⟨signers, now, instruction⟩
      cases instruction with
      | initializeBridge authority chainId ttl index keys =>
          rcases initializeBridge_eq_ok.mp committed with ⟨unconfigured, vacant, _, _, _, rfl⟩
          constructor
          · intro config found
            cases unconfigured.symm.trans found
          · intro other set found
            refine ⟨set.expirationTime, ?_⟩
            rw [Ledger.created_guardianSet, if_neg, found]
            intro same
            cases (same ▸ found).symm.trans vacant
      | upgradeGuardianSet authority newIndex keys =>
          rcases upgradeGuardianSet_eq_ok.mp committed with ⟨config, old, expirationTime,
            configured, oldAt, vacant, _, _, _, _, _, _, advances, _, _, rfl⟩
          constructor
          · intro other found
            cases configured.symm.trans found
            refine ⟨newIndex, ?_, Ledger.store_same _ _ _⟩
            rw [UInt32.le_iff_toNat_le, advances]
            exact Nat.le_succ _
          · intro other set found
            have notNew : other ≠ newIndex := by
              intro same
              cases (same ▸ found).symm.trans vacant
            rw [Ledger.rotated_guardianSet, if_neg notNew]
            by_cases expiring : other = config.currentGuardianSetIndex
            · cases (expiring ▸ found).symm.trans oldAt
              exact ⟨expirationTime, if_pos expiring⟩
            · exact ⟨set.expirationTime, (if_neg expiring).trans found⟩
      | postMessage poster nonce level payload => cases governing
      | verifyVaa index vaaHash vaaBytes => cases governing

theorem Grows.of_commit
    (logs : ∀ emitter, MessageLog canonicalBump emitter ledger (posts emitter journal))
    (committed : execute syscalls canonicalBump ledger transaction = .ok (next, event)) :
    Grows ledger next where
  config := (guardians_grow committed).1
  guardianSet := (guardians_grow committed).2
  consumed _ _ := consumed_stays committed
  emitter key _ := emitter_grows (logs key) committed
  message _ _ _ := message_of_commit committed

/-- Whatever transactions follow a run, no account disappears, and of the
existing ones only the index, the counters and the expirations change, and the
index and the counters never go down. -/
theorem ledger_only_grows (earlier later : List Transaction) :
    Grows ((program syscalls canonicalBump).state earlier)
      ((program syscalls canonicalBump).state (earlier ++ later)) := by
  apply Machine.state_append_related _ (fun _ => True) (fun ledger journal =>
    ∀ emitter, MessageLog canonicalBump emitter ledger (posts emitter journal))
    (fun transactions _ emitter => messageLog_run emitter transactions) Grows Grows.refl
    (fun _ _ _ => Grows.trans)
  · intro ledger journal transaction next event logs _ committed
    exact .of_commit logs committed
  · intro transaction member
    trivial

/-! ## Whose signature it takes -/

theorem guardianPart_unsigned {config : BridgeConfig} (configured : ledger .config = some config)
    (unsigned : config.governanceAuthority ∉ transaction.signers)
    (committed : execute syscalls canonicalBump ledger transaction = .ok (next, event)) :
    guardianPart next = guardianPart ledger := by
  cases governing : governs transaction with
  | false => exact guardianPart_frame governing committed
  | true =>
      rcases transaction with ⟨signers, now, instruction⟩
      cases instruction with
      | initializeBridge authority chainId ttl index keys =>
          cases (initializeBridge_eq_ok.mp committed).1.symm.trans configured
      | upgradeGuardianSet authority newIndex keys =>
          rcases upgradeGuardianSet_eq_ok.mp committed with ⟨found, _, _, foundAt, _, _, signed,
            authorized, _⟩
          cases configured.symm.trans foundAt
          exact absurd (authorized ▸ signed) unsigned
      | postMessage poster nonce level payload => cases governing
      | verifyVaa index vaaHash vaaBytes => cases governing

theorem emitterPart_unsigned {emitter : Pubkey} (unsigned : emitter ∉ transaction.signers)
    (committed : execute syscalls canonicalBump ledger transaction = .ok (next, event)) :
    emitterPart emitter next = emitterPart emitter ledger := by
  have other : ¬transaction.PostsAs emitter := by
    intro own
    rcases transaction with ⟨signers, now, instruction⟩
    cases instruction with
    | postMessage poster nonce level payload =>
        cases own
        rcases postMessage_eq_ok.mp committed with ⟨_, _, _, signed, _⟩
        exact unsigned signed
    | initializeBridge authority chainId ttl index keys => exact own
    | upgradeGuardianSet authority newIndex keys => exact own
    | verifyVaa index vaaHash vaaBytes => exact own
  rcases sameEmitter_of_commit committed other with ⟨counter, messages⟩
  exact Prod.ext counter (funext messages)

/-- Once the program is initialized, no transactions change the configuration or
a guardian set without the signature of the authority, and none change the
accounts of an emitter without its signature. -/
theorem accounts_need_signatures (earlier later : List Transaction) :
    let before := (program syscalls canonicalBump).state earlier
    let after := (program syscalls canonicalBump).state (earlier ++ later)
    (∀ config : BridgeConfig, before .config = some config →
      (∀ transaction ∈ later, config.governanceAuthority ∉ transaction.signers) →
      guardianPart after = guardianPart before) ∧
    ∀ emitter, (∀ transaction ∈ later, emitter ∉ transaction.signers) →
      emitterPart emitter after = emitterPart emitter before := by
  intro before after
  constructor
  · intro config configured unsigned
    apply Machine.state_append_induction _
      (fun transaction => config.governanceAuthority ∉ transaction.signers)
      (fun ledger => guardianPart ledger = guardianPart before) ?_ earlier rfl unsigned
    intro ledger transaction next event same unsigned committed
    have configuredStill : ledger .config = some config :=
      (guardianPart_eq.mp same).1.trans configured
    exact (guardianPart_unsigned configuredStill unsigned committed).trans same
  · intro emitter unsigned
    apply Machine.state_append_induction _ (fun transaction => emitter ∉ transaction.signers)
      (fun ledger => emitterPart emitter ledger = emitterPart emitter before) ?_ earlier rfl
      unsigned
    intro ledger transaction next event same unsigned committed
    exact (emitterPart_unsigned unsigned committed).trans same

end

end WormVerify.OnChain
