import WormVerify.Foundation.Isolation
import WormVerify.OnChain.Messages
import WormVerify.OnChain.Lineage

/-! # The parts of the ledger

The accounts of an emitter, the configuration with the guardian sets, and the
mark of a digest are three kinds of parts. Posts touch a part of the first kind,
governance the second, and verification reads the second to write one of the
third.
-/

namespace WormVerify.OnChain

open Checked Machine

def emitterPart (emitter : Pubkey) (ledger : Ledger) :
    Option EmitterSequence × (UInt64 → Option PostedMessage) :=
  (ledger (.emitter emitter), fun sequence => ledger (.message emitter sequence))

def guardianPart (ledger : Ledger) : Option BridgeConfig × (UInt32 → Option GuardianSet) :=
  (ledger .config, fun index => ledger (.guardianSet index))

def consumedPart (hash : Bytes 32) (ledger : Ledger) :
    (Option BridgeConfig × (UInt32 → Option GuardianSet)) × Option ConsumedVaa :=
  (guardianPart ledger, ledger (.consumed hash))

def postsAs (emitter : Pubkey) (transaction : Transaction) : Bool :=
  match transaction.instruction with
  | .postMessage poster _ _ _ => poster = emitter
  | _ => false

def governs (transaction : Transaction) : Bool :=
  match transaction.instruction with
  | .initializeBridge .. => true
  | .upgradeGuardianSet .. => true
  | _ => false

/-- The transaction governs or is about the digest. -/
def concerns (hash : Bytes 32) (transaction : Transaction) : Bool :=
  match transaction.instruction with
  | .verifyVaa _ vaaHash _ => vaaHash = hash
  | _ => governs transaction

section

variable {syscalls : Syscalls} {canonicalBump : Pda → UInt8}

/-! ## Emitters -/

theorem emitter_isolated (emitter : Pubkey) :
    (program syscalls canonicalBump).Isolated (emitterPart emitter) (postsAs emitter) where
  frame {ledger next transaction event} irrelevant committed := by
    have other : ¬transaction.PostsAs emitter := by
      rcases transaction with ⟨signers, now, instruction⟩
      cases instruction with
      | postMessage poster nonce level payload =>
          have different : ¬poster = emitter := of_decide_eq_false irrelevant
          exact different
      | initializeBridge authority chainId ttl index keys => exact id
      | upgradeGuardianSet authority newIndex keys => exact id
      | verifyVaa index vaaHash vaaBytes => exact id
    rcases sameEmitter_of_commit committed other with ⟨counter, messages⟩
    exact Prod.ext counter (funext messages)
  determined {left right next transaction event} acts same committed := by
    rcases transaction with ⟨signers, now, instruction⟩
    cases instruction with
    | postMessage poster nonce level payload =>
        have own : poster = emitter := of_decide_eq_true acts
        subst own
        have counter : left (.emitter poster) = right (.emitter poster) := congrArg Prod.fst same
        have messages (sequence : UInt64) :
            left (.message poster sequence) = right (.message poster sequence) :=
          congrFun (congrArg Prod.snd same) sequence
        have claimed : claimedTracker canonicalBump left poster =
            claimedTracker canonicalBump right poster := by
          rw [claimedTracker, claimedTracker, counter]
        rcases postMessage_eq_ok.mp committed with ⟨tracker, successor, trackerIs, signed, vacant,
          small, advances, eventIs, rfl⟩
        rw [claimed] at trackerIs
        rw [messages] at vacant
        refine ⟨_, _, postMessage_eq_ok.mpr ⟨tracker, successor, trackerIs, signed, vacant, small,
          advances, rfl, rfl⟩, ?_⟩
        refine Prod.ext ?_ (funext fun sequence => ?_)
        · simp [emitterPart, Ledger.store_other]
        · by_cases newest : sequence = tracker.sequence
          · subst newest
            simp [emitterPart]
          · simp [emitterPart, Ledger.store_other, newest, messages]
    | initializeBridge authority chainId ttl index keys => cases acts
    | upgradeGuardianSet authority newIndex keys => cases acts
    | verifyVaa index vaaHash vaaBytes => cases acts

/-! ## Governance -/

theorem guardianPart_eq {left right : Ledger} :
    guardianPart left = guardianPart right ↔
      left .config = right .config ∧
        ∀ index, left (.guardianSet index) = right (.guardianSet index) := by
  constructor
  · intro same
    exact ⟨congrArg Prod.fst same, congrFun (congrArg Prod.snd same)⟩
  · intro parts
    exact Prod.ext parts.1 (funext parts.2)

theorem guardianPart_frame {ledger next : Ledger} {transaction : Transaction}
    {event : Option Event} (other : governs transaction = false)
    (committed : execute syscalls canonicalBump ledger transaction = .ok (next, event)) :
    guardianPart next = guardianPart ledger := by
  rcases transaction with ⟨signers, now, instruction⟩
  cases instruction with
  | postMessage poster nonce level payload =>
      exact guardianPart_eq.mpr ⟨postMessage_frame committed (by simp) (by simp),
        fun _ => postMessage_frame committed (by simp) (by simp)⟩
  | verifyVaa index vaaHash vaaBytes =>
      exact guardianPart_eq.mpr ⟨verifyVaa_frame committed (by simp),
        fun _ => verifyVaa_frame committed (by simp)⟩
  | initializeBridge authority chainId ttl index keys => cases other
  | upgradeGuardianSet authority newIndex keys => cases other

theorem guardians_isolated :
    (program syscalls canonicalBump).Isolated guardianPart governs where
  frame := guardianPart_frame
  determined {left right next transaction event} acts same committed := by
    rcases guardianPart_eq.mp same with ⟨configs, sets⟩
    rcases transaction with ⟨signers, now, instruction⟩
    cases instruction with
    | initializeBridge authority chainId ttl index keys =>
        rcases initializeBridge_eq_ok.mp committed with ⟨unconfigured, vacant, nonempty, small, _,
          rfl⟩
        rw [configs] at unconfigured
        rw [sets] at vacant
        refine ⟨_, _, initializeBridge_eq_ok.mpr ⟨unconfigured, vacant, nonempty, small, rfl, rfl⟩,
          guardianPart_eq.mpr ⟨by simp, ?_⟩⟩
        intro other
        rw [Ledger.created_guardianSet, Ledger.created_guardianSet, sets]
    | upgradeGuardianSet authority newIndex keys =>
        rcases upgradeGuardianSet_eq_ok.mp committed with ⟨config, old, expirationTime, configured,
          oldAt, vacant, rest⟩
        rw [configs] at configured
        rw [sets] at oldAt vacant
        rcases rest with ⟨signed, authorized, configBump, oldBump, nonempty, small, advances,
          expires, _, rfl⟩
        refine ⟨_, _, upgradeGuardianSet_eq_ok.mpr ⟨config, old, expirationTime, configured, oldAt,
          vacant, signed, authorized, configBump, oldBump, nonempty, small, advances, expires, rfl,
          rfl⟩, guardianPart_eq.mpr ⟨by simp, ?_⟩⟩
        intro other
        rw [Ledger.rotated_guardianSet, Ledger.rotated_guardianSet, sets]
    | postMessage poster nonce level payload => cases acts
    | verifyVaa index vaaHash vaaBytes => cases acts

/-! ## Digests -/

theorem consumed_of_governs {ledger next : Ledger} {transaction : Transaction}
    {event : Option Event} (acts : governs transaction = true)
    (committed : execute syscalls canonicalBump ledger transaction = .ok (next, event))
    (hash : Bytes 32) : next (.consumed hash) = ledger (.consumed hash) := by
  rcases transaction with ⟨signers, now, instruction⟩
  cases instruction with
  | initializeBridge authority chainId ttl index keys =>
      rcases initializeBridge_eq_ok.mp committed with ⟨_, _, _, _, _, rfl⟩
      simp [Ledger.store_other]
  | upgradeGuardianSet authority newIndex keys =>
      rcases upgradeGuardianSet_eq_ok.mp committed with
        ⟨_, _, _, _, _, _, _, _, _, _, _, _, _, _, _, rfl⟩
      simp [Ledger.store_other]
  | postMessage poster nonce level payload => cases acts
  | verifyVaa index vaaHash vaaBytes => cases acts

theorem consumed_isolated (hash : Bytes 32) :
    (program syscalls canonicalBump).Isolated (consumedPart hash) (concerns hash) where
  frame {ledger next transaction event} irrelevant committed := by
    change execute syscalls canonicalBump ledger transaction = .ok (next, event) at committed
    rcases transaction with ⟨signers, now, instruction⟩
    cases instruction with
    | postMessage poster nonce level payload =>
        exact Prod.ext (guardianPart_frame rfl committed)
          (postMessage_frame committed (by simp) (by simp))
    | verifyVaa index vaaHash vaaBytes =>
        have elsewhere : Pda.consumed hash ≠ .consumed vaaHash := by
          intro same
          exact of_decide_eq_false irrelevant (Pda.consumed.inj same).symm
        exact Prod.ext (guardianPart_frame rfl committed) (verifyVaa_frame committed elsewhere)
    | initializeBridge authority chainId ttl index keys => cases irrelevant
    | upgradeGuardianSet authority newIndex keys => cases irrelevant
  determined {left right next transaction event} acts same committed := by
    have guardians : guardianPart left = guardianPart right := congrArg Prod.fst same
    have marks : left (.consumed hash) = right (.consumed hash) := congrArg Prod.snd same
    cases governing : governs transaction with
    | true =>
        rcases guardians_isolated.determined governing guardians committed with
          ⟨other, answer, mirrored, alike⟩
        refine ⟨other, answer, mirrored, Prod.ext alike ?_⟩
        exact (consumed_of_governs governing mirrored hash).trans
          (marks.symm.trans (consumed_of_governs governing committed hash).symm)
    | false =>
        rcases guardianPart_eq.mp guardians with ⟨configs, sets⟩
        rcases transaction with ⟨signers, now, instruction⟩
        cases instruction with
        | verifyVaa index vaaHash vaaBytes =>
            cases of_decide_eq_true acts
            rcases verifyVaa_eq_ok.mp committed with ⟨config, set, parsed, configured, setAt,
              vacant, configBump, setBump, parsing, header, hashIs, setIndex, active, quorate, _,
              rfl⟩
            rw [configs] at configured
            rw [sets] at setAt
            rw [marks] at vacant
            refine ⟨_, _, verifyVaa_eq_ok.mpr ⟨config, set, parsed, configured, setAt, vacant,
              configBump, setBump, parsing, header, hashIs, setIndex, active, quorate, rfl, rfl⟩,
              Prod.ext (guardianPart_eq.mpr ⟨?_, ?_⟩) ?_⟩
            · simp [Ledger.store_other, configs]
            · simp [Ledger.store_other, sets]
            · simp [consumedPart]
        | postMessage poster nonce level payload => cases acts
        | initializeBridge authority chainId ttl index keys => cases governing
        | upgradeGuardianSet authority newIndex keys => cases governing

/-! ## Runs -/

/-- Two runs in which every emitter posts in the same order, and in which for
every digest governance and the calls about the digest come in the same order,
end with the same ledger, and the same transactions are committed. -/
theorem independent_transactions_commute {left right : List Transaction}
    (emitters : ∀ emitter, left.filter (postsAs emitter) = right.filter (postsAs emitter))
    (digests : ∀ hash, left.filter (concerns hash) = right.filter (concerns hash)) :
    let machine := program syscalls canonicalBump
    machine.state left = machine.state right ∧
      (∀ emitter, (machine.committed left).filter (postsAs emitter) =
        (machine.committed right).filter (postsAs emitter)) ∧
      ∀ hash, (machine.committed left).filter (concerns hash) =
        (machine.committed right).filter (concerns hash) := by
  intro machine
  have posting (emitter : Pubkey) := (@emitter_isolated syscalls canonicalBump
    emitter).eq_of_filter_eq (emitters emitter)
  have verifying (hash : Bytes 32) := (@consumed_isolated syscalls canonicalBump
    hash).eq_of_filter_eq (digests hash)
  have guardians : guardianPart (machine.state left) = guardianPart (machine.state right) :=
    congrArg Prod.fst (verifying (Bytes.ofNat 32 0)).1
  refine ⟨?_, fun emitter => (posting emitter).2, fun hash => (verifying hash).2⟩
  funext pda
  cases pda with
  | config => exact (guardianPart_eq.mp guardians).1
  | guardianSet index => exact (guardianPart_eq.mp guardians).2 index
  | consumed hash => exact congrArg Prod.snd (verifying hash).1
  | emitter key => exact congrArg Prod.fst (posting key).1
  | message key sequence => exact congrFun (congrArg Prod.snd (posting key).1) sequence

end

def Sample.postAs (emitter : Pubkey) : Transaction :=
  ⟨[emitter], 300, .postMessage emitter 7 1 []⟩

def Sample.verification : Transaction :=
  ⟨[], 300, .verifyVaa 0 Types.Sample.digest Types.Sample.vaa.encode⟩

theorem independent_transactions_commute_rotation :
    let first := Sample.postAs (Bytes.ofNat 32 2)
    let second := Sample.postAs (Bytes.ofNat 32 3)
    Sample.program.state (Sample.rotation ++ [first, Sample.verification, second]) =
      Sample.program.state (Sample.rotation ++ [second, first, Sample.verification]) := by
  intro first second
  refine (independent_transactions_commute ?_ ?_).1
  · intro emitter
    have apart : ¬(Bytes.ofNat 32 2 = emitter ∧ Bytes.ofNat 32 3 = emitter) := by
      intro both
      exact absurd (both.1.trans both.2.symm) (by decide +kernel)
    by_cases isFirst : Bytes.ofNat 32 2 = emitter <;>
      by_cases isSecond : Bytes.ofNat 32 3 = emitter <;>
      simp_all [first, second, Sample.postAs, Sample.verification, postsAs, Sample.rotation]
  · intro hash
    rfl

end WormVerify.OnChain
