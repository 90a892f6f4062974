import WormVerify.Agreement
import WormVerify.OnChain.Replay

/-! # The lineage of guardian sets

Initialization creates the first guardian set and every upgrade the next one.
A set is superseded once, by the upgrade to its successor, and the time of that
upgrade decides how long the set stays valid.
-/

namespace WormVerify.OnChain

open Checked

/-! ## What the journal says -/

/-- What initialization fixes for good. -/
structure Genesis where
  governanceAuthority : Pubkey
  guardianSetTtlSeconds : UInt32
  guardianSetIndex : UInt32
  deriving DecidableEq

def begins (entry : Entry) : Option Genesis :=
  match entry.op.instruction with
  | .initializeBridge governanceAuthority _ guardianSetTtlSeconds guardianSetIndex _ =>
      some { governanceAuthority, guardianSetTtlSeconds, guardianSetIndex }
  | _ => none

def genesis? (journal : List Entry) : Option Genesis := journal.findSome? begins

def supersedes (index : UInt32) (entry : Entry) : Bool :=
  match entry.op.instruction with
  | .upgradeGuardianSet _ newIndex _ => newIndex.toNat = index.toNat + 1
  | _ => false

/-- The clock reading of the upgrade that superseded the index. -/
def supersededAt? (journal : List Entry) (index : UInt32) : Option Int64 :=
  (journal.find? (supersedes index)).map fun entry => entry.op.now

def Advances (entry : Entry) : Prop :=
  ∃ before after : BridgeConfig, entry.before .config = some before ∧
    entry.after .config = some after ∧
    before.currentGuardianSetIndex ≠ after.currentGuardianSetIndex

theorem supersededAt?_concat (journal : List Entry) (entry : Entry) (index : UInt32) :
    supersededAt? (journal ++ [entry]) index =
      (supersededAt? journal index).or
        (if supersedes index entry then some entry.op.now else none) := by
  rw [supersededAt?, supersededAt?, List.find?_append]
  cases journal.find? (supersedes index) with
  | some found => rfl
  | none =>
      cases matched : supersedes index entry <;> simp [matched]

theorem genesis?_concat (journal : List Entry) (entry : Entry) :
    genesis? (journal ++ [entry]) = (genesis? journal).or (begins entry) := by
  rw [genesis?, genesis?, List.findSome?_append, List.findSome?_cons]
  cases begins entry <;> rfl

/-! ## The invariant -/

structure Unborn (ledger : Ledger) (journal : List Entry) : Prop where
  unconfigured : ledger .config = none
  sets : ∀ index, ledger (.guardianSet index) = none
  initializations : journal.countP (fun entry => (begins entry).isSome) = 0
  unbegun : genesis? journal = none
  superseded : ∀ index, supersededAt? journal index = none
  advances : ∀ entry ∈ journal, ¬Advances entry

/-- After initialization the existing sets are the contiguous range from the
genesis index to the current one. -/
structure Lineage (canonicalBump : Pda → UInt8) (genesis : Genesis) (config : BridgeConfig)
    (ledger : Ledger) (journal : List Entry) : Prop where
  initializations : journal.countP (fun entry => (begins entry).isSome) = 1
  begun : genesis? journal = some genesis
  configured : ledger .config = some config
  authority : config.governanceAuthority = genesis.governanceAuthority
  ttl : config.guardianSetTtlSeconds = genesis.guardianSetTtlSeconds
  configBump : config.bump = canonicalBump .config
  range : ∀ index, (ledger (.guardianSet index)).isSome ↔
    genesis.guardianSetIndex ≤ index ∧ index ≤ config.currentGuardianSetIndex
  index : ∀ index (set : GuardianSet), ledger (.guardianSet index) = some set →
    set.index = index
  bump : ∀ index (set : GuardianSet), ledger (.guardianSet index) = some set →
    set.bump = canonicalBump (.guardianSet index)
  size : ∀ index (set : GuardianSet), ledger (.guardianSet index) = some set →
    1 ≤ set.keys.length ∧ set.keys.length ≤ maxGuardians
  current : ∀ set : GuardianSet,
    ledger (.guardianSet config.currentGuardianSetIndex) = some set → set.expirationTime = 0
  superseded : ∀ index (set : GuardianSet), ledger (.guardianSet index) = some set →
    index ≠ config.currentGuardianSetIndex →
    ∃ time, supersededAt? journal index = some time ∧
      set.expirationTime.toInt = time.toInt + genesis.guardianSetTtlSeconds.toNat ∧
      set.expirationTime ≠ 0
  ahead : ∀ index, config.currentGuardianSetIndex ≤ index → supersededAt? journal index = none
  signed : ∀ entry ∈ journal, Advances entry →
    genesis.governanceAuthority ∈ entry.op.signers

/-! ## Commits that leave the guardian sets alone -/

structure Quiet (entry : Entry) : Prop where
  begins : begins entry = none
  supersedes : ∀ index, supersedes index entry = false
  config : entry.after .config = entry.before .config
  sets : ∀ index, entry.after (.guardianSet index) = entry.before (.guardianSet index)

section

variable {syscalls : Syscalls} {canonicalBump : Pda → UInt8} {ledger next : Ledger}
  {journal : List Entry} {event : Option Event} {genesis : Genesis} {config : BridgeConfig}

theorem Quiet.not_advances {entry : Entry} (quiet : Quiet entry) : ¬Advances entry := by
  intro advances
  rcases advances with ⟨before, after, beforeAt, afterAt, differ⟩
  rw [quiet.config, beforeAt] at afterAt
  exact differ (congrArg _ (Option.some.inj afterAt))

theorem quiet_postMessage {signers : List Pubkey} {now : Int64} {emitter : Pubkey}
    {nonce : UInt32} {level : UInt8} {payload : List UInt8}
    (posted : postMessage canonicalBump ledger signers now emitter nonce level payload =
      .ok (next, event)) :
    Quiet ⟨ledger, ⟨signers, now, .postMessage emitter nonce level payload⟩, next, event⟩ where
  begins := rfl
  supersedes _ := rfl
  config := postMessage_frame posted (by simp) (by simp)
  sets _ := postMessage_frame posted (by simp) (by simp)

theorem quiet_verifyVaa {signers : List Pubkey} {now : Int64} {index : UInt32}
    {vaaHash : Bytes 32} {vaaBytes : List UInt8}
    (verified : verifyVaa canonicalBump syscalls ledger now index vaaHash vaaBytes =
      .ok (next, event)) :
    Quiet ⟨ledger, ⟨signers, now, .verifyVaa index vaaHash vaaBytes⟩, next, event⟩ where
  begins := rfl
  supersedes _ := rfl
  config := verifyVaa_frame verified (by simp)
  sets _ := verifyVaa_frame verified (by simp)

theorem Unborn.quiet {entry : Entry} (unborn : Unborn entry.before journal)
    (quiet : Quiet entry) : Unborn entry.after (journal ++ [entry]) where
  unconfigured := quiet.config.trans unborn.unconfigured
  sets index := (quiet.sets index).trans (unborn.sets index)
  initializations := by simp [List.countP_append, unborn.initializations, quiet.begins]
  unbegun := by rw [genesis?_concat, unborn.unbegun, quiet.begins]; rfl
  superseded index := by
    rw [supersededAt?_concat, unborn.superseded index, quiet.supersedes index]
    rfl
  advances other member := by
    rcases List.mem_append.mp member with earlier | last
    · exact unborn.advances other earlier
    · rw [List.mem_singleton.mp last]
      exact quiet.not_advances

theorem Lineage.quiet {entry : Entry}
    (lineage : Lineage canonicalBump genesis config entry.before journal)
    (quiet : Quiet entry) :
    Lineage canonicalBump genesis config entry.after (journal ++ [entry]) where
  initializations := by simp [List.countP_append, lineage.initializations, quiet.begins]
  begun := by rw [genesis?_concat, lineage.begun]; rfl
  configured := quiet.config.trans lineage.configured
  authority := lineage.authority
  ttl := lineage.ttl
  configBump := lineage.configBump
  range index := by rw [quiet.sets index]; exact lineage.range index
  index index set found := lineage.index index set (quiet.sets index ▸ found)
  bump index set found := lineage.bump index set (quiet.sets index ▸ found)
  size index set found := lineage.size index set (quiet.sets index ▸ found)
  current set found := lineage.current set (quiet.sets _ ▸ found)
  superseded index set found past := by
    rcases lineage.superseded index set (quiet.sets index ▸ found) past with
      ⟨time, timeIs, expires⟩
    exact ⟨time, by rw [supersededAt?_concat, timeIs]; rfl, expires⟩
  ahead index later := by
    rw [supersededAt?_concat, lineage.ahead index later, quiet.supersedes index]
    rfl
  signed other member advances := by
    rcases List.mem_append.mp member with earlier | last
    · exact lineage.signed other earlier advances
    · rw [List.mem_singleton.mp last] at advances
      exact absurd advances quiet.not_advances

/-! ## Initialization -/

theorem Unborn.initializeBridge {signers : List Pubkey} {now : Int64} {authority : Pubkey}
    {chainId : UInt16} {ttl index : UInt32} {keys : List GuardianAddress}
    (unborn : Unborn ledger journal)
    (initialized : initializeBridge canonicalBump ledger now authority chainId ttl index keys =
      .ok (next, event)) :
    Lineage canonicalBump ⟨authority, ttl, index⟩
      ⟨authority, chainId, index, ttl, 0, canonicalBump .config⟩ next
      (journal ++ [⟨ledger, ⟨signers, now, .initializeBridge authority chainId ttl index keys⟩,
        next, event⟩]) := by
  rcases initializeBridge_eq_ok.mp initialized with ⟨_, _, nonempty, small, _, nextIs⟩
  have configured : next .config =
      some ⟨authority, chainId, index, ttl, 0, canonicalBump .config⟩ := by
    simp [nextIs]
  have sets (other : UInt32) : next (.guardianSet other) =
      if other = index then some (freshSet canonicalBump now index keys) else none := by
    rw [nextIs, Ledger.created_guardianSet, unborn.sets]
  have only {other : UInt32} {set : GuardianSet}
      (found : next (.guardianSet other) = some set) :
      other = index ∧ set = freshSet canonicalBump now index keys := by
    rw [sets] at found
    split at found
    · rename_i same
      exact ⟨same, (Option.some.inj found).symm⟩
    · cases found
  constructor
  · rw [List.countP_append, unborn.initializations]
    rfl
  · rw [genesis?_concat, unborn.unbegun]
    rfl
  · exact configured
  · rfl
  · rfl
  · rfl
  · intro other
    rw [sets]
    by_cases same : other = index
    · simp [same]
    · simp only [same, if_false, Option.isSome_none, Bool.false_eq_true, false_iff]
      intro between
      exact same (UInt32.le_antisymm between.2 between.1)
  · intro other set found
    rcases only found with ⟨rfl, rfl⟩
    rfl
  · intro other set found
    rcases only found with ⟨rfl, rfl⟩
    rfl
  · intro other set found
    rcases only found with ⟨rfl, rfl⟩
    exact ⟨List.length_pos_iff.mpr nonempty, small⟩
  · intro set found
    rcases only found with ⟨_, rfl⟩
    rfl
  · intro other set found past
    exact absurd (only found).1 past
  · intro other _
    rw [supersededAt?_concat, unborn.superseded]
    rfl
  · intro entry member advances
    rcases List.mem_append.mp member with earlier | last
    · exact absurd advances (unborn.advances entry earlier)
    · rw [List.mem_singleton.mp last] at advances
      rcases advances with ⟨before, _, beforeAt, _⟩
      cases unborn.unconfigured.symm.trans beforeAt

/-! ## Upgrades -/

theorem range_successor {first current newIndex other : UInt32}
    (advances : newIndex.toNat = current.toNat + 1) (started : first ≤ current) :
    (first ≤ other ∧ other ≤ newIndex) ↔
      other = newIndex ∨ other = current ∨ (first ≤ other ∧ other ≤ current) := by
  simp only [UInt32.le_iff_toNat_le, ← UInt32.toNat_inj] at *
  omega

theorem expirationTime_ne_zero {now expirationTime : Int64} {ttl : UInt32} (positive : 0 < now)
    (expires : expirationTime.toInt = now.toInt + ttl.toNat) : expirationTime ≠ 0 := by
  intro zero
  rw [Int64.lt_iff_toInt_lt, Int64.toInt_zero] at positive
  rw [zero, Int64.toInt_zero] at expires
  omega

theorem Lineage.upgradeGuardianSet {signers : List Pubkey} {now : Int64}
    {authority : Pubkey} {newIndex : UInt32} {keys : List GuardianAddress}
    (lineage : Lineage canonicalBump genesis config ledger journal) (positive : 0 < now)
    (upgraded : upgradeGuardianSet canonicalBump ledger signers now authority newIndex keys =
      .ok (next, event)) :
    Lineage canonicalBump genesis { config with currentGuardianSetIndex := newIndex } next
      (journal ++ [⟨ledger, ⟨signers, now, .upgradeGuardianSet authority newIndex keys⟩,
        next, event⟩]) := by
  rcases upgradeGuardianSet_eq_ok.mp upgraded with ⟨_, old, expirationTime, configured, oldAt,
    _, signed, authorized, _, _, nonempty, small, advances, expires, _, rfl⟩
  cases lineage.configured.symm.trans configured
  have currentExists := (lineage.range config.currentGuardianSetIndex).mp (by simp [oldAt])
  have later (other : UInt32) (beyond : newIndex ≤ other) :
      config.currentGuardianSetIndex ≤ other ∧ newIndex.toNat ≠ other.toNat + 1 := by
    rw [UInt32.le_iff_toNat_le] at *
    omega
  constructor
  · rw [List.countP_append, lineage.initializations]
    rfl
  · rw [genesis?_concat, lineage.begun]
    rfl
  · exact Ledger.store_same _ _ _
  · exact lineage.authority
  · exact lineage.ttl
  · exact lineage.configBump
  · intro other
    rw [range_successor advances currentExists.1, ← lineage.range other,
      Ledger.rotated_guardianSet]
    split
    · simp [*]
    · split <;> simp [*]
  · intro other set found
    rcases Ledger.of_rotated_guardianSet found with ⟨rfl, rfl⟩ | ⟨rfl, rfl⟩ | ⟨_, found⟩
    · rfl
    · exact lineage.index _ old oldAt
    · exact lineage.index other set found
  · intro other set found
    rcases Ledger.of_rotated_guardianSet found with ⟨rfl, rfl⟩ | ⟨rfl, rfl⟩ | ⟨_, found⟩
    · rfl
    · exact lineage.bump _ old oldAt
    · exact lineage.bump other set found
  · intro other set found
    rcases Ledger.of_rotated_guardianSet found with ⟨rfl, rfl⟩ | ⟨rfl, rfl⟩ | ⟨_, found⟩
    · exact ⟨List.length_pos_iff.mpr nonempty, small⟩
    · exact lineage.size _ old oldAt
    · exact lineage.size other set found
  · intro set found
    rw [Ledger.rotated_guardianSet, if_pos rfl] at found
    cases found
    rfl
  · intro other set found past
    rcases Ledger.of_rotated_guardianSet found with ⟨rfl, rfl⟩ | ⟨rfl, rfl⟩ | ⟨earlier, found⟩
    · exact absurd rfl past
    · refine ⟨now, ?_, ?_, expirationTime_ne_zero positive expires⟩
      · rw [supersededAt?_concat, lineage.ahead _ (UInt32.le_refl _)]
        simp [supersedes, advances]
      · rw [← lineage.ttl]
        exact expires
    · rcases lineage.superseded other set found earlier with ⟨time, timeIs, rest⟩
      refine ⟨time, ?_, rest⟩
      rw [supersededAt?_concat, timeIs]
      rfl
  · intro other beyond
    rcases later other beyond with ⟨beyondCurrent, notSuccessor⟩
    rw [supersededAt?_concat, lineage.ahead other beyondCurrent]
    simp [supersedes, notSuccessor]
  · intro entry member advanced
    rcases List.mem_append.mp member with earlier | last
    · exact lineage.signed entry earlier advanced
    · rw [List.mem_singleton.mp last, ← lineage.authority, ← authorized]
      exact signed

/-! ## Runs -/

def Ordered (canonicalBump : Pda → UInt8) (ledger : Ledger) (journal : List Entry) : Prop :=
  Unborn ledger journal ∨
    ∃ genesis config, Lineage canonicalBump genesis config ledger journal

theorem Ordered.commit {transaction : Transaction}
    (ordered : Ordered canonicalBump ledger journal) (positive : 0 < transaction.now)
    (committed : execute syscalls canonicalBump ledger transaction = .ok (next, event)) :
    Ordered canonicalBump next (journal ++ [⟨ledger, transaction, next, event⟩]) := by
  have quietly (quiet : Quiet ⟨ledger, transaction, next, event⟩) :
      Ordered canonicalBump next (journal ++ [⟨ledger, transaction, next, event⟩]) := by
    rcases ordered with unborn | ⟨genesis, config, lineage⟩
    · exact .inl (unborn.quiet quiet)
    · exact .inr ⟨genesis, config, lineage.quiet quiet⟩
  rcases transaction with ⟨signers, now, instruction⟩
  cases instruction with
  | initializeBridge authority chainId ttl index keys =>
      rcases ordered with unborn | ⟨genesis, config, lineage⟩
      · exact .inr ⟨_, _, unborn.initializeBridge committed⟩
      · have vacant := (initializeBridge_eq_ok.mp committed).1
        cases lineage.configured.symm.trans vacant
  | postMessage emitter nonce level payload => exact quietly (quiet_postMessage committed)
  | verifyVaa index vaaHash vaaBytes => exact quietly (quiet_verifyVaa committed)
  | upgradeGuardianSet authority newIndex keys =>
      rcases ordered with unborn | ⟨genesis, config, lineage⟩
      · rcases upgradeGuardianSet_eq_ok.mp committed with ⟨config, _, _, configured, _⟩
        cases unborn.unconfigured.symm.trans configured
      · exact .inr ⟨_, _, lineage.upgradeGuardianSet positive committed⟩

theorem ordered_run (transactions : List Transaction)
    (positive : ∀ transaction ∈ transactions, 0 < transaction.now) :
    Ordered canonicalBump ((program syscalls canonicalBump).state transactions)
      ((program syscalls canonicalBump).journal transactions) := by
  apply Machine.run_induction _ (fun transaction => 0 < transaction.now)
    (Ordered canonicalBump)
  · left
    exact ⟨rfl, fun _ => rfl, rfl, rfl, fun _ => rfl, by simp⟩
  · intro ledger journal transaction next event ordered positive committed
    exact ordered.commit positive committed
  · exact positive

/-- The sets of the first ledger are still there in the second one, with the
same index, keys and creation time, and superseded ones with the same
expiration time. -/
def Preserves (before after : Ledger) : Prop :=
  ∀ index (set : GuardianSet), before (.guardianSet index) = some set →
    ∃ kept : GuardianSet, after (.guardianSet index) = some kept ∧
      kept.index = set.index ∧ kept.keys = set.keys ∧
      kept.creationTime = set.creationTime ∧
      (set.expirationTime ≠ 0 → kept.expirationTime = set.expirationTime)

theorem Preserves.refl (ledger : Ledger) : Preserves ledger ledger :=
  fun _ set found => ⟨set, found, rfl, rfl, rfl, fun _ => rfl⟩

theorem Preserves.trans {first second third : Ledger} (earlier : Preserves first second)
    (later : Preserves second third) : Preserves first third := by
  intro index set found
  rcases earlier index set found with ⟨middle, middleAt, sameIndex, sameKeys, sameTime, expires⟩
  rcases later index middle middleAt with ⟨kept, keptAt, keptIndex, keptKeys, keptTime, stays⟩
  refine ⟨kept, keptAt, keptIndex.trans sameIndex, keptKeys.trans sameKeys,
    keptTime.trans sameTime, ?_⟩
  intro expired
  have same := expires expired
  rw [stays (same ▸ expired), same]

theorem preserves_of_commit {transaction : Transaction}
    (ordered : Ordered canonicalBump ledger journal)
    (committed : execute syscalls canonicalBump ledger transaction = .ok (next, event)) :
    Preserves ledger next := by
  have unchanged (frame : ∀ index, next (.guardianSet index) = ledger (.guardianSet index)) :
      Preserves ledger next := by
    intro index set found
    exact ⟨set, (frame index).trans found, rfl, rfl, rfl, fun _ => rfl⟩
  rcases transaction with ⟨signers, now, instruction⟩
  cases instruction with
  | initializeBridge authority chainId ttl index keys =>
      intro other set found
      rcases initializeBridge_eq_ok.mp committed with ⟨_, vacant, _, _, _, rfl⟩
      refine ⟨set, ?_, rfl, rfl, rfl, fun _ => rfl⟩
      rw [Ledger.created_guardianSet, if_neg, found]
      intro same
      cases (same ▸ found).symm.trans vacant
  | postMessage emitter nonce level payload =>
      exact unchanged fun _ => postMessage_frame committed (by simp) (by simp)
  | verifyVaa index vaaHash vaaBytes =>
      exact unchanged fun _ => verifyVaa_frame committed (by simp)
  | upgradeGuardianSet authority newIndex keys =>
      intro other set found
      rcases upgradeGuardianSet_eq_ok.mp committed with ⟨config, old, expirationTime,
        configured, oldAt, vacant, _, _, _, _, _, _, _, _, _, rfl⟩
      have notNew : other ≠ newIndex := by
        intro same
        cases (same ▸ found).symm.trans vacant
      rw [Ledger.rotated_guardianSet, if_neg notNew]
      by_cases expiring : other = config.currentGuardianSetIndex
      · rw [if_pos expiring]
        cases (expiring ▸ found).symm.trans oldAt
        rcases ordered with unborn | ⟨_, _, lineage⟩
        · cases unborn.unconfigured.symm.trans configured
        · cases lineage.configured.symm.trans configured
          refine ⟨_, rfl, rfl, rfl, rfl, ?_⟩
          intro expired
          exact absurd (lineage.current set oldAt) expired
      · rw [if_neg expiring]
        exact ⟨set, found, rfl, rfl, rfl, fun _ => rfl⟩

/-- The lineage of guardian sets: initialization succeeds at most once, the
sets it and the upgrades create form a contiguous range in which only the
current set has no expiration time, and what a set records stays as it is. -/
theorem guardian_set_lineage (transactions : List Transaction)
    (positive : ∀ transaction ∈ transactions, 0 < transaction.now) :
    ((program syscalls canonicalBump).journal transactions).countP
        (fun entry => (begins entry).isSome) ≤ 1 ∧
      Ordered canonicalBump ((program syscalls canonicalBump).state transactions)
        ((program syscalls canonicalBump).journal transactions) ∧
      ∀ later : List Transaction, (∀ transaction ∈ later, 0 < transaction.now) →
        Preserves ((program syscalls canonicalBump).state transactions)
          ((program syscalls canonicalBump).state (transactions ++ later)) := by
  have ordered : Ordered canonicalBump ((program syscalls canonicalBump).state transactions)
      ((program syscalls canonicalBump).journal transactions) :=
    ordered_run transactions positive
  refine ⟨?_, ordered, ?_⟩
  · rcases ordered with unborn | ⟨_, _, lineage⟩
    · rw [unborn.initializations]
      exact Nat.zero_le 1
    · exact Nat.le_of_eq lineage.initializations
  · intro later laterPositive
    apply Machine.state_append_related _ (fun transaction => 0 < transaction.now)
      (Ordered canonicalBump) ordered_run Preserves Preserves.refl
      (fun _ _ _ => Preserves.trans)
    · intro ledger journal transaction next event ordered _ committed
      exact preserves_of_commit ordered committed
    · intro transaction member
      rcases List.mem_append.mp member with earlier | after
      · exact positive transaction earlier
      · exact laterPositive transaction after

end

def Sample.rotation : List Transaction :=
  [⟨[], 100, .initializeBridge (Bytes.ofNat 32 1) 1 3600 0
    [Types.Sample.guardian, Types.Sample.otherGuardian]⟩,
   ⟨[Bytes.ofNat 32 1], 200, .upgradeGuardianSet (Bytes.ofNat 32 1) 1
    [Types.Sample.guardian]⟩]

def Sample.program : Machine Ledger Transaction (Fault ProgramError) (Option Event) :=
  OnChain.program Sample.syscalls fun _ => 255

theorem guardian_set_lineage_rotation :
    (Sample.program.journal Sample.rotation).countP (fun entry => (begins entry).isSome) ≤ 1 ∧
      Ordered (fun _ => 255) (Sample.program.state Sample.rotation)
        (Sample.program.journal Sample.rotation) ∧
      (Sample.program.state Sample.rotation (.guardianSet 0)).map GuardianSet.expirationTime =
        some 3800 := by
  have lineage := @guardian_set_lineage Sample.syscalls (fun _ => 255) Sample.rotation
    (by decide)
  exact ⟨lineage.1, lineage.2.1, by decide +kernel⟩

end WormVerify.OnChain
