import WormVerify.OnChain.Bridge

/-! # The program keeps the history

What the program does on the accounts of a bridge is what the bridge does on
its history, instruction by instruction and so run by run.
-/

namespace WormVerify.OnChain

open Checked

section

variable {syscalls : Syscalls} {canonicalBump : Pda → UInt8} {bridge : Bridge} {next : Ledger}
  {event : Option Event} {signers : List Pubkey} {now : Int64}

theorem ledger_config {deployment : Deployment}
    (deployed : bridge.deployment = some deployment) :
    bridge.ledger canonicalBump .config = some (deployment.config canonicalBump) := by
  rw [Bridge.ledger, deployed, Option.map_some]

theorem ledger_guardianSet {deployment : Deployment}
    (deployed : bridge.deployment = some deployment) (index : UInt32) :
    bridge.ledger canonicalBump (.guardianSet index) =
      (deployment.installation? index.toNat).map (deployment.guardianSet canonicalBump index) := by
  rw [Bridge.ledger, deployed, Option.bind_some]

theorem exists_ledger_current {deployment : Deployment}
    (deployed : bridge.deployment = some deployment) :
    ∃ installed, deployment.installation? deployment.current = some installed ∧
      bridge.ledger canonicalBump
          (.guardianSet (deployment.config canonicalBump).currentGuardianSetIndex) =
        some (deployment.guardianSet canonicalBump (UInt32.ofNat deployment.current)
          installed) := by
  rcases deployment.exists_current with ⟨installed, found⟩
  refine ⟨installed, found, ?_⟩
  rw [ledger_guardianSet deployed]
  change (deployment.installation? (UInt32.ofNat deployment.current).toNat).map _ = _
  rw [deployment.toNat_current, found]
  rfl

theorem ledger_launch (undeployed : bridge.deployment = none) (authority : Pubkey)
    (chainId : UInt16) (ttl index : UInt32) (genesis : Installation) :
    ((bridge.ledger canonicalBump).store .config
        ⟨authority, chainId, index, ttl, 0, canonicalBump .config⟩).store (.guardianSet index)
        (freshSet canonicalBump genesis.time index genesis.keys) =
      ({ bridge with deployment := some (.launch authority chainId ttl index genesis) } :
        Bridge).ledger canonicalBump := by
  have current : (Deployment.launch authority chainId ttl index genesis).current =
      index.toNat := rfl
  funext pda
  cases pda with
  | config =>
      rw [Ledger.store_guardianSet_config, Ledger.store_same]
      change _ = some (Deployment.config canonicalBump _)
      rw [Deployment.config, current, UInt32.ofNat_toNat]
      rfl
  | guardianSet other =>
      rw [Ledger.created_guardianSet]
      simp only [Bridge.ledger, undeployed, Option.bind_some, Option.bind_none,
        Deployment.installation?_launch, UInt32.toNat_inj]
      by_cases same : other = index
      · subst same
        rw [if_pos rfl, if_pos rfl, Option.map_some, Deployment.guardianSet_current current.symm]
      · rw [if_neg same, if_neg same, Option.map_none]
  | consumed hash => rw [Ledger.store_other _ _ (by simp), Ledger.store_other _ _ (by simp)]; rfl
  | emitter key => rw [Ledger.store_other _ _ (by simp), Ledger.store_other _ _ (by simp)]; rfl
  | message key sequence =>
      rw [Ledger.store_other _ _ (by simp), Ledger.store_other _ _ (by simp)]
      rfl

theorem initializeBridge_refines {authority : Pubkey} {chainId : UInt16} {ttl index : UInt32}
    {keys : List GuardianAddress} :
    initializeBridge canonicalBump (bridge.ledger canonicalBump) now authority chainId ttl index
        keys = .ok (next, event) ↔
      ∃ after, bridge.execute syscalls
          ⟨signers, now, .initializeBridge authority chainId ttl index keys⟩ = .ok (after, event) ∧
        next = after.ledger canonicalBump := by
  rw [initializeBridge_eq_ok, Bridge.execute]
  dsimp only
  cases deployed : bridge.deployment with
  | some deployment => simp [Bridge.ledger, deployed]
  | none =>
      have launched := @ledger_launch canonicalBump bridge deployed authority chainId ttl index
        ⟨keys, now⟩
      by_cases admits : Admits keys
      · have configured : bridge.ledger canonicalBump .config = none := by
          rw [Bridge.ledger, deployed, Option.map_none]
        have installed : bridge.ledger canonicalBump (.guardianSet index) = none := by
          rw [Bridge.ledger, deployed, Option.bind_none]
        rw [if_pos ⟨rfl, admits⟩]
        constructor
        · intro parts
          rcases parts with ⟨_, _, _, _, rfl, rfl⟩
          exact ⟨_, rfl, launched⟩
        · intro parts
          rcases parts with ⟨_, same, rfl⟩
          cases same
          exact ⟨configured, installed, admits.1, admits.2, rfl, launched.symm⟩
      · rw [if_neg fun permitted => admits permitted.2]
        constructor
        · intro parts
          exact absurd ⟨parts.2.2.1, parts.2.2.2.1⟩ admits
        · intro parts
          rcases parts with ⟨_, refused, _⟩
          cases refused

theorem messageLog_ledger (emitter : Pubkey) :
    MessageLog canonicalBump emitter (bridge.ledger canonicalBump) (bridge.posts emitter).val where
  counter := rfl
  messages _ := rfl
  bounded := (bridge.posts emitter).property

theorem ledger_post {emitter : Pubkey} {nonce : UInt32} {consistencyLevel : UInt8}
    {payload : List UInt8} {log : PostLog}
    (appended : log.val =
      (bridge.posts emitter).val ++ [⟨nonce, consistencyLevel, now, payload⟩])
    (committed : postMessage canonicalBump (bridge.ledger canonicalBump) signers now emitter
      nonce consistencyLevel payload = .ok (next, event)) :
    next = ({ bridge with posts := Function.update bridge.posts emitter log } :
      Bridge).ledger canonicalBump := by
  have grown := @MessageLog.append canonicalBump emitter _ next event _
    (messageLog_ledger emitter) signers ⟨nonce, consistencyLevel, now, payload⟩ committed
  rw [← appended] at grown
  have others (key : Pubkey) (different : key ≠ emitter) :
      SameEmitter key (bridge.ledger canonicalBump) next := by
    rcases postMessage_eq_ok.mp committed with ⟨_, _, _, _, _, _, _, _, rfl⟩
    constructor
    · rw [Ledger.store_other _ _ (by simp), Ledger.store_other _ _ (by simp [different])]
    · intro sequence
      rw [Ledger.store_other _ _ (by simp [different]), Ledger.store_other _ _ (by simp)]
  funext pda
  cases pda with
  | config => exact postMessage_frame committed (by simp) (by simp)
  | guardianSet index => exact postMessage_frame committed (by simp) (by simp)
  | consumed hash => exact postMessage_frame committed (by simp) (by simp)
  | emitter key =>
      by_cases own : key = emitter
      · subst own
        simp only [grown.counter, Bridge.ledger, Function.update_self]
      · simp only [(others key own).1, Bridge.ledger, Function.update_of_ne own]
  | message key sequence =>
      by_cases own : key = emitter
      · subst own
        simp only [grown.messages, Bridge.ledger, Function.update_self]
      · simp only [(others key own).2, Bridge.ledger, Function.update_of_ne own]

theorem postMessage_refines {emitter : Pubkey} {nonce : UInt32} {consistencyLevel : UInt8}
    {payload : List UInt8} :
    postMessage canonicalBump (bridge.ledger canonicalBump) signers now emitter nonce
        consistencyLevel payload = .ok (next, event) ↔
      ∃ after, bridge.execute syscalls
          ⟨signers, now, .postMessage emitter nonce consistencyLevel payload⟩ =
            .ok (after, event) ∧
        next = after.ledger canonicalBump := by
  have log := @messageLog_ledger canonicalBump bridge emitter
  have number := log.count_toNat
  have counted : (claimedTracker canonicalBump (bridge.ledger canonicalBump) emitter).sequence =
      UInt64.ofNat (bridge.posts emitter).val.length := by
    rw [log.claimedTracker_eq]
    rfl
  rw [Bridge.execute]
  dsimp only
  constructor
  · intro committed
    rcases postMessage_eq_ok.mp committed with
      ⟨_, successor, rfl, signed, _, small, advances, rfl, _⟩
    rw [counted, number] at advances
    have room : (bridge.posts emitter).val.length + 1 < UInt64.size :=
      advances ▸ successor.toNat_lt
    rw [dif_pos ⟨room, List.contains_iff_mem.mpr signed, small⟩, counted]
    exact ⟨_, rfl, ledger_post rfl committed⟩
  · intro parts
    rcases parts with ⟨after, executed, rfl⟩
    split at executed
    · rename_i permitted
      rcases permitted with ⟨room, signed, small⟩
      have vacant : bridge.ledger canonicalBump
          (.message emitter (UInt64.ofNat (bridge.posts emitter).val.length)) = none := by
        rw [log.messages, number, List.getElem?_eq_none (Nat.le_refl _), Option.map_none]
      have advances : (UInt64.ofNat ((bridge.posts emitter).val.length + 1)).toNat =
          (UInt64.ofNat (bridge.posts emitter).val.length).toNat + 1 := by
        rw [number, UInt64.toNat_ofNat_of_lt' room]
      rw [← counted] at vacant advances
      have commits : ∃ written, postMessage canonicalBump (bridge.ledger canonicalBump) signers now
          emitter nonce consistencyLevel payload = .ok (written,
            some (.messagePosted emitter (UInt64.ofNat (bridge.posts emitter).val.length) nonce)) :=
        ⟨_, postMessage_eq_ok.mpr ⟨_, _, rfl, List.contains_iff_mem.mp signed, vacant, small,
          advances, by rw [counted], rfl⟩⟩
      rcases commits with ⟨written, committed⟩
      cases executed
      rw [committed, Except.ok.injEq, Prod.mk.injEq]
      exact ⟨ledger_post rfl committed, rfl⟩
    · cases executed

theorem ledger_consume (hash : Bytes 32) (sequence : UInt64) :
    (bridge.ledger canonicalBump).store (.consumed hash)
        ⟨hash, sequence, canonicalBump (.consumed hash)⟩ =
      ({ bridge with consumed := Function.update bridge.consumed hash (some sequence) } :
        Bridge).ledger canonicalBump := by
  funext pda
  by_cases marked : pda = .consumed hash
  · subst marked
    rw [Ledger.store_same]
    simp only [Bridge.ledger, Function.update_self, Option.map_some]
  · rw [Ledger.store_other _ _ marked]
    cases pda with
    | consumed other =>
        have different : other ≠ hash := fun same => marked (congrArg _ same)
        simp only [Bridge.ledger, Function.update_of_ne different]
    | config => rfl
    | guardianSet index => rfl
    | emitter key => rfl
    | message key sequence => rfl

theorem verifyVaa_refines {index : UInt32} {vaaHash : Bytes 32} {vaaBytes : List UInt8} :
    verifyVaa canonicalBump syscalls (bridge.ledger canonicalBump) now index vaaHash vaaBytes =
        .ok (next, event) ↔
      ∃ after, bridge.execute syscalls ⟨signers, now, .verifyVaa index vaaHash vaaBytes⟩ =
          .ok (after, event) ∧
        next = after.ledger canonicalBump := by
  rw [verifyVaa_eq_ok, Bridge.execute]
  dsimp only
  constructor
  · intro parts
    rcases parts with ⟨config, set, parsed, configured, setAt, unconsumed, _, _, parsing, header,
      hash, _, active, quorate, rfl, rfl⟩
    rcases Option.map_eq_some_iff.mp configured with ⟨deployment, deployed, rfl⟩
    rw [ledger_guardianSet deployed] at setAt
    rcases Option.map_eq_some_iff.mp setAt with ⟨installed, found, rfl⟩
    rw [Deployment.isActive_guardianSet found] at active
    rw [Bridge.ledger, Option.map_eq_none_iff] at unconsumed
    simp only [deployed, parsing, found]
    rw [if_pos ⟨header, hash, by rw [unconsumed]; rfl, active, quorate⟩, hash]
    refine ⟨_, rfl, ?_⟩
    rw [ledger_consume, deployed]
  · intro parts
    rcases parts with ⟨after, executed, rfl⟩
    split at executed
    · rename_i deployment parsed deployed parsing
      split at executed
      · rename_i installed found
        split at executed
        · rename_i permitted
          rcases permitted with ⟨header, hash, unconsumed, active, quorate⟩
          cases executed
          have setAt : bridge.ledger canonicalBump (.guardianSet index) =
              some (deployment.guardianSet canonicalBump index installed) := by
            rw [ledger_guardianSet deployed, found, Option.map_some]
          have vacant : bridge.ledger canonicalBump (.consumed vaaHash) = none := by
            rw [Bridge.ledger, Option.isNone_iff_eq_none.mp unconsumed, Option.map_none]
          rw [← Deployment.isActive_guardianSet found] at active
          exact ⟨_, _, parsed, ledger_config deployed, setAt, vacant, rfl, rfl, parsing, header,
            hash, rfl, active, quorate, rfl, by rw [hash, ledger_consume]⟩
        · cases executed
      · cases executed
    · cases executed

theorem ledger_rotate {deployment : Deployment} (deployed : bridge.deployment = some deployment)
    {installed : Installation}
    (found : deployment.installation? deployment.current = some installed) {newIndex : UInt32}
    (advances : newIndex.toNat = deployment.current + 1) {expirationTime : Int64}
    (expires : expirationTime.toInt = now.toInt + deployment.guardianSetTtlSeconds.toNat)
    (keys : List GuardianAddress) (room : deployment.current + 1 < UInt32.size)
    (fits : now.toInt + deployment.guardianSetTtlSeconds.toNat ≤ Int64.maxValue.toInt) :
    (((bridge.ledger canonicalBump).store (.guardianSet (UInt32.ofNat deployment.current))
        { deployment.guardianSet canonicalBump (UInt32.ofNat deployment.current) installed with
          expirationTime }).store (.guardianSet newIndex)
        (freshSet canonicalBump now newIndex keys)).store .config
        { deployment.config canonicalBump with currentGuardianSetIndex := newIndex } =
      ({ bridge with deployment := some (deployment.rotate ⟨keys, now⟩ room fits) } :
        Bridge).ledger canonicalBump := by
  have currently := deployment.toNat_current
  have newest : newIndex.toNat = (deployment.rotate ⟨keys, now⟩ room fits).current := by
    rw [advances, Deployment.current, Deployment.current, Deployment.rotate, List.length_append]
    rfl
  funext pda
  cases pda with
  | config =>
      rw [Ledger.store_same]
      change _ = some (Deployment.config canonicalBump _)
      rw [Deployment.config, Deployment.config, ← newest, UInt32.ofNat_toNat]
      rfl
  | guardianSet other =>
      rw [Ledger.rotated_guardianSet]
      simp only [Bridge.ledger, deployed, Option.bind_some]
      rw [Deployment.installation?_rotate, ← advances]
      by_cases new : other = newIndex
      · subst new
        rw [if_pos rfl, if_pos rfl, Option.map_some, Deployment.guardianSet_current newest]
      · have elsewhere : other.toNat ≠ newIndex.toNat := fun same => new (UInt32.toNat_inj.mp same)
        rw [if_neg new, if_neg elsewhere]
        by_cases superseded : other = UInt32.ofNat deployment.current
        · subst superseded
          have deadline : Int64.ofInt (now.toInt + deployment.guardianSetTtlSeconds.toNat) =
              expirationTime := by
            rw [← expires, Int64.ofInt_toInt]
          rw [if_pos rfl, currently, found, Option.map_some]
          simp only [Deployment.guardianSet, Deployment.deadline?_rotate, currently, if_true,
            Option.map_some, Option.getD_some, deadline]
        · have past : other.toNat ≠ deployment.current := by
            intro same
            apply superseded
            rw [← same, UInt32.ofNat_toNat]
          have unchanged : (deployment.rotate ⟨keys, now⟩ room fits).guardianSet canonicalBump
              other = deployment.guardianSet canonicalBump other := by
            funext set
            rw [Deployment.guardianSet, Deployment.guardianSet, Deployment.deadline?_rotate,
              if_neg past]
          rw [if_neg superseded, unchanged]
  | consumed hash =>
      rw [Ledger.store_other _ _ (by simp), Ledger.store_other _ _ (by simp),
        Ledger.store_other _ _ (by simp)]
      rfl
  | emitter key =>
      rw [Ledger.store_other _ _ (by simp), Ledger.store_other _ _ (by simp),
        Ledger.store_other _ _ (by simp)]
      rfl
  | message key sequence =>
      rw [Ledger.store_other _ _ (by simp), Ledger.store_other _ _ (by simp),
        Ledger.store_other _ _ (by simp)]
      rfl

theorem upgradeGuardianSet_refines {authority : Pubkey} {newIndex : UInt32}
    {keys : List GuardianAddress} :
    upgradeGuardianSet canonicalBump (bridge.ledger canonicalBump) signers now authority newIndex
        keys = .ok (next, event) ↔
      ∃ after, bridge.execute syscalls
          ⟨signers, now, .upgradeGuardianSet authority newIndex keys⟩ = .ok (after, event) ∧
        next = after.ledger canonicalBump := by
  rw [upgradeGuardianSet_eq_ok, Bridge.execute]
  dsimp only
  cases deployed : bridge.deployment with
  | none => simp [Bridge.ledger, deployed]
  | some deployment =>
      have configured := @ledger_config canonicalBump bridge deployment deployed
      rcases @exists_ledger_current canonicalBump bridge deployment deployed with
        ⟨installed, found, oldAt⟩
      dsimp only
      constructor
      · intro parts
        rcases parts with ⟨config, old, expirationTime, configAt, setAt, vacant, signed,
          authorized, _, _, nonempty, small, advances, expires, rfl, rfl⟩
        cases configured.symm.trans configAt
        cases oldAt.symm.trans setAt
        change expirationTime.toInt = now.toInt + deployment.guardianSetTtlSeconds.toNat at expires
        change newIndex.toNat = (UInt32.ofNat deployment.current).toNat + 1 at advances
        have fits : now.toInt + deployment.guardianSetTtlSeconds.toNat ≤
            Int64.maxValue.toInt := by
          rw [Int64.toInt_maxValue, ← expires]
          exact Int.le_sub_one_of_lt expirationTime.toInt_lt
        rw [deployment.toNat_current] at advances
        rw [dif_pos ⟨advances, fits, List.contains_iff_mem.mpr signed, authorized, nonempty, small⟩]
        exact ⟨_, rfl, ledger_rotate deployed found advances expires keys _ fits⟩
      · intro parts
        rcases parts with ⟨after, executed, rfl⟩
        split at executed
        · rename_i permitted
          rcases permitted with ⟨advances, fits, signed, authorized, nonempty, small⟩
          have vacant : bridge.ledger canonicalBump (.guardianSet newIndex) = none := by
            rw [ledger_guardianSet deployed, Option.map_eq_none_iff,
              Deployment.installation?_eq_none, advances]
            exact .inr (Nat.lt_succ_self _)
          have expires : (Int64.ofInt (now.toInt + deployment.guardianSetTtlSeconds.toNat)).toInt =
              now.toInt + deployment.guardianSetTtlSeconds.toNat := by
            have above := now.le_toInt
            have below := fits
            rw [Int64.toInt_maxValue] at below
            exact Int64.toInt_ofInt_of_le (by omega) (by omega)
          have successor : newIndex.toNat = (UInt32.ofNat deployment.current).toNat + 1 := by
            rw [deployment.toNat_current, advances]
          cases executed
          exact ⟨_, _, _, configured, oldAt, vacant, List.contains_iff_mem.mp signed, authorized,
            rfl, rfl, nonempty, small, successor, expires, rfl,
            (ledger_rotate deployed found advances expires keys _ fits).symm⟩
        · cases executed

/-! ## When the program aborts -/

theorem upgradeGuardianSet_eq_panic {ledger : Ledger} {authority : Pubkey} {newIndex : UInt32}
    {keys : List GuardianAddress} :
    upgradeGuardianSet canonicalBump ledger signers now authority newIndex keys = panic ↔
      ∃ (config : BridgeConfig) (old : GuardianSet),
        ledger .config = some config ∧
        ledger (.guardianSet config.currentGuardianSetIndex) = some old ∧
        ledger (.guardianSet newIndex) = none ∧
        authority ∈ signers ∧ authority = config.governanceAuthority ∧
        config.bump = canonicalBump .config ∧
        old.bump = canonicalBump (.guardianSet config.currentGuardianSetIndex) ∧
        keys ≠ [] ∧ keys.length ≤ maxGuardians ∧
        config.currentGuardianSetIndex.toNat + 1 = UInt32.size := by
  simp only [upgradeGuardianSet, bind_eq_panic, load, requireVacant, requireSigner, requireBump,
    require_ne_panic, okOr_ne_panic, require_eq_ok, okOr_eq_ok, addU32_eq_ok, addU32_eq_panic,
    false_or, exists_const, pure_eq_ok, ok_ne_panic]
  constructor
  · intro parts
    rcases parts with ⟨signed, config, configAt, old, oldAt, vacant, authorized, configBump,
      oldBump, nonempty, small, full | ⟨_, advances, rfl, _, _, again⟩⟩
    · exact ⟨config, old, configAt, oldAt, vacant, signed, authorized, configBump, oldBump,
        nonempty, small, Nat.le_antisymm config.currentGuardianSetIndex.toNat_lt full⟩
    · rw [sub_successor advances] at again
      rcases again with aborted | ⟨_, _, impossible⟩
      · exact absurd aborted ok_ne_panic
      · exact impossible.elim
  · intro parts
    rcases parts with ⟨config, old, configAt, oldAt, vacant, signed, authorized, configBump,
      oldBump, nonempty, small, full⟩
    exact ⟨signed, config, configAt, old, oldAt, vacant, authorized, configBump, oldBump,
      nonempty, small, .inl full.ge⟩

theorem settles_initializeBridge {ledger : Ledger} {authority : Pubkey} {chainId : UInt16}
    {ttl index : UInt32} {keys : List GuardianAddress} :
    Settles (initializeBridge canonicalBump ledger now authority chainId ttl index keys) :=
  settles_require.bind fun _ _ => settles_require.bind fun _ _ =>
    settles_require.bind fun _ _ => settles_require.bind fun _ _ => settles_ok _

theorem settles_postMessage {ledger : Ledger} {emitter : Pubkey} {nonce : UInt32}
    {consistencyLevel : UInt8} {payload : List UInt8} :
    Settles (postMessage canonicalBump ledger signers now emitter nonce consistencyLevel
      payload) :=
  settles_require.bind fun _ _ => settles_require.bind fun _ _ =>
    settles_require.bind fun _ _ => settles_okOr.bind fun _ _ => settles_ok _

theorem settles_verifySignatures {hash : Bytes 32} {guardianKeys : List GuardianAddress}
    (signatures : List GuardianSignature) (valid : Nat) :
    Settles (verifySignatures syscalls hash guardianKeys signatures valid) := by
  induction signatures generalizing valid with
  | nil => exact settles_ok _
  | cons signature rest induction =>
      apply settles_okOr.bind
      intro expected _
      apply (settles_okOr.bind fun _ _ => settles_ok _).bind
      intro recovered _
      exact settles_require.bind fun _ _ => induction _

theorem settles_verifyVaa {ledger : Ledger} {index : UInt32} {vaaHash : Bytes 32}
    {vaaBytes : List UInt8} :
    Settles (verifyVaa canonicalBump syscalls ledger now index vaaHash vaaBytes) := by
  apply settles_okOr.bind
  intro config _
  apply settles_okOr.bind
  intro set _
  apply settles_require.bind
  intro _ _
  apply settles_require.bind
  intro _ _
  apply settles_require.bind
  intro _ _
  apply (ParsedVaa.settles_parse syscalls vaaBytes).mapError.bind
  intro parsed _
  have quorum : Settles (verifyQuorum syscalls parsed set.keys) :=
    settles_require.bind fun _ _ =>
      (settles_verifySignatures _ _).bind fun _ _ => settles_require
  exact settles_require.bind fun _ _ => settles_require.bind fun _ _ =>
    settles_require.bind fun _ _ => settles_require.bind fun _ _ =>
      quorum.mapError.bind fun _ _ => settles_ok _

theorem execute_eq_panic {transaction : Transaction} :
    execute syscalls canonicalBump (bridge.ledger canonicalBump) transaction = panic ↔
      bridge.Exhausted transaction := by
  rcases transaction with ⟨signers, now, instruction⟩
  cases instruction with
  | initializeBridge authority chainId ttl index keys =>
      simp only [Bridge.Exhausted, reduceCtorEq, false_and, exists_false, iff_false]
      exact settles_initializeBridge
  | postMessage emitter nonce consistencyLevel payload =>
      simp only [Bridge.Exhausted, reduceCtorEq, false_and, exists_false, iff_false]
      exact settles_postMessage
  | verifyVaa index vaaHash vaaBytes =>
      simp only [Bridge.Exhausted, reduceCtorEq, false_and, exists_false, iff_false]
      exact settles_verifyVaa
  | upgradeGuardianSet authority newIndex keys =>
      refine Iff.trans upgradeGuardianSet_eq_panic ?_
      constructor
      · intro parts
        rcases parts with ⟨config, old, configAt, oldAt, vacant, signed, authorized, _, _,
          nonempty, small, full⟩
        rcases Option.map_eq_some_iff.mp configAt with ⟨deployment, deployed, rfl⟩
        rw [ledger_guardianSet deployed, Option.map_eq_none_iff] at vacant
        change (UInt32.ofNat deployment.current).toNat + 1 = UInt32.size at full
        rw [deployment.toNat_current] at full
        exact ⟨authority, newIndex, keys, deployment, rfl, deployed, signed, authorized,
          ⟨nonempty, small⟩, vacant, full⟩
      · intro exhausted
        rcases exhausted with ⟨_, _, _, deployment, same, deployed, signed, authorized, admits,
          vacant, full⟩
        cases same
        rcases @exists_ledger_current canonicalBump bridge deployment deployed with
          ⟨installed, found, oldAt⟩
        refine ⟨_, _, ledger_config deployed, oldAt, ?_, signed, authorized, rfl, rfl, admits.1,
          admits.2, ?_⟩
        · rw [ledger_guardianSet deployed, vacant, Option.map_none]
        · rw [← full, ← deployment.toNat_current]
          rfl

/-! ## Runs -/

theorem execute_refines {transaction : Transaction} :
    execute syscalls canonicalBump (bridge.ledger canonicalBump) transaction =
        .ok (next, event) ↔
      ∃ after, bridge.execute syscalls transaction = .ok (after, event) ∧
        next = after.ledger canonicalBump := by
  rcases transaction with ⟨signers, now, instruction⟩
  cases instruction with
  | initializeBridge authority chainId ttl index keys => exact initializeBridge_refines
  | postMessage emitter nonce consistencyLevel payload => exact postMessage_refines
  | verifyVaa index vaaHash vaaBytes => exact verifyVaa_refines
  | upgradeGuardianSet authority newIndex keys => exact upgradeGuardianSet_refines

theorem execute_refuses {transaction : Transaction} {refusal : Refused}
    (refused : bridge.execute syscalls transaction = .error refusal) :
    ∃ fault, execute syscalls canonicalBump (bridge.ledger canonicalBump) transaction =
      .error fault := by
  cases outcome : execute syscalls canonicalBump (bridge.ledger canonicalBump) transaction with
  | error fault => exact ⟨fault, rfl⟩
  | ok result =>
      rcases execute_refines.mp outcome with ⟨after, executed, _⟩
      cases refused.symm.trans executed

end

variable (syscalls : Syscalls) (canonicalBump : Pda → UInt8)

/-- The accounts of the program are the history of the bridge written out. Every
run commits the same transactions with the same events as on the bridge, and a
transaction aborts only when it upgrades a bridge that has no index left. -/
theorem program_refines_bridge (transactions : List Transaction) :
    let ledger := (program syscalls canonicalBump).state transactions
    let bridge := (Bridge.machine syscalls).state transactions
    ledger = bridge.ledger canonicalBump ∧
      ((program syscalls canonicalBump).journal transactions).map
          (fun entry => (entry.op, entry.output)) =
        ((Bridge.machine syscalls).journal transactions).map
          (fun entry => (entry.op, entry.output)) ∧
      ∀ transaction, execute syscalls canonicalBump ledger transaction = panic ↔
        bridge.Exhausted transaction := by
  intro ledger bridge
  have start : Ledger.empty = Bridge.empty.ledger canonicalBump := by
    funext pda
    cases pda <;> rfl
  rcases Machine.represented (Bridge.machine syscalls) (program syscalls canonicalBump)
    (Bridge.ledger canonicalBump) (fun _ => True) (fun _ => trivial) start
    (fun current transaction next event _ executed =>
      execute_refines.mpr ⟨next, executed, rfl⟩)
    (fun current transaction refusal _ refused =>
      execute_refuses refused) transactions with ⟨same, alike⟩
  refine ⟨same, alike, ?_⟩
  intro transaction
  rw [show ledger = bridge.ledger canonicalBump from same]
  exact execute_eq_panic

end WormVerify.OnChain
