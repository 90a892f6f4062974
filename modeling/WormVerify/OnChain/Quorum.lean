import WormVerify.OnChain.Lineage
import Mathlib.Data.Finset.Card

/-! # How many guardians a quorum is

The program counts signatures, at indices that ascend. They come from as many
guardians only where the guardian set repeats no address, which initialization
and upgrades do not check.
-/

namespace WormVerify.OnChain

open Checked

section

variable (syscalls : Syscalls)

def recoveredGuardians (parsed : ParsedVaa) : List GuardianAddress :=
  parsed.signatures.filterMap fun signature =>
    (recoverAddress syscalls parsed.hash signature.rs signature.recoveryId).toOption

/-- Every signature of a consumed VAA comes from a guardian of its own, so that
a supermajority of different guardians signed. -/
def DistinctGuardians (entry : Entry) : Prop :=
  ∀ index vaaHash vaaBytes parsed (set : GuardianSet),
    entry.op.instruction = .verifyVaa index vaaHash vaaBytes →
    ParsedVaa.parse syscalls vaaBytes = .ok parsed →
    entry.before (.guardianSet index) = some set →
    (recoveredGuardians syscalls parsed).length = parsed.signatures.length ∧
      (recoveredGuardians syscalls parsed).Nodup ∧
      2 * set.keys.length / 3 + 1 ≤ (recoveredGuardians syscalls parsed).toFinset.card

def ProposesDistinctKeys (transaction : Transaction) : Prop :=
  match transaction.instruction with
  | .initializeBridge _ _ _ _ initialGuardians => initialGuardians.Nodup
  | .upgradeGuardianSet _ _ newGuardians => newGuardians.Nodup
  | _ => True

instance (transaction : Transaction) : Decidable (ProposesDistinctKeys transaction) := by
  unfold ProposesDistinctKeys
  split <;> infer_instance

def DistinctKeys (ledger : Ledger) : Prop :=
  ∀ index (set : GuardianSet), ledger (.guardianSet index) = some set → set.keys.Nodup

def SignedBy (hash : Bytes 32) (keys : List GuardianAddress)
    (signature : GuardianSignature) : Prop :=
  ∃ guardian, keys[signature.position]? = some guardian ∧
    recoverAddress syscalls hash signature.rs signature.recoveryId = .ok guardian

end

section

variable {syscalls : Syscalls} {canonicalBump : Pda → UInt8}

theorem verifySignatures_eq_ok {hash : Bytes 32} {keys : List GuardianAddress}
    {signatures : List GuardianSignature} {valid total : Nat} :
    verifySignatures syscalls hash keys signatures valid = .ok total ↔
      total = valid + signatures.length ∧
        ∀ signature ∈ signatures, SignedBy syscalls hash keys signature := by
  induction signatures generalizing valid with
  | nil => simp [verifySignatures, eq_comm]
  | cons signature rest induction =>
      simp only [verifySignatures, bind_eq_ok, okOr_eq_ok, require_eq_ok, induction,
        List.forall_mem_cons, List.length_cons]
      constructor
      · intro accepted
        rcases accepted with ⟨_, found, recovered, recovers, _, rfl, totalIs, signed⟩
        exact ⟨by omega, ⟨recovered, found, recovers⟩, signed⟩
      · intro parts
        rcases parts with ⟨totalIs, ⟨guardian, found, recovers⟩, signed⟩
        exact ⟨guardian, found, guardian, recovers, ⟨⟩, rfl, by omega, signed⟩

theorem verifyQuorum_eq_ok {parsed : ParsedVaa} {keys : List GuardianAddress}
    {result : Unit} :
    verifyQuorum syscalls parsed keys = .ok result ↔
      keys ≠ [] ∧ quorum keys.length ≤ parsed.signatures.length ∧
        ∀ signature ∈ parsed.signatures, SignedBy syscalls parsed.hash keys signature := by
  simp only [verifyQuorum, bind_eq_ok, require_eq_ok, verifySignatures_eq_ok, Nat.zero_add]
  constructor
  · intro accepted
    rcases accepted with ⟨_, nonempty, _, ⟨rfl, signed⟩, enough⟩
    exact ⟨nonempty, enough, signed⟩
  · intro parts
    rcases parts with ⟨nonempty, enough, signed⟩
    exact ⟨⟨⟩, nonempty, _, ⟨rfl, signed⟩, enough⟩

theorem recoveredGuardians_nodup {parsed : ParsedVaa} {keys : List GuardianAddress}
    (ascending : Ascending GuardianSignature.position parsed.signatures)
    (signed : ∀ signature ∈ parsed.signatures, SignedBy syscalls parsed.hash keys signature)
    (distinct : keys.Nodup) : (recoveredGuardians syscalls parsed).Nodup := by
  rw [recoveredGuardians, List.Nodup, List.pairwise_filterMap]
  apply List.Pairwise.imp_of_mem _ ascending
  intro earlier later earlierMem laterMem less first firstIs second secondIs same
  rcases signed earlier earlierMem with ⟨guardian, guardianAt, recovers⟩
  rcases signed later laterMem with ⟨other, otherAt, otherRecovers⟩
  rw [recovers] at firstIs
  rw [otherRecovers] at secondIs
  cases firstIs
  cases secondIs
  subst same
  rcases List.getElem?_eq_some_iff.mp guardianAt with ⟨inside, _⟩
  have positions := (List.getElem?_inj inside distinct).mp (guardianAt.trans otherAt.symm)
  omega

theorem recoveredGuardians_length {parsed : ParsedVaa} {keys : List GuardianAddress}
    (signed : ∀ signature ∈ parsed.signatures, SignedBy syscalls parsed.hash keys signature) :
    (recoveredGuardians syscalls parsed).length = parsed.signatures.length := by
  rw [recoveredGuardians, List.length_filterMap_eq_countP, List.countP_eq_length]
  intro signature member
  rcases signed signature member with ⟨guardian, _, recovers⟩
  simp [recovers, Except.toOption]

theorem DistinctKeys.commit {ledger next : Ledger} {transaction : Transaction}
    {event : Option Event} (distinct : DistinctKeys ledger)
    (proposes : ProposesDistinctKeys transaction)
    (committed : execute syscalls canonicalBump ledger transaction = .ok (next, event)) :
    DistinctKeys next := by
  intro index set found
  rcases transaction with ⟨signers, now, instruction⟩
  cases instruction with
  | initializeBridge authority chainId ttl first keys =>
      rcases initializeBridge_eq_ok.mp committed with ⟨_, _, _, _, _, rfl⟩
      rw [Ledger.created_guardianSet] at found
      split at found
      · cases found
        exact proposes
      · exact distinct index set found
  | postMessage emitter nonce level payload =>
      rw [postMessage_frame committed (by simp) (by simp)] at found
      exact distinct index set found
  | verifyVaa setIndex vaaHash vaaBytes =>
      rw [verifyVaa_frame committed (by simp)] at found
      exact distinct index set found
  | upgradeGuardianSet authority newIndex keys =>
      rcases upgradeGuardianSet_eq_ok.mp committed with
        ⟨_, old, _, _, oldAt, _, _, _, _, _, _, _, _, _, _, rfl⟩
      rcases Ledger.of_rotated_guardianSet found with ⟨_, rfl⟩ | ⟨_, rfl⟩ | ⟨_, found⟩
      · exact proposes
      · exact distinct _ old oldAt
      · exact distinct index set found

theorem distinctKeys_run (transactions : List Transaction)
    (proposed : ∀ entry ∈ (program syscalls canonicalBump).journal transactions,
      ProposesDistinctKeys entry.op) :
    ∀ entry ∈ (program syscalls canonicalBump).journal transactions,
      DistinctKeys entry.before := by
  suffices kept : DistinctKeys ((program syscalls canonicalBump).state transactions) ∧
      ∀ entry ∈ (program syscalls canonicalBump).journal transactions,
        DistinctKeys entry.before from kept.2
  revert proposed
  apply Machine.run_induction _ (fun _ => True) (fun ledger journal =>
    (∀ entry ∈ journal, ProposesDistinctKeys entry.op) →
      DistinctKeys ledger ∧ ∀ entry ∈ journal, DistinctKeys entry.before)
  · intro _
    refine ⟨?_, by simp⟩
    intro index set found
    cases found
  · intro ledger journal transaction next event earlier _ committed proposed
    rw [List.forall_mem_append, List.forall_mem_singleton] at proposed ⊢
    rcases earlier proposed.1 with ⟨distinct, before⟩
    exact ⟨distinct.commit proposed.2 committed, before, distinct⟩
  · simp

/-- In every run that stores no guardian list with a repeated address, every
consumed VAA carries the signatures of a supermajority of different
guardians. -/
theorem distinct_guardians_of_distinct_keys (transactions : List Transaction)
    (proposed : ∀ entry ∈ (program syscalls canonicalBump).journal transactions,
      ProposesDistinctKeys entry.op) :
    ∀ entry ∈ (program syscalls canonicalBump).journal transactions,
      DistinctGuardians syscalls entry := by
  intro entry member index vaaHash vaaBytes parsed set calls parsing setAt
  have distinct : set.keys.Nodup :=
    distinctKeys_run transactions proposed entry member index set setAt
  rcases Machine.exists_of_mem_journal _ member with ⟨_, _, _, _, committed⟩
  rcases entry with ⟨ledger, ⟨signers, now, instruction⟩, next, event⟩
  subst calls
  rcases verifyVaa_eq_ok.mp committed with ⟨_, stored, _, _, storedAt, _, _, _, again, _, _,
    _, _, accepted, _⟩
  cases again.symm.trans parsing
  cases storedAt.symm.trans setAt
  rcases verifyQuorum_eq_ok.mp accepted with ⟨_, enough, signed⟩
  have total := recoveredGuardians_length signed
  have nodup := recoveredGuardians_nodup (ParsedVaa.ascending parsing) signed distinct
  refine ⟨total, nodup, ?_⟩
  rw [List.toFinset_card_of_nodup nodup, total, Nat.mul_comm]
  exact enough

end

def Sample.consumption (keys : List GuardianAddress) (vaa : Types.Vaa) : List Transaction :=
  [⟨[], 100, .initializeBridge (Bytes.ofNat 32 1) 1 3600 0 keys⟩,
   ⟨[], 150, .verifyVaa 0 Types.Sample.digest vaa.encode⟩]

theorem distinct_guardians_consumption :
    2 ≤ (recoveredGuardians Sample.syscalls
      (.ofVaa Sample.syscalls Types.Sample.vaa)).toFinset.card := by
  let keys := [Types.Sample.guardian, Types.Sample.otherGuardian]
  let run := Sample.consumption keys Types.Sample.vaa
  have second : ((Sample.program.journal run)[1]?).map
      (fun entry => (entry.op.instruction, entry.before (.guardianSet 0))) =
      some (.verifyVaa 0 Types.Sample.digest Types.Sample.vaa.encode,
        some ⟨0, keys, 100, 0, 255⟩) := by
    decide +kernel
  rcases Option.map_eq_some_iff.mp second with ⟨entry, entryAt, parts⟩
  have distinct := @distinct_guardians_of_distinct_keys Sample.syscalls (fun _ => 255) run
    (by decide +kernel) entry (List.mem_of_getElem? entryAt) 0 Types.Sample.digest
    Types.Sample.vaa.encode (.ofVaa Sample.syscalls Types.Sample.vaa) ⟨0, keys, 100, 0, 255⟩
    (congrArg Prod.fst parts) (by decide +kernel) (congrArg Prod.snd parts)
  exact Nat.le_trans (show 2 ≤ 2 * 2 / 3 + 1 by decide) distinct.2.2

def Sample.doubledVaa : Types.Vaa :=
  { Types.Sample.vaa with
    signatures := [Types.Sample.signature, ⟨1, Types.Sample.signatureBytes, 0⟩] }

/-- A deployment whose first guardian set holds one address twice accepts a VAA
that one guardian signed. -/
theorem one_guardian_counted_twice :
    ¬∀ (transactions : List Transaction),
      ∀ entry ∈ Sample.program.journal transactions,
        DistinctGuardians Sample.syscalls entry := by
  intro always
  let keys := [Types.Sample.guardian, Types.Sample.guardian]
  let run := Sample.consumption keys Sample.doubledVaa
  have second : ((Sample.program.journal run)[1]?).map
      (fun entry => (entry.op.instruction, entry.before (.guardianSet 0))) =
      some (.verifyVaa 0 Types.Sample.digest Sample.doubledVaa.encode,
        some ⟨0, keys, 100, 0, 255⟩) := by
    decide +kernel
  rcases Option.map_eq_some_iff.mp second with ⟨entry, entryAt, parts⟩
  have distinct := always run entry (List.mem_of_getElem? entryAt) 0 Types.Sample.digest
    Sample.doubledVaa.encode (.ofVaa Sample.syscalls Sample.doubledVaa) ⟨0, keys, 100, 0, 255⟩
    (congrArg Prod.fst parts) (by decide +kernel) (congrArg Prod.snd parts)
  exact absurd distinct.2.1 (by decide +kernel)

end WormVerify.OnChain
