import WormVerify.OnChain.Effects

/-! # Replay protection

A VAA is consumed at most once, and every mark of a consumed VAA goes back to a
call that verified it.
-/

namespace WormVerify.OnChain

open Checked

abbrev Entry := Commit Ledger Transaction (Option Event)

section

variable (syscalls : Syscalls)

def consumes (hash : Bytes 32) (entry : Entry) : Bool :=
  match entry.op.instruction with
  | .verifyVaa _ _ vaaBytes => bodyDigest syscalls (ParsedVaa.bodyBytes vaaBytes) = hash
  | _ => false

/-- The entry created the mark at the digest's address and had verified the VAA
under an active guardian set. -/
def CreatedBy (hash : Bytes 32) (mark : ConsumedVaa) (entry : Entry) : Prop :=
  ∃ index vaaHash vaaBytes parsed set,
    entry.op.instruction = .verifyVaa index vaaHash vaaBytes ∧
    ParsedVaa.parse syscalls vaaBytes = .ok parsed ∧
    bodyDigest syscalls (ParsedVaa.bodyBytes vaaBytes) = hash ∧ parsed.hash = hash ∧
    entry.before (.guardianSet index) = some set ∧
    parsed.guardianSetIndex = set.index ∧ set.index = index ∧
    set.isActive entry.op.now = true ∧
    verifyQuorum syscalls parsed set.keys = .ok () ∧
    entry.before (.consumed hash) = none ∧ entry.after (.consumed hash) = some mark

end

section

variable {syscalls : Syscalls} {canonicalBump : Pda → UInt8}

theorem consumed_of_commit (hash : Bytes 32) {ledger next : Ledger}
    {transaction : Transaction} {event : Option Event}
    (committed : execute syscalls canonicalBump ledger transaction = .ok (next, event)) :
    (consumes syscalls hash ⟨ledger, transaction, next, event⟩ = false ∧
        next (.consumed hash) = ledger (.consumed hash)) ∨
      consumes syscalls hash ⟨ledger, transaction, next, event⟩ = true ∧
        ledger (.consumed hash) = none ∧
        ∃ mark : ConsumedVaa, next (.consumed hash) = some mark ∧ mark.hash = hash ∧
          CreatedBy syscalls hash mark ⟨ledger, transaction, next, event⟩ := by
  rcases transaction with ⟨signers, now, instruction⟩
  cases instruction with
  | initializeBridge authority chainId ttl index keys =>
      left
      rcases initializeBridge_eq_ok.mp committed with ⟨_, _, _, _, _, rfl⟩
      refine ⟨rfl, ?_⟩
      rw [Ledger.store_other _ _ (by simp), Ledger.store_other _ _ (by simp)]
  | postMessage emitter nonce consistencyLevel payload =>
      left
      exact ⟨rfl, postMessage_frame committed (by simp) (by simp)⟩
  | upgradeGuardianSet authority newIndex keys =>
      left
      rcases upgradeGuardianSet_eq_ok.mp committed with
        ⟨_, _, _, _, _, _, _, _, _, _, _, _, _, _, _, rfl⟩
      refine ⟨rfl, ?_⟩
      rw [Ledger.store_other _ _ (by simp), Ledger.store_other _ _ (by simp),
        Ledger.store_other _ _ (by simp)]
  | verifyVaa index vaaHash vaaBytes =>
      rcases verifyVaa_eq_ok.mp committed with ⟨config, set, parsed, _, setAt, vacant, _, _,
        parsing, header, hashIs, setIndex, active, quorum, _, rfl⟩
      have digest : bodyDigest syscalls (ParsedVaa.bodyBytes vaaBytes) = vaaHash := by
        rw [← ParsedVaa.hash_eq parsing, hashIs]
      by_cases same : vaaHash = hash
      · right
        subst same
        refine ⟨by simp [consumes, digest], vacant, _, Ledger.store_same _ _ _, hashIs, ?_⟩
        exact ⟨index, vaaHash, vaaBytes, parsed, set, rfl, parsing, digest, hashIs, setAt,
          header.trans setIndex.symm, setIndex, active, quorum, vacant,
          Ledger.store_same _ _ _⟩
      · left
        have elsewhere : Pda.consumed hash ≠ .consumed vaaHash := by
          intro equal
          exact same (Pda.consumed.inj equal).symm
        exact ⟨by simp [consumes, digest, same], Ledger.store_other _ _ elsewhere⟩

/-- What a run keeps at the address of a digest. -/
structure ReplayInvariant (syscalls : Syscalls) (hash : Bytes 32) (ledger : Ledger)
    (journal : List Entry) : Prop where
  once : journal.countP (consumes syscalls hash) = (ledger (.consumed hash)).toList.length
  authentic : ∀ mark, ledger (.consumed hash) = some mark →
    mark.hash = hash ∧ ∃ entry ∈ journal, CreatedBy syscalls hash mark entry

theorem replayInvariant (hash : Bytes 32) (transactions : List Transaction) :
    ReplayInvariant syscalls hash ((program syscalls canonicalBump).state transactions)
      ((program syscalls canonicalBump).journal transactions) := by
  apply Machine.run_induction _ (fun _ => True) (ReplayInvariant syscalls hash)
  · exact ⟨rfl, by simp [program]⟩
  · intro ledger journal transaction next event earlier _ committed
    rcases consumed_of_commit hash committed with ⟨other, unchanged⟩ |
      ⟨here, vacant, mark, marked, markHash, created⟩
    · refine ⟨?_, ?_⟩
      · rw [List.countP_append, earlier.once, unchanged]
        simp [other]
      · intro mark found
        rw [unchanged] at found
        rcases earlier.authentic mark found with ⟨markHash, entry, member, created⟩
        exact ⟨markHash, entry, List.mem_append_left _ member, created⟩
    · refine ⟨?_, ?_⟩
      · rw [List.countP_append, earlier.once, vacant, marked]
        simp [here]
      · intro found foundAt
        rw [marked] at foundAt
        cases foundAt
        exact ⟨markHash, _, List.mem_append_right _ (List.mem_singleton_self _), created⟩
  · simp

/-- In every run a digest is consumed at most once, and every mark at the
address of a digest holds that digest and was created by a call that verified
the VAA under the active guardian set its header names. -/
theorem replay_safety (transactions : List Transaction) :
    (∀ hash, ((program syscalls canonicalBump).journal transactions).countP
        (consumes syscalls hash) ≤ 1) ∧
      ∀ hash mark,
        (program syscalls canonicalBump).state transactions (.consumed hash) = some mark →
        mark.hash = hash ∧
          ∃ entry ∈ (program syscalls canonicalBump).journal transactions,
            CreatedBy syscalls hash mark entry := by
  constructor
  · intro hash
    rw [(replayInvariant hash transactions).once]
    cases (program syscalls canonicalBump).state transactions (.consumed hash) <;> simp
  · intro hash mark
    exact (replayInvariant hash transactions).authentic mark

end

end WormVerify.OnChain
