import WormVerify.OnChain.Replay

/-! # The message log of an emitter

The program numbers the messages of every emitter from zero. The log of an
emitter is the list of its committed posts, and its accounts hold exactly that
list.
-/

namespace WormVerify.OnChain

open Checked

/-- What an emitter asked to be posted, and the clock reading of the post. -/
structure Post where
  nonce : UInt32
  consistencyLevel : UInt8
  submissionTime : Int64
  payload : List UInt8
  deriving DecidableEq

def Transaction.PostsAs (emitter : Pubkey) (transaction : Transaction) : Prop :=
  match transaction.instruction with
  | .postMessage poster _ _ _ => poster = emitter
  | _ => False

def postBy (emitter : Pubkey) (entry : Entry) : Option Post :=
  match entry.op.instruction with
  | .postMessage poster nonce consistencyLevel payload =>
      if poster = emitter then some ⟨nonce, consistencyLevel, entry.op.now, payload⟩ else none
  | _ => none

def posts (emitter : Pubkey) (journal : List Entry) : List Post :=
  journal.filterMap (postBy emitter)

section

variable (canonicalBump : Pda → UInt8)

def Post.account (post : Post) (emitter : Pubkey) (sequence : UInt64) : PostedMessage where
  emitter := emitter
  sequence := sequence
  nonce := post.nonce
  consistencyLevel := post.consistencyLevel
  submissionTime := post.submissionTime
  payload := post.payload
  bump := canonicalBump (.message emitter sequence)

def counterAt (emitter : Pubkey) (count : Nat) : EmitterSequence where
  emitter := emitter
  sequence := UInt64.ofNat count
  bump := canonicalBump (.emitter emitter)

/-- The accounts of the emitter hold the posts, numbered from zero without a
gap, and its counter is the number of the posts. -/
structure MessageLog (emitter : Pubkey) (ledger : Ledger) (posted : List Post) : Prop where
  counter : ledger (.emitter emitter) =
    if posted = [] then none else some (counterAt canonicalBump emitter posted.length)
  messages : ∀ sequence, ledger (.message emitter sequence) =
    posted[sequence.toNat]?.map fun post => post.account canonicalBump emitter sequence
  bounded : posted.length < 2 ^ 64

def SameEmitter (emitter : Pubkey) (ledger next : Ledger) : Prop :=
  next (.emitter emitter) = ledger (.emitter emitter) ∧
    ∀ sequence, next (.message emitter sequence) = ledger (.message emitter sequence)

end

section

variable {syscalls : Syscalls} {canonicalBump : Pda → UInt8} {emitter : Pubkey}
variable {ledger next : Ledger} {transaction : Transaction} {event : Option Event}

theorem sameEmitter_of_commit
    (committed : execute syscalls canonicalBump ledger transaction = .ok (next, event))
    (other : ¬transaction.PostsAs emitter) : SameEmitter emitter ledger next := by
  rcases transaction with ⟨signers, now, instruction⟩
  cases instruction with
  | initializeBridge authority chainId ttl index keys =>
      rcases initializeBridge_eq_ok.mp committed with ⟨_, _, _, _, _, rfl⟩
      constructor
      · rw [Ledger.store_other _ _ (by simp), Ledger.store_other _ _ (by simp)]
      · intro sequence
        rw [Ledger.store_other _ _ (by simp), Ledger.store_other _ _ (by simp)]
  | postMessage poster nonce consistencyLevel payload =>
      have different : emitter ≠ poster := fun same => other same.symm
      rcases postMessage_eq_ok.mp committed with ⟨_, _, _, _, _, _, _, _, rfl⟩
      constructor
      · rw [Ledger.store_other _ _ (by simp), Ledger.store_other _ _ (by simp [different])]
      · intro sequence
        rw [Ledger.store_other _ _ (by simp [different]), Ledger.store_other _ _ (by simp)]
  | upgradeGuardianSet authority newIndex keys =>
      rcases upgradeGuardianSet_eq_ok.mp committed with
        ⟨_, _, _, _, _, _, _, _, _, _, _, _, _, _, _, rfl⟩
      constructor
      · rw [Ledger.store_other _ _ (by simp), Ledger.store_other _ _ (by simp),
          Ledger.store_other _ _ (by simp)]
      · intro sequence
        rw [Ledger.store_other _ _ (by simp), Ledger.store_other _ _ (by simp),
          Ledger.store_other _ _ (by simp)]
  | verifyVaa index vaaHash vaaBytes =>
      exact ⟨verifyVaa_frame committed (by simp), fun _ => verifyVaa_frame committed (by simp)⟩

theorem postBy_of_other {entry : Entry} (other : ¬entry.op.PostsAs emitter) :
    postBy emitter entry = none := by
  rcases entry with ⟨before, ⟨signers, now, instruction⟩, after, output⟩
  cases instruction with
  | postMessage poster nonce consistencyLevel payload => exact if_neg other
  | initializeBridge authority chainId ttl index keys => rfl
  | upgradeGuardianSet authority newIndex keys => rfl
  | verifyVaa index vaaHash vaaBytes => rfl

namespace MessageLog

variable {posted : List Post}

theorem empty : MessageLog canonicalBump emitter .empty [] where
  counter := rfl
  messages := by simp
  bounded := by decide

theorem of_same (log : MessageLog canonicalBump emitter ledger posted)
    (same : SameEmitter emitter ledger next) : MessageLog canonicalBump emitter next posted where
  counter := same.1.trans log.counter
  messages sequence := (same.2 sequence).trans (log.messages sequence)
  bounded := log.bounded

theorem count_toNat (log : MessageLog canonicalBump emitter ledger posted) :
    (UInt64.ofNat posted.length).toNat = posted.length :=
  UInt64.toNat_ofNat_of_lt log.bounded

theorem claimedTracker_eq (log : MessageLog canonicalBump emitter ledger posted) :
    claimedTracker canonicalBump ledger emitter =
      counterAt canonicalBump emitter posted.length := by
  rw [claimedTracker, log.counter]
  by_cases first : posted = []
  · simp [first, counterAt]
  · by_cases zeroKey : emitter = .default
    · simp [first, counterAt, zeroKey]
    · simp [first, counterAt, zeroKey]

theorem append (log : MessageLog canonicalBump emitter ledger posted)
    {signers : List Pubkey} {post : Post}
    (committed : OnChain.postMessage canonicalBump ledger signers post.submissionTime emitter
      post.nonce post.consistencyLevel post.payload = .ok (next, event)) :
    MessageLog canonicalBump emitter next (posted ++ [post]) := by
  rcases postMessage_eq_ok.mp committed with
    ⟨_, successor, rfl, _, vacant, _, advances, _, rfl⟩
  have number := log.count_toNat
  rw [log.claimedTracker_eq] at advances ⊢
  simp only [counterAt, number] at advances ⊢
  have successorIs : successor = UInt64.ofNat (posted.length + 1) := by
    rw [← advances, UInt64.ofNat_toNat]
  refine ⟨?_, ?_, ?_⟩
  · rw [Ledger.store_other _ _ (by simp), Ledger.store_same, successorIs]
    simp [counterAt]
  · intro sequence
    by_cases newest : sequence = UInt64.ofNat posted.length
    · subst newest
      rw [Ledger.store_same, number]
      simp [Post.account]
    · have elsewhere : sequence.toNat ≠ posted.length := by
        intro equal
        apply newest
        rw [← equal, UInt64.ofNat_toNat]
      rw [Ledger.store_other _ _ (by simp [newest]), Ledger.store_other _ _ (by simp),
        log.messages]
      rcases Nat.lt_or_gt_of_ne elsewhere with earlier | later
      · rw [List.getElem?_append_left earlier]
      · rw [List.getElem?_eq_none (by omega), List.getElem?_eq_none (by simp; omega)]
  · have inRange := successor.toNat_lt
    rw [List.length_append, List.length_singleton, ← advances]
    exact inRange

/-- When the counter holds its largest value, no post succeeds. -/
theorem full (log : MessageLog canonicalBump emitter ledger posted)
    (largest : posted.length + 1 = 2 ^ 64) (posts : transaction.PostsAs emitter) :
    ∀ result, execute syscalls canonicalBump ledger transaction ≠ .ok result := by
  intro result committed
  rcases transaction with ⟨signers, now, instruction⟩
  cases instruction with
  | postMessage poster nonce consistencyLevel payload =>
      cases posts
      rcases postMessage_eq_ok.mp committed with ⟨_, successor, rfl, _, _, _, advances, _⟩
      have inRange := successor.toNat_lt
      rw [log.claimedTracker_eq, counterAt, log.count_toNat] at advances
      omega
  | initializeBridge authority chainId ttl index keys => exact posts
  | upgradeGuardianSet authority newIndex keys => exact posts
  | verifyVaa index vaaHash vaaBytes => exact posts

theorem commit {journal : List Entry}
    (log : MessageLog canonicalBump emitter ledger (posts emitter journal))
    (committed : execute syscalls canonicalBump ledger transaction = .ok (next, event)) :
    MessageLog canonicalBump emitter next
      (posts emitter (journal ++ [⟨ledger, transaction, next, event⟩])) := by
  rw [posts, List.filterMap_append]
  by_cases own : transaction.PostsAs emitter
  · rcases transaction with ⟨signers, now, instruction⟩
    cases instruction with
    | postMessage poster nonce consistencyLevel payload =>
        cases own
        have appended := @append canonicalBump emitter ledger next event _ log signers
          ⟨nonce, consistencyLevel, now, payload⟩ committed
        simpa [postBy, posts] using appended
    | initializeBridge authority chainId ttl index keys => exact own.elim
    | upgradeGuardianSet authority newIndex keys => exact own.elim
    | verifyVaa index vaaHash vaaBytes => exact own.elim
  · rw [List.filterMap_cons_none (postBy_of_other own), List.filterMap_nil, List.append_nil]
    exact log.of_same (sameEmitter_of_commit committed own)

end MessageLog

theorem messageLog_run (emitter : Pubkey) (transactions : List Transaction) :
    MessageLog canonicalBump emitter ((program syscalls canonicalBump).state transactions)
      (posts emitter ((program syscalls canonicalBump).journal transactions)) := by
  apply Machine.run_induction _ (fun _ => True) (fun ledger journal =>
    MessageLog canonicalBump emitter ledger (posts emitter journal))
  · exact .empty
  · intro ledger journal transaction next event log _ committed
    exact log.commit committed
  · simp

theorem message_of_commit {sequence : UInt64} {message : PostedMessage}
    (committed : execute syscalls canonicalBump ledger transaction = .ok (next, event))
    (stored : ledger (.message emitter sequence) = some message) :
    next (.message emitter sequence) = some message := by
  by_cases own : transaction.PostsAs emitter
  · rcases transaction with ⟨signers, now, instruction⟩
    cases instruction with
    | postMessage poster nonce consistencyLevel payload =>
        cases own
        rcases postMessage_eq_ok.mp committed with ⟨tracker, _, _, _, vacant, _, _, _, rfl⟩
        have elsewhere : sequence ≠ tracker.sequence := by
          intro same
          rw [same, vacant] at stored
          cases stored
        rw [Ledger.store_other _ _ (by simp [elsewhere]), Ledger.store_other _ _ (by simp)]
        exact stored
    | initializeBridge authority chainId ttl index keys => exact own.elim
    | upgradeGuardianSet authority newIndex keys => exact own.elim
    | verifyVaa index vaaHash vaaBytes => exact own.elim
  · rw [(sameEmitter_of_commit committed own).2]
    exact stored

end

variable (syscalls : Syscalls) (canonicalBump : Pda → UInt8)

/-- In every reachable state the accounts of an emitter are its log: as many
messages as it posted, numbered from zero, each as it was posted, and a counter
that is their number. They stay so, other instructions and failed posts leave
them alone, and the counter stops before it wraps. -/
theorem emitter_message_log (transactions : List Transaction) (emitter : Pubkey) :
    let machine := program syscalls canonicalBump
    let posted := posts emitter (machine.journal transactions)
    MessageLog canonicalBump emitter (machine.state transactions) posted ∧
      (∀ later sequence message,
        machine.state transactions (.message emitter sequence) = some message →
        machine.state (transactions ++ later) (.message emitter sequence) = some message) ∧
      (∀ transaction, ¬transaction.PostsAs emitter ∨
          (∃ error, machine.execute (machine.state transactions) transaction = .error error) →
        SameEmitter emitter (machine.state transactions)
          (machine.state (transactions ++ [transaction]))) ∧
      (posted.length + 1 = 2 ^ 64 → ∀ transaction, transaction.PostsAs emitter →
        (∃ error, machine.execute (machine.state transactions) transaction = .error error) ∧
          machine.state (transactions ++ [transaction]) = machine.state transactions) := by
  intro machine posted
  have log : MessageLog canonicalBump emitter (machine.state transactions) posted :=
    messageLog_run emitter transactions
  refine ⟨log, ?_, ?_, ?_⟩
  · intro later sequence message
    exact Machine.state_append_related machine (fun _ => True) (fun _ _ => True)
      (fun _ _ => trivial)
      (fun ledger next => ledger (.message emitter sequence) = some message →
        next (.message emitter sequence) = some message)
      (fun _ stored => stored) (fun _ _ _ first second stored => second (first stored))
      (fun _ _ _ _ _ _ _ committed => message_of_commit committed) transactions later
      (fun _ _ => trivial)
  · intro transaction quiet
    cases outcome : machine.execute (machine.state transactions) transaction with
    | error error =>
        rw [(machine.concat_of_error outcome).1]
        exact ⟨rfl, fun _ => rfl⟩
    | ok result =>
        rcases result with ⟨next, event⟩
        rw [(machine.concat_of_ok outcome).1]
        rcases quiet with other | ⟨error, aborted⟩
        · exact sameEmitter_of_commit outcome other
        · rw [outcome] at aborted
          cases aborted
  · intro largest transaction own
    cases outcome : machine.execute (machine.state transactions) transaction with
    | error error => exact ⟨⟨error, rfl⟩, (machine.concat_of_error outcome).1⟩
    | ok result => exact absurd outcome (log.full largest own result)

end WormVerify.OnChain
