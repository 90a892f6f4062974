import WormVerify.Foundation.Representation
import WormVerify.OnChain.Permanence

/-! # Account data

The framework keeps an account as a discriminator of its type and then its
fields, in data of the size that the account was created with. The accounts that
an instruction may write are written back over the front of their data.
-/

namespace WormVerify.OnChain

open Checked

inductive AccountType
  | bridgeConfig
  | guardianSet
  | consumedVaa
  | emitterSequence
  | postedMessage
  deriving DecidableEq

def Pda.accountType : Pda → AccountType
  | .config => .bridgeConfig
  | .guardianSet _ => .guardianSet
  | .consumed _ => .consumedVaa
  | .emitter _ => .emitterSequence
  | .message _ _ => .postedMessage

/-! ## Fields and space -/

namespace BridgeConfig

def layout : Layout BridgeConfig :=
  (Layout.pair (.array 32) <| .pair (.word UInt16) <| .pair (.word UInt32) <|
    .pair (.word UInt32) <| .pair (.word UInt64) .byte).through
    (fun config => (config.governanceAuthority, config.chainId, config.currentGuardianSetIndex,
      config.guardianSetTtlSeconds, config.emitterSequence, config.bump))
    (fun (governanceAuthority, chainId, currentGuardianSetIndex, guardianSetTtlSeconds,
        emitterSequence, bump) =>
      { governanceAuthority, chainId, currentGuardianSetIndex, guardianSetTtlSeconds,
        emitterSequence, bump })
    fun _ => rfl

def space : Nat := 8 + 32 + 2 + 4 + 4 + 8 + 1

end BridgeConfig

namespace GuardianSet

def layout : Layout GuardianSet :=
  (Layout.pair (.word UInt32) <| .pair (Layout.array 20).vector <| .pair .i64 <|
    .pair .i64 .byte).through
    (fun set => (set.index, set.keys, set.creationTime, set.expirationTime, set.bump))
    (fun (index, keys, creationTime, expirationTime, bump) =>
      { index, keys, creationTime, expirationTime, bump })
    fun _ => rfl

def space : Nat := 8 + 4 + (4 + maxGuardians * 20) + 8 + 8 + 1

end GuardianSet

namespace ConsumedVaa

def layout : Layout ConsumedVaa :=
  (Layout.pair (.array 32) <| .pair (.word UInt64) .byte).through
    (fun consumed => (consumed.hash, consumed.sequence, consumed.bump))
    (fun (hash, sequence, bump) => { hash, sequence, bump })
    fun _ => rfl

def space : Nat := 8 + 32 + 8 + 1

end ConsumedVaa

namespace EmitterSequence

def layout : Layout EmitterSequence :=
  (Layout.pair (.array 32) <| .pair (.word UInt64) .byte).through
    (fun tracker => (tracker.emitter, tracker.sequence, tracker.bump))
    (fun (emitter, sequence, bump) => { emitter, sequence, bump })
    fun _ => rfl

def space : Nat := 8 + 32 + 8 + 1

end EmitterSequence

namespace PostedMessage

def layout : Layout PostedMessage :=
  (Layout.pair (.array 32) <| .pair (.word UInt64) <| .pair (.word UInt32) <| .pair .byte <|
    .pair .i64 <| .pair Layout.byte.vector .byte).through
    (fun message => (message.emitter, message.sequence, message.nonce,
      message.consistencyLevel, message.submissionTime, message.payload, message.bump))
    (fun (emitter, sequence, nonce, consistencyLevel, submissionTime, payload, bump) =>
      { emitter, sequence, nonce, consistencyLevel, submissionTime, payload, bump })
    fun _ => rfl

def space (payloadLen : Nat) : Nat := 8 + 32 + 8 + 4 + 1 + 8 + (4 + payloadLen) + 1

end PostedMessage

namespace Pda

def layout : (pda : Pda) → Layout pda.Account
  | .config => BridgeConfig.layout
  | .guardianSet _ => GuardianSet.layout
  | .consumed _ => ConsumedVaa.layout
  | .emitter _ => EmitterSequence.layout
  | .message _ _ => PostedMessage.layout

def space : (pda : Pda) → pda.Account → Nat
  | .config, _ => BridgeConfig.space
  | .guardianSet _, _ => GuardianSet.space
  | .consumed _, _ => ConsumedVaa.space
  | .emitter _, _ => EmitterSequence.space
  | .message _ _, posted => PostedMessage.space posted.payload.length

end Pda

/-! ## The framework -/

abbrev Store := Pda → Option (List UInt8)

inductive StorageError
  | program (error : ProgramError)
  | accountDidNotSerialize (account : Pda)
  deriving DecidableEq

/-- The accounts that an instruction creates or declares mutable. -/
def writable (ledger : Ledger) : Instruction → List Pda
  | .initializeBridge _ _ _ guardianSetIndex _ => [.config, .guardianSet guardianSetIndex]
  | .postMessage emitter _ _ _ =>
      let tracker : EmitterSequence := (ledger (.emitter emitter)).getD ⟨.default, 0, 0⟩
      [.emitter emitter, .message emitter tracker.sequence]
  | .verifyVaa _ vaaHash _ => [.consumed vaaHash]
  | .upgradeGuardianSet _ newIndex _ =>
      let config : Option BridgeConfig := ledger .config
      .config :: (config.map fun config => .guardianSet config.currentGuardianSetIndex).toList ++
        [.guardianSet newIndex]

section

variable (discriminator : AccountType → Bytes 8)

def serialize (pda : Pda) (account : pda.Account) : List UInt8 :=
  (discriminator pda.accountType).val ++ pda.layout.write account

/-- What follows the fields is ignored. -/
def deserialize (pda : Pda) (data : List UInt8) : Option pda.Account := do
  let (found, data) ← (Layout.array 8).read data
  guard (found = discriminator pda.accountType)
  let (account, _) ← pda.layout.read data
  return account

def fetch (store : Store) : Ledger := fun pda => (store pda).bind (deserialize discriminator pda)

/-- Write an account back. The data of a new account is all zero. -/
def exit (next : Ledger) (store : Store) (pda : Pda) : Checked StorageError Store :=
  match next pda with
  | none => .ok store
  | some account => do
      let data := (store pda).getD (.replicate (pda.space account) 0)
      let written ← okOr (overwrite data (serialize discriminator pda account))
        (.accountDidNotSerialize pda)
      return Function.update store pda (some written)

variable (syscalls : Syscalls) (canonicalBump : Pda → UInt8)

def executeStored (store : Store) (transaction : Transaction) :
    Checked StorageError (Store × Option Event) := do
  let ledger := fetch discriminator store
  let (next, event) ← mapError .program (execute syscalls canonicalBump ledger transaction)
  let store ← (writable ledger transaction.instruction).foldlM (exit discriminator next) store
  return (store, event)

/-- The program as it runs on the data of its accounts. -/
def storage : Machine Store Transaction (Fault StorageError) (Option Event) where
  initial _ := none
  execute := executeStored discriminator syscalls canonicalBump

end

/-! ## What fits -/

def Pda.size : (pda : Pda) → pda.Account → Nat
  | .config, _ => BridgeConfig.space
  | .guardianSet _, set => 8 + 4 + (4 + set.keys.length * 20) + 8 + 8 + 1
  | .consumed _, _ => ConsumedVaa.space
  | .emitter _, _ => EmitterSequence.space
  | .message _ _, posted => PostedMessage.space posted.payload.length

section

variable {discriminator : AccountType → Bytes 8}

theorem serialize_length (pda : Pda) (account : pda.Account) :
    (serialize discriminator pda account).length = pda.size account := by
  rw [serialize, List.length_append, (discriminator pda.accountType).property]
  cases pda with
  | config => simp [Pda.layout, BridgeConfig.layout, Pda.size, BridgeConfig.space]
  | guardianSet index =>
      simp [Pda.layout, GuardianSet.layout, Pda.size,
        (Layout.array 20).vector_length Layout.array_length]
      omega
  | consumed hash => simp [Pda.layout, ConsumedVaa.layout, Pda.size, ConsumedVaa.space]
  | emitter key => simp [Pda.layout, EmitterSequence.layout, Pda.size, EmitterSequence.space]
  | message key sequence =>
      simp [Pda.layout, PostedMessage.layout, Pda.size, PostedMessage.space,
        Layout.byte.vector_length Layout.byte_length]
      omega

theorem deserialize_serialize {pda : Pda} {account : pda.Account}
    (writable : pda.layout.Writable account) (rest : List UInt8) :
    deserialize discriminator pda (serialize discriminator pda account ++ rest) =
      some account := by
  have header := (Layout.array 8).read_write (discriminator pda.accountType) trivial
    (pda.layout.write account ++ rest)
  change (Layout.array 8).read ((discriminator pda.accountType).val ++ _) = _ at header
  rw [deserialize, serialize, List.append_assoc, header]
  simp [pda.layout.read_write account writable]

end

def Storable : (pda : Pda) → pda.Account → Prop
  | .guardianSet _, set => set.keys.length ≤ maxGuardians
  | .message _ _, posted => posted.payload.length ≤ maxPayloadLen
  | _, _ => True

namespace Storable

variable {pda : Pda} {account : pda.Account}

theorem fits (storable : Storable pda account) : pda.size account ≤ pda.space account := by
  cases pda with
  | config => exact Nat.le_refl _
  | guardianSet index =>
      have bounded : account.keys.length * 20 ≤ maxGuardians * 20 :=
        Nat.mul_le_mul_right _ storable
      simp only [Pda.size, Pda.space, GuardianSet.space]
      omega
  | consumed hash => exact Nat.le_refl _
  | emitter key => exact Nat.le_refl _
  | message key sequence => exact Nat.le_refl _

theorem writable (storable : Storable pda account) : pda.layout.Writable account := by
  cases pda with
  | config => exact ⟨trivial, trivial, trivial, trivial, trivial, trivial⟩
  | guardianSet index =>
      have few : account.keys.length < 2 ^ 32 := Nat.lt_of_le_of_lt storable (by decide)
      exact ⟨trivial, ⟨few, fun _ _ => trivial⟩, trivial, trivial, trivial⟩
  | consumed hash => exact ⟨trivial, trivial, trivial⟩
  | emitter key => exact ⟨trivial, trivial, trivial⟩
  | message key sequence =>
      have short : account.payload.length < 2 ^ 32 := Nat.lt_of_le_of_lt storable (by decide)
      exact ⟨trivial, trivial, trivial, trivial, trivial, ⟨short, fun _ _ => trivial⟩, trivial⟩

end Storable

def AllStorable (ledger : Ledger) : Prop :=
  ∀ pda (account : pda.Account), ledger pda = some account → Storable pda account

section

variable {syscalls : Syscalls} {canonicalBump : Pda → UInt8} {ledger next : Ledger}
  {transaction : Transaction} {event : Option Event}

theorem AllStorable.store (all : AllStorable ledger) (pda : Pda) {account : pda.Account}
    (storable : Storable pda account) : AllStorable (ledger.store pda account) := by
  intro other stored found
  by_cases same : other = pda
  · subst same
    rw [Ledger.store_same] at found
    cases found
    exact storable
  · rw [Ledger.store_other _ _ same] at found
    exact all other stored found

theorem AllStorable.of_commit (all : AllStorable ledger)
    (committed : execute syscalls canonicalBump ledger transaction = .ok (next, event)) :
    AllStorable next := by
  rcases transaction with ⟨signers, now, instruction⟩
  cases instruction with
  | initializeBridge authority chainId ttl index keys =>
      rcases initializeBridge_eq_ok.mp committed with ⟨_, _, _, small, _, rfl⟩
      exact (all.store .config trivial).store (.guardianSet index) small
  | postMessage emitter nonce level payload =>
      rcases postMessage_eq_ok.mp committed with ⟨tracker, _, _, _, _, short, _, _, rfl⟩
      exact (all.store (.emitter emitter) trivial).store (.message emitter tracker.sequence) short
  | verifyVaa index vaaHash vaaBytes =>
      rcases verifyVaa_eq_ok.mp committed with ⟨_, _, _, _, _, _, _, _, _, _, _, _, _, _, _, rfl⟩
      exact all.store (.consumed vaaHash) trivial
  | upgradeGuardianSet authority newIndex keys =>
      rcases upgradeGuardianSet_eq_ok.mp committed with ⟨config, old, expirationTime, _, oldAt, _,
        _, _, _, _, _, small, _, _, _, rfl⟩
      have superseded : old.keys.length ≤ maxGuardians :=
        all (.guardianSet config.currentGuardianSetIndex) old oldAt
      have expired : AllStorable (ledger.store (.guardianSet config.currentGuardianSetIndex)
          { old with expirationTime }) := all.store (.guardianSet _) superseded
      have rotated := @AllStorable.store _ expired (.guardianSet newIndex)
        (freshSet canonicalBump now newIndex keys) small
      exact rotated.store .config trivial

theorem untouched_of_commit
    (committed : execute syscalls canonicalBump ledger transaction = .ok (next, event))
    {pda : Pda} (readOnly : pda ∉ writable ledger transaction.instruction) :
    next pda = ledger pda := by
  rcases transaction with ⟨signers, now, instruction⟩
  cases instruction with
  | initializeBridge authority chainId ttl index keys =>
      rcases initializeBridge_eq_ok.mp committed with ⟨_, _, _, _, _, rfl⟩
      simp only [writable, List.mem_cons, List.not_mem_nil, or_false, not_or] at readOnly
      rw [Ledger.store_other _ _ readOnly.2, Ledger.store_other _ _ readOnly.1]
  | postMessage emitter nonce level payload =>
      rcases postMessage_eq_ok.mp committed with ⟨tracker, _, trackerIs, _, _, _, _, _, rfl⟩
      simp only [writable, List.mem_cons, List.not_mem_nil, or_false, not_or] at readOnly
      rw [← @claimedTracker_sequence canonicalBump, ← trackerIs] at readOnly
      rw [Ledger.store_other _ _ readOnly.2, Ledger.store_other _ _ readOnly.1]
  | verifyVaa index vaaHash vaaBytes =>
      simp only [writable, List.mem_singleton] at readOnly
      exact verifyVaa_frame committed readOnly
  | upgradeGuardianSet authority newIndex keys =>
      rcases upgradeGuardianSet_eq_ok.mp committed with ⟨config, _, _, configured, _, _, _, _, _,
        _, _, _, _, _, _, rfl⟩
      simp only [writable, configured, List.cons_append, List.nil_append, List.mem_cons,
        Option.map_some, Option.toList_some, List.not_mem_nil, or_false, not_or] at readOnly
      rw [Ledger.store_other _ _ readOnly.1, Ledger.store_other _ _ readOnly.2.2,
        Ledger.store_other _ _ readOnly.2.1]

theorem Grows.stays (grows : Grows ledger next) {pda : Pda} {old : pda.Account}
    (found : ledger pda = some old) :
    ∃ new, next pda = some new ∧ pda.size new = pda.size old ∧ pda.space new = pda.space old := by
  cases pda with
  | config =>
      rcases grows.config old found with ⟨_, _, stored⟩
      exact ⟨_, stored, rfl, rfl⟩
  | guardianSet index =>
      rcases grows.guardianSet index old found with ⟨_, stored⟩
      exact ⟨_, stored, rfl, rfl⟩
  | consumed hash => exact ⟨_, grows.consumed hash old found, rfl, rfl⟩
  | emitter key =>
      rcases grows.emitter key old found with ⟨_, _, stored⟩
      exact ⟨_, stored, rfl, rfl⟩
  | message key sequence => exact ⟨_, grows.message key sequence old found, rfl, rfl⟩

end

/-! ## The ledger as account data -/

section

variable (discriminator : AccountType → Bytes 8)

/-- The data of every account: what is written, and zeros up to its space. -/
def held (ledger : Ledger) : Store := fun pda =>
  (ledger pda).map fun account =>
    padded (pda.space account) (serialize discriminator pda account)

variable {discriminator} {ledger next : Ledger}

theorem fetch_held (all : AllStorable ledger) :
    fetch discriminator (held discriminator ledger) = ledger := by
  funext pda
  rw [fetch, held]
  cases found : ledger pda with
  | none => rfl
  | some account => exact deserialize_serialize (all pda account found).writable _

theorem exit_held (grows : Grows ledger next) (all : AllStorable next) {store : Store} {pda : Pda}
    (stored : store pda = held discriminator ledger pda ∨
      store pda = held discriminator next pda) :
    exit discriminator next store pda =
      .ok (Function.update store pda (held discriminator next pda)) := by
  cases after : next pda with
  | none =>
      have vacant : store pda = none := by
        rcases stored with before | written
        · cases found : ledger pda with
          | none => rw [before, held, found, Option.map_none]
          | some old =>
              rcases grows.stays found with ⟨_, stays, _⟩
              cases after.symm.trans stays
        · rw [written, held, after, Option.map_none]
      rw [exit, after, held, after, Option.map_none, ← vacant, Function.update_eq_self]
  | some account =>
      have fits : (serialize discriminator pda account).length ≤ pda.space account :=
        (serialize_length pda account).trans_le (all pda account after).fits
      have overwritten : overwrite ((store pda).getD (.replicate (pda.space account) 0))
          (serialize discriminator pda account) =
            some (padded (pda.space account) (serialize discriminator pda account)) := by
        rcases stored with before | written
        · cases found : ledger pda with
          | none =>
              rw [before, held, found]
              exact overwrite_zeros fits
          | some old =>
              rcases grows.stays found with ⟨new, stays, size, space⟩
              cases after.symm.trans stays
              rw [before, held, found, space]
              exact overwrite_padded (by rw [serialize_length, serialize_length, size])
        · rw [written, held, after]
          exact overwrite_padded rfl
      simp only [exit, held, after, Option.map_some, overwritten, okOr]
      rfl

theorem foldlM_exit (grows : Grows ledger next) (all : AllStorable next) (pdas : List Pda)
    {store : Store}
    (stored : ∀ pda, store pda = held discriminator ledger pda ∨
      store pda = held discriminator next pda)
    (elsewhere : ∀ pda, pda ∉ pdas → store pda = held discriminator next pda) :
    pdas.foldlM (exit discriminator next) store = .ok (held discriminator next) := by
  induction pdas generalizing store with
  | nil => exact congrArg _ (funext fun pda => elsewhere pda List.not_mem_nil)
  | cons first rest induction =>
      rw [List.foldlM_cons, exit_held grows all (stored first), ok_bind]
      apply induction
      · intro pda
        by_cases same : pda = first
        · subst same
          exact .inr (Function.update_self _ _ _)
        · rw [Function.update_of_ne same]
          exact stored pda
      · intro pda later
        by_cases same : pda = first
        · subst same
          exact Function.update_self _ _ _
        · rw [Function.update_of_ne same]
          exact elsewhere pda (List.not_mem_cons_of_ne_of_not_mem same later)

variable {syscalls : Syscalls} {canonicalBump : Pda → UInt8} {transaction : Transaction}
  {event : Option Event}

theorem executeStored_of_commit
    (logs : ∃ journal, ∀ emitter,
      MessageLog canonicalBump emitter ledger (posts emitter journal))
    (all : AllStorable ledger)
    (committed : execute syscalls canonicalBump ledger transaction = .ok (next, event)) :
    executeStored discriminator syscalls canonicalBump (held discriminator ledger) transaction =
      .ok (held discriminator next, event) := by
  rcases logs with ⟨journal, logs⟩
  have written : (writable ledger transaction.instruction).foldlM (exit discriminator next)
      (held discriminator ledger) = .ok (held discriminator next) := by
    apply foldlM_exit (.of_commit logs committed) (all.of_commit committed)
    · intro pda
      exact .inl rfl
    · intro pda readOnly
      rw [held, held, untouched_of_commit committed readOnly]
  simp only [executeStored, fetch_held all, committed, mapError_ok, ok_bind, written, pure_eq_ok]

theorem executeStored_of_abort (all : AllStorable ledger) {fault : Fault ProgramError}
    (aborted : execute syscalls canonicalBump ledger transaction = .error fault) :
    ∃ failure, executeStored discriminator syscalls canonicalBump (held discriminator ledger)
      transaction = .error failure := by
  simp only [executeStored, fetch_held all, aborted]
  cases fault with
  | returned error => exact ⟨_, rfl⟩
  | panicked => exact ⟨_, rfl⟩

variable (discriminator syscalls canonicalBump)

/-- The program never finds its accounts too small: on account data every run
commits the same transactions with the same events as on the accounts
themselves, the data of each account is as long as the space it was created
with, and it reads back as the account. -/
theorem storage_holds_the_ledger (transactions : List Transaction) :
    let ledger := (program syscalls canonicalBump).state transactions
    let store := (storage discriminator syscalls canonicalBump).state transactions
    fetch discriminator store = ledger ∧
      (∀ pda, (store pda).map List.length = (ledger pda).map pda.space) ∧
      ((storage discriminator syscalls canonicalBump).journal transactions).map
          (fun entry => (entry.op, entry.output)) =
        ((program syscalls canonicalBump).journal transactions).map
          fun entry => (entry.op, entry.output) := by
  intro ledger store
  have storable : ∀ transactions,
      AllStorable ((program syscalls canonicalBump).state transactions) := by
    intro transactions
    apply Machine.run_induction _ (fun _ => True) (fun ledger _ => AllStorable ledger)
    · intro pda account found
      cases found
    · intro ledger _ transaction next event all _ committed
      exact all.of_commit committed
    · simp
  rcases Machine.represented (program syscalls canonicalBump)
    (storage discriminator syscalls canonicalBump) (held discriminator)
    (fun ledger => AllStorable ledger ∧ ∃ journal, ∀ emitter,
      MessageLog canonicalBump emitter ledger (posts emitter journal))
    (fun transactions => ⟨storable transactions, _, fun emitter =>
      messageLog_run emitter transactions⟩) rfl
    (fun ledger transaction next event invariant committed =>
      executeStored_of_commit invariant.2 invariant.1 committed)
    (fun ledger transaction fault invariant aborted =>
      executeStored_of_abort invariant.1 aborted) transactions with ⟨same, alike⟩
  refine ⟨?_, ?_, alike⟩
  · rw [show store = held discriminator ledger from same, fetch_held (storable transactions)]
  · intro pda
    rw [show store = held discriminator ledger from same, held]
    cases found : ledger pda with
    | none => rfl
    | some account =>
        have fits := (storable transactions pda account found).fits
        rw [← @serialize_length discriminator] at fits
        simp [padded_length fits]

end

end WormVerify.OnChain
