import WormVerify.OnChain.State
import WormVerify.OnChain.Verify
import WormVerify.Foundation.Transactions

/-! # The on-chain program

Each instruction resolves its accounts in the order of the framework: existing
accounts first, then accounts to be created, then the remaining constraints.
The handler runs last, and its writes reach the ledger only when all of it
succeeds.
-/

namespace WormVerify.OnChain

open Checked

inductive ProgramError
  | worm (error : WormError)
  | accountNotInitialized (account : Pda)
  | accountAlreadyInUse (account : Pda)
  | accountNotSigner (key : Pubkey)
  | constraintSeeds (account : Pda)
  deriving DecidableEq

inductive Event
  | messagePosted (emitter : Pubkey) (sequence : UInt64) (nonce : UInt32)
  | vaaVerified (emitterChain : UInt16) (emitterAddress : Bytes 32) (sequence : UInt64)
      (hash : Bytes 32)
  | guardianSetUpgraded (oldIndex newIndex : UInt32) (size : UInt8)
  deriving DecidableEq

/-! ## Account resolution -/

def load (ledger : Ledger) (pda : Pda) : Checked ProgramError pda.Account :=
  okOr (ledger pda) (.accountNotInitialized pda)

/-- Creating an account fails exactly when it exists. -/
def requireVacant (ledger : Ledger) (pda : Pda) : Checked ProgramError Unit :=
  require (ledger pda = none) (.accountAlreadyInUse pda)

def requireSigner (signers : List Pubkey) (key : Pubkey) : Checked ProgramError Unit :=
  require (key ∈ signers) (.accountNotSigner key)

section

variable (canonicalBump : Pda → UInt8)

/-- The address derived with the stored bump is the account's own. -/
def requireBump (pda : Pda) (bump : UInt8) : Checked ProgramError Unit :=
  require (bump = canonicalBump pda) (.constraintSeeds pda)

/-! ## Instructions -/

def initializeBridge (ledger : Ledger) (now : Int64) (governanceAuthority : Pubkey)
    (chainId : UInt16) (guardianSetTtlSeconds guardianSetIndex : UInt32)
    (initialGuardians : List GuardianAddress) :
    Checked ProgramError (Ledger × Option Event) := do
  requireVacant ledger .config
  requireVacant ledger (.guardianSet guardianSetIndex)
  require (initialGuardians ≠ []) (.worm .emptyGuardianSet)
  require (initialGuardians.length ≤ maxGuardians) (.worm .guardianSetTooLarge)
  let config : BridgeConfig :=
    { governanceAuthority
      chainId
      currentGuardianSetIndex := guardianSetIndex
      guardianSetTtlSeconds
      emitterSequence := 0
      bump := canonicalBump .config }
  let set : GuardianSet :=
    { index := guardianSetIndex
      keys := initialGuardians
      creationTime := now
      expirationTime := 0
      bump := canonicalBump (.guardianSet guardianSetIndex) }
  return ((ledger.store .config config).store (.guardianSet guardianSetIndex) set, none)

def postMessage (ledger : Ledger) (signers : List Pubkey) (now : Int64) (emitter : Pubkey)
    (nonce : UInt32) (consistencyLevel : UInt8) (payload : List UInt8) :
    Checked ProgramError (Ledger × Option Event) := do
  requireSigner signers emitter
  -- A tracker that does not exist yet is created with all its fields zero.
  let tracker : EmitterSequence := (ledger (.emitter emitter)).getD ⟨.default, 0, 0⟩
  requireVacant ledger (.message emitter tracker.sequence)
  require (payload.length ≤ maxPayloadLen) (.worm .payloadTooLarge)
  let tracker :=
    if tracker.emitter = .default then
      { tracker with emitter, bump := canonicalBump (.emitter emitter) }
    else
      tracker
  let sequence := tracker.sequence
  let message : PostedMessage :=
    { emitter, sequence, nonce, consistencyLevel, submissionTime := now, payload
      bump := canonicalBump (.message emitter sequence) }
  let next ← okOr (checkedAddU64 sequence 1) (.worm .overflow)
  let tracker := { tracker with sequence := next }
  return ((ledger.store (.emitter emitter) tracker).store (.message emitter sequence) message,
    some (.messagePosted emitter sequence nonce))

def upgradeGuardianSet (ledger : Ledger) (signers : List Pubkey) (now : Int64)
    (governanceAuthority : Pubkey) (newIndex : UInt32) (newGuardians : List GuardianAddress) :
    Checked ProgramError (Ledger × Option Event) := do
  requireSigner signers governanceAuthority
  let config : BridgeConfig ← load ledger .config
  let old : GuardianSet ← load ledger (.guardianSet config.currentGuardianSetIndex)
  requireVacant ledger (.guardianSet newIndex)
  require (governanceAuthority = config.governanceAuthority) (.worm .unauthorized)
  requireBump canonicalBump .config config.bump
  requireBump canonicalBump (.guardianSet config.currentGuardianSetIndex) old.bump
  require (newGuardians ≠ []) (.worm .emptyGuardianSet)
  require (newGuardians.length ≤ maxGuardians) (.worm .guardianSetTooLarge)
  let successor ← addU32 config.currentGuardianSetIndex 1
  require (newIndex = successor) (.worm .invalidGuardianSetIndex)
  let expirationTime ←
    okOr (checkedAddI64 now (i64FromU32 config.guardianSetTtlSeconds)) (.worm .overflow)
  let size := UInt8.ofNat newGuardians.length
  let newSet : GuardianSet :=
    { index := newIndex
      keys := newGuardians
      creationTime := now
      expirationTime := 0
      bump := canonicalBump (.guardianSet newIndex) }
  let oldIndex ← subU32 newIndex 1
  let expired := ledger.store (.guardianSet config.currentGuardianSetIndex)
    { old with expirationTime }
  let rotated := expired.store (.guardianSet newIndex) newSet
  return (rotated.store .config { config with currentGuardianSetIndex := newIndex },
    some (.guardianSetUpgraded oldIndex newIndex size))

variable (syscalls : Syscalls)

def verifyVaa (ledger : Ledger) (now : Int64) (guardianSetIndex : UInt32)
    (vaaHash : Bytes 32) (vaaBytes : List UInt8) :
    Checked ProgramError (Ledger × Option Event) := do
  let config : BridgeConfig ← load ledger .config
  let set : GuardianSet ← load ledger (.guardianSet guardianSetIndex)
  requireVacant ledger (.consumed vaaHash)
  requireBump canonicalBump .config config.bump
  requireBump canonicalBump (.guardianSet guardianSetIndex) set.bump
  let parsed ← mapError .worm (ParsedVaa.parse syscalls vaaBytes)
  require (parsed.guardianSetIndex = guardianSetIndex) (.worm .guardianSetMismatch)
  require (parsed.hash = vaaHash) (.worm .invalidVaa)
  require (set.index = guardianSetIndex) (.worm .guardianSetMismatch)
  require (set.isActive now) (.worm .guardianSetExpired)
  mapError .worm (verifyQuorum syscalls parsed set.keys)
  let consumed : ConsumedVaa :=
    { hash := parsed.hash
      sequence := parsed.sequence
      bump := canonicalBump (.consumed vaaHash) }
  return (ledger.store (.consumed vaaHash) consumed,
    some (.vaaVerified parsed.emitterChain parsed.emitterAddress parsed.sequence parsed.hash))

end

/-! ## Transactions -/

inductive Instruction
  | initializeBridge (governanceAuthority : Pubkey) (chainId : UInt16)
      (guardianSetTtlSeconds guardianSetIndex : UInt32)
      (initialGuardians : List GuardianAddress)
  | postMessage (emitter : Pubkey) (nonce : UInt32) (consistencyLevel : UInt8)
      (payload : List UInt8)
  | verifyVaa (guardianSetIndex : UInt32) (vaaHash : Bytes 32) (vaaBytes : List UInt8)
  | upgradeGuardianSet (governanceAuthority : Pubkey) (newIndex : UInt32)
      (newGuardians : List GuardianAddress)
  deriving DecidableEq

structure Transaction where
  signers : List Pubkey
  /-- The clock reading at which the instruction runs. -/
  now : Int64
  instruction : Instruction

section

variable (syscalls : Syscalls) (canonicalBump : Pda → UInt8)

def execute (ledger : Ledger) (transaction : Transaction) :
    Checked ProgramError (Ledger × Option Event) :=
  match transaction.instruction with
  | .initializeBridge governanceAuthority chainId guardianSetTtlSeconds guardianSetIndex
      initialGuardians =>
      initializeBridge canonicalBump ledger transaction.now governanceAuthority chainId
        guardianSetTtlSeconds guardianSetIndex initialGuardians
  | .postMessage emitter nonce consistencyLevel payload =>
      postMessage canonicalBump ledger transaction.signers transaction.now emitter nonce
        consistencyLevel payload
  | .verifyVaa guardianSetIndex vaaHash vaaBytes =>
      verifyVaa canonicalBump syscalls ledger transaction.now guardianSetIndex vaaHash vaaBytes
  | .upgradeGuardianSet governanceAuthority newIndex newGuardians =>
      upgradeGuardianSet canonicalBump ledger transaction.signers transaction.now
        governanceAuthority newIndex newGuardians

def program : Machine Ledger Transaction (Fault ProgramError) (Option Event) where
  initial := .empty
  execute := execute syscalls canonicalBump

end

end WormVerify.OnChain
