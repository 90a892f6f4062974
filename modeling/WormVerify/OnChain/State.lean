import WormVerify.Wire
import Mathlib.Logic.Function.Basic

/-! # On-chain accounts

All accounts of the program live at program-derived addresses. The ledger is
indexed by the seeds, so that two accounts meet at one address only when their
seeds are the same.
-/

namespace WormVerify.OnChain

open Checked

abbrev Pubkey := Bytes 32

/-- The all-zero key, which a fresh account holds. -/
def Pubkey.default : Pubkey := Bytes.ofNat 32 0

structure BridgeConfig where
  governanceAuthority : Pubkey
  chainId : UInt16
  currentGuardianSetIndex : UInt32
  guardianSetTtlSeconds : UInt32
  emitterSequence : UInt64
  bump : UInt8
  deriving DecidableEq

structure GuardianSet where
  index : UInt32
  keys : List GuardianAddress
  creationTime : Int64
  /-- The time from which the set is no longer valid; zero means never. -/
  expirationTime : Int64
  bump : UInt8
  deriving DecidableEq

def GuardianSet.isActive (set : GuardianSet) (now : Int64) : Bool :=
  set.expirationTime == 0 || decide (now < set.expirationTime)

structure ConsumedVaa where
  hash : Bytes 32
  sequence : UInt64
  bump : UInt8
  deriving DecidableEq

structure PostedMessage where
  emitter : Pubkey
  sequence : UInt64
  nonce : UInt32
  consistencyLevel : UInt8
  submissionTime : Int64
  payload : List UInt8
  bump : UInt8
  deriving DecidableEq

structure EmitterSequence where
  emitter : Pubkey
  sequence : UInt64
  bump : UInt8
  deriving DecidableEq

/-! ## Addresses -/

inductive Pda
  | config
  | guardianSet (index : UInt32)
  | consumed (hash : Bytes 32)
  | emitter (key : Pubkey)
  | message (key : Pubkey) (sequence : UInt64)
  deriving DecidableEq

namespace Pda

def ascii (text : List Char) : List UInt8 := text.map fun char => UInt8.ofNat char.toNat

/-- The seeds that an address is derived from. -/
def seeds : Pda → List (List UInt8)
  | .config => [ascii ['c', 'o', 'n', 'f', 'i', 'g']]
  | .guardianSet index =>
      [ascii ['g', 'u', 'a', 'r', 'd', 'i', 'a', 'n', '_', 's', 'e', 't'], toLeBytes index]
  | .consumed hash => [ascii ['c', 'o', 'n', 's', 'u', 'm', 'e', 'd'], hash.val]
  | .emitter key => [ascii ['e', 'm', 'i', 't', 't', 'e', 'r'], key.val]
  | .message key sequence =>
      [ascii ['m', 'e', 's', 's', 'a', 'g', 'e'], key.val, toLeBytes sequence]

theorem seeds_injective : Function.Injective seeds := by
  intro left right equal
  cases left <;> cases right <;>
    simp_all [seeds, ascii, toLeBytes_injective.eq_iff, Subtype.ext_iff]

abbrev Account : Pda → Type
  | .config => BridgeConfig
  | .guardianSet _ => GuardianSet
  | .consumed _ => ConsumedVaa
  | .emitter _ => EmitterSequence
  | .message _ _ => PostedMessage

end Pda

/-! ## The ledger -/

abbrev Ledger := (pda : Pda) → Option pda.Account

namespace Ledger

def empty : Ledger := fun _ => none

def store (ledger : Ledger) (pda : Pda) (account : pda.Account) : Ledger :=
  Function.update ledger pda (some account)

variable (ledger : Ledger)

@[simp] theorem empty_apply (pda : Pda) : empty pda = none := rfl

@[simp] theorem store_same (pda : Pda) (account : pda.Account) :
    ledger.store pda account pda = some account := by
  simp [store]

theorem store_other {pda other : Pda} (account : pda.Account) (different : other ≠ pda) :
    ledger.store pda account other = ledger other := by
  simp [store, different]

@[simp] theorem store_config_guardianSet (config : BridgeConfig) (index : UInt32) :
    ledger.store .config config (.guardianSet index) = ledger (.guardianSet index) :=
  ledger.store_other _ (by simp)

@[simp] theorem store_guardianSet_config (set : GuardianSet) (index : UInt32) :
    ledger.store (.guardianSet index) set .config = ledger .config :=
  ledger.store_other _ (by simp)

theorem store_guardianSet (set : GuardianSet) (index other : UInt32) :
    ledger.store (.guardianSet index) set (.guardianSet other) =
      if other = index then some set else ledger (.guardianSet other) := by
  by_cases same : other = index
  · subst same
    simp
  · rw [if_neg same, store_other _ _ (by simpa using same)]

theorem created_guardianSet (config : BridgeConfig) (index other : UInt32)
    (first : GuardianSet) :
    (ledger.store .config config).store (.guardianSet index) first (.guardianSet other) =
      if other = index then some first else ledger (.guardianSet other) := by
  rw [store_guardianSet, store_config_guardianSet]

theorem rotated_guardianSet (config : BridgeConfig) (current newIndex other : UInt32)
    (superseded new : GuardianSet) :
    (((ledger.store (.guardianSet current) superseded).store (.guardianSet newIndex) new).store
        .config config) (.guardianSet other) =
      if other = newIndex then some new
      else if other = current then some superseded
      else ledger (.guardianSet other) := by
  rw [store_config_guardianSet, store_guardianSet, store_guardianSet]

variable {ledger}

theorem of_rotated_guardianSet {config : BridgeConfig} {current newIndex other : UInt32}
    {superseded new set : GuardianSet}
    (found : (((ledger.store (.guardianSet current) superseded).store (.guardianSet newIndex)
      new).store .config config) (.guardianSet other) = some set) :
    (other = newIndex ∧ set = new) ∨ (other = current ∧ set = superseded) ∨
      (other ≠ current ∧ ledger (.guardianSet other) = some set) := by
  rw [rotated_guardianSet] at found
  split at found
  · rename_i newest
    exact .inl ⟨newest, (Option.some.inj found).symm⟩
  · split at found
    · rename_i expired
      exact .inr (.inl ⟨expired, (Option.some.inj found).symm⟩)
    · rename_i past
      exact .inr (.inr ⟨past, found⟩)

end Ledger

end WormVerify.OnChain
