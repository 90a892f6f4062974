import WormVerify.Foundation.Representation
import WormVerify.OnChain.Messages

/-! # The bridge behind the accounts

The bridge keeps the guardian sets installed so far, one message log for each
emitter, and the digests consumed. The accounts of the program are nothing but
this history written out: counters, indices, expirations and bumps follow from
it.
-/

namespace WormVerify.OnChain

open Checked

/-! ## The history -/

structure Installation where
  keys : List GuardianAddress
  time : Int64
  deriving DecidableEq

/-- The guardian sets of an initialized bridge, the rotations oldest first. Their
indices fit the header of a VAA, and their deadlines the clock. -/
structure Deployment where
  governanceAuthority : Pubkey
  chainId : UInt16
  guardianSetTtlSeconds : UInt32
  firstIndex : UInt32
  genesis : Installation
  rotations : List Installation
  numbered : firstIndex.toNat + rotations.length < UInt32.size
  deadlines : ∀ rotation ∈ rotations,
    rotation.time.toInt + guardianSetTtlSeconds.toNat ≤ Int64.maxValue.toInt

namespace Deployment

def launch (governanceAuthority : Pubkey) (chainId : UInt16)
    (guardianSetTtlSeconds firstIndex : UInt32) (genesis : Installation) : Deployment where
  governanceAuthority := governanceAuthority
  chainId := chainId
  guardianSetTtlSeconds := guardianSetTtlSeconds
  firstIndex := firstIndex
  genesis := genesis
  rotations := []
  numbered := firstIndex.toNat_lt
  deadlines := List.forall_mem_nil _

variable (deployment : Deployment)

def current : Nat := deployment.firstIndex.toNat + deployment.rotations.length

def installation? (number : Nat) : Option Installation :=
  if deployment.firstIndex.toNat ≤ number then
    (deployment.genesis :: deployment.rotations)[number - deployment.firstIndex.toNat]?
  else
    none

/-- A set is given the time to live from the installation of its successor. -/
def deadline? (number : Nat) : Option Int :=
  (deployment.installation? (number + 1)).map fun successor =>
    successor.time.toInt + deployment.guardianSetTtlSeconds.toNat

/-- A deadline at the epoch counts as none. -/
def activeAt (number : Nat) (now : Int64) : Bool :=
  (deployment.deadline? number).all fun deadline => deadline = 0 ∨ now.toInt < deadline

def rotate (installed : Installation) (room : deployment.current + 1 < UInt32.size)
    (fits : installed.time.toInt + deployment.guardianSetTtlSeconds.toNat ≤
      Int64.maxValue.toInt) : Deployment :=
  { deployment with
    rotations := deployment.rotations ++ [installed]
    numbered := by
      rw [List.length_append]
      exact room
    deadlines := by
      rw [List.forall_mem_append, List.forall_mem_singleton]
      exact ⟨deployment.deadlines, fits⟩ }

end Deployment

/-- The posts of one emitter, no more than its counter can number. -/
abbrev PostLog := { posted : List Post // posted.length < UInt64.size }

structure Bridge where
  deployment : Option Deployment
  posts : Pubkey → PostLog
  /-- The sequence number of the message that was consumed under a digest. -/
  consumed : Bytes 32 → Option UInt64

def Admits (keys : List GuardianAddress) : Prop := keys ≠ [] ∧ keys.length ≤ maxGuardians

instance (keys : List GuardianAddress) : Decidable (Admits keys) :=
  inferInstanceAs (Decidable (_ ∧ _))

/-! ## The bridge as a machine -/

inductive Refused
  | refused
  deriving DecidableEq

namespace Bridge

def empty : Bridge where
  deployment := none
  posts _ := ⟨[], by decide⟩
  consumed _ := none

variable (syscalls : Syscalls)

def execute (bridge : Bridge) (transaction : Transaction) :
    Except Refused (Bridge × Option Event) :=
  match transaction.instruction with
  | .initializeBridge governanceAuthority chainId guardianSetTtlSeconds firstIndex keys =>
      if bridge.deployment.isNone ∧ Admits keys then
        let deployment : Deployment := .launch governanceAuthority chainId guardianSetTtlSeconds
          firstIndex ⟨keys, transaction.now⟩
        .ok ({ bridge with deployment := some deployment }, none)
      else
        .error .refused
  | .postMessage emitter nonce consistencyLevel payload =>
      let posted := (bridge.posts emitter).val
      if permitted : posted.length + 1 < UInt64.size ∧ transaction.signers.contains emitter ∧
          payload.length ≤ maxPayloadLen then
        let log : PostLog :=
          ⟨posted ++ [⟨nonce, consistencyLevel, transaction.now, payload⟩],
            List.length_append.trans_lt permitted.1⟩
        .ok ({ bridge with posts := Function.update bridge.posts emitter log },
          some (.messagePosted emitter (UInt64.ofNat posted.length) nonce))
      else
        .error .refused
  | .upgradeGuardianSet authority newIndex keys =>
      match bridge.deployment with
      | none => .error .refused
      | some deployment =>
          if permitted : newIndex.toNat = deployment.current + 1 ∧
              transaction.now.toInt + deployment.guardianSetTtlSeconds.toNat ≤
                Int64.maxValue.toInt ∧
              transaction.signers.contains authority ∧
              authority = deployment.governanceAuthority ∧ Admits keys then
            let rotated := deployment.rotate ⟨keys, transaction.now⟩
              (permitted.1 ▸ newIndex.toNat_lt) permitted.2.1
            .ok ({ bridge with deployment := some rotated },
              some (.guardianSetUpgraded (UInt32.ofNat deployment.current) newIndex
                (UInt8.ofNat keys.length)))
          else
            .error .refused
  | .verifyVaa index vaaHash vaaBytes =>
      match bridge.deployment, ParsedVaa.parse syscalls vaaBytes with
      | some deployment, .ok parsed =>
          match deployment.installation? index.toNat with
          | some installed =>
              if parsed.guardianSetIndex = index ∧ parsed.hash = vaaHash ∧
                  (bridge.consumed vaaHash).isNone ∧
                  deployment.activeAt index.toNat transaction.now ∧
                  verifyQuorum syscalls parsed installed.keys = .ok () then
                let consumed := Function.update bridge.consumed vaaHash (some parsed.sequence)
                .ok ({ bridge with consumed },
                  some (.vaaVerified parsed.emitterChain parsed.emitterAddress parsed.sequence
                    parsed.hash))
              else
                .error .refused
          | none => .error .refused
      | _, _ => .error .refused

def machine : Machine Bridge Transaction Refused (Option Event) where
  initial := empty
  execute := execute syscalls

/-- The upgrade is in order, but no index is left. -/
def Exhausted (bridge : Bridge) (transaction : Transaction) : Prop :=
  ∃ authority newIndex keys deployment,
    transaction.instruction = .upgradeGuardianSet authority newIndex keys ∧
    bridge.deployment = some deployment ∧ authority ∈ transaction.signers ∧
    authority = deployment.governanceAuthority ∧ Admits keys ∧
    deployment.installation? newIndex.toNat = none ∧ deployment.current + 1 = UInt32.size

end Bridge

/-! ## The history as accounts -/

section

variable (canonicalBump : Pda → UInt8)

def Deployment.config (deployment : Deployment) : BridgeConfig where
  governanceAuthority := deployment.governanceAuthority
  chainId := deployment.chainId
  currentGuardianSetIndex := UInt32.ofNat deployment.current
  guardianSetTtlSeconds := deployment.guardianSetTtlSeconds
  emitterSequence := 0
  bump := canonicalBump .config

def Deployment.guardianSet (deployment : Deployment) (index : UInt32)
    (installed : Installation) : GuardianSet where
  index := index
  keys := installed.keys
  creationTime := installed.time
  expirationTime := ((deployment.deadline? index.toNat).map Int64.ofInt).getD 0
  bump := canonicalBump (.guardianSet index)

def Bridge.ledger (bridge : Bridge) : Ledger
  | .config => bridge.deployment.map (Deployment.config canonicalBump)
  | .guardianSet index => bridge.deployment.bind fun deployment =>
      (deployment.installation? index.toNat).map (deployment.guardianSet canonicalBump index)
  | .consumed hash => (bridge.consumed hash).map fun sequence =>
      { hash, sequence, bump := canonicalBump (.consumed hash) }
  | .emitter key =>
      let posted := (bridge.posts key).val
      if posted = [] then none else some (counterAt canonicalBump key posted.length)
  | .message key sequence => (bridge.posts key).val[sequence.toNat]?.map fun post =>
      post.account canonicalBump key sequence

end

/-! ## Numbers and deadlines -/

namespace Deployment

variable {deployment : Deployment}

theorem installation?_eq_none {number : Nat} :
    deployment.installation? number = none ↔
      number < deployment.firstIndex.toNat ∨ deployment.current < number := by
  rw [installation?, current]
  by_cases started : deployment.firstIndex.toNat ≤ number
  · rw [if_pos started, List.getElem?_eq_none_iff, List.length_cons]
    omega
  · rw [if_neg started]
    simp only [true_iff]
    omega

theorem exists_current (deployment : Deployment) :
    ∃ installed, deployment.installation? deployment.current = some installed := by
  rw [← Option.isSome_iff_exists, ← Option.ne_none_iff_isSome, ne_eq, installation?_eq_none,
    current]
  omega

theorem installation?_rotate {installed : Installation}
    (room : deployment.current + 1 < UInt32.size)
    (fits : installed.time.toInt + deployment.guardianSetTtlSeconds.toNat ≤
      Int64.maxValue.toInt) (number : Nat) :
    (deployment.rotate installed room fits).installation? number =
      if number = deployment.current + 1 then some installed
      else deployment.installation? number := by
  have whole : (deployment.rotate installed room fits).installation? number =
      if deployment.firstIndex.toNat ≤ number then
        ((deployment.genesis :: deployment.rotations) ++ [installed])[
          number - deployment.firstIndex.toNat]?
      else
        none := rfl
  rw [whole, installation?]
  by_cases newest : number = deployment.current + 1
  · have started : deployment.firstIndex.toNat ≤ number := by
      rw [newest, current]
      omega
    have last : number - deployment.firstIndex.toNat =
        (deployment.genesis :: deployment.rotations).length := by
      rw [newest, current, List.length_cons]
      omega
    rw [if_pos started, if_pos newest, last, List.getElem?_concat_length]
  · rw [if_neg newest]
    by_cases started : deployment.firstIndex.toNat ≤ number
    · rw [if_pos started, if_pos started, List.getElem?_append, List.length_cons]
      have elsewhere : number - deployment.firstIndex.toNat ≠ deployment.rotations.length + 1 := by
        rw [current] at newest
        omega
      split
      · rfl
      · rw [List.getElem?_eq_none (by simp only [List.length_singleton]; omega),
          List.getElem?_eq_none (by simp only [List.length_cons]; omega)]
    · rw [if_neg started, if_neg started]

theorem toNat_current (deployment : Deployment) :
    (UInt32.ofNat deployment.current).toNat = deployment.current :=
  UInt32.toNat_ofNat_of_lt' deployment.numbered

theorem deadline?_rotate {installed : Installation}
    (room : deployment.current + 1 < UInt32.size)
    (fits : installed.time.toInt + deployment.guardianSetTtlSeconds.toNat ≤
      Int64.maxValue.toInt) (number : Nat) :
    (deployment.rotate installed room fits).deadline? number =
      if number = deployment.current then
        some (installed.time.toInt + deployment.guardianSetTtlSeconds.toNat)
      else
        deployment.deadline? number := by
  rw [deadline?, installation?_rotate, deadline?]
  by_cases last : number = deployment.current
  · rw [if_pos last, if_pos (by rw [last])]
    rfl
  · rw [if_neg last, if_neg (by omega)]
    rfl

theorem deadline?_current : deployment.deadline? deployment.current = none := by
  rw [deadline?, installation?_eq_none.mpr (.inr (Nat.lt_succ_self _)), Option.map_none]

theorem deadline_fits {number : Nat} {installed : Installation} {deadline : Int}
    (exists_ : deployment.installation? number = some installed)
    (expires : deployment.deadline? number = some deadline) :
    (Int64.ofInt deadline).toInt = deadline := by
  rcases Option.map_eq_some_iff.mp expires with ⟨successor, found, rfl⟩
  have started : deployment.firstIndex.toNat ≤ number := by
    by_contra before
    rw [installation?, if_neg before] at exists_
    cases exists_
  have member : successor ∈ deployment.rotations := by
    rw [installation?, if_pos (Nat.le_succ_of_le started), Nat.succ_sub started,
      Nat.succ_eq_add_one, List.getElem?_cons_succ] at found
    exact List.mem_of_getElem? found
  have above := successor.time.le_toInt
  have below := deployment.deadlines successor member
  rw [Int64.toInt_maxValue] at below
  exact Int64.toInt_ofInt_of_le (by omega) (by omega)

theorem installation?_launch (authority : Pubkey) (chainId : UInt16) (ttl index : UInt32)
    (genesis : Installation) (number : Nat) :
    (launch authority chainId ttl index genesis).installation? number =
      if number = index.toNat then some genesis else none := by
  change (if index.toNat ≤ number then [genesis][number - index.toNat]? else none) = _
  rcases Nat.lt_trichotomy number index.toNat with before | same | after
  · rw [if_neg (by omega), if_neg (by omega)]
  · rw [if_pos same.ge, if_pos same, same, Nat.sub_self, List.getElem?_cons_zero]
  · rw [if_pos after.le, if_neg after.ne', List.getElem?_eq_none]
    rw [List.length_singleton]
    omega

variable {canonicalBump : Pda → UInt8}

theorem isActive_guardianSet {index : UInt32} {installed : Installation}
    (found : deployment.installation? index.toNat = some installed) (now : Int64) :
    (deployment.guardianSet canonicalBump index installed).isActive now =
      deployment.activeAt index.toNat now := by
  cases expires : deployment.deadline? index.toNat with
  | none => simp [guardianSet, GuardianSet.isActive, activeAt, expires]
  | some deadline =>
      have value := deadline_fits found expires
      have epoch : Int64.ofInt deadline = 0 ↔ deadline = 0 := by
        rw [← Int64.toInt_inj, value, Int64.toInt_zero]
      rw [Bool.eq_iff_iff]
      simp [guardianSet, GuardianSet.isActive, activeAt, expires, epoch, Int64.lt_iff_toInt_lt,
        value]

theorem guardianSet_current {index : UInt32} (newest : index.toNat = deployment.current)
    (installed : Installation) :
    deployment.guardianSet canonicalBump index installed =
      freshSet canonicalBump installed.time index installed.keys := by
  rw [guardianSet, newest, deadline?_current]
  rfl

end Deployment

end WormVerify.OnChain
