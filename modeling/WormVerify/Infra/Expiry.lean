import WormVerify.Infra.Refinement

/-! # Expired guardian sets

The program on the chain refuses a guardian set that has expired. The engine
never compares the expiry of a set with its clock, so it completes a VAA under
any registered set.
-/

namespace WormVerify.Infra

open WormVerify.Types WormVerify.Core Service Checked

/-! ## Calls at a time -/

/-- A call of the engine with the clock reading of the moment. No call reads the
clock more than once. -/
structure TimedRequest where
  request : EngineRequest
  clock : Int64
  deriving DecidableEq

namespace TimedRequest

variable (crypto : Crypto)

def turn (timed : TimedRequest) : Turn (aggregator crypto) where
  request := timed.request.request
  choices _ := timed.clock

def perform (timed : TimedRequest) (memory : Memory) : Outcome ports Reply × Memory :=
  (aggregator crypto).perform ((aggregator crypto).body timed.request.request)
    (fun _ => timed.clock) memory

end TimedRequest

def memoryAfter (crypto : Crypto) (guardians : InMemoryGuardianRegistry)
    (calls : List TimedRequest) : Memory :=
  ((aggregator crypto).sequential (.new guardians)).state (calls.map (TimedRequest.turn crypto))

/-- Every VAA that a submission of the run returned is stored with the time of
its completion, at which the set it was completed under was active. -/
def AttestsActive (crypto : Crypto) (guardians : InMemoryGuardianRegistry)
    (calls : List TimedRequest) : Prop :=
  ∀ earlier id signature clock later vaa,
    calls = earlier ++ ⟨.submit id signature, clock⟩ :: later →
    (TimedRequest.perform crypto ⟨.submit id signature, clock⟩
      (memoryAfter crypto guardians earlier)).1.result = .submitted (.ok (.assembled vaa)) →
    ∃ record set,
      (memoryAfter crypto guardians (earlier ++ [⟨.submit id signature, clock⟩])).vaa? id =
        some record ∧
      record.vaa = vaa ∧
      (memoryAfter crypto guardians earlier).guardianSet? vaa.guardianSetIndex = some set ∧
      set.isActive record.assembledAt.toUInt64 = true

/-! ## The condition -/

/-- The signature is valid and new for the pending message, which has a quorum of
its set with it. -/
def ReachesQuorum (crypto : Crypto) (memory : Memory) (id : MessageId)
    (signature : GuardianSignature) (set : GuardianSet) : Prop :=
  ∃ pending, memory.pending? id = some pending ∧
    memory.guardianSet? pending.message.guardianSetIndex = some set ∧
    pending.hasGuardian signature.guardianIndex = false ∧
    SignedBy crypto id set.keys signature ∧ pending.quorum ≤ pending.signatures.length + 1

/-- No submission of the run brings a message to the quorum of a set that is not
active at the time. -/
def ClosesInTime (crypto : Crypto) (guardians : InMemoryGuardianRegistry)
    (calls : List TimedRequest) : Prop :=
  ∀ earlier id signature clock later set,
    calls = earlier ++ ⟨.submit id signature, clock⟩ :: later →
    ReachesQuorum crypto (memoryAfter crypto guardians earlier) id signature set →
    set.isActive clock.toUInt64 = true

/-! ## When a submission completes a message -/

section

variable {crypto : Crypto} {assignment : UInt32 → Option GuardianSet} {memory after : Memory}
variable {id : MessageId} {signature : GuardianSignature} {set : GuardianSet} {vaa : Vaa}
variable {outcome : Outcome ports (Checked EngineError SubmitOutcome)} {clock : Int64}

theorem SubmitEffect.reachesQuorum (sound : MemorySound crypto assignment memory)
    (effect : SubmitEffect crypto memory id signature outcome after)
    (reading : ∀ now, ⟨.unixSeconds, now⟩ ∈ outcome.transcript → now = clock)
    (assembled : outcome.result = .ok (.assembled vaa)) :
    ∃ set, ReachesQuorum crypto memory id signature set ∧
      memory.guardianSet? vaa.guardianSetIndex = some set ∧
      after.vaa? id = some ⟨id, vaa, clock⟩ := by
  cases effect with
  | failed transcript op error engineOp failedAt => cases assembled
  | unobserved transcript absent => cases assembled
  | unavailable transcript pending found unknown => cases assembled
  | refused transcript pending set found available fault checked => cases assembled
  | accepted pending set found available checked outcome after effect =>
      have perm := (sound.grown found available checked).2
      cases effect with
      | unsaved transcript error below failedAt => cases assembled
      | collected transcript below => cases assembled
      | unverified transcript reached fault rejected => cases assembled
      | unrecorded transcript record error reached failedAt => cases assembled
      | uncleared transcript now error reached verified saved failedAt => cases assembled
      | assembled transcript now reached verified read =>
          cases assembled
          rcases checkSignature_eq_ok.mp checked with ⟨absent, signed⟩
          refine ⟨set, ⟨pending, found, available, absent, signed, ?_⟩, available, ?_⟩
          · rw [← List.length_cons, ← perm.length_eq]
            exact of_decide_eq_true reached
          · rw [← reading now read]
            exact (Memory.vaa?_save _ id).trans (if_pos rfl)

theorem ReachesQuorum.assembled (reaches : ReachesQuorum crypto memory id signature set)
    (sound : MemorySound crypto assignment memory)
    (effect : SubmitEffect crypto memory id signature outcome after)
    (answered : Answered outcome.transcript) :
    ∃ vaa, outcome.result = .ok (.assembled vaa) ∧
      memory.guardianSet? vaa.guardianSetIndex = some set := by
  rcases reaches with ⟨pending, found, available, absent, signed, enough⟩
  have checked : checkSignature crypto set pending id signature = .ok () :=
    checkSignature_eq_ok.mpr ⟨absent, signed⟩
  have served := effect.served answered found available (sound.pending id pending found)
    (sound.registry _ _ available)
  generalize outcome.result = result at served
  cases served with
  | refused fault refused =>
      rw [checked] at refused
      cases refused
  | collected _ below =>
      have perm := (sound.grown found available checked).2
      have short := Nat.lt_of_not_le (of_decide_eq_false below)
      rw [perm.length_eq] at short
      exact absurd enough (Nat.not_le_of_lt short)
  | assembled _ reached now reading => exact ⟨_, rfl, available⟩

end

/-! ## Runs -/

section

variable {crypto : Crypto} {guardians : InMemoryGuardianRegistry}

theorem memoryAfter_concat (calls : List TimedRequest) (timed : TimedRequest) :
    memoryAfter crypto guardians (calls ++ [timed]) =
      (timed.perform crypto (memoryAfter crypto guardians calls)).2 := by
  rw [memoryAfter, List.map_append]
  exact state_sequential_concat _ _ _ _

theorem memoryAfter_sound (calls : List TimedRequest) :
    MemorySound crypto (Memory.new guardians).guardianSet?
      (memoryAfter crypto guardians calls) := by
  refine (represents_run (fun _ _ found => found) ?_).1.sound
  intro turn member
  rcases List.mem_map.mp member with ⟨timed, _, rfl⟩
  cases request : timed.request <;> simp [TimedRequest.turn, request, EngineRequest.request,
    UpgradesWithin]

end

theorem perform_submit (crypto : Crypto) (memory : Memory) (id : MessageId)
    (signature : GuardianSignature) (clock : Int64) :
    let performed := TimedRequest.perform crypto ⟨.submit id signature, clock⟩ memory
    ∃ result, performed.1.result = .submitted result ∧
      SubmitEffect crypto memory id signature ⟨result, performed.1.transcript⟩ performed.2 ∧
      Answered performed.1.transcript ∧
      ∀ now, ⟨.unixSeconds, now⟩ ∈ performed.1.transcript → now = clock := by
  rcases aggregator_effect crypto (.submit id signature) (fun _ => clock) memory with
    ⟨effect, answered⟩
  rcases effect.submit with ⟨result, submitted, effect⟩
  refine ⟨result, submitted, effect, answered, ?_⟩
  intro now read
  rcases perform_served (aggregator crypto) read with ⟨turn, during, served⟩
  exact served

/-- The engine attests under active sets only in exactly those runs in which no
submission reaches the quorum of an expired one. -/
theorem attestsActive_iff (crypto : Crypto) (guardians : InMemoryGuardianRegistry)
    (calls : List TimedRequest) :
    AttestsActive crypto guardians calls ↔ ClosesInTime crypto guardians calls := by
  constructor
  · intro attests earlier id signature clock later set split reaches
    have sound := @memoryAfter_sound crypto guardians earlier
    rcases perform_submit crypto (memoryAfter crypto guardians earlier) id signature clock with
      ⟨result, submitted, effect, answered, reading⟩
    rcases reaches.assembled sound effect answered with ⟨vaa, assembled, available⟩
    rcases effect.reachesQuorum sound reading assembled with ⟨_, _, _, stored⟩
    have returned := submitted.trans (congrArg Reply.submitted assembled)
    rcases attests earlier id signature clock later vaa split returned with
      ⟨record, same, recordAt, _, sameAt, active⟩
    rw [memoryAfter_concat, stored] at recordAt
    cases recordAt
    cases available.symm.trans sameAt
    exact active
  · intro inTime earlier id signature clock later vaa split assembled
    have sound := @memoryAfter_sound crypto guardians earlier
    rcases perform_submit crypto (memoryAfter crypto guardians earlier) id signature clock with
      ⟨result, submitted, effect, _, reading⟩
    rw [submitted] at assembled
    rcases effect.reachesQuorum sound reading (Reply.submitted.inj assembled) with
      ⟨set, reaches, available, stored⟩
    rw [memoryAfter_concat]
    exact ⟨_, set, stored, rfl, available,
      inTime earlier id signature clock later set split reaches⟩

namespace Sample

open Types.Sample

def expiringSet : GuardianSet := { guardianSet with expirationTime := 100 }

def lateQuorum : List TimedRequest :=
  [⟨.observe 0 body, 50⟩, ⟨.submit digest signature, 60⟩,
    ⟨.submit digest otherSignature, 200⟩]

end Sample

/-- The VAA is completed and stored one hundred seconds after the set has
expired. -/
theorem expired_set_attests :
    ¬∀ (crypto : Crypto) (guardians : InMemoryGuardianRegistry) (calls : List TimedRequest),
      (∀ timed ∈ calls, 0 ≤ timed.clock) → AttestsActive crypto guardians calls := by
  intro always
  have attests := always Types.Sample.crypto (.new Sample.expiringSet) Sample.lateQuorum
    (by decide)
  rcases attests [⟨.observe 0 Types.Sample.body, 50⟩,
      ⟨.submit Types.Sample.digest Types.Sample.signature, 60⟩] Types.Sample.digest
      Types.Sample.otherSignature 200 [] Types.Sample.vaa rfl (by decide +kernel) with
    ⟨record, set, stored, _, available, active⟩
  have expiring : (memoryAfter Types.Sample.crypto (.new Sample.expiringSet)
      (Sample.lateQuorum.take 2)).guardianSet? 0 = some Sample.expiringSet := by
    decide +kernel
  have late : ((memoryAfter Types.Sample.crypto (.new Sample.expiringSet)
      Sample.lateQuorum).vaa? Types.Sample.digest).map VaaRecord.assembledAt = some 200 := by
    decide +kernel
  cases expiring.symm.trans available
  have time := late.symm.trans (congrArg (Option.map VaaRecord.assembledAt) stored)
  rw [← Option.some.inj time] at active
  revert active
  decide

end WormVerify.Infra
