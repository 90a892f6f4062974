import WormVerify.Infra.Failures
import WormVerify.Infra.Soundness

/-! # What a failed request leaves behind

The stores are separate ports without a common transaction. A request that
returns an error has written nothing, except where the cleanup after a saved
record fails.
-/

namespace WormVerify.Infra

open WormVerify.Types WormVerify.Core Service Checked

def Reply.fault? : Reply → Option (Fault EngineError)
  | .observed (.error fault) => some fault
  | .submitted (.error fault) => some fault
  | _ => none

def SameStores (before after : Memory) : Prop :=
  after.messages = before.messages ∧ after.vaas = before.vaas

/-- The request saved a record and then failed to remove the observation. Its
error is that of the removal, and the record is all it left behind. -/
def CleanupFailed (request : EngineRequest) (before after : Memory) (fault : Fault EngineError)
    (transcript : List (Exchange ports)) : Prop :=
  ∃ id signature record error, request = .submit id signature ∧ record.id = id ∧
    ⟨.saveVaa record, .ok ()⟩ ∈ transcript ∧ FailedAt transcript (.removePending id) error ∧
    fault = .returned error ∧ after.messages = before.messages ∧
    after.vaas = before.vaas.insert id record

section

variable {crypto : Crypto} {memory after : Memory}

theorem ObserveEffect.sameStores {guardianSetIndex : UInt32} {body : VaaBody}
    {outcome : Outcome ports (Checked EngineError MessageId)}
    (effect : ObserveEffect crypto memory guardianSetIndex body outcome after)
    {fault : Fault EngineError} (failed : outcome.result = .error fault) :
    SameStores memory after := by
  cases effect with
  | failed transcript op error engineOp failedAt => exact ⟨rfl, rfl⟩
  | completed transcript record stored => exact ⟨rfl, rfl⟩
  | known transcript pending vacant found => exact ⟨rfl, rfl⟩
  | unavailable transcript vacant absent unknown => exact ⟨rfl, rfl⟩
  | registered transcript set now vacant absent available => cases failed

theorem CollectEffect.sameStores {set : GuardianSet} {id : MessageId}
    {pending : PendingObservation} {signature : GuardianSignature}
    {outcome : Outcome ports (Checked EngineError SubmitOutcome)}
    (effect : CollectEffect crypto memory set id pending outcome after)
    {fault : Fault EngineError} (failed : outcome.result = .error fault) :
    SameStores memory after ∨
      CleanupFailed (.submit id signature) memory after fault outcome.transcript := by
  cases effect with
  | unsaved transcript error below failedAt => exact .inl ⟨rfl, rfl⟩
  | collected transcript below => cases failed
  | unverified transcript reached fault rejected => exact .inl ⟨rfl, rfl⟩
  | unrecorded transcript record error reached failedAt => exact .inl ⟨rfl, rfl⟩
  | uncleared transcript now error reached verified saved failedAt =>
      cases failed
      exact .inr ⟨id, signature, _, error, rfl, rfl, saved, failedAt, rfl, rfl, rfl⟩
  | assembled transcript now reached verified reading => cases failed

theorem SubmitEffect.sameStores {id : MessageId} {signature : GuardianSignature}
    {outcome : Outcome ports (Checked EngineError SubmitOutcome)}
    (effect : SubmitEffect crypto memory id signature outcome after)
    {fault : Fault EngineError} (failed : outcome.result = .error fault) :
    SameStores memory after ∨
      CleanupFailed (.submit id signature) memory after fault outcome.transcript := by
  cases effect with
  | failed transcript op error engineOp failedAt => exact .inl ⟨rfl, rfl⟩
  | unobserved transcript absent => exact .inl ⟨rfl, rfl⟩
  | unavailable transcript pending found unknown => exact .inl ⟨rfl, rfl⟩
  | refused transcript pending set found available fault checked => exact .inl ⟨rfl, rfl⟩
  | accepted pending set found available checked outcome after effect =>
      exact effect.sameStores failed

end

/-- A request that returns an error leaves both stores as they were, unless the
error is that of the cleanup after its record was saved. -/
theorem errors_leave_stores (crypto : Crypto) (memory : Memory) (request : EngineRequest)
    (choices : Nat → Chance) {outcome : Outcome ports Reply} {after : Memory}
    (performed : (unreliable crypto).perform ((unreliable crypto).body request) choices memory =
      (outcome, after))
    {fault : Fault EngineError} (failed : outcome.result.fault? = some fault) :
    SameStores memory after ∨
      CleanupFailed request memory after fault outcome.transcript := by
  have effect := @request_effect crypto memory request choices
  rw [performed] at effect
  cases effect with
  | @observed guardianSetIndex body inner _ effect =>
      rcases inner with ⟨result, transcript⟩
      rcases result with inner | id
      · exact .inl (effect.sameStores rfl)
      · cases failed
  | @submitted id signature inner _ effect =>
      rcases inner with ⟨result, transcript⟩
      rcases result with inner | accepted
      · cases failed
        exact effect.sameStores rfl
      · cases failed

namespace Sample

open Types.Sample

def halfSigned : Memory :=
  (Memory.new (.new guardianSet)).upsert ⟨⟨digest, 0, body, 0⟩, [signature], 2⟩

def sixthFails (turn : Nat) : Chance :=
  if turn = 5 then (0, some (.store "connection lost")) else (0, none)

/-- The second signature completes the sample message, and its observation
cannot be removed. -/
def cleanup : Outcome ports Reply × Memory :=
  (unreliable crypto).perform ((unreliable crypto).body (.submit digest otherSignature))
    sixthFails halfSigned

end Sample

theorem errors_leave_stores_cleanup :
    SameStores Sample.halfSigned Sample.cleanup.2 ∨
      CleanupFailed (.submit Types.Sample.digest Types.Sample.otherSignature) Sample.halfSigned
        Sample.cleanup.2 (.returned (.store "connection lost")) Sample.cleanup.1.transcript :=
  errors_leave_stores Types.Sample.crypto Sample.halfSigned
    (.submit Types.Sample.digest Types.Sample.otherSignature) Sample.sixthFails rfl
    (by decide +kernel)

/-- The record of a submission that returned an error stays in its store. -/
theorem failed_cleanup_leaves_record :
    ¬∀ (crypto : Crypto) (memory : Memory) (request : EngineRequest) (choices : Nat → Chance),
      ((unreliable crypto).perform ((unreliable crypto).body request) choices
        memory).1.result.fault?.isSome →
      SameStores memory ((unreliable crypto).perform ((unreliable crypto).body request) choices
        memory).2 := by
  intro always
  have same := (always Types.Sample.crypto Sample.halfSigned
    (.submit Types.Sample.digest Types.Sample.otherSignature) Sample.sixthFails
    (by decide +kernel)).2
  have lengths := congrArg (fun vaas => vaas.entries.length) same
  revert lengths
  decide +kernel

end WormVerify.Infra
