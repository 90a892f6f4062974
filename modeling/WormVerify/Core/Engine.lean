import WormVerify.Core.Ports

/-! # The aggregation engine -/

namespace WormVerify.Core

open WormVerify.Types Checked

inductive SubmitOutcome
  | collected (held needed : Nat)
  | assembled (vaa : Vaa)
  deriving DecidableEq

structure EngineStats where
  pending : Nat
  completed : UInt64
  deriving DecidableEq

section

variable (crypto : Crypto)

def observeMessage (guardianSetIndex : UInt32) (body : VaaBody) : EngineM MessageId := do
  let id := MessageId.fromBody crypto body
  if (← getVaa id).isSome then
    .ofChecked (fail .alreadyCompleted)
  else if (← getPending id).isSome then
    return id
  else
    let set ← .ofChecked (okOr (← getGuardianSet guardianSetIndex) .guardianSetUnavailable)
    let observedAt ← unixSeconds
    let message : ObservedMessage := { id, guardianSetIndex, body, observedAt }
    let pending := PendingObservation.new message set.keys.length
    upsertPending pending
    publish (.messageObserved id)
    return id

def checkSignature (set : GuardianSet) (pending : PendingObservation) (id : MessageId)
    (signature : GuardianSignature) : Checked EngineError Unit := do
  let expected ← okOr set.keys[signature.position]?
    (.guardianIndexOutOfRange signature.guardianIndex)
  require (¬pending.hasGuardian signature.guardianIndex)
    (.duplicateSignature signature.guardianIndex)
  let recovered ← mapError (fun _ => .invalidSignature signature.guardianIndex)
    (recoverGuardian crypto id signature)
  require (recovered = expected) (.invalidSignature signature.guardianIndex)

def assemble (pending : PendingObservation) : Vaa where
  version := supportedVersion
  guardianSetIndex := pending.message.guardianSetIndex
  signatures := pending.signatures
  body := pending.message.body

/-- The last part of `submitSignature`, once the quorum is reached. -/
def completeObservation (set : GuardianSet) (id : MessageId) (pending : PendingObservation) :
    EngineM SubmitOutcome := do
  let vaa := assemble pending
  .ofChecked (mapError .vaa (vaa.verify crypto set.keys))
  let assembledAt ← unixSeconds
  saveVaa { id, vaa, assembledAt }
  removePending id
  publish (.vaaAssembled id)
  return .assembled vaa

/-- The part of `submitSignature` after the checks. -/
def collectSignature (set : GuardianSet) (id : MessageId) (pending : PendingObservation)
    (signature : GuardianSignature) : EngineM SubmitOutcome := do
  let pending := pending.insertSorted signature
  let held := pending.signatures.length
  let needed := pending.quorum
  publish (.signatureCollected id signature.guardianIndex held needed)
  if ¬pending.quorumReached then
    upsertPending pending
    return .collected held needed
  else
    completeObservation crypto set id pending

/-- Verify a guardian signature for an observed message, collect it, and
assemble the VAA when the quorum is reached. -/
def submitSignature (id : MessageId) (signature : GuardianSignature) :
    EngineM SubmitOutcome := do
  let pending ← .ofChecked (okOr (← getPending id) .messageNotObserved)
  let set ← .ofChecked
    (okOr (← getGuardianSet pending.message.guardianSetIndex) .guardianSetUnavailable)
  .ofChecked (checkSignature crypto set pending id signature)
  collectSignature crypto set id pending signature

theorem checkSignature_eq_ok {crypto : Crypto} {set : GuardianSet}
    {pending : PendingObservation} {id : MessageId} {signature : GuardianSignature}
    {result : Unit} :
    checkSignature crypto set pending id signature = .ok result ↔
      pending.hasGuardian signature.guardianIndex = false ∧
        SignedBy crypto id set.keys signature := by
  simp only [checkSignature, bind_eq_ok, okOr_eq_ok, require_eq_ok, mapError_eq_ok,
    Bool.not_eq_true]
  constructor
  · intro accepted
    rcases accepted with ⟨expected, found, _, absent, recovered, recovers, rfl⟩
    exact ⟨absent, recovered, found, recovers⟩
  · intro parts
    rcases parts with ⟨absent, guardian, found, recovers⟩
    exact ⟨guardian, found, ⟨⟩, absent, guardian, recovers, rfl⟩

theorem checkSignature_ne_vaa {crypto : Crypto} {set : GuardianSet}
    {pending : PendingObservation} {id : MessageId} {signature : GuardianSignature}
    (error : VaaError) :
    checkSignature crypto set pending id signature ≠ fail (.vaa error) := by
  simp [checkSignature, bind_eq_fail, okOr_eq_fail, require_eq_fail, mapError_eq_fail]

end

def stats : EngineM EngineStats := do
  let pending ← listPending
  let completed ← countVaas
  return { pending := pending.length, completed }

end WormVerify.Core
