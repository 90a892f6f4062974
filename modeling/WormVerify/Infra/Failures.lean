import WormVerify.Infra.Aggregation
import WormVerify.Foundation.Sequential

/-! # Adapters that may fail

The stores and the registry may answer any call with an error and then leave
what they hold as it was. For each request of the engine, its effect lists how
the call can end and what it leaves behind.
-/

namespace WormVerify.Infra

open WormVerify.Types WormVerify.Core Service Checked

def PortOp.failure? (error : EngineError) : (op : PortOp) → Option op.Response
  | .getPending _ => some (.error error)
  | .upsertPending _ => some (.error error)
  | .listPending => some (.error error)
  | .removePending _ => some (.error error)
  | .saveVaa _ => some (.error error)
  | .getVaa _ => some (.error error)
  | .countVaas => some (.error error)
  | .currentGuardianSet => some (.error error)
  | .getGuardianSet _ => some (.error error)
  | .publish _ => none
  | .unixSeconds => none
  | .insertGuardianSet _ => none
  | .writeCurrent _ => none

/-- The clock reading and the error of one port call, if it is to fail. -/
abbrev Chance := Int64 × Option EngineError

def Memory.serveOrFail (chance : Chance) (memory : Memory) (op : PortOp) :
    op.Response × Memory :=
  match chance.2.bind fun error => PortOp.failure? error op with
  | some response => (response, memory)
  | none => memory.serve chance.1 op

inductive EngineRequest
  | observe (guardianSetIndex : UInt32) (body : VaaBody)
  | submit (id : MessageId) (signature : GuardianSignature)
  deriving DecidableEq

def EngineRequest.request : EngineRequest → Request
  | .observe guardianSetIndex body => .observe guardianSetIndex body
  | .submit id signature => .submit id signature

abbrev unreliable (crypto : Crypto) : Service where
  ports := ports
  World := Memory
  Request := EngineRequest
  Result := Reply
  Choice := Chance
  body request := (aggregator crypto).body request.request
  serve := Memory.serveOrFail

def FailedAt (transcript : List (Exchange ports)) (op : PortOp) (error : EngineError) : Prop :=
  ∃ response, ⟨op, response⟩ ∈ transcript ∧ PortOp.failure? error op = some response

/-- No port call of the engine failed. The engine does not ask for the current
guardian set. -/
def Answered (transcript : List (Exchange ports)) : Prop :=
  ∀ op error, op ≠ .currentGuardianSet → ¬FailedAt transcript op error

/-! ## Writes -/

namespace Memory

abbrev upsert (memory : Memory) (pending : PendingObservation) : Memory :=
  { memory with messages := memory.messages.insert pending.message.id pending }

abbrev remove (memory : Memory) (id : MessageId) : Memory :=
  { memory with messages := memory.messages.erase id }

abbrev save (memory : Memory) (record : VaaRecord) : Memory :=
  { memory with vaas := memory.vaas.insert record.id record }

abbrev announce (memory : Memory) (event : DomainEvent) : Memory :=
  { memory with events := memory.events ++ [event] }

end Memory

/-! ## Effects -/

section

variable (crypto : Crypto) (memory : Memory)

inductive ObserveEffect (guardianSetIndex : UInt32) (body : VaaBody) :
    Outcome ports (Checked EngineError MessageId) → Memory → Prop
  | failed (transcript : List (Exchange ports)) (op : PortOp) (error : EngineError)
      (engineOp : op ≠ .currentGuardianSet) (failedAt : FailedAt transcript op error) :
      ObserveEffect guardianSetIndex body ⟨fail error, transcript⟩ memory
  | completed (transcript : List (Exchange ports)) (record : VaaRecord)
      (stored : memory.vaa? (.fromBody crypto body) = some record) :
      ObserveEffect guardianSetIndex body ⟨fail .alreadyCompleted, transcript⟩ memory
  | known (transcript : List (Exchange ports)) (pending : PendingObservation)
      (vacant : memory.vaa? (.fromBody crypto body) = none)
      (found : memory.pending? (.fromBody crypto body) = some pending) :
      ObserveEffect guardianSetIndex body ⟨.ok (.fromBody crypto body), transcript⟩ memory
  | unavailable (transcript : List (Exchange ports))
      (vacant : memory.vaa? (.fromBody crypto body) = none)
      (absent : memory.pending? (.fromBody crypto body) = none)
      (unknown : memory.guardianSet? guardianSetIndex = none) :
      ObserveEffect guardianSetIndex body ⟨fail .guardianSetUnavailable, transcript⟩ memory
  | registered (transcript : List (Exchange ports)) (set : GuardianSet) (now : Int64)
      (vacant : memory.vaa? (.fromBody crypto body) = none)
      (absent : memory.pending? (.fromBody crypto body) = none)
      (available : memory.guardianSet? guardianSetIndex = some set) :
      ObserveEffect guardianSetIndex body ⟨.ok (.fromBody crypto body), transcript⟩
        ((memory.upsert (.new ⟨.fromBody crypto body, guardianSetIndex, body, now⟩
          set.keys.length)).announce (.messageObserved (.fromBody crypto body)))

/-- How `collectSignature` can end after its announcement, from the observation
with the new signature. -/
inductive CollectEffect (set : GuardianSet) (id : MessageId) (pending : PendingObservation) :
    Outcome ports (Checked EngineError SubmitOutcome) → Memory → Prop
  | unsaved (transcript : List (Exchange ports)) (error : EngineError)
      (below : pending.quorumReached = false)
      (failedAt : FailedAt transcript (.upsertPending pending) error) :
      CollectEffect set id pending ⟨fail error, transcript⟩ memory
  | collected (transcript : List (Exchange ports)) (below : pending.quorumReached = false) :
      CollectEffect set id pending
        ⟨.ok (.collected pending.signatures.length pending.quorum), transcript⟩
        (memory.upsert pending)
  | unverified (transcript : List (Exchange ports)) (reached : pending.quorumReached = true)
      (fault : Fault EngineError)
      (rejected : mapError .vaa ((assemble pending).verify crypto set.keys) = .error fault) :
      CollectEffect set id pending ⟨.error fault, transcript⟩ memory
  | unrecorded (transcript : List (Exchange ports)) (record : VaaRecord) (error : EngineError)
      (reached : pending.quorumReached = true)
      (failedAt : FailedAt transcript (.saveVaa record) error) :
      CollectEffect set id pending ⟨fail error, transcript⟩ memory
  | uncleared (transcript : List (Exchange ports)) (now : Int64) (error : EngineError)
      (reached : pending.quorumReached = true)
      (verified : (assemble pending).verify crypto set.keys = .ok ())
      (saved : ⟨.saveVaa ⟨id, assemble pending, now⟩, .ok ()⟩ ∈ transcript)
      (failedAt : FailedAt transcript (.removePending id) error) :
      CollectEffect set id pending ⟨fail error, transcript⟩
        (memory.save ⟨id, assemble pending, now⟩)
  | assembled (transcript : List (Exchange ports)) (now : Int64)
      (reached : pending.quorumReached = true)
      (verified : (assemble pending).verify crypto set.keys = .ok ())
      (reading : ⟨.unixSeconds, now⟩ ∈ transcript) :
      CollectEffect set id pending ⟨.ok (.assembled (assemble pending)), transcript⟩
        (((memory.save ⟨id, assemble pending, now⟩).remove id).announce (.vaaAssembled id))

inductive SubmitEffect (id : MessageId) (signature : GuardianSignature) :
    Outcome ports (Checked EngineError SubmitOutcome) → Memory → Prop
  | failed (transcript : List (Exchange ports)) (op : PortOp) (error : EngineError)
      (engineOp : op ≠ .currentGuardianSet) (failedAt : FailedAt transcript op error) :
      SubmitEffect id signature ⟨fail error, transcript⟩ memory
  | unobserved (transcript : List (Exchange ports)) (absent : memory.pending? id = none) :
      SubmitEffect id signature ⟨fail .messageNotObserved, transcript⟩ memory
  | unavailable (transcript : List (Exchange ports)) (pending : PendingObservation)
      (found : memory.pending? id = some pending)
      (unknown : memory.guardianSet? pending.message.guardianSetIndex = none) :
      SubmitEffect id signature ⟨fail .guardianSetUnavailable, transcript⟩ memory
  | refused (transcript : List (Exchange ports)) (pending : PendingObservation)
      (set : GuardianSet) (found : memory.pending? id = some pending)
      (available : memory.guardianSet? pending.message.guardianSetIndex = some set)
      (fault : Fault EngineError)
      (checked : checkSignature crypto set pending id signature = .error fault) :
      SubmitEffect id signature ⟨.error fault, transcript⟩ memory
  | accepted (pending : PendingObservation) (set : GuardianSet)
      (found : memory.pending? id = some pending)
      (available : memory.guardianSet? pending.message.guardianSetIndex = some set)
      (checked : checkSignature crypto set pending id signature = .ok ())
      (outcome : Outcome ports (Checked EngineError SubmitOutcome)) (after : Memory)
      (effect : CollectEffect crypto
        (memory.announce (.signatureCollected id signature.guardianIndex
          (pending.insertSorted signature).signatures.length pending.quorum))
        set id (pending.insertSorted signature) outcome after) :
      SubmitEffect id signature outcome after

inductive RequestEffect : EngineRequest → Outcome ports Reply → Memory → Prop
  | observed {guardianSetIndex : UInt32} {body : VaaBody}
      {outcome : Outcome ports (Checked EngineError MessageId)} {after : Memory}
      (effect : ObserveEffect crypto memory guardianSetIndex body outcome after) :
      RequestEffect (.observe guardianSetIndex body)
        ⟨.observed outcome.result, outcome.transcript⟩ after
  | submitted {id : MessageId} {signature : GuardianSignature}
      {outcome : Outcome ports (Checked EngineError SubmitOutcome)} {after : Memory}
      (effect : SubmitEffect crypto memory id signature outcome after) :
      RequestEffect (.submit id signature)
        ⟨.submitted outcome.result, outcome.transcript⟩ after

end

section

variable {crypto : Crypto} {memory after : Memory} {outcome : Outcome ports Reply}

theorem RequestEffect.observe {guardianSetIndex : UInt32} {body : VaaBody}
    (effect : RequestEffect crypto memory (.observe guardianSetIndex body) outcome after) :
    ∃ result, outcome.result = .observed result ∧
      ObserveEffect crypto memory guardianSetIndex body ⟨result, outcome.transcript⟩ after := by
  cases effect with
  | observed effect => exact ⟨_, rfl, effect⟩

theorem RequestEffect.submit {id : MessageId} {signature : GuardianSignature}
    (effect : RequestEffect crypto memory (.submit id signature) outcome after) :
    ∃ result, outcome.result = .submitted result ∧
      SubmitEffect crypto memory id signature ⟨result, outcome.transcript⟩ after := by
  cases effect with
  | submitted effect => exact ⟨_, rfl, effect⟩

end

/-! ## The effect of every request -/

section

variable {crypto : Crypto} {memory : Memory} {α : Type}

/-- A port call of the engine is answered by the stores, or it fails and nothing
is written. -/
theorem ensures_port {op : PortOp} {resume : op.Response → Program ports α}
    {ends : Outcome ports α → Memory → Prop}
    (answered : ∀ now response, (memory.serve now op).1 = response →
      (unreliable crypto).Ensures (resume response) (memory.serve now op).2
        fun outcome after => ends ⟨outcome.result, ⟨op, response⟩ :: outcome.transcript⟩ after)
    (failed : ∀ error response, PortOp.failure? error op = some response →
      (unreliable crypto).Ensures (resume response) memory
        fun outcome after => ends ⟨outcome.result, ⟨op, response⟩ :: outcome.transcript⟩ after) :
    (unreliable crypto).Ensures (.call op resume) memory ends := by
  apply Ensures.call
  intro chance
  rcases chance with ⟨now, fault⟩
  cases outage : fault.bind fun error => PortOp.failure? error op with
  | none =>
      have served : memory.serveOrFail (now, fault) op = memory.serve now op := by
        rw [Memory.serveOrFail, outage]
      simp only [served]
      exact answered now _ rfl
  | some response =>
      have served : memory.serveOrFail (now, fault) op = (response, memory) := by
        rw [Memory.serveOrFail, outage]
      simp only [served]
      rcases Option.bind_eq_some_iff.mp outage with ⟨error, _, failure⟩
      exact failed error response failure

theorem failedAt_head {op : PortOp} {error : EngineError} {response : op.Response}
    {rest : List (Exchange ports)} (failure : PortOp.failure? error op = some response) :
    FailedAt (⟨op, response⟩ :: rest) op error :=
  ⟨response, List.mem_cons_self, failure⟩

theorem FailedAt.later {transcript : List (Exchange ports)} {op : PortOp}
    {error : EngineError} (failedAt : FailedAt transcript op error)
    (exchange : Exchange ports) : FailedAt (exchange :: transcript) op error := by
  rcases failedAt with ⟨response, member, failure⟩
  exact ⟨response, List.mem_cons_of_mem _ member, failure⟩

theorem observe_effect (guardianSetIndex : UInt32) (body : VaaBody) :
    (unreliable crypto).Ensures (observeMessage crypto guardianSetIndex body).run memory
      (ObserveEffect crypto memory guardianSetIndex body) := by
  let id := MessageId.fromBody crypto body
  apply @ensures_port crypto memory _ (.getVaa id)
  case failed =>
    intro error response failure
    cases failure
    exact .done (.failed _ _ error (by simp) (failedAt_head rfl))
  intro _ completed stored
  rcases completed with error | _ | record
  · cases stored
  swap
  · exact .done (.completed _ record (Except.ok.inj stored))
  have vacant : memory.vaa? id = none := Except.ok.inj stored
  apply @ensures_port crypto memory _ (.getPending id)
  case failed =>
    intro error response failure
    cases failure
    exact .done (.failed _ _ error (by simp) ((failedAt_head rfl).later _))
  intro _ observed found
  rcases observed with error | _ | pending
  · cases found
  swap
  · exact .done (.known _ pending vacant (Except.ok.inj found))
  have absent : memory.pending? id = none := Except.ok.inj found
  apply @ensures_port crypto memory _ (.getGuardianSet guardianSetIndex)
  case failed =>
    intro error response failure
    cases failure
    exact .done (.failed _ _ error (by simp) (((failedAt_head rfl).later _).later _))
  intro _ known available
  rcases known with error | _ | set
  · cases available
  · exact .done (.unavailable _ vacant absent (Except.ok.inj available))
  apply @ensures_port crypto memory _ .unixSeconds
  case failed => exact fun _ _ failure => nomatch failure
  intro now _ _
  apply @ensures_port crypto memory _
    (.upsertPending (.new ⟨id, guardianSetIndex, body, _⟩ set.keys.length))
  case failed =>
    intro error response failure
    cases failure
    exact .done (.failed _ _ error (by simp)
      (((((failedAt_head rfl).later _).later _).later _).later _))
  intro _ response written
  cases written
  apply @ensures_port crypto _ _ (.publish (.messageObserved id))
  case failed => exact fun _ _ failure => nomatch failure
  intro _ _ _
  exact .done (.registered _ set _ vacant absent (Except.ok.inj available))

theorem CollectEffect.later {set : GuardianSet} {id : MessageId} {pending : PendingObservation}
    {outcome : Outcome ports (Checked EngineError SubmitOutcome)} {after : Memory}
    (effect : CollectEffect crypto memory set id pending outcome after)
    (exchange : Exchange ports) :
    CollectEffect crypto memory set id pending
      ⟨outcome.result, exchange :: outcome.transcript⟩ after := by
  cases effect with
  | unsaved transcript error below failedAt =>
      exact .unsaved _ error below (failedAt.later exchange)
  | collected transcript below => exact .collected _ below
  | unverified transcript reached fault rejected => exact .unverified _ reached fault rejected
  | unrecorded transcript record error reached failedAt =>
      exact .unrecorded _ record error reached (failedAt.later exchange)
  | uncleared transcript now error reached verified saved failedAt =>
      exact .uncleared _ now error reached verified (List.mem_cons_of_mem _ saved)
        (failedAt.later exchange)
  | assembled transcript now reached verified reading =>
      exact .assembled _ now reached verified (List.mem_cons_of_mem _ reading)

theorem complete_effect (set : GuardianSet) (id : MessageId) (pending : PendingObservation)
    (reached : pending.quorumReached = true) :
    (unreliable crypto).Ensures (completeObservation crypto set id pending).run memory
      (CollectEffect crypto memory set id pending) := by
  change (unreliable crypto).Ensures (ExceptT.run (do
    EngineM.ofChecked (mapError .vaa ((assemble pending).verify crypto set.keys))
    _)) memory _
  cases checked : mapError EngineError.vaa ((assemble pending).verify crypto set.keys) with
  | error fault => exact .done (.unverified _ reached fault checked)
  | ok _ =>
      have verified := mapError_eq_ok.mp checked
      apply @ensures_port crypto memory _ .unixSeconds
      case failed => exact fun _ _ failure => nomatch failure
      intro now reading _
      apply @ensures_port crypto memory _ (.saveVaa ⟨id, assemble pending, reading⟩)
      case failed =>
        intro error response failure
        cases failure
        exact .done (.unrecorded _ _ error reached ((failedAt_head rfl).later _))
      intro _ response saved
      cases saved
      apply @ensures_port crypto _ _ (.removePending id)
      case failed =>
        intro error response failure
        cases failure
        exact .done (.uncleared _ reading error reached verified
          (List.mem_cons_of_mem _ List.mem_cons_self) (((failedAt_head rfl).later _).later _))
      intro _ response removed
      cases removed
      apply @ensures_port crypto _ _ (.publish (.vaaAssembled id))
      case failed => exact fun _ _ failure => nomatch failure
      intro _ _ _
      exact .done (.assembled _ reading reached verified List.mem_cons_self)

theorem submit_effect (id : MessageId) (signature : GuardianSignature) :
    (unreliable crypto).Ensures (submitSignature crypto id signature).run memory
      (SubmitEffect crypto memory id signature) := by
  apply @ensures_port crypto memory _ (.getPending id)
  case failed =>
    intro error response failure
    cases failure
    exact .done (.failed _ _ error (by simp) (failedAt_head rfl))
  intro _ observed found
  rcases observed with error | _ | pending
  · cases found
  · exact .done (.unobserved _ (Except.ok.inj found))
  apply @ensures_port crypto memory _ (.getGuardianSet pending.message.guardianSetIndex)
  case failed =>
    intro error response failure
    cases failure
    exact .done (.failed _ _ error (by simp) ((failedAt_head rfl).later _))
  intro _ known available
  rcases known with error | _ | set
  · cases available
  · exact .done (.unavailable _ pending (Except.ok.inj found) (Except.ok.inj available))
  change (unreliable crypto).Ensures (ExceptT.run (do
    EngineM.ofChecked (checkSignature crypto set pending id signature)
    collectSignature crypto set id pending signature)) memory _
  cases checked : checkSignature crypto set pending id signature with
  | error fault =>
      exact .done (.refused _ pending set (Except.ok.inj found) (Except.ok.inj available) fault
        checked)
  | ok _ =>
      have accepted := @SubmitEffect.accepted crypto memory id signature pending set
        (Except.ok.inj found) (Except.ok.inj available) checked
      apply @ensures_port crypto memory _ (.publish (.signatureCollected id
        signature.guardianIndex (pending.insertSorted signature).signatures.length
        pending.quorum))
      case failed => exact fun _ _ failure => nomatch failure
      intro _ _ _
      change (unreliable crypto).Ensures (ExceptT.run (if
        ¬(pending.insertSorted signature).quorumReached then _ else _)) _ _
      by_cases reached : (pending.insertSorted signature).quorumReached = true
      · rw [if_neg (not_not_intro reached)]
        exact (complete_effect set id (pending.insertSorted signature) reached).imp
          fun outcome after effect => accepted _ after (((effect.later _).later _).later _)
      · rw [if_pos reached]
        have below := Bool.eq_false_iff.mpr reached
        apply @ensures_port crypto _ _ (.upsertPending (pending.insertSorted signature))
        case failed =>
          intro error response failure
          cases failure
          exact .done (accepted _ _ (.unsaved _ error below
            ((((failedAt_head rfl).later _).later _).later _)))
        intro _ response written
        cases written
        exact .done (accepted _ _ (.collected _ below))

theorem request_effect (request : EngineRequest) :
    (unreliable crypto).Ensures ((unreliable crypto).body request) memory
      (RequestEffect crypto memory request) := by
  cases request with
  | observe guardianSetIndex body =>
      exact ((observe_effect guardianSetIndex body).imp fun _ _ => .observed).map
  | submit id signature => exact ((submit_effect id signature).imp fun _ _ => .submitted).map

end

/-! ## Runs without failures -/

def Reliable (choices : Nat → Chance) : Prop := ∀ turn, (choices turn).2 = none

section

variable {crypto : Crypto} {memory : Memory} {α : Type}

theorem serveOrFail_reliable (now : Int64) (op : PortOp) :
    memory.serveOrFail (now, none) op = memory.serve now op := rfl

theorem answered_of_reliable {program : Program ports α} {choices : Nat → Chance}
    (reliable : Reliable choices) :
    Answered ((unreliable crypto).perform program choices memory).1.transcript := by
  intro op error engineOp failedAt
  rcases failedAt with ⟨response, member, failure⟩
  rcases @perform_served (unreliable crypto) _ _ _ _ _ member with ⟨turn, during, served⟩
  have answered : response = (during.serveOrFail (choices turn) op).1 := served
  rw [show choices turn = ((choices turn).1, none) from Prod.ext rfl (reliable turn),
    serveOrFail_reliable] at answered
  subst answered
  cases op with
  | currentGuardianSet => exact engineOp rfl
  | _ => cases failure

/-- Without failures the engine runs as it does over the in-memory adapters. -/
theorem perform_reliable (program : Program ports α) (choices : Nat → Int64)
    (memory : Memory) :
    (unreliable crypto).perform program (fun turn => (choices turn, none)) memory =
      (aggregator crypto).perform program choices memory := by
  induction program generalizing choices memory with
  | done value => rfl
  | call op resume induction => simp only [perform, serveOrFail_reliable, induction]

end

theorem aggregator_effect (crypto : Crypto) (request : EngineRequest) (choices : Nat → Int64)
    (memory : Memory) :
    let performed :=
      (aggregator crypto).perform ((aggregator crypto).body request.request) choices memory
    RequestEffect crypto memory request performed.1 performed.2 ∧
      Answered performed.1.transcript := by
  rw [← perform_reliable]
  exact ⟨request_effect request _, answered_of_reliable fun _ => rfl⟩

/-! ## What the effects keep -/

section

variable {crypto : Crypto} {assignment : UInt32 → Option GuardianSet} {memory after : Memory}
variable {id : MessageId} {signature : GuardianSignature} {pending : PendingObservation}
variable {set : GuardianSet}

theorem MemorySound.announce (sound : MemorySound crypto assignment memory)
    (event : DomainEvent) : MemorySound crypto assignment (memory.announce event) :=
  ⟨sound.pending, sound.records, sound.registry⟩

/-- An observation with a newly accepted signature: attested, and complete
exactly when it has as many signatures as the quorum. -/
structure Grown (crypto : Crypto) (assignment : UInt32 → Option GuardianSet)
    (set : GuardianSet) (id : MessageId) (pending : PendingObservation) : Prop
    extends Attested crypto assignment id pending where
  assigned : assignment pending.message.guardianSetIndex = some set
  needed : pending.quorum = quorum set.keys.length
  bounded : pending.signatures.length ≤ pending.quorum

theorem PendingSound.grown (sound : PendingSound crypto assignment id pending)
    (assigned : assignment pending.message.guardianSetIndex = some set)
    (checked : checkSignature crypto set pending id signature = .ok ()) :
    Grown crypto assignment set id (pending.insertSorted signature) ∧
      (pending.insertSorted signature).signatures.Perm (signature :: pending.signatures) := by
  rcases checkSignature_eq_ok.mp checked with ⟨absent, signed⟩
  rcases sound.insertSorted assigned absent signed with ⟨attested, perm, needed⟩
  refine ⟨⟨attested, assigned, needed, ?_⟩, perm⟩
  rw [perm.length_eq]
  exact sound.incomplete

theorem MemorySound.grown (sound : MemorySound crypto assignment memory)
    (found : memory.pending? id = some pending)
    (available : memory.guardianSet? pending.message.guardianSetIndex = some set)
    (checked : checkSignature crypto set pending id signature = .ok ()) :
    Grown crypto assignment set id (pending.insertSorted signature) ∧
      (pending.insertSorted signature).signatures.Perm (signature :: pending.signatures) :=
  (sound.pending id pending found).grown (sound.registry _ _ available) checked

namespace Grown

theorem verify (grown : Grown crypto assignment set id pending)
    (reached : pending.quorumReached = true) :
    (assemble pending).verify crypto set.keys = .ok () := by
  apply grown.toAttested.verify grown.assigned
  rw [← grown.needed]
  exact of_decide_eq_true reached

theorem pendingSound (grown : Grown crypto assignment set id pending)
    (below : pending.quorumReached = false) : PendingSound crypto assignment id pending :=
  ⟨grown.toAttested, Nat.lt_of_not_le (of_decide_eq_false below)⟩

theorem recordSound (grown : Grown crypto assignment set id pending)
    (reached : pending.quorumReached = true) (now : Int64) :
    RecordSound crypto assignment id ⟨id, assemble pending, now⟩ := by
  apply grown.toAttested.completed grown.assigned
  rw [← grown.needed]
  exact Nat.le_antisymm grown.bounded (of_decide_eq_true reached)

end Grown

inductive ServedEffect (crypto : Crypto) (memory : Memory) (set : GuardianSet) (id : MessageId)
    (pending : PendingObservation) (signature : GuardianSignature)
    (transcript : List (Exchange ports)) : Checked EngineError SubmitOutcome → Memory → Prop
  | refused (fault : Fault EngineError)
      (checked : checkSignature crypto set pending id signature = .error fault) :
      ServedEffect crypto memory set id pending signature transcript (.error fault) memory
  | collected (checked : checkSignature crypto set pending id signature = .ok ())
      (below : (pending.insertSorted signature).quorumReached = false) :
      ServedEffect crypto memory set id pending signature transcript
        (.ok (.collected (pending.insertSorted signature).signatures.length pending.quorum))
        ((memory.announce (.signatureCollected id signature.guardianIndex
          (pending.insertSorted signature).signatures.length pending.quorum)).upsert
          (pending.insertSorted signature))
  | assembled (checked : checkSignature crypto set pending id signature = .ok ())
      (reached : (pending.insertSorted signature).quorumReached = true) (now : Int64)
      (reading : ⟨.unixSeconds, now⟩ ∈ transcript) :
      ServedEffect crypto memory set id pending signature transcript
        (.ok (.assembled (assemble (pending.insertSorted signature))))
        ((((memory.announce (.signatureCollected id signature.guardianIndex
          (pending.insertSorted signature).signatures.length pending.quorum)).save
          ⟨id, assemble (pending.insertSorted signature), now⟩).remove id).announce
          (.vaaAssembled id))

theorem SubmitEffect.served {outcome : Outcome ports (Checked EngineError SubmitOutcome)}
    (effect : SubmitEffect crypto memory id signature outcome after)
    (answered : Answered outcome.transcript)
    (found : memory.pending? id = some pending)
    (available : memory.guardianSet? pending.message.guardianSetIndex = some set)
    (sound : PendingSound crypto assignment id pending)
    (assigned : assignment pending.message.guardianSetIndex = some set) :
    ServedEffect crypto memory set id pending signature outcome.transcript outcome.result
      after := by
  cases effect with
  | failed transcript op error engineOp failedAt =>
      exact absurd failedAt (answered op error engineOp)
  | unobserved transcript absent =>
      rw [found] at absent
      cases absent
  | unavailable transcript other otherFound unknown =>
      cases found.symm.trans otherFound
      rw [available] at unknown
      cases unknown
  | refused transcript other otherSet otherFound otherAvailable fault checked =>
      cases found.symm.trans otherFound
      cases available.symm.trans otherAvailable
      exact .refused fault checked
  | accepted other otherSet otherFound otherAvailable checked outcome after effect =>
      cases found.symm.trans otherFound
      cases available.symm.trans otherAvailable
      cases effect with
      | unsaved transcript error below failedAt =>
          exact absurd failedAt (answered _ error (by simp))
      | collected transcript below => exact .collected checked below
      | unverified transcript reached fault rejected =>
          rw [(sound.grown assigned checked).1.verify reached] at rejected
          cases rejected
      | unrecorded transcript record error reached failedAt =>
          exact absurd failedAt (answered _ error (by simp))
      | uncleared transcript now error reached verified saved failedAt =>
          exact absurd failedAt (answered _ error (by simp))
      | assembled transcript now reached verified reading =>
          exact .assembled checked reached now reading

theorem SubmitEffect.absent {outcome : Outcome ports (Checked EngineError SubmitOutcome)}
    (effect : SubmitEffect crypto memory id signature outcome after)
    (answered : Answered outcome.transcript)
    (absent : memory.pending? id = none) :
    outcome.result = fail .messageNotObserved ∧ after = memory := by
  cases effect with
  | failed transcript op error engineOp failedAt =>
      exact absurd failedAt (answered op error engineOp)
  | unobserved transcript missing => exact ⟨rfl, rfl⟩
  | unavailable transcript pending found unknown =>
      rw [absent] at found
      cases found
  | refused transcript pending set found available fault checked =>
      rw [absent] at found
      cases found
  | accepted pending set found available checked outcome after effect =>
      rw [absent] at found
      cases found

theorem MemorySound.observed {guardianSetIndex : UInt32} {body : VaaBody}
    {outcome : Outcome ports (Checked EngineError MessageId)}
    (sound : MemorySound crypto assignment memory)
    (effect : ObserveEffect crypto memory guardianSetIndex body outcome after) :
    MemorySound crypto assignment after := by
  cases effect with
  | registered transcript set now vacant absent available =>
      exact (sound.upsert (attested_new (sound.registry _ _ available) now)).announce _
  | failed transcript op error engineOp failedAt => exact sound
  | completed transcript record stored => exact sound
  | known transcript pending vacant found => exact sound
  | unavailable transcript vacant absent unknown => exact sound

theorem MemorySound.collected {outcome : Outcome ports (Checked EngineError SubmitOutcome)}
    (sound : MemorySound crypto assignment memory)
    (grown : Grown crypto assignment set id pending)
    (effect : CollectEffect crypto memory set id pending outcome after) :
    MemorySound crypto assignment after := by
  have key := grown.key
  cases effect with
  | unsaved transcript error below failedAt => exact sound
  | collected transcript below => exact sound.upsert (key.symm ▸ grown.pendingSound below)
  | unverified transcript reached fault rejected => exact sound
  | unrecorded transcript record error reached failedAt => exact sound
  | uncleared transcript now error reached verified saved failedAt =>
      exact sound.save (grown.recordSound reached now)
  | assembled transcript now reached verified reading =>
      exact ((sound.save (grown.recordSound reached now)).remove id).announce _

theorem MemorySound.submitted {outcome : Outcome ports (Checked EngineError SubmitOutcome)}
    (sound : MemorySound crypto assignment memory)
    (effect : SubmitEffect crypto memory id signature outcome after) :
    MemorySound crypto assignment after := by
  cases effect with
  | accepted pending set found available checked outcome after effect =>
      exact (sound.announce _).collected (sound.grown found available checked).1 effect
  | failed transcript op error engineOp failedAt => exact sound
  | unobserved transcript absent => exact sound
  | unavailable transcript pending found unknown => exact sound
  | refused transcript pending set found available fault checked => exact sound

end

end WormVerify.Infra
