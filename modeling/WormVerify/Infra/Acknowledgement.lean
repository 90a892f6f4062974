import WormVerify.Infra.Failures
import WormVerify.Infra.Soundness

/-! # Acknowledged observations

An observation that is acknowledged is stored, with its own guardian set only
if the message was not pending before.
-/

namespace WormVerify.Infra

open WormVerify.Types WormVerify.Core Service Checked

section

variable (crypto : Crypto)

abbrev reached (guardians : InMemoryGuardianRegistry) (turns : List (Turn (aggregator crypto))) :
    Memory :=
  ((aggregator crypto).sequential (.new guardians)).state turns

abbrev observing (memory : Memory) (guardianSetIndex : UInt32) (body : VaaBody)
    (choices : Nat → Int64) : Outcome ports Reply × Memory :=
  (aggregator crypto).perform ((aggregator crypto).body (.observe guardianSetIndex body))
    choices memory

end

section

variable {crypto : Crypto}

def observedBodies (turns : List (Turn (aggregator crypto))) : List VaaBody :=
  turns.filterMap fun turn =>
    match turn.request with
    | .observe _ body => some body
    | _ => none

variable (crypto) in
def DistinctDigests (bodies : List VaaBody) : Prop :=
  ∀ first ∈ bodies, ∀ second ∈ bodies,
    first.digest crypto = second.digest crypto → first = second

/-- After the call the message is stored with the body and the guardian set
index, with everything it had collected, and nothing else has changed. -/
structure Delivers (before after : Memory) (id : MessageId) (guardianSetIndex : UInt32)
    (body : VaaBody) : Prop where
  stored : ∃ pending, after.pending? id = some pending ∧
    pending.message.guardianSetIndex = guardianSetIndex ∧ pending.message.body = body ∧
    ∀ old, before.pending? id = some old → old.signatures ⊆ pending.signatures
  others : ∀ other, other ≠ id → after.pending? other = before.pending? other
  records : ∀ other, after.vaa? other = before.vaa? other

def keptIndex (before : Memory) (id : MessageId) (guardianSetIndex : UInt32) : UInt32 :=
  match before.pending? id with
  | some old => old.message.guardianSetIndex
  | none => guardianSetIndex

/-! ## What is stored was observed -/

def StoresObserved (crypto : Crypto) (bodies : List VaaBody) (memory : Memory) : Prop :=
  ∀ id pending, memory.pending? id = some pending →
    pending.message.id = id ∧ id = pending.message.body.digest crypto ∧
      pending.message.body ∈ bodies

variable {bodies : List VaaBody} {memory after : Memory}

theorem StoresObserved.upsert (stores : StoresObserved crypto bodies memory)
    {pending : PendingObservation}
    (digest : pending.message.id = pending.message.body.digest crypto)
    (observed : pending.message.body ∈ bodies) :
    StoresObserved crypto bodies (memory.upsert pending) :=
  Memory.forall_pending_upsert stores ⟨rfl, digest, observed⟩

theorem StoresObserved.remove (stores : StoresObserved crypto bodies memory)
    (removed : MessageId) : StoresObserved crypto bodies (memory.remove removed) :=
  Memory.forall_pending_remove stores removed

theorem StoresObserved.mono {more : List VaaBody} (stores : StoresObserved crypto bodies memory)
    (included : bodies ⊆ more) : StoresObserved crypto more memory := by
  intro id found foundAt
  rcases stores id found foundAt with ⟨key, digest, observed⟩
  exact ⟨key, digest, included observed⟩

theorem StoresObserved.observe (stores : StoresObserved crypto bodies memory)
    {guardianSetIndex : UInt32} {body : VaaBody}
    {outcome : Outcome ports (Checked EngineError MessageId)}
    (effect : ObserveEffect crypto memory guardianSetIndex body outcome after)
    (observed : body ∈ bodies) : StoresObserved crypto bodies after := by
  cases effect with
  | registered transcript set now vacant absent available =>
      exact stores.upsert rfl observed
  | _ => exact stores

theorem StoresObserved.submit (stores : StoresObserved crypto bodies memory)
    {id : MessageId} {signature : GuardianSignature}
    {outcome : Outcome ports (Checked EngineError SubmitOutcome)}
    (effect : SubmitEffect crypto memory id signature outcome after) :
    StoresObserved crypto bodies after := by
  cases effect with
  | accepted pending set found available checked outcome after effect =>
      rcases stores id pending found with ⟨key, digest, observed⟩
      cases effect with
      | collected transcript below => exact stores.upsert (key.trans digest) observed
      | assembled transcript now reached verified reading => exact stores.remove id
      | _ => exact stores
  | _ => exact stores

theorem stores_observed (crypto : Crypto) (guardians : InMemoryGuardianRegistry)
    (turns : List (Turn (aggregator crypto))) :
    StoresObserved crypto (observedBodies turns)
      (reached crypto guardians turns) := by
  induction turns using List.reverseRecOn with
  | nil => exact fun _ _ found => nomatch found
  | append_singleton turns turn induction =>
      have soFar := induction.mono
        (List.subset_append_left (observedBodies turns) (observedBodies [turn]))
      rw [observedBodies, List.filterMap_append, reached, state_sequential_concat]
      rcases turn with ⟨request, choices⟩
      cases request with
      | observe guardianSetIndex body =>
          rcases (aggregator_effect crypto (.observe guardianSetIndex body) choices
            (reached crypto guardians turns)).1.observe with
            ⟨result, _, effect⟩
          exact soFar.observe effect (by simp [observedBodies])
      | submit id signature =>
          rcases (aggregator_effect crypto (.submit id signature) choices
            (reached crypto guardians turns)).1.submit with
            ⟨result, _, effect⟩
          exact soFar.submit effect
      | upgrade set => exact soFar

/-! ## What is acknowledged -/

theorem ObserveEffect.delivers {guardianSetIndex : UInt32} {body : VaaBody} {id : MessageId}
    {outcome : Outcome ports (Checked EngineError MessageId)}
    (effect : ObserveEffect crypto memory guardianSetIndex body outcome after)
    (stores : StoresObserved crypto bodies memory)
    (distinct : DistinctDigests crypto (body :: bodies))
    (acknowledged : outcome.result = .ok id) :
    Delivers memory after id (keptIndex memory id guardianSetIndex) body := by
  cases effect with
  | known transcript pending vacant found =>
      cases acknowledged
      rcases stores _ pending found with ⟨_, digest, observed⟩
      have same : pending.message.body = body :=
        distinct _ (List.mem_cons_of_mem _ observed) _ List.mem_cons_self digest.symm
      refine ⟨⟨pending, found, by rw [keptIndex, found], same, ?_⟩, fun _ _ => rfl,
        fun _ => rfl⟩
      intro old oldAt
      cases found.symm.trans oldAt
      exact List.Subset.refl _
  | registered transcript set now vacant absent available =>
      cases acknowledged
      refine ⟨⟨_, (Memory.pending?_upsert _ _).trans (if_pos rfl), by rw [keptIndex, absent]; rfl,
        rfl, ?_⟩, ?_, fun _ => rfl⟩
      · intro old oldAt
        cases absent.symm.trans oldAt
      · intro other different
        exact (Memory.pending?_upsert _ _).trans (if_neg different)
  | failed transcript op error engineOp failedAt => cases acknowledged
  | completed transcript record stored => cases acknowledged
  | unavailable transcript vacant absent unknown => cases acknowledged

/-- An acknowledged observation is stored with its body. It has the guardian
set it was observed under, unless the message was pending before and kept its
own. -/
theorem observe_delivers (crypto : Crypto) (guardians : InMemoryGuardianRegistry)
    (turns : List (Turn (aggregator crypto))) (guardianSetIndex : UInt32) (body : VaaBody)
    (choices : Nat → Int64) (id : MessageId)
    (distinct : DistinctDigests crypto (body :: observedBodies turns))
    (acknowledged : (observing crypto (reached crypto guardians turns) guardianSetIndex body
      choices).1.result = .observed (.ok id)) :
    Delivers (reached crypto guardians turns)
      (observing crypto (reached crypto guardians turns) guardianSetIndex body choices).2 id
      (keptIndex (reached crypto guardians turns) id guardianSetIndex) body := by
  rcases (aggregator_effect crypto (.observe guardianSetIndex body) choices
    (reached crypto guardians turns)).1.observe with ⟨result, resultIs, effect⟩
  have answered : result = .ok id := Reply.observed.inj (resultIs.symm.trans acknowledged)
  exact effect.delivers (stores_observed crypto guardians turns) distinct answered

end

namespace Sample

open Types.Sample

def signedOnce : List (Turn (aggregator crypto)) :=
  [⟨.observe 0 body, fun _ => 0⟩, ⟨.submit digest signature, fun _ => 0⟩]

theorem signedOnce_distinct : DistinctDigests crypto (body :: observedBodies signedOnce) := by
  intro first firstMember second secondMember _
  simp only [observedBodies, signedOnce, List.filterMap_cons, List.filterMap_nil,
    List.mem_cons, List.not_mem_nil, or_false, or_self] at firstMember secondMember
  rw [firstMember, secondMember]

end Sample

theorem observe_delivers_again :
    Delivers (reached Types.Sample.crypto (.new Sample.guardianSet) Sample.signedOnce)
      (observing Types.Sample.crypto
        (reached Types.Sample.crypto (.new Sample.guardianSet) Sample.signedOnce) 1
        Types.Sample.body fun _ => 0).2 Types.Sample.digest
      (keptIndex (reached Types.Sample.crypto (.new Sample.guardianSet) Sample.signedOnce)
        Types.Sample.digest 1) Types.Sample.body :=
  observe_delivers Types.Sample.crypto (.new Sample.guardianSet) Sample.signedOnce 1
    Types.Sample.body (fun _ => 0) Types.Sample.digest Sample.signedOnce_distinct
    (by decide +kernel)

/-- The second observation is acknowledged, but its guardian set is not
stored. -/
theorem acknowledged_under_other_set :
    ¬∀ (crypto : Crypto) (guardians : InMemoryGuardianRegistry)
      (turns : List (Turn (aggregator crypto))) (guardianSetIndex : UInt32) (body : VaaBody)
      (choices : Nat → Int64) (id : MessageId),
      DistinctDigests crypto (body :: observedBodies turns) →
      (observing crypto (reached crypto guardians turns) guardianSetIndex body
        choices).1.result = .observed (.ok id) →
      Delivers (reached crypto guardians turns)
        (observing crypto (reached crypto guardians turns) guardianSetIndex body choices).2 id
        guardianSetIndex body := by
  intro always
  rcases (always Types.Sample.crypto (.new Sample.guardianSet) Sample.signedOnce 1
    Types.Sample.body (fun _ => 0) Types.Sample.digest Sample.signedOnce_distinct
    (by decide +kernel)).stored with ⟨pending, found, index, _⟩
  have kept : ((observing Types.Sample.crypto
      (reached Types.Sample.crypto (.new Sample.guardianSet) Sample.signedOnce) 1
      Types.Sample.body fun _ => 0).2.pending? Types.Sample.digest).map
        (fun pending => pending.message.guardianSetIndex) = some 0 := by
    decide +kernel
  rw [found, Option.map_some, index] at kept
  cases kept

end WormVerify.Infra
