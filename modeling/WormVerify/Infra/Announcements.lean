import WormVerify.Infra.Failures
import WormVerify.Infra.Soundness

/-! # What the published events say

Subscribers see the events only. A submission announces the signature before
anything is written, so that its event is true only if the writes that follow
succeed.
-/

namespace WormVerify.Infra

open WormVerify.Types WormVerify.Core Service Checked

/-! ## Events and their backing -/

def HeldFrom (memory : Memory) (id : MessageId) (guardianIndex : UInt8) : Prop :=
  ∃ signature, signature.guardianIndex = guardianIndex ∧ memory.Holds id signature

def Backed (memory : Memory) : DomainEvent → Prop
  | .messageObserved id => ∃ pending, memory.pending? id = some pending
  | .signatureCollected id guardianIndex _ _ => HeldFrom memory id guardianIndex
  | .vaaAssembled id => ∃ record, memory.vaa? id = some record

def announces (id : MessageId) (guardianIndex : UInt8) : DomainEvent → Bool
  | .signatureCollected collected index _ _ => collected = id ∧ index = guardianIndex
  | _ => false

def timesAnnounced (memory : Memory) (id : MessageId) (guardianIndex : UInt8) : Nat :=
  memory.events.countP (announces id guardianIndex)

def publishedSince (before after : Memory) : List DomainEvent :=
  after.events.drop before.events.length

/-- In the run every event is backed when the request that published it
returns, and no signature is announced twice. -/
structure EventsTrue (crypto : Crypto) (guardians : InMemoryGuardianRegistry)
    (turns : List (Turn (unreliable crypto))) : Prop where
  backed : ∀ entry ∈ ((unreliable crypto).sequential (.new guardians)).journal turns,
    ∀ event ∈ publishedSince entry.before entry.after, Backed entry.after event
  once : ∀ id guardianIndex,
    timesAnnounced (((unreliable crypto).sequential (.new guardians)).state turns) id
      guardianIndex ≤ 1

/-! ## The condition -/

def PortOp.IsWrite : PortOp → Prop
  | .upsertPending _ => True
  | .saveVaa _ => True
  | .removePending _ => True
  | _ => False

/-- If the request is a submission, none of its writes fails. -/
def WritesSucceed (request : EngineRequest) (transcript : List (Exchange ports)) : Prop :=
  ∀ id signature, request = .submit id signature →
    ∀ op error, PortOp.IsWrite op → ¬FailedAt transcript op error

section

variable {crypto : Crypto} {assignment : UInt32 → Option GuardianSet} {memory after : Memory}
variable {id : MessageId} {signature : GuardianSignature} {pending : PendingObservation}
variable {set : GuardianSet}

theorem HeldFrom.grow {guardianIndex : UInt8} (held : HeldFrom memory id guardianIndex)
    (grows : memory.Grows after) : HeldFrom after id guardianIndex := by
  rcases held with ⟨signature, same, stored⟩
  exact ⟨signature, same, grows.signatures id signature stored⟩

/-- What a run without failed writes keeps: a message is pending or completed
but not both, and an announced signature is stored and was announced once. -/
structure Told (crypto : Crypto) (assignment : UInt32 → Option GuardianSet)
    (memory : Memory) : Prop where
  sound : MemorySound crypto assignment memory
  exclusive : ∀ id pending, memory.pending? id = some pending → memory.vaa? id = none
  once : ∀ id guardianIndex, timesAnnounced memory id guardianIndex ≤ 1
  kept : ∀ id guardianIndex, 0 < timesAnnounced memory id guardianIndex →
    HeldFrom memory id guardianIndex

namespace Told

theorem grow (told : Told crypto assignment memory)
    (sound : MemorySound crypto assignment after) (grows : memory.Grows after)
    (exclusive : ∀ id pending, after.pending? id = some pending → after.vaa? id = none)
    (quiet : ∀ id guardianIndex,
      timesAnnounced after id guardianIndex = timesAnnounced memory id guardianIndex) :
    Told crypto assignment after where
  sound := sound
  exclusive := exclusive
  once other guardianIndex := by
    rw [quiet]
    exact told.once other guardianIndex
  kept other guardianIndex announced := by
    rw [quiet] at announced
    exact (told.kept other guardianIndex announced).grow grows

theorem unannounced (told : Told crypto assignment memory)
    (found : memory.pending? id = some pending)
    (checked : checkSignature crypto set pending id signature = .ok ()) :
    timesAnnounced memory id signature.guardianIndex = 0 := by
  apply Nat.eq_zero_of_not_pos
  intro announced
  have absent := (checkSignature_eq_ok.mp checked).1
  rcases told.kept _ _ announced with ⟨held, same, ⟨other, otherAt, member⟩ | ⟨record, stored, _⟩⟩
  · cases found.symm.trans otherAt
    exact PendingObservation.hasGuardian_eq_false.mp absent held member same
  · rw [told.exclusive id pending found] at stored
    cases stored

theorem accept (told : Told crypto assignment memory)
    (sound : MemorySound crypto assignment after) (grows : memory.Grows after)
    (exclusive : ∀ id pending, after.pending? id = some pending → after.vaa? id = none)
    (first : timesAnnounced memory id signature.guardianIndex = 0)
    (announced : ∀ other guardianIndex, timesAnnounced after other guardianIndex =
      timesAnnounced memory other guardianIndex +
        if id = other ∧ signature.guardianIndex = guardianIndex then 1 else 0)
    (stored : after.Holds id signature) : Told crypto assignment after where
  sound := sound
  exclusive := exclusive
  once other guardianIndex := by
    rw [announced]
    split
    · rename_i same
      rw [← same.1, ← same.2, first]
    · exact told.once other guardianIndex
  kept other guardianIndex positive := by
    rw [announced] at positive
    by_cases same : id = other ∧ signature.guardianIndex = guardianIndex
    · exact ⟨signature, same.2, same.1 ▸ stored⟩
    · rw [if_neg same] at positive
      exact (told.kept other guardianIndex positive).grow grows

end Told

theorem publishedSince_of_append {events : List DomainEvent}
    (appended : after.events = memory.events ++ events) :
    publishedSince memory after = events := by
  rw [publishedSince, appended, List.drop_left]

theorem timesAnnounced_append {events : List DomainEvent} (guardianIndex : UInt8)
    (appended : after.events = memory.events ++ events) :
    timesAnnounced after id guardianIndex =
      timesAnnounced memory id guardianIndex + events.countP (announces id guardianIndex) := by
  rw [timesAnnounced, appended, List.countP_append, timesAnnounced]

theorem countP_announces (other : MessageId) (guardianIndex : UInt8) (held needed : Nat)
    {rest : List DomainEvent} (quiet : rest.countP (announces other guardianIndex) = 0) :
    (.signatureCollected id signature.guardianIndex held needed :: rest).countP
        (announces other guardianIndex) =
      if id = other ∧ signature.guardianIndex = guardianIndex then 1 else 0 := by
  rw [List.countP_cons, quiet]
  simp [announces]

/-! ## One request -/

theorem Told.observed {guardianSetIndex : UInt32} {body : VaaBody}
    {outcome : Outcome ports (Checked EngineError MessageId)}
    (told : Told crypto assignment memory)
    (effect : ObserveEffect crypto memory guardianSetIndex body outcome after) :
    Told crypto assignment after ∧ ∀ event ∈ publishedSince memory after, Backed after event := by
  have sound := told.sound.observed effect
  have silent : publishedSince memory memory = [] := List.drop_length
  cases effect with
  | registered transcript set now vacant absent available =>
      let id := MessageId.fromBody crypto body
      let observation : PendingObservation :=
        .new ⟨id, guardianSetIndex, body, now⟩ set.keys.length
      have grows : memory.Grows (memory.upsert observation) := by
        apply Memory.grows_upsert
        intro old oldAt
        cases absent.symm.trans oldAt
      constructor
      · apply told.grow sound ⟨grows.signatures, grows.records⟩
        · intro other pending found
          by_cases same : other = id
          · rw [same]
            exact vacant
          · apply told.exclusive other pending
            rw [← found]
            exact ((Memory.pending?_upsert observation other).trans (if_neg same)).symm
        · intro other guardianIndex
          simp [timesAnnounced, announces]
      · intro event published
        rw [publishedSince_of_append rfl, List.mem_singleton] at published
        subst published
        exact ⟨observation, (Memory.pending?_upsert observation id).trans (if_pos rfl)⟩
  | failed transcript op error engineOp failedAt => exact ⟨told, by simp [silent]⟩
  | completed transcript record stored => exact ⟨told, by simp [silent]⟩
  | known transcript pending vacant found => exact ⟨told, by simp [silent]⟩
  | unavailable transcript vacant absent unknown => exact ⟨told, by simp [silent]⟩

theorem Told.collected (told : Told crypto assignment memory)
    (found : memory.pending? id = some pending)
    (checked : checkSignature crypto set pending id signature = .ok ())
    (perm : (pending.insertSorted signature).signatures.Perm (signature :: pending.signatures))
    {held needed : Nat} (after : Memory)
    (written : after = (memory.announce
      (.signatureCollected id signature.guardianIndex held needed)).upsert
        (pending.insertSorted signature))
    (sound : MemorySound crypto assignment after) :
    Told crypto assignment after ∧ ∀ event ∈ publishedSince memory after, Backed after event := by
  subst written
  have key : (pending.insertSorted signature).message.id = id :=
    (told.sound.pending id pending found).key
  have pendingAt (other : MessageId) :
      (memory.upsert (pending.insertSorted signature)).pending? other =
        if other = id then some (pending.insertSorted signature) else memory.pending? other := by
    rw [Memory.pending?_upsert, key]
  have grows : memory.Grows (memory.upsert (pending.insertSorted signature)) := by
    apply Memory.grows_upsert
    intro old oldAt
    rw [key, found] at oldAt
    cases oldAt
    exact fun held member => perm.mem_iff.mpr (List.mem_cons_of_mem signature member)
  have stored : (memory.upsert (pending.insertSorted signature)).Holds id signature :=
    .inl ⟨_, (pendingAt id).trans (if_pos rfl), perm.mem_iff.mpr List.mem_cons_self⟩
  constructor
  · apply told.accept sound ⟨grows.signatures, grows.records⟩ _
      (told.unannounced found checked) _ stored
    · intro other observed otherAt
      by_cases same : other = id
      · rw [same]
        exact told.exclusive id pending found
      · exact told.exclusive other observed
          (((pendingAt other).trans (if_neg same)).symm.trans otherAt)
    · intro other guardianIndex
      rw [timesAnnounced_append guardianIndex rfl, countP_announces _ _ _ _ List.countP_nil]
  · intro event published
    rw [publishedSince_of_append rfl, List.mem_singleton] at published
    subst published
    exact ⟨signature, rfl, stored⟩

theorem Told.assembled (told : Told crypto assignment memory)
    (found : memory.pending? id = some pending)
    (checked : checkSignature crypto set pending id signature = .ok ())
    (perm : (pending.insertSorted signature).signatures.Perm (signature :: pending.signatures))
    {held needed : Nat} {now : Int64} (after : Memory)
    (written : after = (((memory.announce
      (.signatureCollected id signature.guardianIndex held needed)).save
        ⟨id, assemble (pending.insertSorted signature), now⟩).remove id).announce
          (.vaaAssembled id))
    (sound : MemorySound crypto assignment after) :
    Told crypto assignment after ∧ ∀ event ∈ publishedSince memory after, Backed after event := by
  let record : VaaRecord := ⟨id, assemble (pending.insertSorted signature), now⟩
  subst written
  have vacant := told.exclusive id pending found
  have saved : (memory.save record).vaa? id = some record :=
    (Memory.vaa?_save record id).trans (if_pos rfl)
  have grows : memory.Grows ((memory.save record).remove id) := by
    apply (@Memory.grows_save memory record vacant).trans
    apply Memory.grows_remove
    intro old oldAt
    rw [Memory.pending?_save, found] at oldAt
    cases oldAt
    exact ⟨record, saved, fun held member =>
      perm.mem_iff.mpr (List.mem_cons_of_mem signature member)⟩
  have stored : ((memory.save record).remove id).Holds id signature :=
    .inr ⟨record, saved, perm.mem_iff.mpr List.mem_cons_self⟩
  constructor
  · apply told.accept sound ⟨grows.signatures, grows.records⟩ _
      (told.unannounced found checked) _ stored
    · intro other observed otherAt
      have removed := (Memory.pending?_remove id other).symm.trans otherAt
      by_cases same : other = id
      · rw [if_pos same] at removed
        cases removed
      · rw [if_neg same] at removed
        exact ((Memory.vaa?_save record other).trans (if_neg same)).trans
          (told.exclusive other observed removed)
    · intro other guardianIndex
      rw [timesAnnounced_append guardianIndex (List.append_assoc _ _ _),
        List.singleton_append, countP_announces]
      rfl
  · intro event published
    rw [publishedSince_of_append (List.append_assoc _ _ _)] at published
    rcases List.mem_cons.mp published with rfl | last
    · exact ⟨signature, rfl, stored⟩
    · rw [List.mem_singleton.mp last]
      exact ⟨record, saved⟩

theorem Told.submitted {outcome : Outcome ports (Checked EngineError SubmitOutcome)}
    (told : Told crypto assignment memory)
    (effect : SubmitEffect crypto memory id signature outcome after)
    (succeed : ∀ op error, PortOp.IsWrite op → ¬FailedAt outcome.transcript op error) :
    Told crypto assignment after ∧ ∀ event ∈ publishedSince memory after, Backed after event := by
  have sound := told.sound.submitted effect
  have silent : publishedSince memory memory = [] := List.drop_length
  cases effect with
  | failed transcript op error engineOp failedAt => exact ⟨told, by simp [silent]⟩
  | unobserved transcript absent => exact ⟨told, by simp [silent]⟩
  | unavailable transcript pending found unknown => exact ⟨told, by simp [silent]⟩
  | refused transcript pending set found available fault checked =>
      exact ⟨told, by simp [silent]⟩
  | accepted pending set found available checked outcome after effect =>
      rcases told.sound.grown found available checked with ⟨grown, perm⟩
      cases effect with
      | unsaved transcript error below failedAt => exact absurd failedAt (succeed _ _ trivial)
      | unrecorded transcript record error reached failedAt =>
          exact absurd failedAt (succeed _ _ trivial)
      | uncleared transcript now error reached verified saved failedAt =>
          exact absurd failedAt (succeed _ _ trivial)
      | unverified transcript reached fault rejected =>
          rw [grown.verify reached] at rejected
          cases rejected
      | collected transcript below => exact told.collected found checked perm _ rfl sound
      | assembled transcript now reached verified reading =>
          exact told.assembled found checked perm _ rfl sound

theorem Told.served {request : EngineRequest} {outcome : Outcome ports Reply}
    (told : Told crypto assignment memory)
    (effect : RequestEffect crypto memory request outcome after)
    (succeed : WritesSucceed request outcome.transcript) :
    Told crypto assignment after ∧ ∀ event ∈ publishedSince memory after, Backed after event := by
  cases effect with
  | observed effect => exact told.observed effect
  | submitted effect => exact told.submitted effect (succeed _ _ rfl)

theorem told_new (guardians : InMemoryGuardianRegistry) :
    Told crypto (Memory.new guardians).guardianSet? (.new guardians) where
  sound := memorySound_new fun _ _ found => found
  exclusive id pending found := by cases found
  once id guardianIndex := Nat.zero_le 1
  kept id guardianIndex announced := absurd announced (Nat.lt_irrefl 0)

end

/-- In every run in which no write of a submission fails, the events are true:
each is backed when it has been published, and no signature is announced
twice. -/
theorem events_true_of_writes_succeed (crypto : Crypto) (guardians : InMemoryGuardianRegistry)
    (turns : List (Turn (unreliable crypto)))
    (succeed : ∀ entry ∈ ((unreliable crypto).sequential (.new guardians)).journal turns,
      WritesSucceed entry.op.request entry.output.transcript) :
    EventsTrue crypto guardians turns := by
  suffices kept : Told crypto (Memory.new guardians).guardianSet?
        (((unreliable crypto).sequential (.new guardians)).state turns) ∧
      ∀ entry ∈ ((unreliable crypto).sequential (.new guardians)).journal turns,
        ∀ event ∈ publishedSince entry.before entry.after, Backed entry.after event from
    ⟨kept.2, kept.1.once⟩
  revert succeed
  apply sequential_induction (unreliable crypto) (.new guardians) (fun _ => True)
    fun memory journal =>
      (∀ entry ∈ journal, WritesSucceed entry.op.request entry.output.transcript) →
        Told crypto (Memory.new guardians).guardianSet? memory ∧
          ∀ entry ∈ journal, ∀ event ∈ publishedSince entry.before entry.after,
            Backed entry.after event
  · exact fun _ => ⟨told_new guardians, by simp⟩
  · intro memory journal turn earlier _
    refine Ensures.imp (request_effect turn.request) ?_
    intro outcome after effect succeed
    rw [List.forall_mem_append, List.forall_mem_singleton] at succeed ⊢
    rcases earlier succeed.1 with ⟨told, backed⟩
    rcases told.served effect succeed.2 with ⟨toldAfter, backedLast⟩
    exact ⟨toldAfter, backed, backedLast⟩
  · simp

/-! ## Runs on the sample -/

theorem writesSucceed_of_reliable {crypto : Crypto} {guardians : InMemoryGuardianRegistry}
    {turns : List (Turn (unreliable crypto))} (reliable : ∀ turn ∈ turns, Reliable turn.choices) :
    ∀ entry ∈ ((unreliable crypto).sequential (.new guardians)).journal turns,
      WritesSucceed entry.op.request entry.output.transcript := by
  intro entry member _ _ _ op error writes
  rcases performed_of_mem_journal _ member with ⟨earlier, later, split, _, output, _⟩
  rw [output]
  apply answered_of_reliable (reliable entry.op (by simp [split]))
  intro same
  exact (same ▸ writes : PortOp.IsWrite .currentGuardianSet)

namespace Sample

open Types.Sample

def reliably (request : EngineRequest) : Turn (unreliable crypto) :=
  ⟨request, fun _ => (0, none)⟩

def attestation : List (Turn (unreliable crypto)) :=
  [reliably (.observe 0 body), reliably (.submit digest signature),
    reliably (.submit digest otherSignature)]

/-- The first signature is announced and not stored, and then submitted
again. -/
def retried : List (Turn (unreliable crypto)) :=
  [reliably (.observe 0 body),
    ⟨.submit digest signature,
      fun turn => if turn = 3 then (0, some (.store "connection lost")) else (0, none)⟩,
    reliably (.submit digest signature)]

end Sample

theorem events_true_attestation :
    EventsTrue Types.Sample.crypto (.new Sample.guardianSet) Sample.attestation :=
  events_true_of_writes_succeed Types.Sample.crypto (.new Sample.guardianSet) Sample.attestation
    (writesSucceed_of_reliable (by simp [Sample.attestation, Sample.reliably, Reliable]))

/-- The retried signature is announced twice. -/
theorem retried_signature_announced_twice :
    ¬∀ (crypto : Crypto) (guardians : InMemoryGuardianRegistry)
      (turns : List (Turn (unreliable crypto))), EventsTrue crypto guardians turns := by
  intro always
  have once := (always Types.Sample.crypto (.new Sample.guardianSet) Sample.retried).once
    Types.Sample.digest 0
  revert once
  decide +kernel

end WormVerify.Infra
