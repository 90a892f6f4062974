import WormVerify.Infra.Memory

/-! # What concurrent calls keep

Each call of the aggregator is given a proof outline. What it has read of a
message and of the registry stays true, whatever other calls do, because the
registry never changes a set it holds. What it writes back may be out of date:
only where every write finds the message as the call had read it, nothing that
was stored is lost.
-/

namespace WormVerify.Infra

open WormVerify.Types WormVerify.Core Service

/-! ## The invariant of the stores -/

section

variable (crypto : Crypto) (assignment : UInt32 → Option GuardianSet)

/-- The observation is of the message with the id, and all it has collected are
signatures of the message's guardians, in ascending order. -/
structure Attested (id : MessageId) (pending : PendingObservation) : Prop where
  key : pending.message.id = id
  digest : id = pending.message.body.digest crypto
  guardians : ∃ set : GuardianSet, assignment pending.message.guardianSetIndex = some set ∧
    pending.guardianCount = set.keys.length ∧
    ∀ signature ∈ pending.signatures, SignedBy crypto id set.keys signature
  ascending : Ascending GuardianSignature.position pending.signatures

structure PendingSound (id : MessageId) (pending : PendingObservation) : Prop
    extends Attested crypto assignment id pending where
  incomplete : pending.signatures.length < pending.quorum

/-- A stored record is of the VAA with the id, which a quorum signed. -/
structure RecordSound (id : MessageId) (record : VaaRecord) : Prop where
  key : record.id = id
  digest : id = record.vaa.body.digest crypto
  version : record.vaa.version = supportedVersion
  guardians : ∃ set : GuardianSet, assignment record.vaa.guardianSetIndex = some set ∧
    record.vaa.signatures.length = quorum set.keys.length ∧
    record.vaa.verify crypto set.keys = .ok ()

structure MemorySound (memory : Memory) : Prop where
  pending : ∀ id pending, memory.pending? id = some pending →
    PendingSound crypto assignment id pending
  records : ∀ id record, memory.vaa? id = some record → RecordSound crypto assignment id record
  registry : ∀ index set, memory.guardianSet? index = some set → assignment index = some set

end

namespace Memory

variable {memory : Memory}

/-- The signature is stored for the message, pending or completed. -/
def Holds (memory : Memory) (id : MessageId) (signature : GuardianSignature) : Prop :=
  (∃ pending, memory.pending? id = some pending ∧ signature ∈ pending.signatures) ∨
    ∃ record, memory.vaa? id = some record ∧ signature ∈ record.vaa.signatures

/-- Nothing stored is lost: signatures stay and records stay as they are. -/
structure Grows (before after : Memory) : Prop where
  signatures : ∀ id signature, before.Holds id signature → after.Holds id signature
  records : ∀ id record, before.vaa? id = some record → after.vaa? id = some record

theorem Grows.refl (memory : Memory) : Grows memory memory :=
  ⟨fun _ _ held => held, fun _ _ stored => stored⟩

theorem Grows.trans {first second third : Memory} (earlier : Grows first second)
    (later : Grows second third) : Grows first third :=
  ⟨fun id signature held => later.signatures id signature (earlier.signatures id signature held),
    fun id record stored => later.records id record (earlier.records id record stored)⟩

/-! ## Lookups after a write -/

theorem pending?_upsert (pending : PendingObservation) (id : MessageId) :
    ({ memory with messages := memory.messages.insert pending.message.id pending } :
      Memory).pending? id =
      if id = pending.message.id then some pending else memory.pending? id := by
  by_cases same : id = pending.message.id
  · rw [if_pos same, same]
    exact AList.lookup_insert memory.messages
  · simp [pending?, same, AList.lookup_insert_ne]

theorem pending?_remove (removed id : MessageId) :
    ({ memory with messages := memory.messages.erase removed } : Memory).pending? id =
      if id = removed then none else memory.pending? id := by
  by_cases same : id = removed
  · rw [if_pos same, same]
    exact AList.lookup_erase removed memory.messages
  · simp [pending?, same, AList.lookup_erase_ne]

theorem vaa?_save (record : VaaRecord) (id : MessageId) :
    ({ memory with vaas := memory.vaas.insert record.id record } : Memory).vaa? id =
      if id = record.id then some record else memory.vaa? id := by
  by_cases same : id = record.id
  · rw [if_pos same, same]
    exact AList.lookup_insert memory.vaas
  · simp [vaa?, same, AList.lookup_insert_ne]

@[simp] theorem vaa?_upsert (pending : PendingObservation) (id : MessageId) :
    ({ memory with messages := memory.messages.insert pending.message.id pending } :
      Memory).vaa? id = memory.vaa? id := rfl

@[simp] theorem vaa?_remove (removed id : MessageId) :
    ({ memory with messages := memory.messages.erase removed } : Memory).vaa? id =
      memory.vaa? id := rfl

@[simp] theorem pending?_save (record : VaaRecord) (id : MessageId) :
    ({ memory with vaas := memory.vaas.insert record.id record } : Memory).pending? id =
      memory.pending? id := rfl

theorem forall_pending_upsert {holds : MessageId → PendingObservation → Prop}
    (all : ∀ id pending, memory.pending? id = some pending → holds id pending)
    {written : PendingObservation} (new : holds written.message.id written) :
    ∀ id pending, ({ memory with
        messages := memory.messages.insert written.message.id written } :
      Memory).pending? id = some pending → holds id pending := by
  intro id found foundAt
  rw [pending?_upsert] at foundAt
  split at foundAt
  · rename_i same
    cases foundAt
    exact same ▸ new
  · exact all id found foundAt

theorem forall_pending_remove {holds : MessageId → PendingObservation → Prop}
    (all : ∀ id pending, memory.pending? id = some pending → holds id pending)
    (removed : MessageId) :
    ∀ id pending, ({ memory with messages := memory.messages.erase removed } :
      Memory).pending? id = some pending → holds id pending := by
  intro id found foundAt
  rw [pending?_remove] at foundAt
  split at foundAt
  · cases foundAt
  · exact all id found foundAt

/-! ## What a write does to what is stored -/

theorem grows_upsert {pending : PendingObservation}
    (included : ∀ old, memory.pending? pending.message.id = some old →
      old.signatures ⊆ pending.signatures) :
    Grows memory { memory with
      messages := memory.messages.insert pending.message.id pending } := by
  refine ⟨?_, fun _ _ stored => stored⟩
  intro id signature held
  rcases held with ⟨old, oldAt, member⟩ | recorded
  · left
    rw [pending?_upsert]
    by_cases same : id = pending.message.id
    · subst same
      rw [if_pos rfl]
      exact ⟨pending, rfl, included old oldAt member⟩
    · rw [if_neg same]
      exact ⟨old, oldAt, member⟩
  · exact .inr recorded

theorem grows_save {record : VaaRecord} (vacant : memory.vaa? record.id = none) :
    Grows memory { memory with vaas := memory.vaas.insert record.id record } := by
  have kept (id : MessageId) (old : VaaRecord) (stored : memory.vaa? id = some old) :
      ({ memory with vaas := memory.vaas.insert record.id record } : Memory).vaa? id =
        some old := by
    rw [vaa?_save, if_neg, stored]
    intro same
    rw [same, vacant] at stored
    cases stored
  refine ⟨?_, kept⟩
  intro id signature held
  rcases held with pending | ⟨old, stored, member⟩
  · exact .inl pending
  · exact .inr ⟨old, kept id old stored, member⟩

theorem grows_remove {id : MessageId}
    (recorded : ∀ old, memory.pending? id = some old →
      ∃ record, memory.vaa? id = some record ∧ old.signatures ⊆ record.vaa.signatures) :
    Grows memory { memory with messages := memory.messages.erase id } := by
  refine ⟨?_, fun _ _ stored => stored⟩
  intro other signature held
  rcases held with ⟨old, oldAt, member⟩ | completed
  · by_cases same : other = id
    · subst same
      rcases recorded old oldAt with ⟨record, recordAt, included⟩
      exact .inr ⟨record, recordAt, included member⟩
    · left
      rw [pending?_remove, if_neg same]
      exact ⟨old, oldAt, member⟩
  · exact .inr completed

end Memory

namespace MemorySound

variable {crypto : Crypto} {assignment : UInt32 → Option GuardianSet} {memory : Memory}
  (sound : MemorySound crypto assignment memory)

include sound

theorem upsert {pending : PendingObservation}
    (pendingSound : PendingSound crypto assignment pending.message.id pending) :
    MemorySound crypto assignment { memory with
      messages := memory.messages.insert pending.message.id pending } := by
  exact ⟨Memory.forall_pending_upsert sound.pending pendingSound, sound.records,
    sound.registry⟩

theorem remove (id : MessageId) :
    MemorySound crypto assignment { memory with messages := memory.messages.erase id } := by
  exact ⟨Memory.forall_pending_remove sound.pending id, sound.records, sound.registry⟩

theorem save {record : VaaRecord}
    (recordSound : RecordSound crypto assignment record.id record) :
    MemorySound crypto assignment { memory with
      vaas := memory.vaas.insert record.id record } := by
  refine ⟨sound.pending, ?_, sound.registry⟩
  intro id found foundAt
  rw [Memory.vaa?_save] at foundAt
  split at foundAt
  · rename_i same
    cases foundAt
    exact same ▸ recordSound
  · exact sound.records id found foundAt

theorem insertGuardianSet {set : GuardianSet} (assigned : assignment set.index = some set) :
    MemorySound crypto assignment { memory with
      guardians := { memory.guardians with
        sets := memory.guardians.sets.insert set.index set } } := by
  refine ⟨sound.pending, sound.records, ?_⟩
  intro index found foundAt
  by_cases same : index = set.index
  · subst same
    rw [Memory.guardianSet?, AList.lookup_insert] at foundAt
    cases foundAt
    exact assigned
  · rw [Memory.guardianSet?, AList.lookup_insert_ne same] at foundAt
    exact sound.registry index found foundAt

end MemorySound

/-! ## What submitting does to an observation -/

section

variable {crypto : Crypto} {assignment : UInt32 → Option GuardianSet} {id : MessageId}
  {pending : PendingObservation} {set : GuardianSet} {signature : GuardianSignature}

theorem attested_new {guardianSetIndex : UInt32} {body : VaaBody}
    (assigned : assignment guardianSetIndex = some set) (observedAt : Int64) :
    PendingSound crypto assignment (.fromBody crypto body)
      (.new ⟨.fromBody crypto body, guardianSetIndex, body, observedAt⟩ set.keys.length) where
  key := rfl
  digest := rfl
  guardians := ⟨set, assigned, rfl, by simp [PendingObservation.new]⟩
  ascending := .nil
  incomplete := quorum_pos set.keys.length

/-- A new guardian's signature keeps the observation attested and brings it one
signature forward. -/
theorem PendingSound.insertSorted (sound : PendingSound crypto assignment id pending)
    (assigned : assignment pending.message.guardianSetIndex = some set)
    (absent : pending.hasGuardian signature.guardianIndex = false)
    (signed : SignedBy crypto id set.keys signature) :
    Attested crypto assignment id (pending.insertSorted signature) ∧
      (pending.insertSorted signature).signatures.Perm (signature :: pending.signatures) ∧
      pending.quorum = quorum set.keys.length := by
  rcases PendingObservation.insertSorted_spec sound.ascending absent with ⟨ascending, perm⟩
  rcases sound.guardians with ⟨_, again, count, collected⟩
  cases assigned.symm.trans again
  refine ⟨⟨sound.key, sound.digest, ⟨set, assigned, count, ?_⟩, ascending⟩, perm, ?_⟩
  · intro held member
    rcases List.mem_cons.mp (perm.mem_iff.mp member) with rfl | earlier
    · exact signed
    · exact collected held earlier
  · rw [PendingObservation.quorum, count]

/-- The final verification accepts what a quorum has attested. -/
theorem Attested.verify (attested : Attested crypto assignment id pending)
    (assigned : assignment pending.message.guardianSetIndex = some set)
    (enough : quorum set.keys.length ≤ pending.signatures.length) :
    (assemble pending).verify crypto set.keys = .ok () := by
  rcases attested.guardians with ⟨_, again, _, signed⟩
  cases assigned.symm.trans again
  rw [Vaa.verify_eq_ok]
  have digest : (assemble pending).body.digest crypto = id := attested.digest.symm
  refine ⟨?_, attested.ascending, by rw [digest]; exact signed, enough⟩
  intro empty
  have positive := quorum_pos set.keys.length
  rcases List.exists_mem_of_length_pos (Nat.lt_of_lt_of_le positive enough) with ⟨first, member⟩
  rcases signed first member with ⟨guardian, found, _⟩
  simp [empty] at found

theorem Attested.completed (attested : Attested crypto assignment id pending)
    (assigned : assignment pending.message.guardianSetIndex = some set)
    (enough : pending.signatures.length = quorum set.keys.length) (assembledAt : Int64) :
    RecordSound crypto assignment id ⟨id, assemble pending, assembledAt⟩ where
  key := rfl
  digest := attested.digest
  version := rfl
  guardians := ⟨set, assigned, enough, attested.verify assigned (Nat.le_of_eq enough.symm)⟩

end

end WormVerify.Infra
