import WormVerify.Infra.Reliance

/-! # Where stored data comes from

Overlapping calls may lose signatures and complete a message twice, and the
registry may be changed at any time. Still nothing is stored or announced that
no call has asked for, and no call stores or announces more than its share.
-/

namespace WormVerify.Infra

open WormVerify.Types WormVerify.Core Service Program Checked

section

variable (crypto : Crypto) (requests : List Request)

/-- The message was observed as it is stored, and its signatures were all
submitted for it. -/
structure Requested (id : MessageId) (guardianSetIndex : UInt32) (body : VaaBody)
    (signatures : List GuardianSignature) : Prop where
  digest : id = .fromBody crypto body
  observed : .observe guardianSetIndex body ∈ requests
  submitted : ∀ signature ∈ signatures, .submit id signature ∈ requests

def PendingRequested (id : MessageId) (pending : PendingObservation) : Prop :=
  pending.message.id = id ∧
    Requested crypto requests id pending.message.guardianSetIndex pending.message.body
      pending.signatures

def RecordRequested (id : MessageId) (record : VaaRecord) : Prop :=
  Requested crypto requests id record.vaa.guardianSetIndex record.vaa.body record.vaa.signatures

def EventRequested : DomainEvent → Prop
  | .messageObserved id =>
      ∃ guardianSetIndex body, id = .fromBody crypto body ∧
        .observe guardianSetIndex body ∈ requests
  | .signatureCollected id guardianIndex _ _ =>
      ∃ signature, signature.guardianIndex = guardianIndex ∧ .submit id signature ∈ requests
  | .vaaAssembled id => ∃ signature, .submit id signature ∈ requests

structure MemoryRequested (memory : Memory) : Prop where
  pending : ∀ id pending, memory.pending? id = some pending →
    PendingRequested crypto requests id pending
  records : ∀ id record, memory.vaa? id = some record → RecordRequested crypto requests id record
  events : ∀ event ∈ memory.events, EventRequested crypto requests event

def WritesRequested : PortOp → Prop
  | .upsertPending pending => PendingRequested crypto requests pending.message.id pending
  | .saveVaa record => RecordRequested crypto requests record.id record
  | .publish event => EventRequested crypto requests event
  | _ => True

def ReadsRequested : (op : PortOp) → op.Response → Prop
  | .getPending id, answer => ∀ pending, answer = .ok (some pending) →
      PendingRequested crypto requests id pending
  | _, _ => True

end

section

variable {crypto : Crypto} {requests : List Request} {id : MessageId}
  {signature : GuardianSignature}

theorem requested_new (guardians : InMemoryGuardianRegistry) :
    MemoryRequested crypto requests (.new guardians) where
  pending id pending found := by cases found
  records id record found := by cases found
  events event member := by cases member

theorem MemoryRequested.serve {memory : Memory} (requested : MemoryRequested crypto requests memory)
    {op : PortOp} (writes : WritesRequested crypto requests op) (now : Int64) :
    MemoryRequested crypto requests (memory.serve now op).2 ∧
      ReadsRequested crypto requests op (memory.serve now op).1 := by
  cases op with
  | getPending id =>
      refine ⟨requested, ?_⟩
      intro pending answered
      exact requested.pending id pending (Except.ok.inj answered)
  | upsertPending pending =>
      exact ⟨⟨Memory.forall_pending_upsert requested.pending writes, requested.records,
        requested.events⟩, trivial⟩
  | removePending id =>
      exact ⟨⟨Memory.forall_pending_remove requested.pending id, requested.records,
        requested.events⟩, trivial⟩
  | saveVaa record =>
      refine ⟨⟨requested.pending, ?_, requested.events⟩, trivial⟩
      intro id found foundAt
      rw [Memory.serve, Memory.vaa?_save] at foundAt
      split at foundAt
      · rename_i same
        cases foundAt
        exact same ▸ writes
      · exact requested.records id found foundAt
  | publish event =>
      refine ⟨⟨requested.pending, requested.records, ?_⟩, trivial⟩
      intro announced member
      rcases List.mem_append.mp member with earlier | new
      · exact requested.events announced earlier
      · exact List.mem_singleton.mp new ▸ writes
  | listPending | getVaa _ | countVaas | currentGuardianSet | getGuardianSet _ | unixSeconds =>
      exact ⟨requested, trivial⟩
  | insertGuardianSet _ | writeCurrent _ =>
      exact ⟨⟨requested.pending, requested.records, requested.events⟩, trivial⟩

/-! ## The engine -/

theorem asked_obeys {op : PortOp} {fits : op.Response = Except EngineError α}
    (writes : WritesRequested crypto requests op) :
    ObeysOr (WritesRequested crypto requests) (ReadsRequested crypto requests) (fun _ => True)
      (fun _ => True) (askFallible op fits) :=
  ask_obeys writes (fun _ _ _ _ => trivial) fun _ _ _ _ => trivial

theorem observe_requested {guardianSetIndex : UInt32} {body : VaaBody}
    (asked : .observe guardianSetIndex body ∈ requests) :
    ObeysOr (WritesRequested crypto requests) (ReadsRequested crypto requests) (fun _ => True)
      (fun _ => True) (observeMessage crypto guardianSetIndex body) := by
  rw [observeMessage]
  refine ObeysOr.bind (asked_obeys (by trivial)) ?_
  intro recorded _
  split
  · exact fail_obeys trivial
  · refine ObeysOr.bind (asked_obeys (by trivial)) ?_
    intro found _
    split
    · exact ObeysOr.pure trivial
    · refine ObeysOr.bind (asked_obeys (by trivial)) ?_
      intro available _
      apply (checked_obeys fun _ _ => trivial).bind
      intro set _
      apply (unixSeconds_obeys trivial).bind
      intro observedAt _
      refine ObeysOr.bind (asked_obeys ?_) ?_
      · exact ⟨rfl, rfl, asked, fun signature member => by cases member⟩
      · intro _ _
        apply (publish_obeys ⟨guardianSetIndex, body, rfl, asked⟩).bind
        intro _ _
        exact ObeysOr.pure trivial

theorem PendingRequested.insertSorted {pending : PendingObservation}
    (requested : PendingRequested crypto requests id pending)
    (asked : .submit id signature ∈ requests) :
    PendingRequested crypto requests id (pending.insertSorted signature) := by
  refine ⟨requested.1, requested.2.digest, requested.2.observed, ?_⟩
  intro inserted member
  rcases List.eq_or_mem_of_mem_insertIdx member with rfl | earlier
  · exact asked
  · exact requested.2.submitted inserted earlier

theorem submit_requested (asked : .submit id signature ∈ requests) :
    ObeysOr (WritesRequested crypto requests) (ReadsRequested crypto requests) (fun _ => True)
      (fun _ => True) (submitSignature crypto id signature) := by
  rw [submitSignature]
  have reads : ObeysOr (WritesRequested crypto requests) (ReadsRequested crypto requests)
      (fun found => ∀ pending, found = some pending →
        PendingRequested crypto requests id pending) (fun _ => True) (getPending id) := by
    apply ask_obeys trivial
    · intro response found relied answered pending present
      exact relied pending (answered.trans (congrArg Except.ok present))
    · exact fun _ _ _ _ => trivial
  apply reads.bind
  intro found stored
  apply (checked_obeys fun _ _ => trivial).bind
  intro pending present
  have grown := (stored pending (okOr_eq_ok.mp present)).insertSorted asked
  refine ObeysOr.bind (asked_obeys (by trivial)) ?_
  intro available _
  apply (checked_obeys fun _ _ => trivial).bind
  intro set _
  apply (checked_obeys fun _ _ => trivial).bind
  intro _ _
  rw [collectSignature]
  apply (publish_obeys ⟨signature, rfl, asked⟩).bind
  intro _ _
  split
  · refine ObeysOr.bind (asked_obeys ?_) ?_
    · rw [WritesRequested, grown.1]
      exact grown
    · intro _ _
      exact ObeysOr.pure trivial
  · rw [completeObservation]
    apply (checked_obeys fun _ _ => trivial).bind
    intro _ _
    apply (unixSeconds_obeys trivial).bind
    intro assembledAt _
    refine ObeysOr.bind (asked_obeys (by exact grown.2)) ?_
    intro _ _
    refine ObeysOr.bind (asked_obeys (by trivial)) ?_
    intro _ _
    apply (publish_obeys ⟨signature, asked⟩).bind
    intro _ _
    exact ObeysOr.pure trivial

theorem body_requested {request : Request} (asked : request ∈ requests) :
    ((aggregator crypto).body request).Obeys (WritesRequested crypto requests)
      (ReadsRequested crypto requests) fun _ => True := by
  cases request with
  | observe guardianSetIndex body =>
      exact Obeys.bind (observe_requested asked) fun _ _ => trivial
  | submit id signature => exact Obeys.bind (submit_requested asked) fun _ _ => trivial
  | upgrade set => exact ⟨trivial, fun _ _ => ⟨trivial, fun _ _ => trivial⟩⟩

variable {allowed : (aggregator crypto).Rule} {guardians : InMemoryGuardianRegistry}
  {pool : (aggregator crypto).Pool}

theorem memory_requested (reachable : Reachable allowed (.new guardians) pool) :
    MemoryRequested crypto (pool.calls.map Call.request) pool.world := by
  let requests := pool.calls.map Call.request
  have upheld := @Reachable.upholds (aggregator crypto) allowed _ (WritesRequested crypto requests)
    (ReadsRequested crypto requests) (fun _ _ => True) (MemoryRequested crypto requests)
    (requested_new guardians) pool
    (fun _ _ _ _ requested op now writes same => same ▸ requested.serve writes now) reachable
    fun call member => body_requested (List.mem_map_of_mem member)
  exact upheld.1

/-- Whatever the order of the port calls and whatever becomes of the registry,
each stored message was observed by a call of the run, each of its signatures was
submitted by one, and each event tells of one. -/
theorem stored_data_was_requested (reachable : Reachable allowed (.new guardians) pool) :
    (∀ id pending, pool.world.pending? id = some pending →
      PendingRequested crypto (pool.calls.map Call.request) id pending) ∧
    (∀ id record, pool.world.vaa? id = some record →
      RecordRequested crypto (pool.calls.map Call.request) id record) ∧
    ∀ event ∈ pool.world.events, EventRequested crypto (pool.calls.map Call.request) event := by
  have requested := memory_requested reachable
  exact ⟨requested.pending, requested.records, requested.events⟩

theorem stored_data_was_requested_completion :
    ∃ record, Sample.completed.world.vaa? Types.Sample.digest = some record ∧
      RecordRequested Types.Sample.crypto (Sample.completed.calls.map Call.request)
        Types.Sample.digest record := by
  have requested := stored_data_was_requested Sample.completed_reachable
  have stored : (Sample.completed.world.vaa? Types.Sample.digest).isSome := by decide +kernel
  rcases Option.isSome_iff_exists.mp stored with ⟨record, found⟩
  exact ⟨record, found, requested.2.1 _ record found⟩

end

/-! ## How much a call asks for -/

def price (other write event : Nat) : PortOp → Nat
  | .upsertPending _ | .saveVaa _ => write
  | .publish _ => event
  | _ => other

section

variable {crypto : Crypto} {other write event budget : Nat}

theorem ask_spends {op : PortOp} {fits : op.Response = Except EngineError α}
    (affordable : price other write event op ≤ budget) :
    @SpendsOr α ports _ (price other write event) (askFallible op fits) budget :=
  ⟨affordable, fun _ => trivial⟩

theorem checked_spends {outcome : Checked EngineError α} :
    @SpendsOr α ports _ (price other write event) (EngineM.ofChecked outcome) budget :=
  trivial

theorem publish_spends {announced : DomainEvent} :
    @SpendsOr Unit ports _ (price other write event) (publish announced) event :=
  ⟨Nat.le_refl event, fun _ => trivial⟩

theorem unixSeconds_spends :
    @SpendsOr Int64 ports _ (price other write event) unixSeconds other :=
  ⟨Nat.le_refl other, fun _ => trivial⟩

theorem observe_spends {guardianSetIndex : UInt32} {body : VaaBody} :
    @SpendsOr _ ports _ (price other write event) (observeMessage crypto guardianSetIndex body)
      (4 * other + write + event) := by
  have inTurn : @SpendsOr _ ports _ (price other write event)
      (observeMessage crypto guardianSetIndex body)
      (other + (other + (other + (other + (write + event))))) := by
    rw [observeMessage]
    refine SpendsOr.bind (ask_spends (by rfl)) ?_
    intro recorded
    split
    · exact checked_spends
    · refine SpendsOr.bind (ask_spends (by rfl)) ?_
      intro found
      split
      · exact SpendsOr.pure
      · refine SpendsOr.bind (ask_spends (by rfl)) ?_
        intro available
        apply checked_spends.bind_free
        intro set
        apply unixSeconds_spends.bind
        intro observedAt
        refine SpendsOr.bind (ask_spends (by rfl)) ?_
        intro _
        exact publish_spends.bind_pure
  exact Spends.mono inTurn (by omega)

/-- A submission announces its signature, and either writes the observation back
or writes a record and announces that as well. -/
theorem submit_spends {id : MessageId} {signature : GuardianSignature} :
    @SpendsOr _ ports _ (price other write event) (submitSignature crypto id signature)
      (4 * other + write + 2 * event) := by
  have inTurn : @SpendsOr _ ports _ (price other write event)
      (submitSignature crypto id signature)
      (other + (other + (event + (other + (write + (other + event)))))) := by
    rw [submitSignature]
    refine SpendsOr.bind (ask_spends (by rfl)) ?_
    intro found
    apply checked_spends.bind_free
    intro pending
    refine SpendsOr.bind (ask_spends (by rfl)) ?_
    intro available
    apply checked_spends.bind_free
    intro set
    apply checked_spends.bind_free
    intro _
    rw [collectSignature]
    apply publish_spends.bind
    intro _
    split
    · have written : @SpendsOr _ ports _ (price other write event)
          (upsertPending (pending.insertSorted signature)) write :=
        ask_spends (by rfl)
      exact Spends.mono written.bind_pure (by omega)
    · rw [completeObservation]
      apply checked_spends.bind_free
      intro _
      apply unixSeconds_spends.bind
      intro assembledAt
      refine SpendsOr.bind (ask_spends (by rfl)) ?_
      intro _
      refine SpendsOr.bind (ask_spends (by rfl)) ?_
      intro _
      exact publish_spends.bind_pure
  exact Spends.mono inTurn (by omega)

theorem body_spends (request : Request) :
    ((aggregator crypto).body request).Spends (price other write event)
      (4 * other + write + 2 * event) := by
  cases request with
  | observe guardianSetIndex body =>
      exact (Spends.map observe_spends).mono (by omega)
  | submit id signature => exact Spends.map submit_spends
  | upgrade set =>
      refine ⟨?_, fun _ => ⟨?_, fun _ => trivial⟩⟩ <;>
        simp only [price] <;>
        omega

def Memory.size (memory : Memory) : Nat :=
  memory.messages.entries.length + memory.vaas.entries.length

theorem length_insert_le {κ ν : Type} [DecidableEq κ] (map : DashMap κ ν) (key : κ) (value : ν) :
    (map.insert key value).entries.length ≤ map.entries.length + 1 := by
  rw [AList.entries_insert, List.length_cons]
  exact Nat.succ_le_succ (List.kerase_sublist key map.entries).length_le

theorem length_erase_le {κ ν : Type} [DecidableEq κ] (map : DashMap κ ν) (key : κ) :
    (map.erase key).entries.length ≤ map.entries.length :=
  (List.kerase_sublist key map.entries).length_le

theorem size_serve (memory : Memory) (op : PortOp) (now : Int64) :
    (memory.serve now op).2.size ≤ memory.size + price 0 1 0 op := by
  cases op with
  | upsertPending pending =>
      have written := length_insert_le memory.messages pending.message.id pending
      simp only [Memory.serve, Memory.size, price]
      omega
  | saveVaa record =>
      have written := length_insert_le memory.vaas record.id record
      simp only [Memory.serve, Memory.size, price]
      omega
  | removePending id =>
      have written := length_erase_le memory.messages id
      simp only [Memory.serve, Memory.size, price]
      omega
  | _ => exact Nat.le_refl _

theorem events_serve (memory : Memory) (op : PortOp) (now : Int64) :
    (memory.serve now op).2.events.length ≤ memory.events.length + price 0 0 1 op := by
  cases op with
  | publish event => exact (List.length_append ..).le
  | _ => exact Nat.le_refl _

/-- Each call adds at most one message to the stores and two events. -/
theorem footprint_le {allowed : (aggregator crypto).Rule} {guardians : InMemoryGuardianRegistry}
    {pool : (aggregator crypto).Pool} (reachable : Reachable allowed (.new guardians) pool) :
    pool.world.size ≤ pool.calls.length ∧
      pool.world.events.length ≤ 2 * pool.calls.length := by
  have stored := reachable.measure_le body_spends Memory.size rfl
    fun memory op now => size_serve memory op now
  have announced := reachable.measure_le body_spends
    (fun memory : Memory => memory.events.length) rfl
    fun memory op now => events_serve memory op now
  exact ⟨stored.trans (Nat.one_mul _).le, announced⟩

end

end WormVerify.Infra
