import WormVerify.Foundation.Simulation
import WormVerify.Infra.Failures
import WormVerify.Infra.Soundness

/-! # What the engine makes of truthful answers

Over a registry that nobody upgrades, the adapters answer the engine with sound
observations and records only. What the engine returns then is sound too, and
few of its errors can occur.
-/

namespace WormVerify.Infra

open WormVerify.Types WormVerify.Core Service Program Checked

def Served : PortOp → Prop
  | .insertGuardianSet _ | .writeCurrent _ => False
  | _ => True

def Unupgraded (crypto : Crypto) : (aggregator crypto).Rule := fun _ _ op => Served op

def VaaSound (crypto : Crypto) (assignment : UInt32 → Option GuardianSet) (id : MessageId)
    (vaa : Vaa) : Prop :=
  ∀ assembledAt, RecordSound crypto assignment id ⟨id, vaa, assembledAt⟩

section

variable (crypto : Crypto) (registry : InMemoryGuardianRegistry)

def InMemoryGuardianRegistry.get? (index : UInt32) : Option GuardianSet :=
  registry.sets.lookup index

/-- A collected signature is that of a member of a set, and is counted towards the
quorum of the set. -/
def EventSound : DomainEvent → Prop
  | .signatureCollected _ guardianIndex held needed =>
      ∃ index set, registry.get? index = some set ∧ guardianIndex.toNat < set.keys.length ∧
        0 < held ∧ held ≤ needed ∧ needed = quorum set.keys.length
  | _ => True

def Tells : PortOp → Prop
  | .insertGuardianSet _ | .writeCurrent _ => False
  | .publish event => EventSound registry event
  | _ => True

/-- What can be relied on in an answer of the adapters. -/
def Truthful : (op : PortOp) → op.Response → Prop
  | .getPending id, answer => ∃ found, answer = .ok found ∧
      ∀ pending, found = some pending → PendingSound crypto registry.get? id pending
  | .getVaa id, answer => ∃ found, answer = .ok found ∧
      ∀ record, found = some record → RecordSound crypto registry.get? id record
  | .listPending, answer => ∃ listed, answer = .ok listed ∧
      (listed.map fun pending => pending.message.id).Nodup ∧
      ∀ pending ∈ listed, PendingSound crypto registry.get? pending.message.id pending
  | .countVaas, answer => ∃ stored : List VaaRecord,
      answer = .ok (UInt64.ofNat stored.length) ∧ (stored.map fun record => record.id).Nodup ∧
      ∀ record ∈ stored, RecordSound crypto registry.get? record.id record
  | .currentGuardianSet, answer =>
      answer = ((Memory.new registry).serve 0 .currentGuardianSet).1
  | .getGuardianSet index, answer => answer = .ok (registry.get? index)
  | .upsertPending _, answer => answer = .ok ()
  | .removePending _, answer => answer = .ok ()
  | .saveVaa _, answer => answer = .ok ()
  | .publish _, _ => True
  | .unixSeconds, _ => True
  | .insertGuardianSet _, _ => True
  | .writeCurrent _, _ => True

end

/-! ## Engine programs -/

section

variable {guarantee : PortOp → Prop} {rely : (op : PortOp) → op.Response → Prop}
  {ends : α → Prop} {fails : Fault EngineError → Prop}

theorem ask_obeys {op : PortOp} {fits : op.Response = Except EngineError α}
    (asked : guarantee op)
    (value : ∀ response value, rely op response → fits ▸ response = Except.ok value → ends value)
    (error : ∀ response error, rely op response → fits ▸ response = Except.error error →
      fails (.returned error)) :
    @ObeysOr ports α _ guarantee rely ends fails (askFallible op fits) := by
  refine ⟨asked, ?_⟩
  intro response relied
  beta_reduce
  cases answered : (fits ▸ response : Except EngineError α) with
  | ok found => exact value response found relied answered
  | error failed => exact error response failed relied answered

theorem checked_obeys {outcome : Checked EngineError α}
    (fault : ∀ fault, outcome = .error fault → fails fault) :
    @ObeysOr ports α _ guarantee rely (fun value => outcome = .ok value) fails
      (EngineM.ofChecked outcome) := by
  cases outcome with
  | ok found => exact rfl
  | error failed => exact fault failed rfl

theorem fail_obeys {error : EngineError} (failed : fails (.returned error)) :
    @ObeysOr ports α _ guarantee rely ends fails (EngineM.ofChecked (fail error)) :=
  failed

theorem publish_obeys {event : DomainEvent} (asked : guarantee (.publish event)) :
    @ObeysOr ports Unit _ guarantee rely (fun _ => True) fails (publish event) :=
  ⟨asked, fun _ _ => trivial⟩

theorem unixSeconds_obeys (asked : guarantee .unixSeconds) :
    @ObeysOr ports Int64 _ guarantee rely (fun _ => True) fails unixSeconds :=
  ⟨asked, fun _ _ => trivial⟩

theorem okOr_eq_error {value : Option α} {error : EngineError} {fault : Fault EngineError}
    (failed : okOr value error = .error fault) : value = none ∧ fault = .returned error := by
  cases value with
  | some found => cases failed
  | none =>
      cases failed
      exact ⟨rfl, rfl⟩

end

/-! ## The adapters are truthful -/

section

variable {crypto : Crypto} {registry : InMemoryGuardianRegistry}

theorem Tells.served {op : PortOp} (tells : Tells registry op) : Served op := by
  cases op with
  | insertGuardianSet set => exact tells.elim
  | writeCurrent index => exact tells.elim
  | _ => trivial

theorem Served.immutable {memory : Memory} {call : (aggregator crypto).Call} {op : PortOp}
    (served : Served op) : Immutable crypto memory call op := by
  cases op with
  | insertGuardianSet set => exact served.elim
  | _ => trivial

theorem Served.guardians {op : PortOp} (served : Served op) (now : Int64) (memory : Memory) :
    (memory.serve now op).2.guardians = memory.guardians := by
  cases op with
  | insertGuardianSet set => exact served.elim
  | writeCurrent index => exact served.elim
  | _ => rfl

/-- In an unupgraded run the registry stays as it was, and the stores are sound
for it. -/
theorem unupgraded_sound {pool : (aggregator crypto).Pool}
    (reachable : Reachable (Unupgraded crypto) (.new registry) pool) :
    pool.world.guardians = registry ∧ MemorySound crypto registry.get? pool.world := by
  have both : Reachable (Immutable crypto) (.new registry) pool ∧
      pool.world.guardians = registry := by
    induction reachable with
    | start => exact ⟨.start, rfl⟩
    | step _ step induction =>
        refine ⟨induction.1.step (step.permit fun _ _ _ permitted _ => permitted.immutable), ?_⟩
        rcases step.world with same | ⟨call, op, now, permitted, served⟩
        · rw [same]
          exact induction.2
        · rw [served, Served.guardians permitted]
          exact induction.2
  refine ⟨both.2, ?_⟩
  have sound := (immutable_claims both.1).1
  have assigned : pool.world.guardianSet? = registry.get? := by
    funext index
    rw [Memory.guardianSet?, both.2]
    rfl
  rw [assigned] at sound
  exact sound

theorem mem_listed {memory : Memory} {pending : PendingObservation}
    (sound : MemorySound crypto registry.get? memory) :
    pending ∈ memory.messages.entries.map Sigma.snd ↔
      memory.pending? pending.message.id = some pending := by
  rw [List.mem_map]
  constructor
  · intro listed
    rcases listed with ⟨⟨id, stored⟩, member, rfl⟩
    have found : memory.pending? id = some stored := AList.mem_lookup_iff.mpr member
    change memory.pending? stored.message.id = some stored
    rw [(sound.pending id stored found).key, found]
  · intro found
    exact ⟨⟨pending.message.id, pending⟩, AList.mem_lookup_iff.mp found, rfl⟩

theorem listed_ids {memory : Memory} (sound : MemorySound crypto registry.get? memory) :
    (memory.messages.entries.map Sigma.snd).map (fun pending => pending.message.id) =
      memory.messages.keys := by
  rw [List.map_map]
  apply List.map_congr_left
  intro entry member
  exact (sound.pending entry.1 entry.2 (AList.mem_lookup_iff.mpr member)).key

theorem records_sound {memory : Memory} (sound : MemorySound crypto registry.get? memory) :
    ((memory.vaas.entries.map Sigma.snd).map fun record => record.id) = memory.vaas.keys ∧
      ∀ record ∈ memory.vaas.entries.map Sigma.snd,
        RecordSound crypto registry.get? record.id record := by
  have entrySound (entry : Sigma fun _ : MessageId => VaaRecord)
      (member : entry ∈ memory.vaas.entries) :
      RecordSound crypto registry.get? entry.1 entry.2 :=
    sound.records entry.1 entry.2 (AList.mem_lookup_iff.mpr member)
  constructor
  · rw [List.map_map]
    exact List.map_congr_left fun entry member => (entrySound entry member).key
  · intro record listed
    rcases List.mem_map.mp listed with ⟨entry, member, rfl⟩
    have recordSound := entrySound entry member
    rwa [← recordSound.key] at recordSound

theorem truthful_serve {memory : Memory} (fixed : memory.guardians = registry)
    (sound : MemorySound crypto registry.get? memory) (op : PortOp) (now : Int64) :
    Truthful crypto registry op (memory.serve now op).1 := by
  cases op with
  | getPending id => exact ⟨_, rfl, sound.pending id⟩
  | getVaa id => exact ⟨_, rfl, sound.records id⟩
  | listPending =>
      refine ⟨_, rfl, ?_, ?_⟩
      · rw [listed_ids sound]
        exact memory.messages.keys_nodup
      · intro pending member
        exact sound.pending _ pending ((mem_listed sound).mp member)
  | countVaas =>
      rcases records_sound sound with ⟨ids, recordsSound⟩
      refine ⟨memory.vaas.entries.map Sigma.snd, ?_, ?_, recordsSound⟩
      · rw [List.length_map]
        rfl
      · rw [ids]
        exact memory.vaas.keys_nodup
  | currentGuardianSet =>
      subst fixed
      rfl
  | getGuardianSet index =>
      subst fixed
      rfl
  | upsertPending _ | removePending _ | saveVaa _ => rfl
  | publish _ | unixSeconds | insertGuardianSet _ | writeCurrent _ => trivial

/-! ## The engine -/

variable {guardianSetIndex : UInt32} {body : VaaBody} {id : MessageId}
  {signature : GuardianSignature}

theorem obeysOr_ask {op : PortOp} {fits : op.Response = Except EngineError α}
    {ends : α → Prop} {fails : Fault EngineError → Prop} (asked : Tells registry op)
    (answers : ∀ response, Truthful crypto registry op response →
      ∃ value, fits ▸ response = Except.ok value ∧ ends value) :
    ObeysOr (Tells registry) (Truthful crypto registry) ends fails (askFallible op fits) := by
  apply ask_obeys asked
  · intro response value truthful answered
    rcases answers response truthful with ⟨found, same, holds⟩
    cases same.symm.trans answered
    exact holds
  · intro response error truthful answered
    rcases answers response truthful with ⟨found, same, holds⟩
    cases same.symm.trans answered

variable {fails : Fault EngineError → Prop}

theorem getPending_obeys : ObeysOr (Tells registry) (Truthful crypto registry)
    (fun found => ∀ pending, found = some pending → PendingSound crypto registry.get? id pending)
    fails (getPending id) :=
  obeysOr_ask trivial fun _ truthful => truthful

theorem getVaa_obeys : ObeysOr (Tells registry) (Truthful crypto registry)
    (fun found => ∀ record, found = some record → RecordSound crypto registry.get? id record)
    fails (getVaa id) :=
  obeysOr_ask trivial fun _ truthful => truthful

theorem listPending_obeys : ObeysOr (Tells registry) (Truthful crypto registry)
    (fun listed => (listed.map fun pending => pending.message.id).Nodup ∧
      ∀ pending ∈ listed, PendingSound crypto registry.get? pending.message.id pending)
    fails listPending :=
  obeysOr_ask trivial fun _ truthful => truthful

theorem getGuardianSet_obeys {index : UInt32} : ObeysOr (Tells registry) (Truthful crypto registry)
    (fun found => found = registry.get? index) fails (getGuardianSet index) :=
  obeysOr_ask trivial fun _ truthful => ⟨_, truthful, rfl⟩

theorem countVaas_obeys : ObeysOr (Tells registry) (Truthful crypto registry)
    (fun count => ∃ stored : List VaaRecord, count = UInt64.ofNat stored.length ∧
      (stored.map fun record => record.id).Nodup ∧
      ∀ record ∈ stored, RecordSound crypto registry.get? record.id record)
    fails countVaas := by
  refine obeysOr_ask trivial fun response truthful => ?_
  rcases truthful with ⟨stored, answered, distinct, sound⟩
  exact ⟨_, answered, stored, rfl, distinct, sound⟩

theorem upsertPending_obeys {pending : PendingObservation} :
    ObeysOr (Tells registry) (Truthful crypto registry) (fun _ => True) fails
      (upsertPending pending) :=
  obeysOr_ask trivial fun _ truthful => ⟨_, truthful, trivial⟩

theorem removePending_obeys :
    ObeysOr (Tells registry) (Truthful crypto registry) (fun _ => True) fails (removePending id) :=
  obeysOr_ask trivial fun _ truthful => ⟨_, truthful, trivial⟩

theorem saveVaa_obeys {record : VaaRecord} :
    ObeysOr (Tells registry) (Truthful crypto registry) (fun _ => True) fails (saveVaa record) :=
  obeysOr_ask trivial fun _ truthful => ⟨_, truthful, trivial⟩

theorem observe_obeys :
    ObeysOr (Tells registry) (Truthful crypto registry) (fun id => id = .fromBody crypto body)
      (fun fault => fault = .returned .alreadyCompleted ∨
        fault = .returned .guardianSetUnavailable ∧ registry.get? guardianSetIndex = none)
      (observeMessage crypto guardianSetIndex body) := by
  rw [observeMessage]
  apply getVaa_obeys.bind
  intro recorded _
  split
  · exact fail_obeys (.inl rfl)
  · apply getPending_obeys.bind
    intro found _
    split
    · exact ObeysOr.pure rfl
    · apply getGuardianSet_obeys.bind
      intro available same
      apply (checked_obeys ?_).bind
      · intro set _
        apply (unixSeconds_obeys trivial).bind
        intro observedAt _
        apply upsertPending_obeys.bind
        intro _ _
        apply (publish_obeys trivial).bind
        intro _ _
        exact ObeysOr.pure rfl
      · intro fault failed
        rcases okOr_eq_error failed with ⟨unknown, rfl⟩
        exact .inr ⟨rfl, same ▸ unknown⟩

def SubmitEnds (crypto : Crypto) (registry : InMemoryGuardianRegistry) (id : MessageId)
    (signature : GuardianSignature) : SubmitOutcome → Prop
  | .collected held needed => 0 < held ∧ held < needed ∧
      ∃ index set, registry.get? index = some set ∧ needed = quorum set.keys.length
  | .assembled vaa => VaaSound crypto registry.get? id vaa ∧ signature ∈ vaa.signatures

def SubmitFails (crypto : Crypto) (registry : InMemoryGuardianRegistry) (id : MessageId)
    (signature : GuardianSignature) (fault : Fault EngineError) : Prop :=
  fault = .returned .messageNotObserved ∨
    ∃ pending set, PendingSound crypto registry.get? id pending ∧
      registry.get? pending.message.guardianSetIndex = some set ∧
      checkSignature crypto set pending id signature = .error fault

theorem complete_obeys {pending : PendingObservation} {set : GuardianSet}
    (grown : Grown crypto registry.get? set id pending) (member : signature ∈ pending.signatures)
    (reached : pending.quorumReached = true) :
    ObeysOr (Tells registry) (Truthful crypto registry)
      (SubmitEnds crypto registry id signature) fails
      (completeObservation crypto set id pending) := by
  rw [completeObservation]
  apply (checked_obeys ?_).bind
  · intro _ _
    apply (unixSeconds_obeys trivial).bind
    intro assembledAt _
    apply saveVaa_obeys.bind
    intro _ _
    apply removePending_obeys.bind
    intro _ _
    apply (publish_obeys trivial).bind
    intro _ _
    exact ObeysOr.pure ⟨grown.recordSound reached, member⟩
  · intro fault failed
    rw [grown.verify reached] at failed
    cases failed

theorem collect_obeys {pending : PendingObservation} {set : GuardianSet}
    (sound : PendingSound crypto registry.get? id pending)
    (assigned : registry.get? pending.message.guardianSetIndex = some set)
    (checked : checkSignature crypto set pending id signature = .ok ()) :
    ObeysOr (Tells registry) (Truthful crypto registry)
      (SubmitEnds crypto registry id signature) fails
      (collectSignature crypto set id pending signature) := by
  rcases sound.grown assigned checked with ⟨grown, perm⟩
  have member : signature ∈ (pending.insertSorted signature).signatures :=
    perm.mem_iff.mpr List.mem_cons_self
  have announced : EventSound registry (.signatureCollected id signature.guardianIndex
      (pending.insertSorted signature).signatures.length
      (pending.insertSorted signature).quorum) := by
    rcases (checkSignature_eq_ok.mp checked).2 with ⟨guardian, found, _⟩
    rcases List.getElem?_eq_some_iff.mp found with ⟨inside, _⟩
    exact ⟨_, set, assigned, inside, List.length_pos_of_mem member, grown.bounded, grown.needed⟩
  rw [collectSignature]
  apply (publish_obeys announced).bind
  intro _ _
  split
  · rename_i below
    apply upsertPending_obeys.bind
    intro _ _
    apply ObeysOr.pure
    refine ⟨List.length_pos_of_mem member, ?_, _, set, assigned, grown.needed⟩
    exact Nat.lt_of_not_le fun enough => below (decide_eq_true enough)
  · rename_i reached
    exact complete_obeys grown member (not_not.mp reached)

theorem submit_obeys :
    ObeysOr (Tells registry) (Truthful crypto registry) (SubmitEnds crypto registry id signature)
      (SubmitFails crypto registry id signature) (submitSignature crypto id signature) := by
  rw [submitSignature]
  apply getPending_obeys.bind
  intro found soundAt
  apply (checked_obeys ?_).bind
  · intro pending present
    have sound := soundAt pending (okOr_eq_ok.mp present)
    rcases sound.guardians with ⟨set, assigned, _⟩
    apply getGuardianSet_obeys.bind
    intro available same
    apply (checked_obeys ?_).bind
    · intro other presentSet
      cases assigned.symm.trans (same.symm.trans (okOr_eq_ok.mp presentSet))
      apply (checked_obeys ?_).bind
      · intro _ checked
        exact collect_obeys sound assigned checked
      · intro fault refused
        exact .inr ⟨pending, set, sound, assigned, refused⟩
    · intro fault failed
      rw [same, assigned] at failed
      cases failed
  · intro fault failed
    exact .inl (okOr_eq_error failed).2

theorem stats_obeys :
    ObeysOr (Tells registry) (Truthful crypto registry)
      (fun stats => ∃ (listed : List PendingObservation) (stored : List VaaRecord),
        stats = ⟨listed.length, UInt64.ofNat stored.length⟩ ∧
        (listed.map fun pending => pending.message.id).Nodup ∧
        (∀ pending ∈ listed, PendingSound crypto registry.get? pending.message.id pending) ∧
        (stored.map fun record => record.id).Nodup ∧
        ∀ record ∈ stored, RecordSound crypto registry.get? record.id record)
      fails stats := by
  rw [stats]
  apply listPending_obeys.bind
  intro listed pendingSound
  apply countVaas_obeys.bind
  intro count counted
  rcases counted with ⟨stored, rfl, recordsSound⟩
  exact ObeysOr.pure ⟨listed, stored, rfl, pendingSound.1, pendingSound.2, recordsSound⟩

end

end WormVerify.Infra
