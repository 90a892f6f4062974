import WormVerify.Infra.Aggregation

/-! # Proof outlines of the aggregator's calls

One outline for each request, under any schedule that respects the registry. The
outlines show what a call has looked up before it writes a message. Where the
schedule also keeps all writes fresh, they show in addition that nothing stored
is lost.
-/

namespace WormVerify.Infra

open WormVerify.Types WormVerify.Core Service Checked

/-! ## Schedules -/

/-- What the call has read of its message's observation. -/
def read? (transcript : List (Exchange ports)) : Option PendingObservation :=
  transcript.findSome? fun exchange =>
    match exchange with
    | ⟨.getPending _, .ok found⟩ => found
    | _ => none

section

variable (crypto : Crypto) (assignment : UInt32 → Option GuardianSet)

/-- The registry is given only sets that the assignment has at their index, so
that the set at an index never changes. -/
def Respects : (aggregator crypto).Rule := fun _ _ op =>
  match op with
  | .insertGuardianSet set => assignment set.index = some set
  | _ => True

/-- The write finds the observation as the call has read it, and where it opens
or completes a message, no VAA of it. -/
def Fresh : (aggregator crypto).Rule := fun memory call op =>
  match op with
  | .upsertPending pending =>
      memory.pending? pending.message.id = read? call.transcript ∧
        (read? call.transcript = none → memory.vaa? pending.message.id = none)
  | .saveVaa record =>
      memory.pending? record.id = read? call.transcript ∧ memory.vaa? record.id = none
  | .removePending id => memory.pending? id = read? call.transcript
  | _ => True

end

/-! ## What is claimed of every call -/

def saves (id : MessageId) : PortOp → Nat
  | .saveVaa record => if record.id = id then 1 else 0
  | _ => 0

def removes (id : MessageId) : PortOp → Nat
  | .removePending removed => if removed = id then 1 else 0
  | _ => 0

def assemblies (id : MessageId) : PortOp → Nat
  | .publish (.vaaAssembled assembled) => if assembled = id then 1 else 0
  | _ => 0

section

variable {crypto : Crypto} {assignment : UInt32 → Option GuardianSet}

def nextOp? (call : (aggregator crypto).Call) : Option PortOp :=
  match call.program with
  | .done _ => none
  | .call op _ => some op

def Asked (id : MessageId) (transcript : List (Exchange ports)) : Prop :=
  ⟨.getPending id, .ok (read? transcript)⟩ ∈ transcript

/-- A write concerns a message that the call has looked up. A message is opened
after its VAA was not found, and completed once. -/
def Warranted (fresh : Prop) (memory : Memory) (transcript : List (Exchange ports)) :
    PortOp → Prop
  | .upsertPending pending => Asked pending.message.id transcript ∧
      (read? transcript = none → ⟨.getVaa pending.message.id, .ok none⟩ ∈ transcript)
  | .saveVaa record => Asked record.id transcript ∧ (read? transcript).isSome ∧
      @weight ports (saves record.id) transcript = 0
  | .removePending id => Asked id transcript ∧ (read? transcript).isSome ∧
      (fresh → (memory.vaa? id).isSome)
  | _ => True

/-- The final verification is never the error of a call, and a call announces
and clears only what it has saved. In fresh schedules an accepted signature is
stored, and an observation is removed only once its record is stored. -/
structure CallClaim (fresh : Prop) (memory : Memory) (call : (aggregator crypto).Call) :
    Prop where
  verified : ∀ error, call.result? ≠ some (.submitted (fail (.vaa error)))
  announced : ∀ id, weight (assemblies id) call.transcript ≤ weight (saves id) call.transcript
  cleared : call.result?.isSome → ∀ id,
    weight (removes id) call.transcript = weight (saves id) call.transcript
  assembled : ∀ id signature vaa, call.request = .submit id signature →
    call.result? = some (.submitted (.ok (.assembled vaa))) →
    1 ≤ weight (saves id) call.transcript
  accepted : fresh → ∀ id signature outcome, call.request = .submit id signature →
    call.result? = some (.submitted (.ok outcome)) → memory.Holds id signature
  warranted : ∀ op, nextOp? call = some op → Warranted fresh memory call.transcript op

/-- The discipline of all calls. What `fresh` adds is promised only for
schedules that keep writes fresh. -/
def discipline (crypto : Crypto) (assignment : UInt32 → Option GuardianSet) (fresh : Prop) :
    Discipline (aggregator crypto) where
  allowed memory call op :=
    Respects crypto assignment memory call op ∧ (fresh → Fresh crypto memory call op)
  invariant := MemorySound crypto assignment
  evolves before after := fresh → before.Grows after
  claim := CallClaim fresh

/-! ## Port calls that write no store -/

def Silent : PortOp → Prop
  | .getPending _ | .listPending | .getVaa _ | .countVaas | .currentGuardianSet
  | .getGuardianSet _ | .unixSeconds => True
  | .publish (.vaaAssembled _) => False
  | .publish _ => True
  | _ => False

/-- No announcement of a VAA and no save or removal so far. -/
def Light (transcript : List (Exchange ports)) : Prop :=
  ∀ exchange ∈ transcript, ∀ id,
    saves id exchange.op = 0 ∧ removes id exchange.op = 0 ∧ assemblies id exchange.op = 0

theorem light_nil : Light [] := by
  simp [Light]

theorem Light.concat {transcript : List (Exchange ports)} (light : Light transcript)
    {exchange : Exchange ports} (last : ∀ id, saves id exchange.op = 0 ∧
      removes id exchange.op = 0 ∧ assemblies id exchange.op = 0) :
    Light (transcript ++ [exchange]) := by
  intro other member
  rcases List.mem_append.mp member with earlier | equal
  · exact light other earlier
  · exact List.mem_singleton.mp equal ▸ last

theorem Silent.light {op : PortOp} (silent : Silent op) (id : MessageId) :
    saves id op = 0 ∧ removes id op = 0 ∧ assemblies id op = 0 := by
  cases op with
  | publish event =>
      cases event with
      | vaaAssembled _ => exact silent.elim
      | _ => exact ⟨rfl, rfl, rfl⟩
  | saveVaa | removePending => exact silent.elim
  | _ => exact ⟨rfl, rfl, rfl⟩

theorem Light.weights {transcript : List (Exchange ports)} (light : Light transcript)
    (id : MessageId) :
    @weight ports (saves id) transcript = 0 ∧
      @weight ports (removes id) transcript = 0 ∧
      @weight ports (assemblies id) transcript = 0 := by
  refine ⟨?_, ?_, ?_⟩ <;> apply List.sum_eq_zero <;> intro value member <;>
    rcases List.mem_map.mp member with ⟨exchange, exchangeMem, rfl⟩
  · exact (light exchange exchangeMem id).1
  · exact (light exchange exchangeMem id).2.1
  · exact (light exchange exchangeMem id).2.2

theorem Light.announced {transcript : List (Exchange ports)} (light : Light transcript)
    (id : MessageId) : @weight ports (assemblies id) transcript ≤
      @weight ports (saves id) transcript := by
  rw [(light.weights id).2.2]
  exact Nat.zero_le _

variable {fresh : Prop} {memory : Memory} {request : Request}
  {transcript : List (Exchange ports)}

theorem read?_concat {op : PortOp} (unread : ∀ id, op ≠ .getPending id)
    (response : op.Response) :
    read? (transcript ++ [⟨op, response⟩]) = read? transcript := by
  rw [read?, List.findSome?_append]
  cases op <;> simp_all [read?]

theorem Asked.concat {id : MessageId} (asked : Asked id transcript) {op : PortOp}
    (unread : ∀ id, op ≠ .getPending id) (response : op.Response) :
    Asked id (transcript ++ [⟨op, response⟩]) := by
  rw [Asked, read?_concat unread response]
  exact List.mem_append_left _ asked

theorem Silent.warranted {op : PortOp} (silent : Silent op) :
    Warranted fresh memory transcript op := by
  cases op with
  | upsertPending | saveVaa | removePending => exact silent.elim
  | _ => trivial

theorem Silent.serve {op : PortOp} (silent : Silent op) (now : Int64)
    (sound : MemorySound crypto assignment memory) :
    MemorySound crypto assignment (memory.serve now op).2 ∧
      memory.Grows (memory.serve now op).2 := by
  cases op with
  | publish event =>
      exact ⟨⟨sound.pending, sound.records, sound.registry⟩,
        ⟨fun _ _ held => held, fun _ _ stored => stored⟩⟩
  | upsertPending | removePending | saveVaa | insertGuardianSet | writeCurrent =>
      exact silent.elim
  | _ => exact ⟨sound, .refl memory⟩

theorem CallClaim.ongoing {op : PortOp} {resume : op.Response → Program ports Reply}
    (announced : ∀ id, @weight ports (assemblies id) transcript ≤
      @weight ports (saves id) transcript)
    (warranted : Warranted fresh memory transcript op) :
    @CallClaim crypto fresh memory ⟨request, transcript, .call op resume⟩ where
  verified error finished := by cases finished
  announced := announced
  cleared finished := by cases finished
  assembled _ _ _ _ finished := by cases finished
  accepted _ _ _ _ _ finished := by cases finished
  warranted _ next := Option.some.inj next ▸ warranted

theorem CallClaim.returned {reply : Reply} (light : Light transcript)
    (verified : ∀ error, reply ≠ .submitted (fail (.vaa error)))
    (refused : ∀ outcome, reply ≠ .submitted (.ok outcome)) :
    @CallClaim crypto fresh memory ⟨request, transcript, .done reply⟩ where
  verified error finished := verified error (Option.some.inj finished)
  announced := light.announced
  cleared _ id := (light.weights id).2.1.trans (light.weights id).1.symm
  assembled _ _ _ _ finished := absurd (Option.some.inj finished) (refused _)
  accepted _ _ _ _ _ finished := absurd (Option.some.inj finished) (refused _)
  warranted _ next := by cases next

theorem outline_silent (op : PortOp) {resume : op.Response → Program ports Reply}
    (silent : Silent op) (light : Light transcript) (fact : op.Response → Prop)
    (learns : ∀ now memory, MemorySound crypto assignment memory →
      fact (memory.serve now op).1)
    (rest : ∀ response, fact response → Light (transcript ++ [⟨op, response⟩]) →
      Outline (discipline crypto assignment fresh) request (fun _ => True)
        (transcript ++ [⟨op, response⟩]) (resume response)) :
    Outline (discipline crypto assignment fresh) request (fun _ => True) transcript
      (.call op resume) := by
  apply Outline.ask fact
  · intro memory _ _
    exact CallClaim.ongoing light.announced silent.warranted
  · intro memory now sound _ _
    rcases silent.serve now sound with ⟨kept, grows⟩
    exact ⟨kept, fun _ => grows, trivial, learns now memory sound⟩
  · intro _ _ _ _ _
    trivial
  · intro response known
    exact rest response known (light.concat silent.light)

theorem outline_passed (op : PortOp) {resume : op.Response → Program ports Reply}
    (silent : Silent op) (light : Light transcript)
    (rest : ∀ response, Light (transcript ++ [⟨op, response⟩]) →
      Outline (discipline crypto assignment fresh) request (fun _ => True)
        (transcript ++ [⟨op, response⟩]) (resume response)) :
    Outline (discipline crypto assignment fresh) request (fun _ => True) transcript
      (.call op resume) :=
  outline_silent op silent light (fun _ => True) (fun _ _ _ => trivial) fun response _ =>
    rest response

theorem outline_returned {reply : Reply} (light : Light transcript)
    (verified : ∀ error, reply ≠ .submitted (fail (.vaa error)))
    (refused : ∀ outcome, reply ≠ .submitted (.ok outcome)) :
    Outline (discipline crypto assignment fresh) request (fun _ => True) transcript
      (.done reply) :=
  .done fun _ _ _ => CallClaim.returned light verified refused

/-! ## Upgrades -/

theorem outline_upgrade (set : GuardianSet) :
    Outline (discipline crypto assignment fresh) (.upgrade set) (fun _ => True) []
      ((aggregator crypto).body (.upgrade set)) := by
  change Outline (discipline crypto assignment fresh) _ _ _
    (.call (PortOp.insertGuardianSet set) _)
  apply Outline.ask fun _ => True
  · intro memory _ _
    exact CallClaim.ongoing light_nil.announced trivial
  · intro memory now sound _ permitted
    exact ⟨sound.insertGuardianSet permitted.1, fun _ => ⟨fun _ _ held => held,
      fun _ _ stored => stored⟩, trivial, trivial⟩
  · intro _ _ _ _ _
    trivial
  · intro response _
    have light : Light [⟨.insertGuardianSet set, response⟩] :=
      light_nil.concat fun _ => ⟨rfl, rfl, rfl⟩
    change Outline (discipline crypto assignment fresh) _ _ _
      (.call (PortOp.writeCurrent set.index) _)
    apply Outline.ask fun _ => True
    · intro memory _ _
      exact CallClaim.ongoing light.announced trivial
    · intro memory now sound _ _
      exact ⟨⟨sound.pending, sound.records, sound.registry⟩, fun _ => ⟨fun _ _ held => held,
        fun _ _ stored => stored⟩, trivial, trivial⟩
    · intro _ _ _ _ _
      trivial
    · intro response _
      exact outline_returned (light.concat fun _ => ⟨rfl, rfl, rfl⟩) (by simp) (by simp)

/-! ## Writes of an observation -/

/-- The outline of a write that extends what was read. Afterwards all the
signatures written stay stored. -/
theorem outline_upsert (pending : PendingObservation)
    {resume : Except EngineError Unit → Program ports Reply} (light : Light transcript)
    (sound : PendingSound crypto assignment pending.message.id pending)
    (asked : Asked pending.message.id transcript)
    (opened : read? transcript = none →
      ⟨.getVaa pending.message.id, .ok none⟩ ∈ transcript)
    (extended : ∀ old, read? transcript = some old → old.signatures ⊆ pending.signatures)
    (rest : Light (transcript ++ [⟨.upsertPending pending, .ok ()⟩]) →
      Outline (discipline crypto assignment fresh) request
        (fun memory => fresh → ∀ signature ∈ pending.signatures,
          memory.Holds pending.message.id signature)
        (transcript ++ [⟨.upsertPending pending, .ok ()⟩]) (resume (.ok ()))) :
    Outline (discipline crypto assignment fresh) request (fun _ => True) transcript
      (.call (PortOp.upsertPending pending) resume) := by
  apply Outline.call fun (response : Except EngineError Unit) (memory : Memory) =>
    response = .ok () ∧ (fresh → ∀ signature ∈ pending.signatures,
      memory.Holds pending.message.id signature)
  · intro memory _ _
    exact CallClaim.ongoing light.announced ⟨asked, opened⟩
  · intro memory now kept _ permitted
    refine ⟨kept.upsert sound, ?_, rfl, ?_⟩
    · intro isFresh
      apply Memory.grows_upsert
      intro old oldAt
      apply extended old
      rw [← (permitted.2 isFresh).1, oldAt]
    · intro _ signature member
      left
      refine ⟨pending, ?_, member⟩
      exact (Memory.pending?_upsert pending _).trans (if_pos rfl)
  · intro response before after written evolved _
    refine ⟨written.1, ?_⟩
    intro isFresh signature member
    exact (evolved isFresh).signatures _ signature (written.2 isFresh signature member)
  · intro response
    rcases response with error | _
    · exact .unreachable fun memory failed => nomatch failed.1
    · exact (rest (light.concat fun _ => ⟨rfl, rfl, rfl⟩)).weaken fun memory => And.right

/-! ## Observations -/

theorem outline_observe (guardianSetIndex : UInt32) (body : VaaBody) :
    Outline (discipline crypto assignment fresh) (.observe guardianSetIndex body)
      (fun _ => True) [] ((aggregator crypto).body (.observe guardianSetIndex body)) := by
  let id := MessageId.fromBody crypto body
  apply outline_passed (.getVaa id) trivial light_nil
  intro completed light
  rcases completed with error | _ | record
  · exact outline_returned light (by simp) (by simp)
  swap
  · exact outline_returned light (by simp) (by simp)
  apply outline_passed (.getPending id) trivial light
  intro observed light
  rcases observed with error | _ | pending
  · exact outline_returned light (by simp) (by simp)
  swap
  · exact outline_returned light (by simp) (by simp)
  apply outline_silent (.getGuardianSet guardianSetIndex) trivial light
    fun answer => ∀ set, answer = .ok (some set) → assignment guardianSetIndex = some set
  · intro _ memory sound set found
    exact sound.registry _ set (Except.ok.inj found)
  intro known assigned light
  rcases known with error | _ | set
  · exact outline_returned light (by simp) (by simp)
  · exact outline_returned light (by simp) (by simp)
  apply outline_passed .unixSeconds trivial light
  intro now light
  apply outline_upsert (.new ⟨id, guardianSetIndex, body, now⟩ set.keys.length) light
  · exact attested_new (assigned set rfl) now
  · simp [Asked, read?, PendingObservation.new, id]
  · simp [PendingObservation.new, id]
  · intro old read
    cases read
  intro light
  apply Outline.weaken _ fun _ _ => trivial
  apply outline_passed (.publish (.messageObserved id)) trivial light
  intro _ light
  exact outline_returned light (by simp) (by simp)

/-! ## Submissions -/

variable {id : MessageId} {signature : GuardianSignature} {pending : PendingObservation}
  {set : GuardianSet}

theorem outline_collected {held needed : Nat} (light : Light transcript)
    (sound : PendingSound crypto assignment id pending) (asked : Asked id transcript)
    (found : (read? transcript).isSome)
    (extended : ∀ old, read? transcript = some old → old.signatures ⊆ pending.signatures)
    (member : signature ∈ pending.signatures) :
    Outline (discipline crypto assignment fresh) (.submit id signature) (fun _ => True)
      transcript (Reply.submitted <$> ExceptT.run (do
        upsertPending pending
        return .collected held needed)) := by
  cases sound.key
  have opened : read? transcript = none →
      ⟨.getVaa pending.message.id, .ok none⟩ ∈ transcript := by
    intro unread
    simp [unread] at found
  apply outline_upsert pending light sound asked opened extended
  intro light
  apply Outline.done
  intro memory _ stored
  refine ⟨?_, light.announced, ?_, ?_, ?_, by simp [nextOp?]⟩
  · intro error finished
    cases finished
  · intro _ id
    exact (light.weights id).2.1.trans (light.weights id).1.symm
  · intro _ _ _ _ finished
    cases finished
  · intro isFresh _ _ _ same finished
    cases same
    exact stored isFresh signature member

def Recorded (fresh : Prop) (id : MessageId) (record : VaaRecord) (memory : Memory) : Prop :=
  fresh → memory.vaa? id = some record

theorem Recorded.stable {record : VaaRecord} {before after : Memory}
    (recorded : Recorded fresh id record before) (evolved : fresh → before.Grows after) :
    Recorded fresh id record after :=
  fun isFresh => (evolved isFresh).records id record (recorded isFresh)

theorem outline_save (record : VaaRecord)
    {resume : Except EngineError Unit → Program ports Reply} (light : Light transcript)
    (sound : RecordSound crypto assignment record.id record) (asked : Asked record.id transcript)
    (found : (read? transcript).isSome)
    (rest : Outline (discipline crypto assignment fresh) request
      (Recorded fresh record.id record)
      (transcript ++ [⟨.saveVaa record, .ok ()⟩]) (resume (.ok ()))) :
    Outline (discipline crypto assignment fresh) request (fun _ => True) transcript
      (.call (PortOp.saveVaa record) resume) := by
  apply Outline.call fun (response : Except EngineError Unit) (memory : Memory) =>
    response = .ok () ∧ Recorded fresh record.id record memory
  · intro memory _ _
    exact CallClaim.ongoing light.announced ⟨asked, found, (light.weights record.id).1⟩
  · intro memory now kept _ permitted
    refine ⟨kept.save sound, ?_, rfl, ?_⟩
    · intro isFresh
      exact Memory.grows_save (permitted.2 isFresh).2
    · intro _
      exact (Memory.vaa?_save record record.id).trans (if_pos rfl)
  · intro response before after saved evolved _
    exact ⟨saved.1, saved.2.stable evolved⟩
  · intro response
    rcases response with error | _
    · exact .unreachable fun memory failed => nomatch failed.1
    · exact rest.weaken fun memory => And.right

theorem outline_remove {record : VaaRecord}
    {resume : Except EngineError Unit → Program ports Reply}
    (announced : ∀ id, @weight ports (assemblies id) transcript ≤
      @weight ports (saves id) transcript)
    (asked : Asked id transcript) (found : (read? transcript).isSome)
    (extended : ∀ old, read? transcript = some old →
      old.signatures ⊆ record.vaa.signatures)
    (rest : Outline (discipline crypto assignment fresh) request (Recorded fresh id record)
      (transcript ++ [⟨.removePending id, .ok ()⟩]) (resume (.ok ()))) :
    Outline (discipline crypto assignment fresh) request (Recorded fresh id record)
      transcript (.call (PortOp.removePending id) resume) := by
  apply Outline.call fun (response : Except EngineError Unit) (memory : Memory) =>
    response = .ok () ∧ Recorded fresh id record memory
  · intro memory _ recorded
    exact CallClaim.ongoing announced
      ⟨asked, found, fun isFresh => Option.isSome_of_eq_some (recorded isFresh)⟩
  · intro memory now kept recorded permitted
    refine ⟨kept.remove id, ?_, rfl, recorded⟩
    intro isFresh
    apply Memory.grows_remove
    intro old oldAt
    refine ⟨record, recorded isFresh, extended old ?_⟩
    rw [← permitted.2 isFresh, oldAt]
  · intro response before after removed evolved _
    exact ⟨removed.1, removed.2.stable evolved⟩
  · intro response
    rcases response with error | _
    · exact .unreachable fun memory failed => nomatch failed.1
    · exact rest.weaken fun memory => And.right

/-- The record of the message is saved, its observation removed and nothing
announced. -/
def Settled (id : MessageId) (transcript : List (Exchange ports)) : Prop :=
  ∀ other, @weight ports (saves other) transcript = (if id = other then 1 else 0) ∧
    @weight ports (removes other) transcript = (if id = other then 1 else 0) ∧
    @weight ports (assemblies other) transcript = 0

theorem Light.settled (light : Light transcript) (record : VaaRecord) :
    Settled record.id (transcript ++ [⟨.saveVaa record, .ok ()⟩] ++
      [⟨.removePending record.id, .ok ()⟩]) := by
  intro other
  simp [light.weights other, saves, removes, assemblies]

theorem outline_announce {record : VaaRecord} {vaa : Vaa} (settled : Settled id transcript)
    (member : signature ∈ record.vaa.signatures) :
    Outline (discipline crypto assignment fresh) (.submit id signature)
      (Recorded fresh id record) transcript
      (.call (PortOp.publish (.vaaAssembled id)) fun _ =>
        .done (.submitted (.ok (.assembled vaa)))) := by
  apply Outline.call fun _ => Recorded fresh id record
  · intro memory _ _
    refine CallClaim.ongoing ?_ trivial
    intro other
    rw [(settled other).2.2]
    exact Nat.zero_le _
  · intro memory now kept recorded _
    exact ⟨⟨kept.pending, kept.records, kept.registry⟩,
      fun _ => ⟨fun _ _ held => held, fun _ _ stored => stored⟩, recorded⟩
  · intro response before after recorded evolved _
    exact recorded.stable evolved
  intro _
  apply Outline.done
  intro memory _ recorded
  refine ⟨?_, ?_, ?_, ?_, ?_, by simp [nextOp?]⟩
  · intro error finished
    cases finished
  · intro other
    simp [settled other, assemblies, saves]
  · intro _ other
    simp [settled other, removes, saves]
  · intro _ _ _ same _
    cases same
    simp [settled id]
  · intro isFresh _ _ _ same _
    cases same
    exact .inr ⟨record, recorded isFresh, member⟩

theorem outline_completed (light : Light transcript)
    (attested : Attested crypto assignment id pending)
    (assigned : assignment pending.message.guardianSetIndex = some set)
    (enough : pending.signatures.length = quorum set.keys.length)
    (asked : Asked id transcript) (found : (read? transcript).isSome)
    (extended : ∀ old, read? transcript = some old → old.signatures ⊆ pending.signatures)
    (member : signature ∈ pending.signatures) :
    Outline (discipline crypto assignment fresh) (.submit id signature) (fun _ => True)
      transcript (Reply.submitted <$> ExceptT.run (completeObservation crypto set id pending)) := by
  rw [completeObservation, attested.verify assigned (Nat.le_of_eq enough.symm)]
  apply outline_passed .unixSeconds trivial light
  intro now light
  let record : VaaRecord := ⟨id, assemble pending, now⟩
  replace asked := @Asked.concat transcript id asked .unixSeconds (by simp) now
  rw [← @read?_concat transcript .unixSeconds (by simp) now] at found extended
  generalize transcript ++ [⟨.unixSeconds, now⟩] = transcript at *
  apply outline_save record light (attested.completed assigned enough now) asked found
  apply outline_remove
  · intro other
    simp [light.weights other, assemblies]
  · exact asked.concat (by simp) _
  · rwa [read?_concat (by simp)]
  · rwa [read?_concat (by simp)]
  · exact outline_announce (light.settled record) member

theorem outline_collect (light : Light transcript) (asked : Asked id transcript)
    (found : read? transcript = some pending)
    (sound : PendingSound crypto assignment id pending)
    (assigned : assignment pending.message.guardianSetIndex = some set)
    (absent : pending.hasGuardian signature.guardianIndex = false)
    (signed : SignedBy crypto id set.keys signature) :
    Outline (discipline crypto assignment fresh) (.submit id signature) (fun _ => True)
      transcript
      (Reply.submitted <$> (collectSignature crypto set id pending signature).run) := by
  rcases sound.insertSorted assigned absent signed with ⟨attested, perm, needed⟩
  have size : (pending.insertSorted signature).signatures.length =
    pending.signatures.length + 1 := perm.length_eq
  have member : signature ∈ (pending.insertSorted signature).signatures :=
    perm.mem_iff.mpr List.mem_cons_self
  have extended (old : PendingObservation) (before : read? transcript = some old) :
      old.signatures ⊆ (pending.insertSorted signature).signatures := by
    cases found.symm.trans before
    intro held heldMem
    exact perm.mem_iff.mpr (List.mem_cons_of_mem signature heldMem)
  apply outline_passed (.publish (.signatureCollected id signature.guardianIndex
    (pending.insertSorted signature).signatures.length pending.quorum)) trivial light
  intro response light
  replace asked := asked.concat (by simp) response
  rw [← read?_concat (by simp) response] at found extended
  change Outline (discipline crypto assignment fresh) _ _ _ (Reply.submitted <$> ExceptT.run
    (if ¬(pending.insertSorted signature).quorumReached then _ else _))
  by_cases reached : (pending.insertSorted signature).quorumReached = true
  · have enough : pending.quorum ≤ (pending.insertSorted signature).signatures.length :=
      of_decide_eq_true reached
    have incomplete := sound.incomplete
    rw [if_neg (not_not_intro reached)]
    apply outline_completed light attested assigned _ asked (by simp [found]) extended member
    omega
  · have incomplete : ¬pending.quorum ≤ (pending.insertSorted signature).signatures.length :=
      fun enough => reached (decide_eq_true enough)
    rw [if_pos reached]
    apply outline_collected light ⟨attested, _⟩ asked (by simp [found]) extended member
    exact Nat.lt_of_not_le incomplete

theorem outline_submit (id : MessageId) (signature : GuardianSignature) :
    Outline (discipline crypto assignment fresh) (.submit id signature) (fun _ => True) []
      ((aggregator crypto).body (.submit id signature)) := by
  apply outline_silent (.getPending id) trivial light_nil fun answer =>
    (∀ error, answer ≠ .error error) ∧
      ∀ pending, answer = .ok (some pending) → PendingSound crypto assignment id pending
  · intro _ memory sound
    exact ⟨by simp [Memory.serve], fun pending found =>
      sound.pending id pending (Except.ok.inj found)⟩
  intro observed known light
  rcases observed with error | _ | pending
  · exact absurd rfl (known.1 error)
  · exact outline_returned light (by simp [fail]) (by simp)
  have sound := known.2 pending rfl
  apply outline_silent (.getGuardianSet pending.message.guardianSetIndex) trivial light
    fun answer => (∀ error, answer ≠ .error error) ∧
      ∀ set, answer = .ok (some set) → assignment pending.message.guardianSetIndex = some set
  · intro _ memory sound
    exact ⟨by simp [Memory.serve], fun set found =>
      sound.registry _ set (Except.ok.inj found)⟩
  intro registered known light
  rcases registered with error | _ | set
  · exact absurd rfl (known.1 error)
  · exact outline_returned light (by simp [fail]) (by simp)
  have assigned := known.2 set rfl
  change Outline (discipline crypto assignment fresh) _ _ _ (Reply.submitted <$> ExceptT.run (do
    EngineM.ofChecked (checkSignature crypto set pending id signature)
    collectSignature crypto set id pending signature))
  cases checked : checkSignature crypto set pending id signature with
  | error fault =>
      refine outline_returned light ?_ (by simp)
      intro error same
      cases Reply.submitted.inj same
      exact checkSignature_ne_vaa error checked
  | ok _ =>
      rcases checkSignature_eq_ok.mp checked with ⟨absent, signed⟩
      exact outline_collect light (by simp [Asked, read?]) rfl sound assigned absent signed

theorem outlined : Outlined (discipline crypto assignment fresh) := by
  intro request
  cases request with
  | observe guardianSetIndex body => exact outline_observe guardianSetIndex body
  | submit id signature => exact outline_submit id signature
  | upgrade set => exact outline_upgrade set

end

end WormVerify.Infra
