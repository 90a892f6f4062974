import WormVerify.Core.Lifecycle
import WormVerify.Infra.Failures
import WormVerify.Infra.Soundness

/-! # The engine refines the life of a message

Served one after another over the in-memory adapters, the requests of the
engine have the results, the events and the stored keys of the abstract
machine. The registry may grow, but never changes a set that it holds.
-/

namespace WormVerify.Infra

open WormVerify.Types WormVerify.Core Service Checked

/-! ## The abstract machine -/

def Lifecycle.serve (crypto : Crypto) (state : Lifecycle) : Request → Lifecycle × Reply
  | .observe guardianSetIndex body =>
      let observed := state.observe crypto guardianSetIndex body
      (observed.2, .observed observed.1)
  | .submit id signature =>
      let submitted := state.submit crypto id signature
      (submitted.2, .submitted submitted.1)
  | .upgrade set => (state.upgrade set, .upgraded)

def lifecycle (crypto : Crypto) (registry : UInt32 → Option GuardianSet) :
    Machine Lifecycle (Turn (aggregator crypto)) Empty Reply where
  initial := .new registry
  execute state turn := .ok (Lifecycle.serve crypto state turn.request)

/-- An upgrade registers a set that the index is meant for. -/
def UpgradesWithin (assignment : UInt32 → Option GuardianSet) : Request → Prop
  | .upgrade set => assignment set.index = some set
  | _ => True

/-! ## Representation -/

def Shows (memory : Memory) (id : MessageId) : Phase → Prop
  | .unobserved => memory.pending? id = none ∧ memory.vaa? id = none
  | .pending guardianSetIndex set body ballots =>
      memory.vaa? id = none ∧ memory.guardianSet? guardianSetIndex = some set ∧
        ∃ pending, memory.pending? id = some pending ∧
          pending.message.guardianSetIndex = guardianSetIndex ∧ pending.message.body = body ∧
          pending.signatures = ballots.signatures
  | .completed => memory.pending? id = none ∧ ∃ record, memory.vaa? id = some record

structure Represents (crypto : Crypto) (assignment : UInt32 → Option GuardianSet)
    (memory : Memory) (state : Lifecycle) : Prop where
  sound : MemorySound crypto assignment memory
  registry : ∀ index, memory.guardianSet? index = state.registry index
  events : memory.events = state.events
  phases : ∀ id, Shows memory id (state.phase id)

section

variable {crypto : Crypto} {assignment : UInt32 → Option GuardianSet} {memory after : Memory}
variable {state : Lifecycle} {id : MessageId} {signature : GuardianSignature}

namespace Represents

variable (represents : Represents crypto assignment memory state)

include represents

theorem phase_completed {record : VaaRecord} (stored : memory.vaa? id = some record) :
    state.phase id = .completed := by
  have shows := represents.phases id
  cases phase : state.phase id with
  | completed => rfl
  | unobserved => simp [Shows, phase, stored] at shows
  | pending guardianSetIndex set body ballots => simp [Shows, phase, stored] at shows

theorem phase_unobserved (absent : memory.pending? id = none) (vacant : memory.vaa? id = none) :
    state.phase id = .unobserved := by
  have shows := represents.phases id
  cases phase : state.phase id with
  | unobserved => rfl
  | completed => simp [Shows, phase, vacant] at shows
  | pending guardianSetIndex set body ballots => simp [Shows, phase, absent] at shows

theorem phase_pending {pending : PendingObservation} (found : memory.pending? id = some pending) :
    ∃ set ballots, state.phase id =
        .pending pending.message.guardianSetIndex set pending.message.body ballots ∧
      memory.vaa? id = none ∧
      memory.guardianSet? pending.message.guardianSetIndex = some set ∧
      pending.signatures = ballots.signatures := by
  have shows := represents.phases id
  cases phase : state.phase id with
  | unobserved => simp [Shows, phase, found] at shows
  | completed => simp [Shows, phase, found] at shows
  | pending guardianSetIndex set body ballots =>
      rw [phase] at shows
      rcases shows with ⟨vacant, available, _, again, rfl, rfl, held⟩
      cases found.symm.trans again
      exact ⟨set, ballots, rfl, vacant, available, held⟩

theorem enter {phase : Phase} {published : List DomainEvent}
    (sound : MemorySound crypto assignment after)
    (registry : after.guardians = memory.guardians)
    (events : after.events = memory.events ++ published)
    (others : ∀ other, other ≠ id →
      after.pending? other = memory.pending? other ∧ after.vaa? other = memory.vaa? other)
    (here : Shows after id phase) :
    Represents crypto assignment after (state.enter id phase published) where
  sound := sound
  registry index := by
    rw [Memory.guardianSet?, registry]
    exact represents.registry index
  events := by rw [events, represents.events, Lifecycle.enter]
  phases other := by
    by_cases same : other = id
    · subst same
      simpa [Lifecycle.enter] using here
    · have before := represents.phases other
      rcases others other same with ⟨pendingSame, vaaSame⟩
      simp only [Lifecycle.enter, Function.update_of_ne same]
      cases phase : state.phase other with
      | unobserved => simpa [Shows, phase, pendingSame, vaaSame] using before
      | completed => simpa [Shows, phase, pendingSame, vaaSame] using before
      | pending guardianSetIndex set body ballots =>
          simpa [Shows, phase, pendingSame, vaaSame, Memory.guardianSet?, registry] using before

end Represents

/-! ## Observations -/

theorem Represents.observe {guardianSetIndex : UInt32} {body : VaaBody}
    {outcome : Outcome ports (Checked EngineError MessageId)}
    (represents : Represents crypto assignment memory state)
    (effect : ObserveEffect crypto memory guardianSetIndex body outcome after)
    (answered : Answered outcome.transcript) :
    outcome.result = (state.observe crypto guardianSetIndex body).1 ∧
      Represents crypto assignment after (state.observe crypto guardianSetIndex body).2 := by
  have sound := represents.sound.observed effect
  cases effect with
  | failed transcript op error engineOp failedAt =>
      exact absurd failedAt (answered op error engineOp)
  | completed transcript record stored =>
      simp only [Lifecycle.observe, represents.phase_completed stored]
      exact ⟨trivial, represents⟩
  | known transcript pending vacant found =>
      rcases represents.phase_pending found with ⟨set, ballots, phase, _⟩
      simp only [Lifecycle.observe, phase]
      exact ⟨trivial, represents⟩
  | unavailable transcript vacant absent unknown =>
      have unregistered := (represents.registry guardianSetIndex).symm.trans unknown
      simp only [Lifecycle.observe, represents.phase_unobserved absent vacant, unregistered]
      exact ⟨trivial, represents⟩
  | registered transcript set now vacant absent available =>
      have registered := (represents.registry guardianSetIndex).symm.trans available
      simp only [Lifecycle.observe, represents.phase_unobserved absent vacant, registered]
      refine ⟨trivial, represents.enter sound rfl rfl ?_ ?_⟩
      · intro other different
        exact ⟨(Memory.pending?_upsert _ other).trans (if_neg different), rfl⟩
      · refine ⟨vacant, available, _, (Memory.pending?_upsert _ _).trans (if_pos rfl), rfl, rfl,
          ?_⟩
        rw [Ballots.signatures_none]
        rfl

/-! ## Submissions -/

theorem checkSignature_eq_verdict {set : GuardianSet} {pending : PendingObservation}
    {ballots : Ballots} (held : pending.signatures = ballots.signatures) :
    checkSignature crypto set pending id signature =
      Lifecycle.verdict crypto set ballots id signature := by
  rw [checkSignature, Lifecycle.verdict, Ballots.hasGuardian_eq held]
  cases set.keys[signature.position]? with
  | none => rfl
  | some guardian =>
      simp only [okOr, ok_bind]
      cases (ballots signature.guardianIndex).isSome with
      | true => simp [require, fail]
      | false =>
          have settles := @settles_recoverAddress crypto (crypto.parseMessage id) signature.rs
            signature.recoveryId
          cases recovered : recoverGuardian crypto id signature with
          | ok address => by_cases same : address = guardian <;> simp [require, fail, same]
          | error fault =>
              cases fault with
              | returned error => simp [require, fail, mapError]
              | panicked => exact absurd recovered settles

theorem Represents.served {set : GuardianSet} {pending : PendingObservation} {ballots : Ballots}
    {transcript : List (Exchange ports)} {result : Checked EngineError SubmitOutcome}
    (represents : Represents crypto assignment memory state)
    (sound : MemorySound crypto assignment after)
    (found : memory.pending? id = some pending)
    (available : memory.guardianSet? pending.message.guardianSetIndex = some set)
    (vacant : memory.vaa? id = none)
    (phase : state.phase id =
      .pending pending.message.guardianSetIndex set pending.message.body ballots)
    (held : pending.signatures = ballots.signatures)
    (effect : ServedEffect crypto memory set id pending signature transcript result after) :
    result = (state.submit crypto id signature).1 ∧
      Represents crypto assignment after (state.submit crypto id signature).2 := by
  have checkedAlike := @checkSignature_eq_verdict crypto id signature set pending ballots held
  simp only [Lifecycle.submit, phase, ← checkedAlike]
  have grow (checked : checkSignature crypto set pending id signature = .ok ()) :
      pending.quorum = quorum set.keys.length ∧ (pending.insertSorted signature).message.id = id ∧
        (pending.insertSorted signature).signatures = (ballots.cast signature).signatures := by
    have grown := (represents.sound.grown found available checked).1
    rw [checkedAlike] at checked
    exact ⟨grown.needed, grown.key,
      Ballots.insertSorted_signatures held (Lifecycle.verdict_free checked)⟩
  cases effect with
  | refused fault checked =>
      simp only [checked]
      exact ⟨trivial, represents⟩
  | collected checked below =>
      rcases grow checked with ⟨needed, key, inserted⟩
      have short := Nat.lt_of_not_le (of_decide_eq_false below)
      rw [PendingObservation.insertSorted_quorum] at short
      simp only [checked, Lifecycle.accept, ← inserted, ← needed, if_pos short]
      refine ⟨trivial, represents.enter sound rfl rfl ?_ ?_⟩
      · intro other different
        refine ⟨(Memory.pending?_upsert _ other).trans (if_neg ?_), rfl⟩
        rw [key]
        exact different
      · exact ⟨vacant, available, _, (Memory.pending?_upsert _ id).trans (if_pos key.symm), rfl,
          rfl, inserted⟩
  | assembled checked reached now reading =>
      rcases grow checked with ⟨needed, key, inserted⟩
      have enough := Nat.not_lt_of_le (of_decide_eq_true reached)
      rw [PendingObservation.insertSorted_quorum] at enough
      simp only [checked, Lifecycle.accept, ← inserted, ← needed, if_neg enough]
      refine ⟨rfl, represents.enter sound rfl (List.append_assoc _ _ _) ?_ ?_⟩
      · intro other different
        exact ⟨(Memory.pending?_remove id other).trans (if_neg different),
          (Memory.vaa?_save _ other).trans (if_neg different)⟩
      · exact ⟨(Memory.pending?_remove id id).trans (if_pos rfl), _,
          (Memory.vaa?_save _ id).trans (if_pos rfl)⟩

theorem Represents.submit {outcome : Outcome ports (Checked EngineError SubmitOutcome)}
    (represents : Represents crypto assignment memory state)
    (effect : SubmitEffect crypto memory id signature outcome after)
    (answered : Answered outcome.transcript) :
    outcome.result = (state.submit crypto id signature).1 ∧
      Represents crypto assignment after (state.submit crypto id signature).2 := by
  have sound := represents.sound.submitted effect
  cases found : memory.pending? id with
  | some pending =>
      rcases represents.phase_pending found with ⟨set, ballots, phase, vacant, available, held⟩
      exact represents.served sound found available vacant phase held
        (effect.served answered found available (represents.sound.pending id pending found)
          (represents.sound.registry _ _ available))
  | none =>
      rcases effect.absent answered found with ⟨result, same⟩
      rw [same, result]
      cases phase : state.phase id with
      | unobserved =>
          simp only [Lifecycle.submit, phase]
          exact ⟨trivial, represents⟩
      | completed =>
          simp only [Lifecycle.submit, phase]
          exact ⟨trivial, represents⟩
      | pending guardianSetIndex set body ballots =>
          have shows := represents.phases id
          simp [Shows, phase, found] at shows

/-! ## Upgrades -/

theorem Represents.upgrade {set : GuardianSet}
    (represents : Represents crypto assignment memory state)
    (assigned : assignment set.index = some set) (choices : Nat → Int64) :
    Represents crypto assignment
      ((aggregator crypto).perform ((aggregator crypto).body (.upgrade set)) choices memory).2
      (state.upgrade set) := by
  have sound := represents.sound.insertGuardianSet assigned
  have lookup (index : UInt32) : (memory.guardians.sets.insert set.index set).lookup index =
      if index = set.index then some set else memory.guardianSet? index := by
    by_cases same : index = set.index
    · rw [if_pos same, same]
      exact AList.lookup_insert memory.guardians.sets
    · rw [if_neg same]
      exact AList.lookup_insert_ne same
  refine ⟨⟨sound.pending, sound.records, sound.registry⟩, ?_, represents.events, ?_⟩
  · intro index
    refine (lookup index).trans ?_
    rw [represents.registry]
    exact (Function.update_apply state.registry set.index (some set) index).symm
  · intro other
    have before := represents.phases other
    change Shows _ other (state.phase other)
    cases phase : state.phase other with
    | unobserved =>
        rw [phase] at before
        exact before
    | completed =>
        rw [phase] at before
        exact before
    | pending guardianSetIndex registered body ballots =>
        rw [phase] at before
        rcases before with ⟨vacant, available, observed⟩
        refine ⟨vacant, (lookup guardianSetIndex).trans ?_, observed⟩
        split
        · rename_i same
          rw [← assigned, ← same]
          exact represents.sound.registry _ _ available
        · exact available

/-! ## What is visible of a state -/

theorem Represents.mem_messages (represents : Represents crypto assignment memory state)
    (id : MessageId) : id ∈ memory.messages ↔ (state.phase id).isPending = true := by
  have shows := represents.phases id
  rw [← AList.lookup_isSome]
  change (memory.pending? id).isSome ↔ _
  cases phase : state.phase id with
  | unobserved => simp_all [Shows, Phase.isPending]
  | completed => simp_all [Shows, Phase.isPending]
  | pending guardianSetIndex set body ballots =>
      rw [phase] at shows
      rcases shows with ⟨_, _, pending, found, _⟩
      simp [found, Phase.isPending]

theorem Represents.mem_vaas (represents : Represents crypto assignment memory state)
    (id : MessageId) : id ∈ memory.vaas ↔ (state.phase id).isCompleted = true := by
  have shows := represents.phases id
  rw [← AList.lookup_isSome]
  change (memory.vaa? id).isSome ↔ _
  cases phase : state.phase id with
  | unobserved => simp_all [Shows, Phase.isCompleted]
  | completed =>
      rw [phase] at shows
      rcases shows with ⟨_, record, stored⟩
      simp [stored, Phase.isCompleted]
  | pending guardianSetIndex set body ballots => simp_all [Shows, Phase.isCompleted]

theorem ncard_keys {κ ν : Type} [DecidableEq κ] (map : DashMap κ ν) :
    {key | key ∈ map}.ncard = map.entries.length := by
  have keys : {key | key ∈ map} = (map.keys.toFinset : Set κ) := by
    ext key
    simp [AList.mem_keys]
  rw [keys, Set.ncard_coe_finset, List.toFinset_card_of_nodup map.keys_nodup]
  exact List.length_map _

theorem Represents.stats (represents : Represents crypto assignment memory state)
    (choices : Nat → Int64) :
    ((aggregator crypto).perform stats.run choices memory).1.result = .ok state.stats := by
  have pending := ncard_keys memory.messages
  have completed := ncard_keys memory.vaas
  simp only [represents.mem_messages] at pending
  simp only [represents.mem_vaas] at completed
  rw [Lifecycle.stats, pending, completed]
  change Except.ok (EngineStats.mk (memory.messages.entries.map Sigma.snd).length _) = _
  rw [List.length_map]
  rfl

/-! ## Runs -/

theorem Represents.request {request : EngineRequest} {outcome : Outcome ports Reply}
    (represents : Represents crypto assignment memory state)
    (effect : RequestEffect crypto memory request outcome after)
    (answered : Answered outcome.transcript) :
    outcome.result = (Lifecycle.serve crypto state request.request).2 ∧
      Represents crypto assignment after (Lifecycle.serve crypto state request.request).1 := by
  cases effect with
  | observed effect =>
      rcases represents.observe effect answered with ⟨result, representsAfter⟩
      exact ⟨congrArg Reply.observed result, representsAfter⟩
  | submitted effect =>
      rcases represents.submit effect answered with ⟨result, representsAfter⟩
      exact ⟨congrArg Reply.submitted result, representsAfter⟩

theorem Represents.serve {request : Request}
    (represents : Represents crypto assignment memory state)
    (within : UpgradesWithin assignment request) (choices : Nat → Int64) :
    let performed :=
      (aggregator crypto).perform ((aggregator crypto).body request) choices memory
    performed.1.result = (Lifecycle.serve crypto state request).2 ∧
      Represents crypto assignment performed.2 (Lifecycle.serve crypto state request).1 := by
  cases request with
  | upgrade set => exact ⟨rfl, represents.upgrade within choices⟩
  | observe guardianSetIndex body =>
      rcases aggregator_effect crypto (.observe guardianSetIndex body) choices memory with
        ⟨effect, answered⟩
      exact represents.request effect answered
  | submit id signature =>
      rcases aggregator_effect crypto (.submit id signature) choices memory with
        ⟨effect, answered⟩
      exact represents.request effect answered

end

theorem represents_new {crypto : Crypto} {assignment : UInt32 → Option GuardianSet}
    {guardians : InMemoryGuardianRegistry}
    (registered : ∀ index set, (Memory.new guardians).guardianSet? index = some set →
      assignment index = some set) :
    Represents crypto assignment (.new guardians)
      (.new (Memory.new guardians).guardianSet?) where
  sound := memorySound_new registered
  registry _ := rfl
  events := rfl
  phases _ := ⟨rfl, rfl⟩

theorem represents_run {crypto : Crypto} {assignment : UInt32 → Option GuardianSet}
    {guardians : InMemoryGuardianRegistry}
    (registered : ∀ index set, (Memory.new guardians).guardianSet? index = some set →
      assignment index = some set)
    {turns : List (Turn (aggregator crypto))}
    (within : ∀ turn ∈ turns, UpgradesWithin assignment turn.request) :
    Represents crypto assignment (((aggregator crypto).sequential (.new guardians)).state turns)
        ((lifecycle crypto (Memory.new guardians).guardianSet?).state turns) ∧
      (((aggregator crypto).sequential (.new guardians)).journal turns).map
          (fun entry => entry.output.result) =
        ((lifecycle crypto (Memory.new guardians).guardianSet?).journal turns).map
          Commit.output := by
  apply Machine.runs_alike _ _ Outcome.result
    (fun turn => UpgradesWithin assignment turn.request) (Represents crypto assignment)
    (represents_new registered) _ turns within
  intro memory state turn represents permitted
  rcases represents.serve permitted turn.choices with ⟨result, after⟩
  exact ⟨_, _, _, rfl, congrArg (fun reply => Except.ok (_, reply)) result.symm, after⟩

theorem lifecycle_advances (crypto : Crypto) (registry : UInt32 → Option GuardianSet)
    (earlier later : List (Turn (aggregator crypto))) (id : MessageId) :
    (((lifecycle crypto registry).state earlier).phase id).Advances
      (((lifecycle crypto registry).state (earlier ++ later)).phase id) := by
  apply Machine.state_append_related (lifecycle crypto registry) (fun _ => True)
    (fun _ _ => True) (fun _ _ => trivial)
    fun current next => (current.phase id).Advances (next.phase id)
  · exact fun current => Phase.Advances.refl _
  · exact fun first second third => Phase.Advances.trans
  · intro current _ turn next output _ _ executed
    have served := (Prod.mk.inj (Except.ok.inj executed)).1
    rw [← served]
    cases turn.request with
    | observe guardianSetIndex body => exact Lifecycle.observe_advances guardianSetIndex body id
    | submit other signature => exact Lifecycle.submit_advances other signature id
    | upgrade set => exact Phase.Advances.refl _
  · exact fun _ _ => trivial

/-- The engine over the in-memory adapters and the abstract machine after the
same requests: they have answered alike, and nothing visible tells them
apart. -/
structure RefinesLifecycle (crypto : Crypto) (guardians : InMemoryGuardianRegistry)
    (turns : List (Turn (aggregator crypto))) : Prop where
  results :
    (((aggregator crypto).sequential (.new guardians)).journal turns).map
        (fun entry => entry.output.result) =
      ((lifecycle crypto (Memory.new guardians).guardianSet?).journal turns).map Commit.output
  events :
    (((aggregator crypto).sequential (.new guardians)).state turns).events =
      ((lifecycle crypto (Memory.new guardians).guardianSet?).state turns).events
  pendingKeys : ∀ id,
    id ∈ (((aggregator crypto).sequential (.new guardians)).state turns).messages ↔
      (((lifecycle crypto (Memory.new guardians).guardianSet?).state turns).phase id).isPending =
        true
  completedKeys : ∀ id,
    id ∈ (((aggregator crypto).sequential (.new guardians)).state turns).vaas ↔
      (((lifecycle crypto (Memory.new guardians).guardianSet?).state turns).phase
        id).isCompleted = true
  stats : ∀ choices,
    ((aggregator crypto).perform stats.run choices
        (((aggregator crypto).sequential (.new guardians)).state turns)).1.result =
      .ok ((lifecycle crypto (Memory.new guardians).guardianSet?).state turns).stats
  forward : ∀ earlier later, turns = earlier ++ later → ∀ id,
    (((lifecycle crypto (Memory.new guardians).guardianSet?).state earlier).phase id).Advances
      (((lifecycle crypto (Memory.new guardians).guardianSet?).state turns).phase id)

/-- Under a registry that never changes the set of an index, every sequence of
requests refines the life of the messages. -/
theorem sequential_refines_lifecycle (crypto : Crypto) (guardians : InMemoryGuardianRegistry)
    (assignment : UInt32 → Option GuardianSet)
    (registered : ∀ index set, (Memory.new guardians).guardianSet? index = some set →
      assignment index = some set)
    (turns : List (Turn (aggregator crypto)))
    (within : ∀ turn ∈ turns, UpgradesWithin assignment turn.request) :
    RefinesLifecycle crypto guardians turns := by
  rcases represents_run registered within with ⟨represents, results⟩
  exact {
    results := results
    events := represents.events
    pendingKeys := represents.mem_messages
    completedKeys := represents.mem_vaas
    stats := represents.stats
    forward := by
      intro earlier later split id
      rw [split]
      exact lifecycle_advances crypto _ earlier later id }

namespace Sample

open Types.Sample

def lifetime : List (Turn (aggregator crypto)) :=
  [.observe 0 body, .submit digest signature, .submit digest otherSignature].map
    fun request => ⟨request, fun _ => 0⟩

end Sample

theorem sequential_refines_lifecycle_lifetime :
    RefinesLifecycle Types.Sample.crypto (.new Sample.guardianSet) Sample.lifetime :=
  sequential_refines_lifecycle Types.Sample.crypto (.new Sample.guardianSet)
    (Memory.new (.new Sample.guardianSet)).guardianSet? (fun _ _ found => found)
    Sample.lifetime (by simp [Sample.lifetime, UpgradesWithin])

end WormVerify.Infra
