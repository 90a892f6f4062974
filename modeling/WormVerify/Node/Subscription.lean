import WormVerify.Node.Availability
import WormVerify.Node.Permits

/-! # What subscribers are told

Events reach subscribers through a broadcast channel. A subscriber that falls
behind misses some of them, and whoever is told that a VAA has been assembled
can look it up.
-/

namespace WormVerify.Node

open WormVerify.Types WormVerify.Core WormVerify.Infra WormVerify.Api Service

/-- What a subscription may have streamed that began when so many events had been
published: those published since, in their order, but for the ones that the
channel has dropped. -/
def Streams (hex : Hex) (since : Nat) (memory : Memory) (streamed : List GqlEvent) : Prop :=
  streamed.Sublist ((memory.events.drop since).map (GqlEvent.ofDomainEvent hex))

section

variable {crypto : Crypto} {signing : Signing crypto} {hex : Hex}
  {guardians : SimulatedGuardians signing}

inductive Announced (hex : Hex) (pool : (api hex guardians).Pool) : GqlEvent → Prop
  | observed (guardianSetIndex : UInt32) (body : VaaBody)
      (permitted : Granted pool.calls (.observe guardianSetIndex body)) :
      Announced hex pool
        ⟨"MESSAGE_OBSERVED", (MessageId.fromBody crypto body).toHex hex, none, none, none⟩
  | collected (id : MessageId) (signature : GuardianSignature) (held : Nat)
      (permitted : Granted pool.calls (.submit id signature))
      (member : signature.position < guardians.len) (first : 0 < held)
      (within : held ≤ quorum guardians.len) :
      Announced hex pool ⟨"SIGNATURE_COLLECTED", id.toHex hex, some signature.guardianIndex,
        some held, some (quorum guardians.len)⟩
  | assembled (id : MessageId) (record : VaaRecord) (stored : pool.world.vaa? id = some record)
      (completes : Completes guardians id record.vaa) :
      Announced hex pool ⟨"VAA_ASSEMBLED", id.toHex hex, none, none, none⟩

/-- Whatever operations are in flight, each event that a subscriber of a node
receives is true: a message was observed and a signature submitted with a permit,
the signature is that of a guardian and counted towards the quorum, and an
assembled VAA is stored. -/
theorem streamed_events_are_true (lawful : signing.Lawful) {args : GuardianArgs}
    {rateLimitRps : UInt32} {state : ServiceState signing}
    (built : buildState signing args rateLimitRps = .ok state)
    {pool : (api hex state.guardians).Pool}
    (reachable : Reachable (AnyOrder hex state.guardians) state.memory pool) {since : Nat}
    {streamed : List GqlEvent} (streams : Streams hex since pool.world streamed)
    {event : GqlEvent} (received : event ∈ streamed) : Announced hex pool event := by
  rw [(started built).memory] at reachable
  rcases engine_behind reachable with ⟨calls, behind, _, asked⟩
  rcases List.mem_map.mp (streams.subset received) with ⟨published, recent, rfl⟩
  have member := List.mem_of_mem_drop recent
  have requested := (memory_requested behind).events published member
  have permitted (request : Request) (among : request ∈ calls.map Call.request) :
      Granted pool.calls request := by
    rcases List.mem_map.mp among with ⟨inner, present, rfl⟩
    exact asked inner present
  cases published with
  | messageObserved id =>
      rcases requested with ⟨guardianSetIndex, body, rfl, observed⟩
      exact .observed guardianSetIndex body (permitted _ observed)
  | signatureCollected id guardianIndex held needed =>
      rcases requested with ⟨signature, rfl, submitted⟩
      rcases events_sound lawful reachable _ member with ⟨index, set, assigned, inside, first,
        within, rfl⟩
      rw [(registry_get?_eq_some.mp assigned).2, SimulatedGuardians.guardianSet_length] at *
      exact .collected id signature held (permitted _ submitted) inside first within
  | vaaAssembled id =>
      rcases (stored_of_reachable reachable).1 id member with before | stored
      · cases before
      · rcases Option.isSome_iff_exists.mp stored with ⟨record, found⟩
        exact .assembled id record found
          (completes_of_sound ((unupgraded_sound behind).2.records id record found))

theorem streamed_events_are_true_completion :
    .vaaAssembled Infra.Sample.announcementDigest ∈ Sample.completed.world.events ∧
      Announced Types.Sample.hex Sample.completed
        (.ofDomainEvent Types.Sample.hex (.vaaAssembled Infra.Sample.announcementDigest)) := by
  have published : .vaaAssembled Infra.Sample.announcementDigest ∈
      Sample.completed.world.events := by
    decide +kernel
  have streams : Streams Types.Sample.hex 0 Sample.completed.world
      (Sample.completed.world.events.map (GqlEvent.ofDomainEvent Types.Sample.hex)) :=
    List.Sublist.refl _
  exact ⟨published, streamed_events_are_true Infra.Sample.simulation_lawful Sample.state_built
    Sample.completed_reachable streams (List.mem_map_of_mem published)⟩

theorem assembled_of_kind {event : DomainEvent}
    (kind : (GqlEvent.ofDomainEvent hex event).kind = "VAA_ASSEMBLED") :
    ∃ id, event = .vaaAssembled id ∧
      (GqlEvent.ofDomainEvent hex event).messageId = id.toHex hex := by
  cases event with
  | messageObserved id => simp [GqlEvent.ofDomainEvent] at kind
  | signatureCollected id guardianIndex held needed => simp [GqlEvent.ofDomainEvent] at kind
  | vaaAssembled id => exact ⟨id, rfl, rfl⟩

/-- Whatever operations are in flight, a subscriber that has been told of an
assembled VAA finds that of the message with every lookup that it begins
afterwards. -/
theorem announced_vaas_are_found (hexLawful : hex.Lawful) {sets : InMemoryGuardianRegistry}
    {pool : (api hex guardians).Pool}
    (reachable : Reachable (AnyOrder hex guardians) (.new sets) pool) {since : Nat}
    {streamed : List GqlEvent} (streams : Streams hex since pool.world streamed)
    {event : GqlEvent} (told : event ∈ streamed) (assembled : event.kind = "VAA_ASSEMBLED")
    {later : (api hex guardians).Pool} (leads : Leads (AnyOrder hex guardians) pool later)
    {position : Nat} {lookup : (api hex guardians).Call} (began : pool.calls.length ≤ position)
    (found : later.calls[position]? = some lookup) (looksUp : lookup.request = .vaa event.messageId)
    {outcome : Checked ApiError Answer} (ended : lookup.result? = some outcome) :
    ∃ vaa, outcome = .ok (.vaa (some vaa)) ∧ vaa.id = event.messageId := by
  rcases List.mem_map.mp (streams.subset told) with ⟨published, recent, rfl⟩
  rcases assembled_of_kind assembled with ⟨id, rfl, named⟩
  have stored : (pool.world.vaa? id).isSome := by
    rcases (stored_of_reachable reachable).1 id (List.mem_of_mem_drop recent) with before | stored
    · cases before
    · exact stored
  have keyed : Keyed (Memory.new sets) := by
    intro id record found
    cases found
  rcases found_of_stored stored leads began found looksUp
    (named ▸ MessageId.fromHex_toHex hexLawful id) ended with ⟨vaa, answered, own⟩
  exact ⟨vaa, answered, (own (keyed_of_reachable keyed reachable)).trans named.symm⟩

end

section

open Types.Sample Infra.Sample

theorem announced_vaas_are_found_lookup :
    ∃ (lookup : (api hex simulated).Call) (vaa : GqlVaa), Sample.lookedUp.calls[3]? = some lookup ∧
      lookup.result? = some (.ok (.vaa (some vaa))) ∧ vaa.id = Sample.messageId := by
  have announced : Sample.signed.calls.length = 3 ∧
      .vaaAssembled announcementDigest ∈ Sample.signed.world.events := by
    decide +kernel
  have looksUp : (Sample.lookedUp.calls[3]?).any fun lookup =>
      lookup.request = .vaa Sample.messageId && lookup.result?.isSome := by
    decide +kernel
  rcases (Option.any_eq_true _ _).mp looksUp with ⟨lookup, position, returns⟩
  rcases Bool.and_eq_true_iff.mp returns with ⟨asks, outcomeAt⟩
  rcases Option.isSome_iff_exists.mp outcomeAt with ⟨outcome, outcomeIs⟩
  have told : GqlEvent.ofDomainEvent hex (.vaaAssembled announcementDigest) ∈
      (Sample.signed.world.events.drop 0).map (GqlEvent.ofDomainEvent hex) :=
    List.mem_map_of_mem announced.2
  rcases announced_vaas_are_found hex_lawful Sample.signed_reachable (List.Sublist.refl _) told rfl
    Sample.signed_leads announced.1.le position (of_decide_eq_true asks) outcomeIs with
    ⟨vaa, same, own⟩
  exact ⟨lookup, vaa, position, same ▸ outcomeIs, own⟩

end

end WormVerify.Node
