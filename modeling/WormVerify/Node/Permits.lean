import WormVerify.Node.Startup
import WormVerify.Infra.Provenance

/-! # What the limiter's permits bound

Every mutation takes a permit before it does anything else. What a node stores
and announces is therefore bounded by the permits that were granted.
-/

namespace WormVerify.Node

open WormVerify.Types WormVerify.Core WormVerify.Infra WormVerify.Api Service Checked

section

variable {crypto : Crypto} {signing : Signing crypto} {hex : Hex}
  {guardians : SimulatedGuardians signing}

def Granted (calls : List (api hex guardians).Call) (request : Request) : Prop :=
  ∃ call ∈ calls, granted hex guardians call = true ∧ Asks hex guardians call.request request

def permits (calls : List (api hex guardians).Call) : Nat := calls.countP (granted hex guardians)

theorem requests_of_record {requests : List Request} {id : MessageId} {record : VaaRecord}
    (requested : RecordRequested crypto requests id record)
    (distinct : record.vaa.signatures.Nodup) :
    record.vaa.signatures.length + 1 ≤ requests.length := by
  let needed : List Request :=
    .observe record.vaa.guardianSetIndex record.vaa.body ::
      record.vaa.signatures.map (Request.submit id)
  have different : needed.Nodup := by
    rw [List.nodup_cons]
    constructor
    · intro member
      rcases List.mem_map.mp member with ⟨signature, _, same⟩
      cases same
    · exact distinct.map fun left right same => (Request.submit.inj same).2
  have included : needed ⊆ requests := by
    intro request member
    rcases List.mem_cons.mp member with rfl | submitted
    · exact requested.observed
    · rcases List.mem_map.mp submitted with ⟨signature, present, rfl⟩
      exact requested.submitted signature present
  have fits := (List.subperm_of_subset different included).length_le
  rwa [List.length_cons, List.length_map] at fits

variable {args : GuardianArgs} {rateLimitRps : UInt32} {state : ServiceState signing}

/-- Whatever operations are in flight, a node stores an observation only for an
input that it was given with a permit, and a signature only for a guardian that
it was told to sign as with a permit. -/
theorem stored_data_was_permitted (built : buildState signing args rateLimitRps = .ok state)
    {pool : (api hex state.guardians).Pool}
    (reachable : Reachable (AnyOrder hex state.guardians) state.memory pool) :
    (∀ id pending, pool.world.pending? id = some pending →
      id = .fromBody crypto pending.message.body ∧
      Granted pool.calls (.observe pending.message.guardianSetIndex pending.message.body) ∧
      ∀ signature ∈ pending.signatures, Granted pool.calls (.submit id signature)) ∧
    ∀ id record, pool.world.vaa? id = some record →
      id = .fromBody crypto record.vaa.body ∧
      Granted pool.calls (.observe record.vaa.guardianSetIndex record.vaa.body) ∧
      ∀ signature ∈ record.vaa.signatures, Granted pool.calls (.submit id signature) := by
  rw [(started built).memory] at reachable
  rcases engine_behind reachable with ⟨calls, behind, _, asked⟩
  have requested := memory_requested behind
  have permitted (request : Request) (member : request ∈ calls.map Call.request) :
      Granted pool.calls request := by
    rcases List.mem_map.mp member with ⟨inner, present, rfl⟩
    exact asked inner present
  constructor
  · intro id pending found
    have parts := (requested.pending id pending found).2
    exact ⟨parts.digest, permitted _ parts.observed, fun signature member =>
      permitted _ (parts.submitted signature member)⟩
  · intro id record found
    have parts := requested.records id record found
    exact ⟨parts.digest, permitted _ parts.observed, fun signature member =>
      permitted _ (parts.submitted signature member)⟩

theorem stored_data_was_permitted_completion :
    ∃ record, Sample.completed.world.vaa? Infra.Sample.announcementDigest = some record ∧
      ∀ signature ∈ record.vaa.signatures, Granted Sample.completed.calls
        (.submit Infra.Sample.announcementDigest signature) := by
  have permitted := stored_data_was_permitted Sample.state_built Sample.completed_reachable
  have stored : (Sample.completed.world.vaa? Infra.Sample.announcementDigest).isSome := by
    decide +kernel
  rcases Option.isSome_iff_exists.mp stored with ⟨record, found⟩
  exact ⟨record, found, (permitted.2 _ record found).2.2⟩

/-- The permits bound the messages that a node stores and the events that it
announces, and a completed message takes one permit more than its quorum. -/
theorem permits_bound_stores (built : buildState signing args rateLimitRps = .ok state)
    {pool : (api hex state.guardians).Pool}
    (reachable : Reachable (AnyOrder hex state.guardians) state.memory pool) :
    pool.world.size ≤ permits pool.calls ∧
      pool.world.events.length ≤ 2 * permits pool.calls ∧
      ∀ id record, pool.world.vaa? id = some record →
        quorum args.guardianCount + 1 ≤ permits pool.calls := by
  have start := started built
  rw [start.memory] at reachable
  rcases engine_behind reachable with ⟨calls, behind, counted, _⟩
  have footprint := footprint_le behind
  refine ⟨footprint.1.trans counted, footprint.2.trans (Nat.mul_le_mul_left 2 counted), ?_⟩
  intro id record found
  have sound := (unupgraded_sound behind).2.records id record found
  rcases sound.guardians with ⟨set, assigned, count, verified⟩
  rw [(registry_get?_eq_some.mp assigned).2, SimulatedGuardians.guardianSet_length,
    start.len] at count
  have distinct := (Vaa.verify_eq_ok.mp verified).2.1.key_nodup.of_map
  have needed := requests_of_record ((memory_requested behind).records id record found) distinct
  rw [count, List.length_map] at needed
  exact needed.trans counted

theorem permits_bound_stores_completion :
    permits Sample.completed.calls = 3 ∧ quorum Sample.args.guardianCount + 1 ≤ 3 := by
  have bounds := permits_bound_stores Sample.state_built Sample.completed_reachable
  have stored : (Sample.completed.world.vaa? Infra.Sample.announcementDigest).isSome := by
    decide +kernel
  rcases Option.isSome_iff_exists.mp stored with ⟨record, found⟩
  have taken : permits Sample.completed.calls = 3 := by decide +kernel
  exact ⟨taken, taken ▸ bounds.2.2 _ record found⟩

end

end WormVerify.Node
