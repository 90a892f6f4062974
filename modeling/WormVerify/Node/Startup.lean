import WormVerify.Api.Contract

/-! # The node

The service as it is configured and started: simulated guardians, a registry of
their set, empty stores and a limiter.
-/

namespace WormVerify.Node

open WormVerify.Types WormVerify.Core WormVerify.Infra WormVerify.Api Service Checked

structure GuardianArgs where
  guardianCount : Nat := 4
  guardianSeed : UInt8 := 1
  guardianSetIndex : UInt32 := 0

structure RateLimiter where
  quota : UInt32
  positive : quota ≠ 0

def RateLimiter.perSecond (quota : UInt32) : Checked Empty RateLimiter :=
  if positive : quota ≠ 0 then .ok ⟨quota, positive⟩ else panic

section

variable {crypto : Crypto} (signing : Signing crypto)

structure ServiceState where
  memory : Memory
  guardians : SimulatedGuardians signing
  rateLimiter : RateLimiter

def buildState (guardians : GuardianArgs) (rateLimitRps : UInt32) :
    Checked Empty (ServiceState signing) := do
  let simulated ← SimulatedGuardians.derive signing guardians.guardianSetIndex
    guardians.guardianCount guardians.guardianSeed
  let registry := InMemoryGuardianRegistry.new simulated.guardianSet
  let rateLimiter ← RateLimiter.perSecond (max rateLimitRps 1)
  return ⟨.new registry, simulated, rateLimiter⟩

end

section

variable {crypto : Crypto} {signing : Signing crypto} {args : GuardianArgs}
  {rateLimitRps : UInt32} {state : ServiceState signing}

theorem exists_perSecond (rateLimitRps : UInt32) :
    ∃ limiter, RateLimiter.perSecond (max rateLimitRps 1) = .ok limiter := by
  have positive : max rateLimitRps 1 ≠ 0 := by
    change (if rateLimitRps ≤ 1 then 1 else rateLimitRps) ≠ 0
    split
    · decide
    · rename_i above
      intro zero
      exact above (zero ▸ by decide)
  exact ⟨⟨_, positive⟩, dif_pos positive⟩

structure Started (args : GuardianArgs) (state : ServiceState signing) : Prop where
  memory : state.memory = .new (registry state.guardians)
  count : 0 < args.guardianCount ∧ args.guardianCount < 255
  index : state.guardians.index = args.guardianSetIndex
  len : state.guardians.len = args.guardianCount

theorem started (built : buildState signing args rateLimitRps = .ok state) :
    Started args state := by
  rw [buildState] at built
  rcases bind_eq_ok.mp built with ⟨simulated, derived, rest⟩
  rcases bind_eq_ok.mp rest with ⟨limiter, _, returned⟩
  cases returned
  rcases SimulatedGuardians.spec_of_derive derived with ⟨count, index, len⟩
  exact ⟨rfl, count, index, len⟩

theorem exists_buildState (lawful : signing.Lawful) (rateLimitRps : UInt32)
    (inside : 0 < args.guardianCount ∧ args.guardianCount < 255) :
    ∃ state, buildState signing args rateLimitRps = .ok state := by
  rcases SimulatedGuardians.exists_derive lawful args.guardianSetIndex args.guardianSeed
    inside with ⟨simulated, derived⟩
  rcases exists_perSecond rateLimitRps with ⟨limiter, limited⟩
  refine ⟨⟨.new (.new simulated.guardianSet), simulated, limiter⟩, ?_⟩
  rw [buildState, derived]
  simp only [ok_bind, limited]
  rfl

end

/-! ## A run of a node -/

namespace Sample

open Types.Sample Infra.Sample

instance (memory : Memory) (call : (api hex simulated).Call) (op : apiPorts.Op) :
    Decidable (AnyOrder hex simulated memory call op) := inferInstanceAs (Decidable True)

def args : GuardianArgs where
  guardianCount := 2

def state : ServiceState simulation where
  memory := .new (registry simulated)
  guardians := simulated
  rateLimiter := ⟨50, by decide⟩

theorem state_built : buildState simulation args 50 = .ok state := rfl

def observation : ObservationInput where
  guardianSetIndex := 0
  timestamp := announcement.timestamp
  nonce := announcement.nonce
  emitterChain := announcement.emitterChain
  emitterAddressHex := hexArray32.serialize hex announcement.emitterAddress
  sequence := announcement.sequence
  consistencyLevel := announcement.consistencyLevel
  payloadHex := hexVec.serialize hex announcement.payload

def messageId : String := MessageId.toHex hex announcementDigest

def served (position portCalls : Nat) : List (Action (api hex simulated)) :=
  List.replicate portCalls (.serve position (.ok (), 0))

def announcing : List (Action (api hex simulated)) :=
  .start (.submitObservation observation) :: served 0 7 ++
    .start (.signAsGuardian messageId 0) :: served 1 5

def completing : List (Action (api hex simulated)) :=
  announcing ++ .start (.signAsGuardian messageId 1) :: served 2 8 ++
    .start (.vaa messageId) :: served 3 1

def announced : (api hex simulated).Pool :=
  (schedule (AnyOrder hex simulated) ⟨state.memory, []⟩ announcing).get (by decide +kernel)

def completed : (api hex simulated).Pool :=
  (schedule (AnyOrder hex simulated) ⟨state.memory, []⟩ completing).get (by decide +kernel)

theorem announced_reachable :
    Reachable (AnyOrder hex simulated) state.memory announced :=
  schedule_reachable (Option.some_get _).symm

theorem completed_reachable :
    Reachable (AnyOrder hex simulated) state.memory completed :=
  schedule_reachable (Option.some_get _).symm

end Sample

/-! ## What a node answers -/

section

variable {crypto : Crypto} {signing : Signing crypto} {hex : Hex}

/-- Whatever operations are in flight, an operation of a node ends in one of the
ways that the schema lists for it. No operation panics, no signature is found
invalid, no assembled VAA fails its verification, and what is collected lies
below the quorum. -/
theorem operations_end (lawful : signing.Lawful) {args : GuardianArgs} {rateLimitRps : UInt32}
    {state : ServiceState signing} (built : buildState signing args rateLimitRps = .ok state)
    {pool : (api hex state.guardians).Pool}
    (reachable : Reachable (AnyOrder hex state.guardians) state.memory pool)
    {call : (api hex state.guardians).Call} (member : call ∈ pool.calls)
    {outcome : Checked ApiError Answer} (returned : call.result? = some outcome) :
    Ends hex state.guardians call.request outcome := by
  rw [(started built).memory] at reachable
  exact answers_end lawful reachable member returned

theorem operations_end_completion :
    ∃ call outcome, Sample.completed.calls[2]? = some call ∧ call.result? = some outcome ∧
      Ends Types.Sample.hex Infra.Sample.simulated call.request outcome := by
  have returns : (Sample.completed.calls[2]?).any fun call => call.result?.isSome := by
    decide +kernel
  rcases (Option.any_eq_true _ _).mp returns with ⟨call, found, ended⟩
  rcases Option.isSome_iff_exists.mp ended with ⟨outcome, returned⟩
  exact ⟨call, outcome, found, returned, operations_end Infra.Sample.simulation_lawful
    Sample.state_built Sample.completed_reachable (List.mem_of_getElem? found) returned⟩

end

end WormVerify.Node
