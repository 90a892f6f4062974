import WormVerify.Core.Text
import WormVerify.Foundation.Simulation
import WormVerify.Infra.Memory
import WormVerify.Infra.Signer

/-! # The GraphQL schema

Queries and mutations are programs over the ports of the engine and the rate
limiter. Whether the limiter grants a permit is left to the environment.
-/

namespace WormVerify.Api

open WormVerify.Types WormVerify.Core WormVerify.Infra Checked

/-! ## Output types -/

structure GqlVaa where
  id : String
  version : UInt8
  guardianSetIndex : UInt32
  numSignatures : Nat
  emitterChain : UInt16
  sequence : String
  consistencyLevel : UInt8
  payloadHex : String
  bytesHex : String
  assembledAt : Int64
  deriving DecidableEq

structure GqlPending where
  id : String
  guardianSetIndex : UInt32
  emitterChain : UInt16
  sequence : String
  held : Nat
  needed : Nat
  deriving DecidableEq

structure GqlGuardianSet where
  index : UInt32
  quorum : Nat
  addresses : List String
  deriving DecidableEq

structure GqlStats where
  pending : Nat
  completed : UInt64
  deriving DecidableEq

structure GqlSubmitResult where
  messageId : String
  assembled : Bool
  held : Nat
  needed : Nat
  vaaBytesHex : Option String
  deriving DecidableEq

structure GqlEvent where
  kind : String
  messageId : String
  guardianIndex : Option UInt8
  held : Option Nat
  needed : Option Nat
  deriving DecidableEq

structure ObservationInput where
  guardianSetIndex : UInt32
  timestamp : UInt32
  nonce : UInt32
  emitterChain : UInt16
  emitterAddressHex : String
  sequence : UInt64
  consistencyLevel : UInt8
  payloadHex : String
  deriving DecidableEq

section

variable (hex : Hex)

def GqlEvent.ofDomainEvent : DomainEvent → GqlEvent
  | .messageObserved id => ⟨"MESSAGE_OBSERVED", id.toHex hex, none, none, none⟩
  | .signatureCollected id guardianIndex held needed =>
      ⟨"SIGNATURE_COLLECTED", id.toHex hex, some guardianIndex, some held, some needed⟩
  | .vaaAssembled id => ⟨"VAA_ASSEMBLED", id.toHex hex, none, none, none⟩

def ObservationInput.intoBody (input : ObservationInput) : Except String VaaBody := do
  let emitterAddress ←
    decodeFixed hex 32 "emitter_address must be 32 bytes" input.emitterAddressHex
  let payload ← decodeBytes hex input.payloadHex
  return {
    timestamp := input.timestamp
    nonce := input.nonce
    emitterChain := input.emitterChain
    emitterAddress
    sequence := input.sequence
    consistencyLevel := input.consistencyLevel
    payload }

/-- An input is read as a body exactly when its numbers are the body's and its
two texts spell the body's emitter address and payload. -/
theorem ObservationInput.intoBody_reads_spellings {hex : Hex} (lawful : hex.Lawful)
    (input : ObservationInput) (body : VaaBody) :
    input.intoBody hex = .ok body ↔
      input.timestamp = body.timestamp ∧ input.nonce = body.nonce ∧
      input.emitterChain = body.emitterChain ∧
      Spells hex input.emitterAddressHex body.emitterAddress.val ∧
      input.sequence = body.sequence ∧ input.consistencyLevel = body.consistencyLevel ∧
      Spells hex input.payloadHex body.payload := by
  rw [intoBody, ← @Hex.Lawful.decodeFixed_eq_ok hex lawful 32 "emitter_address must be 32 bytes",
    ← lawful.decodeBytes_eq_ok]
  cases address : decodeFixed hex 32 "emitter_address must be 32 bytes" input.emitterAddressHex with
  | error message => simp [bind, Except.bind]
  | ok emitterAddress =>
      cases decodeBytes hex input.payloadHex with
      | error message => simp [bind, Except.bind]
      | ok payload =>
          rcases body with ⟨timestamp, nonce, emitterChain, other, sequence, level, read⟩
          simp [bind, Except.bind, pure, Except.pure]

theorem ObservationInput.intoBody_reads_spellings_upperCase :
    ({
        guardianSetIndex := 0
        timestamp := 1
        nonce := 2
        emitterChain := 3
        emitterAddressHex := prefixed 1 (.ofList (.replicate 64 'F'))
        sequence := 4
        consistencyLevel := 5
        payloadHex := "0x0xAb" } : ObservationInput).intoBody Types.Sample.hex =
      .ok {
        timestamp := 1
        nonce := 2
        emitterChain := 3
        emitterAddress := ⟨.replicate 32 255, List.length_replicate⟩
        sequence := 4
        consistencyLevel := 5
        payload := [0xab] } := by
  rw [ObservationInput.intoBody_reads_spellings Types.Sample.hex_lawful]
  refine ⟨rfl, rfl, rfl, ⟨1, _, rfl, ?_⟩, rfl, rfl, ⟨2, "Ab", ?_, ?_⟩⟩
  · rw [lowercase, String.toList_ofList]
    decide +kernel
  · decide +kernel
  · decide +kernel

def GqlVaa.ofRecord (record : VaaRecord) : GqlVaa where
  id := record.id.toHex hex
  version := record.vaa.version
  guardianSetIndex := record.vaa.guardianSetIndex
  numSignatures := record.vaa.signatures.length
  emitterChain := record.vaa.body.emitterChain
  sequence := toString record.vaa.body.sequence.toNat
  consistencyLevel := record.vaa.body.consistencyLevel
  payloadHex := hex.encode record.vaa.body.payload
  bytesHex := hex.encode record.vaa.encode
  assembledAt := record.assembledAt

def GqlPending.ofPending (pending : PendingObservation) : GqlPending where
  id := pending.message.id.toHex hex
  guardianSetIndex := pending.message.guardianSetIndex
  emitterChain := pending.message.body.emitterChain
  sequence := toString pending.message.body.sequence.toNat
  held := pending.signatures.length
  needed := pending.quorum

def GqlGuardianSet.ofSet (set : GuardianSet) : GqlGuardianSet where
  index := set.index
  quorum := Types.quorum set.keys.length
  addresses := set.keys.map (GuardianAddress.toHex hex)

def submitResult (id : MessageId) : SubmitOutcome → GqlSubmitResult
  | .collected held needed => ⟨id.toHex hex, false, held, needed, none⟩
  | .assembled vaa =>
      ⟨id.toHex hex, true, vaa.signatures.length, vaa.signatures.length,
        some (hex.encode vaa.encode)⟩

end

/-! ## Ports of the resolvers -/

inductive LimiterOp
  | tryAcquire
  deriving DecidableEq

structure RateLimited where
  deriving DecidableEq

abbrev limiterPorts : Interface where
  Op := LimiterOp
  Response _ := Except RateLimited Unit

abbrev apiPorts : Interface := limiterPorts.beside Core.ports

/-- A GraphQL error, which carries nothing but its message. -/
structure ApiError where
  message : String
  deriving DecidableEq

/-- A resolver: port calls that end in a checked result. -/
abbrev ResolverM (α : Type) := ExceptT (Fault ApiError) (Program apiPorts) α

section

variable {α : Type}

def toErr (error : EngineError) : ApiError := ⟨error.display⟩

def engine (computation : EngineM α) : ResolverM α :=
  ExceptT.mk (mapError toErr <$> computation.run.within limiterPorts)

def argument (parsed : Except String α) : ResolverM α :=
  ExceptT.mk (.done (match parsed with
    | .ok value => .ok value
    | .error message => fail ⟨message⟩))

def ofOption (value : Option α) (message : String) : ResolverM α :=
  ExceptT.mk (.done (okOr value ⟨message⟩))

end

def rateLimit : ResolverM Unit :=
  ExceptT.mk (.call (.inl .tryAcquire) fun answer => .done (match answer with
    | .ok () => .ok ()
    | .error _ => fail ⟨"rate limit exceeded"⟩))

def currentGuardianSet : EngineM GuardianSet := askFallible .currentGuardianSet rfl

/-! ## Resolvers -/

section

variable (hex : Hex)

namespace QueryRoot

def health : ResolverM Bool := return true

def vaa (id : String) : ResolverM (Option GqlVaa) := do
  let mid ← argument (MessageId.fromHex hex id)
  let record ← engine (getVaa mid)
  return record.map (GqlVaa.ofRecord hex)

def pendingMessages : ResolverM (List GqlPending) := do
  let pending ← engine listPending
  return pending.map (GqlPending.ofPending hex)

def guardianSet : ResolverM GqlGuardianSet := do
  let set ← engine currentGuardianSet
  return GqlGuardianSet.ofSet hex set

def stats : ResolverM GqlStats := do
  let stats ← engine Core.stats
  return ⟨stats.pending, stats.completed⟩

end QueryRoot

namespace MutationRoot

variable (crypto : Crypto) {signing : Signing crypto} (guardians : SimulatedGuardians signing)

def submitObservation (input : ObservationInput) : ResolverM String := do
  rateLimit
  let body ← argument (input.intoBody hex)
  let id ← engine (observeMessage crypto input.guardianSetIndex body)
  return id.toHex hex

def signAsGuardian (messageId : String) (guardianIndex : UInt8) : ResolverM GqlSubmitResult := do
  rateLimit
  let mid ← argument (MessageId.fromHex hex messageId)
  let signature ← ofOption (guardians.sign guardianIndex mid) "guardian index out of range"
  let outcome ← engine (submitSignature crypto mid signature)
  return submitResult hex mid outcome

end MutationRoot

end

/-! ## The service -/

inductive Operation
  | health
  | vaa (id : String)
  | pendingMessages
  | guardianSet
  | stats
  | submitObservation (input : ObservationInput)
  | signAsGuardian (messageId : String) (guardianIndex : UInt8)
  deriving DecidableEq

inductive Answer
  | health (alive : Bool)
  | vaa (found : Option GqlVaa)
  | pendingMessages (pending : List GqlPending)
  | guardianSet (set : GqlGuardianSet)
  | stats (stats : GqlStats)
  | submitObservation (messageId : String)
  | signAsGuardian (result : GqlSubmitResult)
  deriving DecidableEq

section

variable {crypto : Crypto} {signing : Signing crypto} (hex : Hex)
  (guardians : SimulatedGuardians signing)

def resolve : Operation → ResolverM Answer
  | .health => .health <$> QueryRoot.health
  | .vaa id => .vaa <$> QueryRoot.vaa hex id
  | .pendingMessages => .pendingMessages <$> QueryRoot.pendingMessages hex
  | .guardianSet => .guardianSet <$> QueryRoot.guardianSet hex
  | .stats => .stats <$> QueryRoot.stats
  | .submitObservation input =>
      .submitObservation <$> MutationRoot.submitObservation hex crypto input
  | .signAsGuardian messageId guardianIndex =>
      .signAsGuardian <$> MutationRoot.signAsGuardian hex crypto guardians messageId guardianIndex

/-- The schema over the in-memory adapters. The environment chooses the
limiter's verdict and the clock reading. -/
abbrev api : Service where
  ports := apiPorts
  World := Memory
  Request := Operation
  Result := Checked ApiError Answer
  Choice := Except RateLimited Unit × Int64
  body operation := (resolve hex guardians operation).run
  serve choice memory
    | .inl .tryAcquire => (choice.1, memory)
    | .inr op => memory.serve choice.2 op

end

end WormVerify.Api
