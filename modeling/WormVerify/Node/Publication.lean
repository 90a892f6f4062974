import WormVerify.Node.Startup
import WormVerify.Usability

/-! # What leaves the node

Two operations answer with the text of a VAA: the one that completes it and the
one that looks it up.
-/

namespace WormVerify.Node

open WormVerify.Types WormVerify.Core WormVerify.Infra WormVerify.Api Service Checked

def named : Operation → Option String
  | .vaa id => some id
  | .signAsGuardian messageId _ => some messageId
  | _ => none

def carried : Answer → Option String
  | .vaa found => found.map GqlVaa.bytesHex
  | .signAsGuardian result => result.vaaBytesHex
  | _ => none

namespace Sample

open Types.Sample Infra.Sample

def syscalls : OnChain.Syscalls where
  keccakHash := simulationHash
  secp256k1Recover digest recoveryId rs :=
    if recoveryId < 4 then simulationRecover digest rs recoveryId else none

theorem sameFunctions : SameFunctions simulationCrypto syscalls where
  keccak _ := rfl
  recover digest rs recoveryId := by
    change (if recoveryId < 4 then simulationRecover digest rs recoveryId else none) =
      (if recoveryId < 4 then some recoveryId else none).bind fun rid =>
        (simulationRecover digest rs rid).bind some
    by_cases small : recoveryId < 4 <;> simp [small]

end Sample

section

variable {crypto : Crypto} {signing : Signing crypto}

/-- The VAA is of the message with the id, and exactly a quorum of the simulated
guardians signed it. -/
structure Completes (guardians : SimulatedGuardians signing) (id : MessageId) (vaa : Vaa) :
    Prop where
  version : vaa.version = supportedVersion
  digest : vaa.body.digest crypto = id
  index : vaa.guardianSetIndex = guardians.index
  count : vaa.signatures.length = quorum guardians.len
  verified : vaa.verify crypto guardians.guardianSet.keys = .ok ()

variable {guardians : SimulatedGuardians signing} {id : MessageId} {hex : Hex}

theorem completes_of_sound {record : VaaRecord}
    (sound : RecordSound crypto (registry guardians).get? id record) :
    Completes guardians id record.vaa := by
  rcases sound.guardians with ⟨set, assigned, count, verified⟩
  rcases registry_get?_eq_some.mp assigned with ⟨index, rfl⟩
  rw [SimulatedGuardians.guardianSet_length] at count
  exact ⟨sound.version, sound.digest.symm, index, count, verified⟩

theorem completes_of_carried {operation : Operation} {answer : Answer} {text : String}
    (ends : Ends hex guardians operation (.ok answer)) (carries : carried answer = some text) :
    ∃ name id vaa, named operation = some name ∧ MessageId.fromHex hex name = .ok id ∧
      Completes guardians id vaa ∧ text = hex.encode vaa.encode := by
  generalize ended : (Except.ok answer : Checked ApiError Answer) = outcome at ends
  cases ends with
  | found name id record read sound =>
      cases ended
      cases carries
      exact ⟨name, id, record.vaa, rfl, read, completes_of_sound sound, rfl⟩
  | assembled name guardianIndex id vaa read inside sound =>
      cases ended
      cases carries
      exact ⟨name, id, vaa, rfl, read, completes_of_sound (sound 0), rfl⟩
  | _ => cases ended <;> cases carries

theorem Completes.usable_iff {syscalls : OnChain.Syscalls} (same : SameFunctions crypto syscalls)
    {vaa : Vaa} (completes : Completes guardians id vaa) (few : guardians.len < 255) :
    Usable syscalls guardians.guardianSet.keys vaa ↔
      vaa.body.payload.length ≤ maxPayloadLen := by
  have ascending := (Vaa.verify_eq_ok.mp completes.verified).2.1
  have fits : vaa.signatures.length ≤ 255 :=
    (quorum_fits_iff ascending completes.count).mpr (by omega)
  rw [usable_iff_wellFormed same completes.verified]
  constructor
  · intro wellFormed
    exact wellFormed.payload
  · intro small
    exact ⟨completes.version, fits, ascending, small⟩

/-- Whatever operations are in flight, the text of a VAA that a node answers with
reads back as a VAA of the message asked about, which exactly a quorum of the
node's guardians signed and both verifiers accept unless its payload is too
large. -/
theorem published_vaas_verify {syscalls : OnChain.Syscalls} (lawful : signing.Lawful)
    (hexLawful : hex.Lawful) (same : SameFunctions crypto syscalls) {args : GuardianArgs}
    {rateLimitRps : UInt32} {state : ServiceState signing}
    (built : buildState signing args rateLimitRps = .ok state)
    {pool : (api hex state.guardians).Pool}
    (reachable : Reachable (AnyOrder hex state.guardians) state.memory pool)
    {call : (api hex state.guardians).Call} (member : call ∈ pool.calls) {answer : Answer}
    (returned : call.result? = some (.ok answer)) {text : String}
    (carries : carried answer = some text) :
    ∃ name id vaa, named call.request = some name ∧ MessageId.fromHex hex name = .ok id ∧
      decodeBytes hex text = .ok vaa.encode ∧ vaa.body.digest crypto = id ∧
      vaa.guardianSetIndex = args.guardianSetIndex ∧
      vaa.signatures.length = quorum args.guardianCount ∧
      vaa.verify crypto state.guardians.guardianSet.keys = .ok () ∧
      (Usable syscalls state.guardians.guardianSet.keys vaa ↔
        vaa.body.payload.length ≤ maxPayloadLen) := by
  have start := started built
  rw [start.memory] at reachable
  have ends := answers_end lawful reachable member returned
  rcases completes_of_carried ends carries with ⟨name, id, vaa, asked, read, completes, rfl⟩
  have decoded : decodeBytes hex (hex.encode vaa.encode) = .ok vaa.encode :=
    hexLawful.decodeBytes_eq_ok.mpr (hexLawful.spells_encode _)
  have few : state.guardians.len < 255 := start.len ▸ start.count.2
  exact ⟨name, id, vaa, asked, read, decoded, completes.digest, completes.index.trans start.index,
    start.len ▸ completes.count, completes.verified, completes.usable_iff same few⟩

theorem exists_carried {call : (api hex guardians).Call}
    (carries : ((call.result?.bind Except.toOption).bind carried).isSome) :
    ∃ answer text, call.result? = some (.ok answer) ∧ carried answer = some text := by
  rcases Option.isSome_iff_exists.mp carries with ⟨text, textIs⟩
  rcases Option.bind_eq_some_iff.mp textIs with ⟨answer, succeeded, carriesText⟩
  rcases Option.bind_eq_some_iff.mp succeeded with ⟨outcome, returned, answerIs⟩
  cases outcome with
  | error fault => cases answerIs
  | ok value =>
      cases answerIs
      exact ⟨answer, text, returned, carriesText⟩

end

section

open Types.Sample Infra.Sample

theorem published_vaas_verify_completion :
    ∃ (call : (api hex simulated).Call) (answer : Answer) (text : String) (vaa : Vaa),
      Sample.completed.calls[2]? = some call ∧ call.result? = some (.ok answer) ∧
      carried answer = some text ∧ decodeBytes hex text = .ok vaa.encode ∧
      vaa.verify simulationCrypto simulated.guardianSet.keys = .ok () := by
  have published : (Sample.completed.calls[2]?).any fun call =>
      ((call.result?.bind Except.toOption).bind carried).isSome := by
    decide +kernel
  rcases (Option.any_eq_true _ _).mp published with ⟨call, found, carries⟩
  rcases exists_carried carries with ⟨answer, text, returned, carriesText⟩
  have verified := published_vaas_verify simulation_lawful hex_lawful Sample.sameFunctions
    Sample.state_built Sample.completed_reachable (List.mem_of_getElem? found) returned
    carriesText
  rcases verified with ⟨name, id, vaa, _, _, decoded, _, _, _, accepted, _⟩
  exact ⟨call, answer, text, vaa, found, returned, carriesText, decoded, accepted⟩

end

end WormVerify.Node
