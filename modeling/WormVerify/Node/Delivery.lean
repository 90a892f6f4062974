import WormVerify.Node.Publication
import WormVerify.OnChain.Window

/-! # Delivery

A VAA that leaves the node is submitted to the on-chain program, on a ledger
that knows the node's guardians.
-/

namespace WormVerify.Node

open WormVerify.Types WormVerify.Core WormVerify.Infra WormVerify.Api Service Checked
open OnChain (Syscalls Pda Ledger Transaction Event ConsumedVaa ParsedVaa genesis? supersededAt?)

theorem payload_length_of_parse {vaa read : Vaa} (fits : vaa.signatures.length ≤ 255)
    (parsed : Vaa.parse vaa.encode = .ok read) :
    read.body.payload.length = vaa.body.payload.length := by
  rcases Vaa.parse_eq_ok.mp parsed with ⟨same, wellFormed⟩
  have counted (other : Vaa) : other.encode[5]? = some (UInt8.ofNat other.signatures.length) :=
    rfl
  have counts := (counted vaa).symm.trans (same ▸ counted read)
  have countsAlike := congrArg UInt8.toNat (Option.some.inj counts)
  have lengths := congrArg List.length same
  have readFits := wellFormed.count
  simp only [UInt8.toNat_ofNat'] at countsAlike
  simp only [Vaa.encode_eq, List.length_append, Vaa.encodeHeader_length,
    VaaBody.encode_length] at lengths
  have signaturesAlike : read.signatures.length = vaa.signatures.length := by omega
  rw [signaturesAlike] at lengths
  omega

section

variable (syscalls : Syscalls) (canonicalBump : Pda → UInt8) (transactions : List Transaction)

def Knows (index : UInt32) (keys : List GuardianAddress) : Prop :=
  ∃ set : OnChain.GuardianSet,
    (OnChain.program syscalls canonicalBump).state transactions (.guardianSet index) = some set ∧
      set.keys = keys

/-- After the transactions, the index is the current one or was superseded less
than the time to live before the clock reading. -/
def InWindow (index : UInt32) (now : Int64) : Prop :=
  ∃ (genesis : OnChain.Genesis) (config : OnChain.BridgeConfig),
    genesis? ((OnChain.program syscalls canonicalBump).journal transactions) = some genesis ∧
    (OnChain.program syscalls canonicalBump).state transactions .config = some config ∧
    (index = config.currentGuardianSetIndex ∨
      ∃ time, supersededAt? ((OnChain.program syscalls canonicalBump).journal transactions)
          index = some time ∧
        now.toInt < time.toInt + genesis.guardianSetTtlSeconds.toNat)

end

section

variable {crypto : Crypto} {signing : Signing crypto} {guardians : SimulatedGuardians signing}
  {id : MessageId} {vaa : Vaa} {syscalls : Syscalls} {canonicalBump : Pda → UInt8}
  {transactions : List Transaction}

theorem Completes.verifyVaa_iff (completes : Completes guardians id vaa)
    (same : SameFunctions crypto syscalls) (few : guardians.len < 255)
    (positive : ∀ transaction ∈ transactions, 0 < transaction.now)
    (knows : Knows syscalls canonicalBump transactions guardians.index
      guardians.guardianSet.keys) (now : Int64) {next : Ledger} {event : Option Event} :
    OnChain.verifyVaa canonicalBump syscalls
        ((OnChain.program syscalls canonicalBump).state transactions) now guardians.index id
        vaa.encode = .ok (next, event) ↔
      vaa.body.payload.length ≤ maxPayloadLen ∧
      (OnChain.program syscalls canonicalBump).state transactions (.consumed id) = none ∧
      InWindow syscalls canonicalBump transactions guardians.index now ∧
      event = some (.vaaVerified vaa.body.emitterChain vaa.body.emitterAddress
        vaa.body.sequence id) ∧
      next = ((OnChain.program syscalls canonicalBump).state transactions).store (.consumed id)
        ⟨id, vaa.body.sequence, canonicalBump (.consumed id)⟩ := by
  have usable := completes.usable_iff same few
  have hash : (ParsedVaa.ofVaa syscalls vaa).hash = id :=
    (same.bodyDigest_eq _).trans completes.digest
  rcases knows with ⟨set, setAt, keys⟩
  have ordered : OnChain.Ordered canonicalBump
      ((OnChain.program syscalls canonicalBump).state transactions)
      ((OnChain.program syscalls canonicalBump).journal transactions) :=
    OnChain.ordered_run transactions positive
  rcases ordered with unborn | ⟨genesis, config, lineage⟩
  · cases (unborn.sets _).symm.trans setAt
  · have window : set.isActive now = true ↔
        InWindow syscalls canonicalBump transactions guardians.index now := by
      rw [lineage.isActive_iff setAt]
      constructor
      · intro inside
        exact ⟨genesis, config, lineage.begun, lineage.configured, inside⟩
      · intro inside
        rcases inside with ⟨_, _, begun, configured, inside⟩
        cases lineage.begun.symm.trans begun
        cases lineage.configured.symm.trans configured
        exact inside
    rw [OnChain.verifyVaa_eq_ok, ← window]
    constructor
    · intro verified
      rcases verified with ⟨_, set', parsed, _, setAt', vacant, _, _, parsing, _, _, _, active,
        _, eventIs, nextIs⟩
      cases setAt.symm.trans setAt'
      rcases ParsedVaa.parse_eq_ok_iff.mp parsing with ⟨read, serviceParsed, _⟩
      have fits : vaa.signatures.length ≤ 255 :=
        (quorum_fits_iff (Vaa.verify_eq_ok.mp completes.verified).2.1 completes.count).mpr
          (by omega)
      have small : vaa.body.payload.length ≤ maxPayloadLen :=
        payload_length_of_parse fits serviceParsed ▸
          (Vaa.parse_eq_ok.mp serviceParsed).2.payload
      rcases usable.mpr small with ⟨readBack, _⟩
      cases serviceParsed.symm.trans readBack
      subst parsed
      rw [hash] at eventIs nextIs
      exact ⟨small, vacant, active, eventIs, nextIs⟩
    · intro parts
      rcases parts with ⟨small, vacant, active, eventIs, nextIs⟩
      rcases usable.mpr small with ⟨readBack, parsed, parsing, quorate⟩
      rcases ParsedVaa.parse_eq_ok_iff.mp parsing with ⟨read, serviceParsed, parsedIs⟩
      cases readBack.symm.trans serviceParsed
      subst parsed
      refine ⟨config, set, _, lineage.configured, setAt, vacant, lineage.configBump,
        lineage.bump _ set setAt, parsing, completes.index, hash, lineage.index _ set setAt,
        active, keys ▸ quorate, ?_, ?_⟩
      · rw [hash]
        exact eventIs
      · rw [hash]
        exact nextIs

/-- Every ledger that knows the guardians accepts the VAA in the window of their
set, unless it has consumed the message. The clock has read positive times. -/
def Deliverable (guardians : SimulatedGuardians signing) (syscalls : Syscalls) (id : MessageId)
    (vaa : Vaa) : Prop :=
  ∀ (canonicalBump : Pda → UInt8) (transactions : List Transaction)
    (signers : List OnChain.Pubkey) (now : Int64),
    (∀ transaction ∈ transactions, 0 < transaction.now) →
    Knows syscalls canonicalBump transactions guardians.index guardians.guardianSet.keys →
    (OnChain.program syscalls canonicalBump).state transactions (.consumed id) = none →
    InWindow syscalls canonicalBump transactions guardians.index now →
    ∃ next event, (OnChain.program syscalls canonicalBump).execute
      ((OnChain.program syscalls canonicalBump).state transactions)
      ⟨signers, now, .verifyVaa guardians.index id vaa.encode⟩ = .ok (next, event)

theorem Completes.deliverable (completes : Completes guardians id vaa)
    (same : SameFunctions crypto syscalls) (few : guardians.len < 255)
    (small : vaa.body.payload.length ≤ maxPayloadLen) :
    Deliverable guardians syscalls id vaa := by
  intro canonicalBump transactions signers now positive knows vacant inWindow
  exact ⟨_, _, (completes.verifyVaa_iff same few positive knows now).mpr
    ⟨small, vacant, inWindow, rfl, rfl⟩⟩

/-- Whatever operations are in flight and whatever the ledger has been through,
with positive clock readings, the text of a VAA that a node answers with is
accepted by the program, with the id asked about and the node's guardian-set
index, exactly when its payload is not too large, it was not accepted before,
and the set is current or was superseded less than the time to live ago. -/
theorem published_vaas_deliver {hex : Hex} (lawful : signing.Lawful) (hexLawful : hex.Lawful)
    (same : SameFunctions crypto syscalls) {args : GuardianArgs} {rateLimitRps : UInt32}
    {state : ServiceState signing} (built : buildState signing args rateLimitRps = .ok state)
    {pool : (api hex state.guardians).Pool}
    (reachable : Reachable (AnyOrder hex state.guardians) state.memory pool)
    {call : (api hex state.guardians).Call} (member : call ∈ pool.calls) {answer : Answer}
    (returned : call.result? = some (.ok answer)) {text : String}
    (carries : carried answer = some text)
    (positive : ∀ transaction ∈ transactions, 0 < transaction.now)
    (knows : Knows syscalls canonicalBump transactions args.guardianSetIndex
      state.guardians.guardianSet.keys) :
    ∃ (name : String) (id : MessageId) (vaa : Vaa), named call.request = some name ∧
      MessageId.fromHex hex name = .ok id ∧ decodeBytes hex text = .ok vaa.encode ∧
      vaa.body.digest crypto = id ∧
      ∀ (signers : List OnChain.Pubkey) (now : Int64) (next : Ledger) (event : Option Event),
        (OnChain.program syscalls canonicalBump).execute
            ((OnChain.program syscalls canonicalBump).state transactions)
            ⟨signers, now, .verifyVaa args.guardianSetIndex id vaa.encode⟩ =
          .ok (next, event) ↔
        vaa.body.payload.length ≤ maxPayloadLen ∧
        (OnChain.program syscalls canonicalBump).state transactions (.consumed id) = none ∧
        InWindow syscalls canonicalBump transactions args.guardianSetIndex now ∧
        event = some (.vaaVerified vaa.body.emitterChain vaa.body.emitterAddress
          vaa.body.sequence id) ∧
        next = ((OnChain.program syscalls canonicalBump).state transactions).store
          (.consumed id) ⟨id, vaa.body.sequence, canonicalBump (.consumed id)⟩ := by
  have start := started built
  rw [start.memory] at reachable
  have ends := answers_end lawful reachable member returned
  rcases completes_of_carried ends carries with ⟨name, id, vaa, asked, read, completes, rfl⟩
  have decoded : decodeBytes hex (hex.encode vaa.encode) = .ok vaa.encode :=
    hexLawful.decodeBytes_eq_ok.mpr (hexLawful.spells_encode _)
  have few : state.guardians.len < 255 := start.len ▸ start.count.2
  refine ⟨name, id, vaa, asked, read, decoded, completes.digest, ?_⟩
  intro signers now next event
  rw [← start.index] at knows ⊢
  exact completes.verifyVaa_iff same few positive knows now

end

namespace Sample

open Types.Sample Infra.Sample

def deployment : List Transaction :=
  [⟨[], 100, .initializeBridge (Bytes.ofNat 32 1) 1 3600 0 simulated.guardianSet.keys⟩]

theorem encode_of_digest {body : VaaBody} (digest : body.digest simulationCrypto =
    announcementDigest) : body.encode = announcement.encode := by
  have hashed : simulationHash (simulationHash body.encode).val = announcementDigest := digest
  have first : (simulationHash body.encode).val = announcementHash.val := by
    by_contra other
    have different : ((simulationHash body.encode).val == announcementHash.val) = false := by
      simpa using other
    generalize (simulationHash body.encode).val = data at hashed different
    simp only [simulationHash, List.lookup_cons, List.lookup_nil, different] at hashed
    repeat' split at hashed
    all_goals
      revert hashed
      decide +kernel
  by_contra other
  have different : (body.encode == announcement.encode) = false := by simpa using other
  simp only [simulationHash, List.lookup_cons, List.lookup_nil, different] at first
  repeat' split at first
  all_goals
    revert first
    decide +kernel

end Sample

section

open Types.Sample Infra.Sample

theorem published_vaas_deliver_completion :
    ∃ (call : (api hex simulated).Call) (answer : Answer) (text : String)
      (vaaBytes : List UInt8) (next : Ledger) (event : Option Event),
      Sample.completed.calls[2]? = some call ∧ call.result? = some (.ok answer) ∧
      carried answer = some text ∧ decodeBytes hex text = .ok vaaBytes ∧
      (OnChain.program Sample.syscalls fun _ => 255).execute
        ((OnChain.program Sample.syscalls fun _ => 255).state Sample.deployment)
        ⟨[], 200, .verifyVaa 0 announcementDigest vaaBytes⟩ = .ok (next, event) := by
  have published : (Sample.completed.calls[2]?).any fun call =>
      call.request = .signAsGuardian Sample.messageId 1 &&
        ((call.result?.bind Except.toOption).bind carried).isSome := by
    decide +kernel
  rcases (Option.any_eq_true _ _).mp published with ⟨call, found, ended⟩
  rcases Bool.and_eq_true_iff.mp ended with ⟨signs, carries⟩
  rcases exists_carried carries with ⟨answer, text, returned, carriesText⟩
  have knows : Knows Sample.syscalls (fun _ => 255) Sample.deployment
      Sample.args.guardianSetIndex Sample.state.guardians.guardianSet.keys := ⟨_, rfl, rfl⟩
  rcases published_vaas_deliver simulation_lawful hex_lawful Sample.sameFunctions
    Sample.state_built Sample.completed_reachable (List.mem_of_getElem? found) returned
    carriesText (by decide) knows with ⟨name, id, vaa, asked, read, decoded, digest, delivered⟩
  have idIs : id = announcementDigest := by
    rw [of_decide_eq_true signs] at asked
    cases asked
    cases read.symm.trans (MessageId.fromHex_toHex hex_lawful announcementDigest)
    rfl
  subst idIs
  have small : vaa.body.payload.length ≤ maxPayloadLen := by
    have lengths := congrArg List.length (Sample.encode_of_digest digest)
    rw [VaaBody.encode_length, VaaBody.encode_length] at lengths
    have short : announcement.payload.length ≤ maxPayloadLen := by decide +kernel
    omega
  exact ⟨call, answer, text, vaa.encode, _, _, found, returned, carriesText, decoded,
    (delivered [] 200 _ _).mpr ⟨small, rfl, ⟨_, _, rfl, rfl, .inl rfl⟩, rfl, rfl⟩⟩

end

end WormVerify.Node
