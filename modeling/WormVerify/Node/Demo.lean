import WormVerify.Node.Delivery
import WormVerify.Node.Progress

/-! # The demonstration

One message from its observation to its VAA, which a quorum of simulated
guardians sign one after another.
-/

namespace WormVerify.Node

open WormVerify.Types WormVerify.Core WormVerify.Infra WormVerify.Api Service Checked

inductive DemoError
  | engine (error : EngineError)
  | other (message : String)
  deriving DecidableEq

abbrev DemoM (α : Type) := ExceptT (Fault DemoError) (Program Core.ports) α

section

variable {α : Type}

def askEngine (computation : EngineM α) : DemoM α :=
  ExceptT.mk (mapError .engine <$> computation.run)

def okOrElse (value : Option α) (message : String) : DemoM α :=
  ExceptT.mk (.done (okOr value (.other message)))

end

namespace Demo

def body : VaaBody where
  timestamp := 1700000000
  nonce := 7
  emitterChain := 1
  emitterAddress := .replicate 32 0x11
  sequence := 1
  consistencyLevel := 1
  payload := "wormverify-demo".toUTF8.toList

section

variable (hex : Hex) {crypto : Crypto} {signing : Signing crypto}

def printed (id : MessageId) (vaa : Vaa) : List String :=
  ["message_id: " ++ id.toHex hex, "vaa_bytes:  " ++ hex.encode vaa.encode]

def signAs (guardians : SimulatedGuardians signing) (id : MessageId) :
    List UInt8 → DemoM (List String)
  | [] => ExceptT.mk (.done (fail (.other "quorum was not reached")))
  | index :: rest => do
      let signature ← okOrElse (guardians.sign index id)
        ("failed to sign as guardian " ++ toString index.toNat)
      match ← askEngine (submitSignature crypto id signature) with
      | .collected _ _ => signAs guardians id rest
      | .assembled vaa => return printed hex id vaa

def demonstrate (guardians : SimulatedGuardians signing) (guardianSetIndex : UInt32) :
    DemoM (List String) := do
  let id ← askEngine (observeMessage crypto guardianSetIndex body)
  let needed := quorum guardians.guardianSet.keys.length
  signAs hex guardians id ((List.range (UInt8.ofNat needed).toNat).map UInt8.ofNat)

variable (signing)

def run (args : GuardianArgs) (clock : Nat → Int64) : Checked DemoError (List String) := do
  let state ← mapError Empty.elim (buildState signing args 1000)
  let program := demonstrate hex state.guardians args.guardianSetIndex
  ((aggregator crypto).perform program.run clock state.memory).1.result

end

/-! ## One call of the engine after another -/

section

variable {crypto : Crypto} {signing : Signing crypto} {hex : Hex}
  {guardians : SimulatedGuardians signing} {memory : Memory}

theorem okOrElse_some (value : α) (message : String) (next : α → DemoM β) :
    okOrElse (some value) message >>= next = next value := rfl

theorem ensures_askEngine {computation : EngineM α} {next : α → DemoM β}
    (ends : Checked DemoError β → Prop)
    (ensures : (aggregator crypto).Ensures computation.run memory fun outcome after =>
      ∃ value, outcome.result = .ok value ∧
        (aggregator crypto).Ensures (next value).run after fun last _ => ends last.result) :
    (aggregator crypto).Ensures (askEngine computation >>= next).run memory
      fun outcome _ => ends outcome.result := by
  change (aggregator crypto).Ensures
    ((mapError .engine <$> computation.run) >>= ExceptT.bindCont next) memory _
  apply Ensures.bind
  apply Ensures.map
  refine Ensures.imp ensures ?_
  intro outcome after ended
  rcases ended with ⟨value, returned, rest⟩
  dsimp only
  rw [returned]
  exact rest

theorem submit_ensures (id : MessageId) (signature : GuardianSignature) :
    (aggregator crypto).Ensures (submitSignature crypto id signature).run memory
      fun outcome after => SubmitEffect crypto memory id signature outcome after ∧
        Answered outcome.transcript := by
  intro choices
  rw [← perform_reliable]
  exact ⟨submit_effect id signature _, answered_of_reliable fun _ => rfl⟩

theorem observe_ensures (guardianSetIndex : UInt32) (body : VaaBody) :
    (aggregator crypto).Ensures (observeMessage crypto guardianSetIndex body).run memory
      fun outcome after => ObserveEffect crypto memory guardianSetIndex body outcome after ∧
        Answered outcome.transcript := by
  intro choices
  rw [← perform_reliable]
  exact ⟨observe_effect guardianSetIndex body _, answered_of_reliable fun _ => rfl⟩

variable {guardianSetIndex : UInt32} {message : VaaBody}

theorem observed_of_vacant {set : GuardianSet}
    {outcome : Outcome Core.ports (Checked EngineError MessageId)} {after : Memory}
    (available : memory.guardianSet? guardianSetIndex = some set)
    (vacant : memory.vaa? (.fromBody crypto message) = none)
    (effect : ObserveEffect crypto memory guardianSetIndex message outcome after)
    (answered : Answered outcome.transcript) :
    outcome.result = .ok (.fromBody crypto message) := by
  cases effect with
  | failed transcript op error engineOp failedAt =>
      exact absurd failedAt (answered op error engineOp)
  | completed transcript record stored =>
      rw [vacant] at stored
      cases stored
  | unavailable transcript _ _ unknown =>
      rw [available] at unknown
      cases unknown
  | known => rfl
  | registered => rfl

theorem signed_of_underway {order : List GuardianSignature}
    (underway : Underway crypto guardianSetIndex message guardians.guardianSet order memory) :
    ∀ signature ∈ order,
      SignedBy crypto (MessageId.fromBody crypto message) guardians.guardianSet.keys signature := by
  rcases underway.pending with ⟨pending, _, sound, _, _, arranged⟩
  rcases sound.guardians with ⟨set, same, _, signed⟩
  cases same
  intro signature member
  exact signed signature (arranged.mem_iff.mpr member)

theorem accepted_of_underway {order : List GuardianSignature} {signature : GuardianSignature}
    {outcome : Outcome Core.ports (Checked EngineError SubmitOutcome)} {after : Memory}
    (underway : Underway crypto guardianSetIndex message guardians.guardianSet order memory)
    (signed : SignedBy crypto (MessageId.fromBody crypto message) guardians.guardianSet.keys
      signature)
    (fresh : ∀ held ∈ order, held.guardianIndex ≠ signature.guardianIndex)
    (effect : SubmitEffect crypto memory (.fromBody crypto message) signature outcome after)
    (answered : Answered outcome.transcript) : ∃ value, outcome.result = .ok value := by
  rcases underway.serve effect answered with ⟨pending, _, _, _, arranged, served⟩
  have absent : pending.hasGuardian signature.guardianIndex = false :=
    PendingObservation.hasGuardian_eq_false.mpr fun held member =>
      fresh held (arranged.mem_iff.mp member)
  have checked : checkSignature crypto guardians.guardianSet pending
      (MessageId.fromBody crypto message) signature = .ok () :=
    checkSignature_eq_ok.mpr ⟨absent, signed⟩
  generalize outcome.result = result at served
  cases served with
  | refused fault refused =>
      rw [checked] at refused
      cases refused
  | collected _ below => exact ⟨_, rfl⟩
  | assembled _ reached now reading => exact ⟨_, rfl⟩

/-- The lines of a VAA that the guardians with the indices signed. -/
def Prints (hex : Hex) (guardians : SimulatedGuardians signing) (guardianSetIndex : UInt32)
    (message : VaaBody) (indices : List UInt8) (result : Checked DemoError (List String)) : Prop :=
  ∃ collection, collection.map GuardianSignature.guardianIndex = indices ∧
    (∀ signature ∈ collection, SignedBy crypto (MessageId.fromBody crypto message)
      guardians.guardianSet.keys signature) ∧
    result = .ok (printed hex (.fromBody crypto message)
      (collectedVaa guardianSetIndex message collection))

theorem signAs_ensures (lawful : signing.Lawful) {missing : List UInt8} (nonempty : missing ≠ [])
    {order : List GuardianSignature} {memory : Memory}
    (lacks : Lacks guardians guardianSetIndex message missing order memory) :
    (aggregator crypto).Ensures
      (signAs hex guardians (.fromBody crypto message) missing).run memory fun outcome _ =>
        Prints hex guardians guardianSetIndex message
          (order.map GuardianSignature.guardianIndex ++ missing) outcome.result := by
  induction missing generalizing order memory with
  | nil => exact absurd rfl nonempty
  | cons index rest induction =>
      rcases lacks.sign lawful with ⟨signature, signed, own, genuine, fresh⟩
      rw [signAs, signed, okOrElse_some]
      apply ensures_askEngine (Prints hex guardians guardianSetIndex message _)
      refine Ensures.imp (submit_ensures _ signature) ?_
      intro outcome after ended
      have reached := lacks.underway.accept genuine fresh ended.1 ended.2
      rcases lacks.next own reached with ⟨rfl, _, returned⟩ | ⟨more, lacking, unreturned⟩
      · refine ⟨_, result_of_assembled returned, ?_⟩
        refine Ensures.done ⟨order ++ [signature], by simp [own], ?_, rfl⟩
        rw [List.forall_mem_append, List.forall_mem_singleton]
        exact ⟨signed_of_underway lacks.underway, genuine⟩
      · rcases accepted_of_underway lacks.underway genuine fresh ended.1 ended.2 with
          ⟨value, returned⟩
        refine ⟨value, returned, ?_⟩
        rw [returned] at unreturned
        cases value with
        | assembled vaa => cases unreturned
        | collected held needed =>
            refine Ensures.imp (induction more lacking) ?_
            intro last final printing
            rcases printing with ⟨collection, indices, genuineAll, result⟩
            exact ⟨collection, by simpa [own] using indices, genuineAll, result⟩

end

/-! ## The whole demonstration -/

section

variable {crypto : Crypto} {signing : Signing crypto} {hex : Hex}
  {guardians : SimulatedGuardians signing} {message : VaaBody}

def firstGuardians (needed : Nat) : List UInt8 := (List.range needed).map UInt8.ofNat

theorem toNat_firstGuardians {needed : Nat} (few : needed ≤ 256) :
    (firstGuardians needed).map UInt8.toNat = List.range needed := by
  rw [firstGuardians, List.map_map]
  refine (List.map_congr_left ?_).trans (List.map_id _)
  intro position member
  have bounded := List.mem_range.mp member
  rw [Function.comp_apply, UInt8.toNat_ofNat', id]
  omega

theorem completes_of_signed {collection : List GuardianSignature} (positive : 0 < guardians.len)
    (few : guardians.len < 255)
    (indices : collection.map GuardianSignature.guardianIndex =
      firstGuardians (quorum guardians.len))
    (signed : ∀ signature ∈ collection, SignedBy crypto (MessageId.fromBody crypto message)
      guardians.guardianSet.keys signature) :
    (collectedVaa guardians.index message collection).signatures = collection ∧
      Completes guardians (.fromBody crypto message)
        (collectedVaa guardians.index message collection) := by
  have fits : quorum guardians.len ≤ 256 := (quorum_le positive).trans (by omega)
  have positions : collection.map GuardianSignature.position =
      List.range (quorum guardians.len) := by
    have values := congrArg (List.map UInt8.toNat) indices
    rwa [List.map_map, toNat_firstGuardians fits] at values
  have ascending : Ascending GuardianSignature.position collection := by
    have increasing := @List.pairwise_lt_range (quorum guardians.len)
    rw [← positions, List.pairwise_map] at increasing
    exact increasing
  have arranged : sortByKey GuardianSignature.position collection = collection :=
    (ascending.eq_sortByKey (.refl _)).symm
  have length : collection.length = quorum guardians.len := by
    rw [← List.length_map GuardianSignature.position, positions, List.length_range]
  refine ⟨arranged, rfl, rfl, rfl, ?_, ?_⟩
  · change (sortByKey GuardianSignature.position collection).length = _
    rw [arranged, length]
  · have keys : guardians.guardianSet.keys.length = guardians.len :=
      SimulatedGuardians.guardianSet_length
    refine Vaa.verify_eq_ok.mpr ⟨?_, ?_, ?_, ?_⟩
    · intro empty
      rw [empty, List.length_nil] at keys
      omega
    · change Ascending _ (sortByKey GuardianSignature.position collection)
      rwa [arranged]
    · change ∀ signature ∈ sortByKey GuardianSignature.position collection, _
      rw [arranged]
      exact signed
    · change _ ≤ (sortByKey GuardianSignature.position collection).length
      rw [arranged, length, keys]

theorem demonstrate_ensures (lawful : signing.Lawful) {args : GuardianArgs}
    {state : ServiceState signing} (start : Started args state) :
    (aggregator crypto).Ensures (demonstrate hex state.guardians args.guardianSetIndex).run
      (.new (registry state.guardians)) fun outcome _ =>
        Prints hex state.guardians args.guardianSetIndex body
          (firstGuardians (quorum args.guardianCount)) outcome.result := by
  have available : (Memory.new (registry state.guardians)).guardianSet? args.guardianSetIndex =
      some state.guardians.guardianSet :=
    registry_get?_eq_some.mpr ⟨start.index.symm, rfl⟩
  have keys : state.guardians.guardianSet.keys.length = args.guardianCount := by
    rw [SimulatedGuardians.guardianSet_length, start.len]
  have fits := quorum_le start.count.1
  have few := start.count.2
  have cut : (UInt8.ofNat (quorum args.guardianCount)).toNat = quorum args.guardianCount := by
    rw [UInt8.toNat_ofNat']
    omega
  simp only [demonstrate, keys, cut]
  apply ensures_askEngine (Prints hex state.guardians args.guardianSetIndex body _)
  refine Ensures.imp (observe_ensures args.guardianSetIndex body) ?_
  intro outcome after ended
  refine ⟨_, observed_of_vacant available rfl ended.1 ended.2, ?_⟩
  have underway := underway_observed available rfl rfl ended.1 ended.2
  have positions := toNat_firstGuardians (show quorum args.guardianCount ≤ 256 by omega)
  have size := congrArg List.length positions
  rw [List.length_map, List.length_range] at size
  have nonempty : firstGuardians (quorum args.guardianCount) ≠ [] := by
    intro none
    have positive := quorum_pos args.guardianCount
    rw [← size, none] at positive
    cases positive
  have lacks : Lacks state.guardians args.guardianSetIndex body
      (firstGuardians (quorum args.guardianCount)) [] after := by
    refine ⟨underway, ?_, ?_, ?_⟩
    · refine List.Nodup.of_map UInt8.toNat ?_
      change ((firstGuardians (quorum args.guardianCount)).map UInt8.toNat).Nodup
      rw [positions]
      exact List.nodup_range
    · intro index member
      have bounded : index.toNat ∈ List.range (quorum args.guardianCount) :=
        positions ▸ List.mem_map_of_mem member
      rw [start.len]
      exact (List.mem_range.mp bounded).trans_le fits
    · rw [start.len]
      exact (Nat.zero_add _).trans size
  exact signAs_ensures lawful nonempty lacks

/-- The demonstration ends for every number of guardians that a node can have: it
prints the id of its message and a VAA that the first guardians of a quorum
signed. The node's verifier and the on-chain parser and quorum check accept it,
and so does the program wherever it knows the guardians. Any other number
aborts. -/
theorem demo_prints_usable_vaa {syscalls : OnChain.Syscalls} (lawful : signing.Lawful)
    (same : SameFunctions crypto syscalls) (args : GuardianArgs) (clock : Nat → Int64) :
    (¬(0 < args.guardianCount ∧ args.guardianCount < 255) → run hex signing args clock = panic) ∧
    (0 < args.guardianCount ∧ args.guardianCount < 255 →
      ∃ state vaa, buildState signing args 1000 = .ok state ∧
        run hex signing args clock = .ok (printed hex (.fromBody crypto body) vaa) ∧
        vaa.body = body ∧ vaa.guardianSetIndex = args.guardianSetIndex ∧
        vaa.signatures.map GuardianSignature.guardianIndex =
          firstGuardians (quorum args.guardianCount) ∧
        vaa.verify crypto state.guardians.guardianSet.keys = .ok () ∧
        Usable syscalls state.guardians.guardianSet.keys vaa ∧
        Deliverable state.guardians syscalls (.fromBody crypto body) vaa) := by
  have small : body.payload.length ≤ maxPayloadLen := by decide +kernel
  constructor
  · intro outside
    rw [run, buildState, SimulatedGuardians.derive, if_neg outside]
    rfl
  · intro inside
    rcases exists_buildState lawful 1000 inside with ⟨state, built⟩
    have start := started built
    have printing := @demonstrate_ensures _ _ hex lawful _ _ start clock
    have ran : run hex signing args clock =
        ((aggregator crypto).perform (demonstrate hex state.guardians args.guardianSetIndex).run
          clock state.memory).1.result := by
      rw [run, built]
      rfl
    rw [start.memory, ← start.index] at ran
    rcases printing with ⟨collection, indices, signed, result⟩
    rw [← start.index] at result
    have few : state.guardians.len < 255 := start.len ▸ start.count.2
    have completes := completes_of_signed (start.len ▸ start.count.1) few
      (by rw [start.len]; exact indices) signed
    refine ⟨state, _, built, ran.trans result, rfl, start.index, ?_, completes.2.verified,
      (completes.2.usable_iff same few).mpr small, completes.2.deliverable same few small⟩
    rw [completes.1, indices]

theorem demo_prints_usable_vaa_two :
    ∃ vaa, run Types.Sample.hex Infra.Sample.simulation Sample.args (fun _ => 0) =
        .ok (printed Types.Sample.hex Infra.Sample.announcementDigest vaa) ∧
      vaa.signatures.map GuardianSignature.guardianIndex = [0, 1] ∧
      ∃ next event, (OnChain.program Sample.syscalls fun _ => 255).execute
        ((OnChain.program Sample.syscalls fun _ => 255).state Sample.deployment)
        ⟨[], 200, .verifyVaa 0 Infra.Sample.announcementDigest vaa.encode⟩ = .ok (next, event) := by
  have digest : MessageId.fromBody Infra.Sample.simulationCrypto body =
      Infra.Sample.announcementDigest := by
    decide +kernel
  have demo := (@demo_prints_usable_vaa _ _ Types.Sample.hex _ Infra.Sample.simulation_lawful
    Sample.sameFunctions Sample.args fun _ => 0).2 (by decide)
  rcases demo with ⟨state, vaa, built, ran, _, _, indices, _, _, delivers⟩
  have sameBuilt : buildState Infra.Sample.simulation Sample.args 1000 =
      .ok ⟨.new (registry Infra.Sample.simulated), Infra.Sample.simulated, ⟨1000, by decide⟩⟩ := rfl
  cases sameBuilt.symm.trans built
  rw [digest] at ran delivers
  exact ⟨vaa, ran, indices, delivers (fun _ => 255) Sample.deployment [] 200 (by decide)
    ⟨_, rfl, rfl⟩ rfl ⟨_, _, rfl, rfl, .inl rfl⟩⟩

end

end Demo

end WormVerify.Node
