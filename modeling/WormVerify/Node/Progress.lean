import WormVerify.Node.Publication
import WormVerify.Infra.Arrival

/-! # Pending messages can be completed

A mutation that has its permit and is not interrupted does what the request does
that it asks of the engine. So whatever state a node has got into, a pending
message is completed by the missing signatures, in any order of the guardians.
-/

namespace WormVerify.Node

open WormVerify.Types WormVerify.Core WormVerify.Infra WormVerify.Api Service Checked

/-! ## Mutations alone -/

section

variable {crypto : Crypto} {signing : Signing crypto} {hex : Hex}
  {guardians : SimulatedGuardians signing}

theorem perform_within (program : Program Core.ports α)
    (choices : Nat → Except RateLimited Unit × Int64) (memory : Memory) :
    let front := (api hex guardians).perform (program.within limiterPorts) choices memory
    let behind := (aggregator crypto).perform program (fun turn => (choices turn).2) memory
    front.1.result = behind.1.result ∧ front.2 = behind.2 := by
  induction program generalizing choices memory with
  | done value => exact ⟨rfl, rfl⟩
  | call op resume induction => exact induction _ (fun turn => choices (turn + 1)) _

theorem perform_rendered (program : Program Core.ports Reply)
    (render : Reply → Checked ApiError Answer)
    (choices : Nat → Except RateLimited Unit × Int64) (memory : Memory) :
    let front := (api hex guardians).perform (rendered program render) choices memory
    let behind := (aggregator crypto).perform program (fun turn => (choices turn).2) memory
    front.1.result = render behind.1.result ∧ front.2 = behind.2 := by
  intro front behind
  have inner := @perform_within crypto signing hex guardians _ program choices memory
  have mapped : front = _ := (api hex guardians).perform_map render
    (program.within limiterPorts) choices memory
  rw [mapped]
  exact ⟨congrArg render inner.1, inner.2⟩

theorem perform_screened (program : Program apiPorts (Checked ApiError Answer))
    {choices : Nat → Except RateLimited Unit × Int64} (permit : (choices 0).1 = .ok ())
    (memory : Memory) :
    let front := (api hex guardians).perform (screened program) choices memory
    let inner := (api hex guardians).perform program (fun turn => choices (turn + 1)) memory
    front.1.result = inner.1.result ∧ front.2 = inner.2 := by
  let shifted := fun turn => choices (turn + 1)
  change ((api hex guardians).perform (permitted program (choices 0).1) shifted memory).1.result =
      _ ∧ ((api hex guardians).perform (permitted program (choices 0).1) shifted memory).2 = _
  rw [permit]
  exact ⟨rfl, rfl⟩

theorem perform_of_asks {operation : Operation} {request : Request}
    (asks : Asks hex guardians operation request)
    {choices : Nat → Except RateLimited Unit × Int64} (permit : (choices 0).1 = .ok ())
    (memory : Memory) :
    let front := (api hex guardians).perform ((api hex guardians).body operation) choices memory
    let behind := (aggregator crypto).perform ((aggregator crypto).body request)
      (fun turn => (choices (turn + 1)).2) memory
    front.1.result = render hex request behind.1.result ∧ front.2 = behind.2 := by
  intro front behind
  have screening := @perform_screened crypto signing hex guardians
    (rendered ((aggregator crypto).body request) (render hex request)) choices permit memory
  rw [← body_of_asks asks] at screening
  have rendering := @perform_rendered crypto signing hex guardians
    ((aggregator crypto).body request) (render hex request) (fun turn => choices (turn + 1)) memory
  exact ⟨screening.1.trans rendering.1, screening.2.trans rendering.2⟩

end

/-! ## One signature after another -/

section

variable {crypto : Crypto} {signing : Signing crypto} {hex : Hex}
  {guardians : SimulatedGuardians signing} {guardianSetIndex : UInt32} {body : VaaBody}

theorem result_of_assembled {result : Checked EngineError SubmitOutcome} {vaa : Vaa}
    (returned : (Reply.submitted result).assembled?.toList = [vaa]) :
    result = .ok (.assembled vaa) := by
  rcases result with fault | outcome
  · cases returned
  · cases outcome with
    | collected held needed => cases returned
    | assembled other =>
        cases returned
        rfl

/-- The message is under way, and signatures of the missing guardians bring it to
its quorum. -/
structure Lacks (guardians : SimulatedGuardians signing) (guardianSetIndex : UInt32)
    (body : VaaBody) (missing : List UInt8) (order : List GuardianSignature) (memory : Memory) :
    Prop where
  underway : Underway crypto guardianSetIndex body guardians.guardianSet order memory
  distinct : (order.map GuardianSignature.guardianIndex ++ missing).Nodup
  inside : ∀ index ∈ missing, index.toNat < guardians.len
  enough : order.length + missing.length = quorum guardians.len

section

variable {order : List GuardianSignature} {memory : Memory} {index : UInt8} {rest : List UInt8}

theorem Lacks.sign (lawful : signing.Lawful)
    (lacks : Lacks guardians guardianSetIndex body (index :: rest) order memory) :
    ∃ signature, guardians.sign index (MessageId.fromBody crypto body) = some signature ∧
      signature.guardianIndex = index ∧
      SignedBy crypto (MessageId.fromBody crypto body) guardians.guardianSet.keys signature ∧
      ∀ held ∈ order, held.guardianIndex ≠ signature.guardianIndex := by
  have signs : (guardians.sign index (MessageId.fromBody crypto body)).isSome :=
    SimulatedGuardians.sign_isSome.mpr (lacks.inside index List.mem_cons_self)
  rcases Option.isSome_iff_exists.mp signs with ⟨signature, signed⟩
  rcases SimulatedGuardians.signedBy_of_sign lawful signed with ⟨rfl, genuine⟩
  refine ⟨signature, signed, rfl, genuine, fun held member => ?_⟩
  exact (List.nodup_append.mp lacks.distinct).2.2 _ (List.mem_map_of_mem member) _
    List.mem_cons_self

theorem Lacks.next {signature : GuardianSignature} {after : Memory} {returned : List Vaa}
    (lacks : Lacks guardians guardianSetIndex body (index :: rest) order memory)
    (own : signature.guardianIndex = index)
    (reached : Reached crypto guardianSetIndex body guardians.guardianSet (order ++ [signature])
      after returned) :
    (rest = [] ∧ Finished crypto guardianSetIndex body (order ++ [signature]) after ∧
      returned = [collectedVaa guardianSetIndex body (order ++ [signature])]) ∨
    (rest ≠ [] ∧ Lacks guardians guardianSetIndex body rest (order ++ [signature]) after ∧
      returned = []) := by
  have keys : guardians.guardianSet.keys.length = guardians.len :=
    SimulatedGuardians.guardianSet_length
  have grown : (order ++ [signature]).length = order.length + 1 := by simp
  have enough := lacks.enough
  rw [List.length_cons] at enough
  by_cases last : rest = []
  · subst last
    rw [List.length_nil] at enough
    have full : (order ++ [signature]).length = quorum guardians.guardianSet.keys.length := by
      rw [grown, keys]
      omega
    exact .inl ⟨rfl, reached.finished full⟩
  · have left := List.length_pos_of_ne_nil last
    have short : (order ++ [signature]).length < quorum guardians.guardianSet.keys.length := by
      rw [grown, keys]
      omega
    rcases reached.underway short with ⟨underway, unreturned⟩
    have distinct : ((order ++ [signature]).map GuardianSignature.guardianIndex ++ rest).Nodup := by
      simpa [own] using lacks.distinct
    refine .inr ⟨last, ⟨underway, distinct, ?_, by rw [grown]; omega⟩, unreturned⟩
    intro other member
    exact lacks.inside other (List.mem_cons_of_mem _ member)

theorem Lacks.reached (lawful : signing.Lawful) (hexLawful : hex.Lawful)
    (lacks : Lacks guardians guardianSetIndex body (index :: rest) order memory)
    {choices : Nat → Except RateLimited Unit × Int64} (permit : (choices 0).1 = .ok ()) :
    ∃ signature result, signature.guardianIndex = index ∧
      let performed := (api hex guardians).perform ((api hex guardians).body
        (.signAsGuardian ((MessageId.fromBody crypto body).toHex hex) index)) choices memory
      performed.1.result =
        render hex (.submit (.fromBody crypto body) signature) (.submitted result) ∧
      Reached crypto guardianSetIndex body guardians.guardianSet (order ++ [signature])
        performed.2 (Reply.submitted result).assembled?.toList := by
  let id := MessageId.fromBody crypto body
  rcases lacks.sign lawful with ⟨signature, signed, rfl, genuine, fresh⟩
  have asks : Asks hex guardians (.signAsGuardian (id.toHex hex) signature.guardianIndex)
      (.submit id signature) :=
    .submit _ _ id signature (MessageId.fromHex_toHex hexLawful id) signed
  rcases perform_of_asks asks permit memory with ⟨answered, world⟩
  have behind := aggregator_effect crypto (.submit id signature)
    (fun turn => (choices (turn + 1)).2) memory
  rcases behind.1.submit with ⟨result, replied, effect⟩
  have rendered := answered.trans (congrArg (render hex (.submit id signature)) replied)
  refine ⟨signature, result, rfl, rendered, ?_⟩
  rw [world]
  exact lacks.underway.accept genuine fresh effect behind.2

end

theorem signatures_complete (lawful : signing.Lawful) (hexLawful : hex.Lawful)
    {missing : List UInt8} (nonempty : missing ≠ []) {order : List GuardianSignature}
    {pool : (api hex guardians).Pool}
    (lacks : Lacks guardians guardianSetIndex body missing order pool.world)
    {turns : List (Turn (api hex guardians))}
    (requests : turns.map Turn.request =
      missing.map (.signAsGuardian ((MessageId.fromBody crypto body).toHex hex)))
    (permits : ∀ turn ∈ turns, (turn.choices 0).1 = .ok ()) :
    let later := (api hex guardians).afterTurns pool turns
    ∃ collection, collection.map GuardianSignature.guardianIndex =
        order.map GuardianSignature.guardianIndex ++ missing ∧
      order <+: collection ∧
      Finished crypto guardianSetIndex body collection later.world ∧
      ∃ call, later.calls.getLast? = some call ∧ call.result? = some (.ok (.signAsGuardian
        (submitResult hex (.fromBody crypto body)
          (.assembled (collectedVaa guardianSetIndex body collection))))) := by
  induction missing generalizing order pool turns with
  | nil => exact absurd rfl nonempty
  | cons index rest induction =>
      rcases List.map_eq_cons_iff.mp requests with ⟨⟨request, choices⟩, others, rfl, asked, onward⟩
      cases asked
      rw [List.forall_mem_cons] at permits
      rcases lacks.reached lawful hexLawful permits.1 with
        ⟨signature, result, own, answered, reached⟩
      rcases lacks.next own reached with ⟨rfl, finished, returned⟩ | ⟨more, lacking, _⟩
      · cases List.map_eq_nil_iff.mp onward
        have assembled := result_of_assembled returned
        subst assembled
        refine ⟨order ++ [signature], by simp [own], List.prefix_append _ _, finished, _,
          List.getLast?_concat, ?_⟩
        exact congrArg some answered
      · rcases @induction more _ ⟨_, _⟩ lacking _ onward permits.2 with
          ⟨collection, indices, begins, ending⟩
        refine ⟨collection, ?_, (List.prefix_append _ _).trans begins, ending⟩
        simpa [own] using indices

end

/-! ## Missing signatures -/

/-- Guardians whose signatures bring an observation to its quorum. -/
structure Missing (count : Nat) (pending : PendingObservation) (missing : List UInt8) : Prop where
  distinct : missing.Nodup
  inside : ∀ index ∈ missing, index.toNat < count
  fresh : ∀ index ∈ missing, pending.hasGuardian index = false
  enough : pending.signatures.length + missing.length = quorum count

theorem exists_missing {count : Nat} {pending : PendingObservation} (few : count < 256)
    (below : pending.signatures.length < quorum count) (positive : 0 < count) :
    ∃ missing, Missing count pending missing := by
  let everyone : List UInt8 := (List.range count).map UInt8.ofNat
  have apart : everyone.Nodup := by
    refine List.nodup_range.map_on ?_
    intro left leftMember right rightMember same
    have leftBelow := List.mem_range.mp leftMember
    have rightBelow := List.mem_range.mp rightMember
    have values := congrArg UInt8.toNat same
    rw [UInt8.toNat_ofNat', UInt8.toNat_ofNat'] at values
    omega
  let free := everyone.filter fun index => !pending.hasGuardian index
  have taken : (everyone.filter pending.hasGuardian).length ≤ pending.signatures.length := by
    have included : everyone.filter pending.hasGuardian ⊆
        pending.signatures.map GuardianSignature.guardianIndex := by
      intro index member
      have held := (List.mem_filter.mp member).2
      rcases List.any_eq_true.mp held with ⟨signature, present, same⟩
      exact List.mem_map.mpr ⟨signature, present, beq_iff_eq.mp same⟩
    have fits := (List.subperm_of_subset (apart.filter _) included).length_le
    rwa [List.length_map] at fits
  have total : (everyone.filter pending.hasGuardian).length + free.length = count := by
    rw [← List.length_eq_length_filter_add, List.length_map, List.length_range]
  have quorumFits := quorum_le positive
  have length : (free.take (quorum count - pending.signatures.length)).length =
      quorum count - pending.signatures.length := by
    rw [List.length_take]
    omega
  refine ⟨free.take (quorum count - pending.signatures.length), ?_, ?_, ?_, by omega⟩
  · exact (apart.filter _).sublist (List.take_sublist _ _)
  · intro index member
    have chosen := (List.mem_filter.mp (List.mem_of_mem_take member)).1
    rcases List.mem_map.mp chosen with ⟨position, bounded, rfl⟩
    rw [UInt8.toNat_ofNat']
    exact (Nat.mod_le _ _).trans_lt (List.mem_range.mp bounded)
  · intro index member
    have chosen := (List.mem_filter.mp (List.mem_of_mem_take member)).2
    simpa using chosen

section

variable {crypto : Crypto} {signing : Signing crypto} {hex : Hex}
  {guardians : SimulatedGuardians signing} {id : MessageId} {pending : PendingObservation}
  {memory : Memory}

theorem underway_of_found
    (sound : PendingSound crypto (registry guardians).get? id pending)
    (registered : memory.guardians = registry guardians)
    (found : memory.pending? id = some pending) :
    Underway crypto pending.message.guardianSetIndex pending.message.body guardians.guardianSet
      pending.signatures memory := by
  rcases sound.guardians with ⟨set, assigned, count, signed⟩
  rcases registry_get?_eq_some.mp assigned with ⟨sameIndex, rfl⟩
  have digest : id = .fromBody crypto pending.message.body := sound.digest
  subst digest
  refine ⟨?_, pending, found, ?_, rfl, rfl, .refl _⟩
  · rw [Memory.guardianSet?, registered]
    exact assigned
  · exact ⟨⟨sound.key, sound.digest, ⟨_, rfl, count, signed⟩, sound.ascending⟩, sound.incomplete⟩

theorem Missing.lacks {missing : List UInt8} (suitable : Missing guardians.len pending missing)
    (sound : PendingSound crypto (registry guardians).get? id pending)
    (underway : Underway crypto pending.message.guardianSetIndex pending.message.body
      guardians.guardianSet pending.signatures memory) :
    Lacks guardians pending.message.guardianSetIndex pending.message.body missing
      pending.signatures memory := by
  refine ⟨underway, ?_, suitable.inside, suitable.enough⟩
  have positions := sound.ascending.key_nodup
  have indices : (pending.signatures.map GuardianSignature.guardianIndex).Nodup := by
    refine List.Nodup.of_map UInt8.toNat ?_
    rwa [List.map_map]
  refine List.nodup_append.mpr ⟨indices, suitable.distinct, ?_⟩
  intro index held other chosen same
  subst same
  rcases List.mem_map.mp held with ⟨signature, present, rfl⟩
  exact PendingObservation.hasGuardian_eq_false.mp (suitable.fresh _ chosen) signature present rfl

/-- In every state of a node each pending message can be completed: the missing
guardians exist, and signing as any of them, one after another with a permit
each and whatever the clock reads, answers in the end with a VAA that holds the
signatures collected before and theirs. -/
theorem pending_messages_complete (lawful : signing.Lawful) (hexLawful : hex.Lawful)
    {args : GuardianArgs} {rateLimitRps : UInt32} {state : ServiceState signing}
    (built : buildState signing args rateLimitRps = .ok state)
    {pool : (api hex state.guardians).Pool}
    (reachable : Reachable (AnyOrder hex state.guardians) state.memory pool) {id : MessageId}
    {pending : PendingObservation} (found : pool.world.pending? id = some pending) :
    (∃ missing, Missing args.guardianCount pending missing) ∧
      ∀ missing, Missing args.guardianCount pending missing →
        ∀ turns : List (Turn (api hex state.guardians)),
        turns.map Turn.request = missing.map (.signAsGuardian (id.toHex hex)) →
        (∀ turn ∈ turns, (turn.choices 0).1 = .ok ()) →
        let later := (api hex state.guardians).afterTurns pool turns
        ∃ vaa, Leads (AnyOrder hex state.guardians) pool later ∧
          later.calls.map Call.request = pool.calls.map Call.request ++
            missing.map (.signAsGuardian (id.toHex hex)) ∧
          later.world.pending? id = none ∧
          (∃ record, later.world.vaa? id = some record ∧ record.vaa = vaa) ∧
          vaa.body = pending.message.body ∧ pending.signatures ⊆ vaa.signatures ∧
          (vaa.signatures.map GuardianSignature.guardianIndex).Perm
            (pending.signatures.map GuardianSignature.guardianIndex ++ missing) ∧
          ∃ call, later.calls.getLast? = some call ∧ call.result? =
            some (.ok (.signAsGuardian (submitResult hex id (.assembled vaa)))) := by
  have start := started built
  rw [start.memory] at reachable
  rcases engine_behind reachable with ⟨calls, behind, _⟩
  rcases unupgraded_sound behind with ⟨fixed, memorySound⟩
  have sound := memorySound.pending id pending found
  have size : pending.guardianCount = args.guardianCount := by
    rcases sound.guardians with ⟨set, assigned, count, _⟩
    rw [count, (registry_get?_eq_some.mp assigned).2, SimulatedGuardians.guardianSet_length,
      start.len]
  have below : pending.signatures.length < quorum args.guardianCount := size ▸ sound.incomplete
  refine ⟨exists_missing (by have := start.count; omega) below start.count.1, ?_⟩
  intro missing suitable turns requests permits
  have digest : id = .fromBody crypto pending.message.body := sound.digest
  subst digest
  have nonempty : missing ≠ [] := by
    intro none
    have enough := suitable.enough
    rw [none, List.length_nil] at enough
    omega
  have lacks := (start.len ▸ suitable : Missing state.guardians.len pending missing).lacks sound
    (underway_of_found sound fixed found)
  rcases signatures_complete lawful hexLawful nonempty lacks requests permits with
    ⟨collection, indices, begins, finished, answered⟩
  refine ⟨_, leads_afterTurns (fun _ _ _ => trivial) pool turns, ?_, finished.absent,
    finished.stored, rfl, ?_, ?_, answered⟩
  · rw [requests_afterTurns, requests]
  · intro signature member
    exact sortByKey_perm.mem_iff.mpr (begins.subset member)
  · rw [← indices]
    exact sortByKey_perm.map _

theorem pending_messages_complete_announced :
    ∃ later, Leads (AnyOrder Types.Sample.hex Infra.Sample.simulated) Sample.announced later ∧
      later.world.pending? Infra.Sample.announcementDigest = none := by
  have stored : (Sample.announced.world.pending? Infra.Sample.announcementDigest).isSome := by
    decide +kernel
  rcases Option.isSome_iff_exists.mp stored with ⟨pending, found⟩
  rcases pending_messages_complete Infra.Sample.simulation_lawful Types.Sample.hex_lawful
    Sample.state_built Sample.announced_reachable found with ⟨⟨missing, suitable⟩, completes⟩
  let turns : List (Turn (api Types.Sample.hex Infra.Sample.simulated)) :=
    missing.map fun index => ⟨.signAsGuardian Sample.messageId index, fun _ => (.ok (), 0)⟩
  have permits : ∀ turn ∈ turns, (turn.choices 0).1 = .ok () := by
    intro turn member
    rcases List.mem_map.mp member with ⟨index, _, rfl⟩
    rfl
  rcases completes missing suitable turns (List.map_map ..) permits with ⟨vaa, leads, _, absent, _⟩
  exact ⟨_, leads, absent⟩

end

end WormVerify.Node
