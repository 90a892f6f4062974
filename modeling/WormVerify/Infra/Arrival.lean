import WormVerify.Infra.Failures
import WormVerify.Infra.Soundness

/-! # The order in which signatures arrive

Guardians sign independently, so the engine may get their signatures in any
order, with useless ones in between. What it stores and returns depends on which
signatures it accepts, not on their order.
-/

namespace WormVerify.Infra

open WormVerify.Types WormVerify.Core Service Checked

/-! ## Arrivals -/

/-- The message is observed, and then the signatures are submitted in the order,
with submissions in between that are invalid, out of range or repeated. -/
inductive Arrives (crypto : Crypto) (guardianSetIndex : UInt32) (body : VaaBody)
    (set : GuardianSet) : List GuardianSignature → List (Turn (aggregator crypto)) → Prop
  | observed (choices : Nat → Int64) :
      Arrives crypto guardianSetIndex body set [] [⟨.observe guardianSetIndex body, choices⟩]
  | accepted {order : List GuardianSignature} {turns : List (Turn (aggregator crypto))}
      (earlier : Arrives crypto guardianSetIndex body set order turns)
      (signature : GuardianSignature) (choices : Nat → Int64) :
      Arrives crypto guardianSetIndex body set (order ++ [signature])
        (turns ++ [⟨.submit (.fromBody crypto body) signature, choices⟩])
  | rejected {order : List GuardianSignature} {turns : List (Turn (aggregator crypto))}
      (earlier : Arrives crypto guardianSetIndex body set order turns)
      (signature : GuardianSignature) (choices : Nat → Int64)
      (refused : ¬SignedBy crypto (MessageId.fromBody crypto body) set.keys signature ∨
        ∃ held ∈ order, held.guardianIndex = signature.guardianIndex) :
      Arrives crypto guardianSetIndex body set order
        (turns ++ [⟨.submit (.fromBody crypto body) signature, choices⟩])

def Reply.assembled? : Reply → Option Vaa
  | .submitted (.ok (.assembled vaa)) => some vaa
  | _ => none

def assembledVaas (journal : List (Commit Memory (Turn (aggregator crypto))
    (Outcome ports Reply))) : List Vaa :=
  journal.filterMap fun entry => entry.output.result.assembled?

def collectedVaa (guardianSetIndex : UInt32) (body : VaaBody)
    (collection : List GuardianSignature) : Vaa where
  version := supportedVersion
  guardianSetIndex := guardianSetIndex
  signatures := sortByKey GuardianSignature.position collection
  body := body

/-! ## Before and after the quorum -/

section

variable (crypto : Crypto) (guardianSetIndex : UInt32) (body : VaaBody) (set : GuardianSet)
  (order : List GuardianSignature)

structure Underway (memory : Memory) : Prop where
  available : memory.guardianSet? guardianSetIndex = some set
  pending : ∃ pending, memory.pending? (.fromBody crypto body) = some pending ∧
    PendingSound crypto (fun _ => some set) (.fromBody crypto body) pending ∧
    pending.message.guardianSetIndex = guardianSetIndex ∧ pending.message.body = body ∧
    pending.signatures.Perm order

structure Finished (memory : Memory) : Prop where
  absent : memory.pending? (.fromBody crypto body) = none
  stored : ∃ record, memory.vaa? (.fromBody crypto body) = some record ∧
    record.vaa = collectedVaa guardianSetIndex body order

structure Reached (memory : Memory) (returned : List Vaa) : Prop where
  underway : order.length < quorum set.keys.length →
    Underway crypto guardianSetIndex body set order memory ∧ returned = []
  finished : order.length = quorum set.keys.length →
    Finished crypto guardianSetIndex body order memory ∧
      returned = [collectedVaa guardianSetIndex body order]

end

section

variable {crypto : Crypto} {guardianSetIndex : UInt32} {body : VaaBody} {set : GuardianSet}
variable {order : List GuardianSignature} {memory after : Memory}
variable {signature : GuardianSignature}
variable {outcome : Outcome ports (Checked EngineError SubmitOutcome)}

theorem Underway.serve (underway : Underway crypto guardianSetIndex body set order memory)
    (effect : SubmitEffect crypto memory (.fromBody crypto body) signature outcome after)
    (answered : Answered outcome.transcript) :
    ∃ pending, PendingSound crypto (fun _ => some set) (.fromBody crypto body) pending ∧
      pending.message.guardianSetIndex = guardianSetIndex ∧ pending.message.body = body ∧
      pending.signatures.Perm order ∧
      ServedEffect crypto memory set (.fromBody crypto body) pending signature
        outcome.transcript outcome.result after := by
  rcases underway.pending with ⟨pending, found, sound, rfl, sameBody, perm⟩
  exact ⟨pending, sound, rfl, sameBody, perm,
    effect.served answered found underway.available sound rfl⟩

theorem Underway.reject (underway : Underway crypto guardianSetIndex body set order memory)
    (refused : ¬SignedBy crypto (MessageId.fromBody crypto body) set.keys signature ∨
      ∃ held ∈ order, held.guardianIndex = signature.guardianIndex)
    (effect : SubmitEffect crypto memory (.fromBody crypto body) signature outcome after)
    (answered : Answered outcome.transcript) :
    after = memory ∧ ∃ fault, outcome.result = .error fault := by
  rcases underway.serve effect answered with ⟨pending, _, _, _, perm, served⟩
  have unchecked : checkSignature crypto set pending (.fromBody crypto body) signature ≠
      .ok () := by
    intro checked
    rcases checkSignature_eq_ok.mp checked with ⟨absent, signed⟩
    rcases refused with unsigned | ⟨held, member, same⟩
    · exact unsigned signed
    · exact PendingObservation.hasGuardian_eq_false.mp absent held (perm.mem_iff.mpr member) same
  generalize outcome.result = result at served
  cases served with
  | refused fault checked => exact ⟨rfl, fault, rfl⟩
  | collected checked below => exact absurd checked unchecked
  | assembled checked reached now reading => exact absurd checked unchecked

theorem Underway.accept (underway : Underway crypto guardianSetIndex body set order memory)
    (signed : SignedBy crypto (MessageId.fromBody crypto body) set.keys signature)
    (absent : ∀ held ∈ order, held.guardianIndex ≠ signature.guardianIndex)
    (effect : SubmitEffect crypto memory (.fromBody crypto body) signature outcome after)
    (answered : Answered outcome.transcript) :
    Reached crypto guardianSetIndex body set (order ++ [signature]) after
      (Reply.submitted outcome.result).assembled?.toList := by
  rcases underway.serve effect answered with
    ⟨pending, sound, sameIndex, sameBody, perm, served⟩
  have checked : checkSignature crypto set pending (.fromBody crypto body) signature = .ok () := by
    refine checkSignature_eq_ok.mpr ⟨PendingObservation.hasGuardian_eq_false.mpr ?_, signed⟩
    intro held member
    exact absent held (perm.mem_iff.mp member)
  rcases sound.grown rfl checked with ⟨grown, inserted⟩
  have arranged : (pending.insertSorted signature).signatures.Perm (order ++ [signature]) :=
    inserted.trans ((perm.cons signature).trans (List.perm_append_singleton _ _).symm)
  have needed : (pending.insertSorted signature).quorum = quorum set.keys.length := grown.needed
  have sized := arranged.length_eq
  generalize outcome.result = result at served
  cases served with
  | refused fault refused =>
      rw [checked] at refused
      cases refused
  | collected _ below =>
      have short := Nat.lt_of_not_le (of_decide_eq_false below)
      rw [needed, sized] at short
      refine ⟨?_, fun enough => absurd enough (Nat.ne_of_lt short)⟩
      intro _
      refine ⟨⟨underway.available, _, ?_, grown.pendingSound below, sameIndex, sameBody,
        arranged⟩, rfl⟩
      exact (Memory.pending?_upsert _ _).trans (if_pos grown.key.symm)
  | assembled _ reached now reading =>
      have enough := of_decide_eq_true reached
      rw [needed, sized] at enough
      refine ⟨fun short => absurd enough (Nat.not_le_of_lt short), ?_⟩
      intro _
      have same : assemble (pending.insertSorted signature) =
          collectedVaa guardianSetIndex body (order ++ [signature]) := by
        rw [collectedVaa, ← grown.ascending.eq_sortByKey arranged, ← sameIndex, ← sameBody]
        rfl
      refine ⟨⟨?_, _, (Memory.vaa?_save _ _).trans (if_pos rfl), same⟩, ?_⟩
      · exact (Memory.pending?_remove _ _).trans (if_pos rfl)
      · rw [← same]
        rfl

/-- A rejected submission changes nothing, before the quorum and after it. -/
theorem Reached.reject {returned : List Vaa}
    (reached : Reached crypto guardianSetIndex body set order memory returned)
    (bounded : order.length ≤ quorum set.keys.length)
    (refused : ¬SignedBy crypto (MessageId.fromBody crypto body) set.keys signature ∨
      ∃ held ∈ order, held.guardianIndex = signature.guardianIndex)
    (effect : SubmitEffect crypto memory (.fromBody crypto body) signature outcome after)
    (answered : Answered outcome.transcript) :
    after = memory ∧ ∃ fault, outcome.result = .error fault := by
  rcases Nat.lt_or_eq_of_le bounded with short | enough
  · exact (reached.underway short).1.reject refused effect answered
  · rcases effect.absent answered (reached.finished enough).1.absent with ⟨result, same⟩
    exact ⟨same, _, result⟩

theorem underway_observed {observed : Outcome ports (Checked EngineError MessageId)}
    (available : memory.guardianSet? guardianSetIndex = some set)
    (absent : memory.pending? (.fromBody crypto body) = none)
    (vacant : memory.vaa? (.fromBody crypto body) = none)
    (effect : ObserveEffect crypto memory guardianSetIndex body observed after)
    (answered : Answered observed.transcript) :
    Underway crypto guardianSetIndex body set [] after := by
  cases effect with
  | failed transcript op error engineOp failedAt =>
      exact absurd failedAt (answered op error engineOp)
  | completed transcript record stored =>
      rw [vacant] at stored
      cases stored
  | known transcript pending _ found =>
      rw [absent] at found
      cases found
  | unavailable transcript _ _ unknown =>
      rw [available] at unknown
      cases unknown
  | registered transcript other now _ _ otherAvailable =>
      cases available.symm.trans otherAvailable
      refine ⟨available, _, (Memory.pending?_upsert _ _).trans (if_pos rfl),
        attested_new rfl now, rfl, rfl, ?_⟩
      exact List.Perm.refl []

/-! ## Runs -/

theorem sequential_concat (memory : Memory) (turns : List (Turn (aggregator crypto)))
    (turn : Turn (aggregator crypto)) :
    let machine := (aggregator crypto).sequential memory
    let performed := (aggregator crypto).perform ((aggregator crypto).body turn.request)
      turn.choices (machine.state turns)
    machine.state (turns ++ [turn]) = performed.2 ∧
      assembledVaas (machine.journal (turns ++ [turn])) =
        assembledVaas (machine.journal turns) ++ performed.1.result.assembled?.toList := by
  intro machine performed
  have executed : machine.execute (machine.state turns) turn = .ok (performed.2, performed.1) :=
    rfl
  refine ⟨state_sequential_concat _ memory turns turn, ?_⟩
  rw [(machine.concat_of_ok executed).2, assembledVaas, List.filterMap_append]
  cases answer : performed.1.result.assembled? <;> simp [assembledVaas, answer]

theorem submit_concat (memory : Memory) (turns : List (Turn (aggregator crypto)))
    (id : MessageId) (signature : GuardianSignature) (choices : Nat → Int64) :
    let machine := (aggregator crypto).sequential memory
    let extended := turns ++ [⟨.submit id signature, choices⟩]
    ∃ outcome,
      SubmitEffect crypto (machine.state turns) id signature outcome (machine.state extended) ∧
      Answered outcome.transcript ∧
      assembledVaas (machine.journal extended) =
        assembledVaas (machine.journal turns) ++
          (Reply.submitted outcome.result).assembled?.toList := by
  intro machine extended
  rcases sequential_concat memory turns ⟨.submit id signature, choices⟩ with ⟨state, vaas⟩
  rcases aggregator_effect crypto (.submit id signature) choices (machine.state turns) with
    ⟨effect, answered⟩
  rcases effect.submit with ⟨result, submitted, effect⟩
  rw [state]
  refine ⟨_, effect, answered, vaas.trans ?_⟩
  exact congrArg (fun reply => _ ++ Option.toList (Reply.assembled? reply)) submitted

theorem Arrives.reached {turns : List (Turn (aggregator crypto))}
    (arrives : Arrives crypto guardianSetIndex body set order turns)
    (available : memory.guardianSet? guardianSetIndex = some set)
    (absent : memory.pending? (.fromBody crypto body) = none)
    (vacant : memory.vaa? (.fromBody crypto body) = none)
    (distinct : (order.map GuardianSignature.guardianIndex).Nodup)
    (signed : ∀ signature ∈ order,
      SignedBy crypto (MessageId.fromBody crypto body) set.keys signature)
    (bounded : order.length ≤ quorum set.keys.length) :
    Reached crypto guardianSetIndex body set order
      (((aggregator crypto).sequential memory).state turns)
      (assembledVaas (((aggregator crypto).sequential memory).journal turns)) := by
  induction arrives with
  | observed choices =>
      rcases sequential_concat memory [] ⟨.observe guardianSetIndex body, choices⟩ with
        ⟨state, vaas⟩
      rw [List.nil_append] at state vaas
      rcases aggregator_effect crypto (.observe guardianSetIndex body) choices memory with
        ⟨effect, answered⟩
      rcases effect.observe with ⟨result, observed, effect⟩
      have underway := underway_observed available absent vacant effect answered
      rw [state, vaas]
      refine ⟨fun _ => ⟨underway, ?_⟩, fun none => absurd none (Nat.ne_of_lt (quorum_pos _))⟩
      exact congrArg (fun reply => Option.toList (Reply.assembled? reply)) observed
  | @accepted order turns earlier signature choices induction =>
      rw [List.map_append, List.nodup_append] at distinct
      rw [List.forall_mem_append, List.forall_mem_singleton] at signed
      rw [List.length_append, List.length_singleton] at bounded
      have fresh : ∀ held ∈ order, held.guardianIndex ≠ signature.guardianIndex :=
        fun held member => distinct.2.2 _ (List.mem_map_of_mem member) _ (by simp)
      rcases (induction distinct.1 signed.1 (Nat.le_of_succ_le bounded)).underway bounded with
        ⟨underway, none⟩
      rcases submit_concat memory turns (.fromBody crypto body) signature choices with
        ⟨outcome, effect, answered, vaas⟩
      rw [vaas, none, List.nil_append]
      exact underway.accept signed.2 fresh effect answered
  | @rejected order turns earlier signature choices refused induction =>
      have reached := induction distinct signed bounded
      rcases submit_concat memory turns (.fromBody crypto body) signature choices with
        ⟨outcome, effect, answered, vaas⟩
      rcases reached.reject bounded refused effect answered with ⟨same, fault, failed⟩
      rw [vaas, same, failed]
      simpa [Reply.assembled?] using reached

end

/-- What the run makes of the collection: nothing in it depends on the order in
which the signatures arrived. -/
structure Attests (crypto : Crypto) (memory : Memory) (guardianSetIndex : UInt32)
    (body : VaaBody) (set : GuardianSet) (collection : List GuardianSignature)
    (turns : List (Turn (aggregator crypto))) : Prop where
  ascending : Ascending GuardianSignature.position
    (sortByKey GuardianSignature.position collection)
  perm : (sortByKey GuardianSignature.position collection).Perm collection
  pending : collection.length < quorum set.keys.length →
    ∃ pending, (((aggregator crypto).sequential memory).state turns).pending?
        (.fromBody crypto body) = some pending ∧
      pending.signatures = sortByKey GuardianSignature.position collection
  assembled : collection.length = quorum set.keys.length →
    assembledVaas (((aggregator crypto).sequential memory).journal turns) =
        [collectedVaa guardianSetIndex body collection] ∧
      ∃ record, (((aggregator crypto).sequential memory).state turns).vaa?
          (.fromBody crypto body) = some record ∧
        record.vaa = collectedVaa guardianSetIndex body collection ∧
        record.vaa.encode = (collectedVaa guardianSetIndex body collection).encode

/-- Valid signatures of different guardians lead to the same VAA in every order
of arrival, and below the quorum to the same stored signatures. -/
theorem arrival_order_irrelevant (crypto : Crypto) (memory : Memory)
    (guardianSetIndex : UInt32) (set : GuardianSet) (body : VaaBody)
    (available : memory.guardianSet? guardianSetIndex = some set)
    (absent : memory.pending? (.fromBody crypto body) = none)
    (vacant : memory.vaa? (.fromBody crypto body) = none)
    (collection : List GuardianSignature)
    (distinct : (collection.map GuardianSignature.guardianIndex).Nodup)
    (signed : ∀ signature ∈ collection,
      SignedBy crypto (MessageId.fromBody crypto body) set.keys signature)
    (bounded : collection.length ≤ quorum set.keys.length)
    (order : List GuardianSignature) (perm : order.Perm collection)
    (turns : List (Turn (aggregator crypto)))
    (arrives : Arrives crypto guardianSetIndex body set order turns) :
    Attests crypto memory guardianSetIndex body set collection turns := by
  have positions : (collection.map GuardianSignature.position).Nodup := by
    have apart := distinct.map fun _ _ same => UInt8.toNat_inj.mp same
    rw [List.map_map] at apart
    exact apart
  have ascending := ascending_sortByKey positions
  have reached := arrives.reached available absent vacant
    ((perm.map _).nodup_iff.mpr distinct)
    (fun signature member => signed signature (perm.mem_iff.mp member))
    (perm.length_eq ▸ bounded)
  have arranged : sortByKey GuardianSignature.position order =
      sortByKey GuardianSignature.position collection :=
    (ascending_sortByKey ((perm.map _).nodup_iff.mpr positions)).eq_sortByKey
      (sortByKey_perm.trans perm)
  refine ⟨ascending, sortByKey_perm, ?_, ?_⟩
  · intro short
    rcases (reached.underway (perm.length_eq ▸ short)).1.pending with
      ⟨pending, found, sound, _, _, held⟩
    exact ⟨pending, found, sound.ascending.eq_sortByKey (held.trans perm)⟩
  · intro enough
    rcases reached.finished (perm.length_eq.trans enough) with ⟨finished, returned⟩
    rcases finished.stored with ⟨record, stored, completed⟩
    have same : collectedVaa guardianSetIndex body order =
        collectedVaa guardianSetIndex body collection := by
      rw [collectedVaa, collectedVaa, arranged]
    rw [same] at returned completed
    exact ⟨returned, record, stored, completed, congrArg Vaa.encode completed⟩

namespace Sample

open Types.Sample

def reversed : List (Turn (aggregator crypto)) :=
  [.observe 0 body, .submit digest otherSignature, .submit digest otherSignature,
    .submit digest signature].map fun request => ⟨request, fun _ => 0⟩

theorem signedBy : ∀ given ∈ [signature, otherSignature],
    SignedBy crypto (MessageId.fromBody crypto body) guardianSet.keys given := by
  have digests : MessageId.fromBody crypto body = digest := by decide +kernel
  rw [digests, List.forall_mem_cons, List.forall_mem_singleton]
  exact ⟨⟨guardian, rfl, by decide +kernel⟩, ⟨otherGuardian, rfl, by decide +kernel⟩⟩

theorem reversed_arrives :
    Arrives crypto 0 body guardianSet [otherSignature, signature] reversed := by
  have digests : MessageId.fromBody crypto body = digest := by decide +kernel
  have observed := @Arrives.observed crypto 0 body guardianSet fun _ => 0
  have first := observed.accepted otherSignature fun _ => 0
  have again := first.rejected otherSignature (fun _ => 0) (.inr ⟨otherSignature, by simp, rfl⟩)
  have arrives := again.accepted signature fun _ => 0
  rw [digests] at arrives
  exact arrives

end Sample

theorem arrival_order_irrelevant_reversed :
    Attests Types.Sample.crypto (.new (.new Sample.guardianSet)) 0 Types.Sample.body
      Sample.guardianSet [Types.Sample.signature, Types.Sample.otherSignature]
      Sample.reversed :=
  arrival_order_irrelevant Types.Sample.crypto (.new (.new Sample.guardianSet)) 0
    Sample.guardianSet Types.Sample.body (by decide) (by decide +kernel) (by decide +kernel)
    [Types.Sample.signature, Types.Sample.otherSignature] (by decide) Sample.signedBy (by decide)
    [Types.Sample.otherSignature, Types.Sample.signature] (.swap _ _ _) Sample.reversed
    Sample.reversed_arrives

end WormVerify.Infra
