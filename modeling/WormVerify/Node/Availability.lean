import WormVerify.Api.Budget
import WormVerify.Node.Publication

/-! # What clients can count on

An operation ends after a number of port calls of its own, and a VAA that some
operation has answered with is found by every lookup that begins afterwards.
-/

namespace WormVerify.Node

open WormVerify.Types WormVerify.Core WormVerify.Infra WormVerify.Api Service Program Checked

/-! ## Bounded work -/

section

variable {crypto : Crypto} {signing : Signing crypto} {hex : Hex}
  {guardians : SimulatedGuardians signing}

/-- Whatever other operations do, and in whatever order port calls are served, an
operation makes no more port calls than its number, and has ended once it has made
as many. -/
theorem operations_are_bounded {allowed : (api hex guardians).Rule} {initial : Memory}
    {pool : (api hex guardians).Pool} (reachable : Reachable allowed initial pool)
    {call : (api hex guardians).Call} (member : call ∈ pool.calls) :
    call.transcript.length ≤ portCalls call.request ∧
      (call.transcript.length = portCalls call.request → ∃ result, call.result? = some result) := by
  rcases reachable.weight_le resolve_spends call member with ⟨left, spends, fits⟩
  have counted : weight each call.transcript = call.transcript.length := by
    simp [weight, each]
  rw [counted] at fits
  refine ⟨by omega, fun full => ?_⟩
  rcases call with ⟨request, transcript, program⟩
  cases program with
  | done result => exact ⟨result, rfl⟩
  | call op resume =>
      have affordable : 1 ≤ left := spends.1
      dsimp only at fits full
      omega

theorem operations_are_bounded_completion :
    ∃ call result, Sample.completed.calls[2]? = some call ∧
      portCalls call.request = 8 ∧ call.result? = some result := by
  have counted : (Sample.completed.calls[2]?).any fun call =>
      portCalls call.request = 8 ∧ call.transcript.length = portCalls call.request := by
    decide +kernel
  rcases (Option.any_eq_true _ _).mp counted with ⟨call, found, counts⟩
  rcases of_decide_eq_true counts with ⟨eight, full⟩
  rcases (operations_are_bounded Sample.completed_reachable
    (List.mem_of_getElem? found)).2 full with ⟨result, returned⟩
  exact ⟨call, result, found, eight, returned⟩

end

/-! ## Lookups -/

/-- What an answer tells of the records in a later world. -/
def Foretells (later : Memory) : (op : PortOp) → op.Response → Prop
  | .getVaa id, answer => ∀ record, answer = .ok (some record) → (later.vaa? id).isSome
  | .saveVaa record, _ => (later.vaa? record.id).isSome
  | _, _ => True

def ApiForetells (later : Memory) : (op : apiPorts.Op) → apiPorts.Response op → Prop
  | .inl _, _ => True
  | .inr op, answer => Foretells later op answer

def Announces (later : Memory) : PortOp → Prop
  | .publish (.vaaAssembled id) => (later.vaa? id).isSome
  | _ => True

def ApiAnnounces (later : Memory) : apiPorts.Op → Prop
  | .inl _ => True
  | .inr op => Announces later op

section

variable {crypto : Crypto} {later : Memory} {id : MessageId} {fails : Fault EngineError → Prop}

theorem ask_anything {op : PortOp} {fits : op.Response = Except EngineError α}
    (asked : Announces later op) :
    @ObeysOr ports α _ (Announces later) (Foretells later) (fun _ => True) (fun _ => True)
      (askFallible op fits) :=
  ask_obeys asked (fun _ _ _ _ => trivial) fun _ _ _ _ => trivial

theorem stats_foretells : @ObeysOr ports _ _ (Announces later) (Foretells later) (fun _ => True)
    (fun _ => True) stats := by
  refine ObeysOr.bind (ask_anything trivial) ?_
  intro _ _
  refine ObeysOr.bind (ask_anything trivial) ?_
  intro _ _
  exact ObeysOr.pure trivial

theorem observe_foretells {guardianSetIndex : UInt32} {body : VaaBody} :
    @ObeysOr ports _ _ (Announces later) (Foretells later) (fun _ => True) (fun _ => True)
      (observeMessage crypto guardianSetIndex body) := by
  rw [observeMessage]
  refine ObeysOr.bind (ask_anything trivial) ?_
  intro completed _
  split
  · exact fail_obeys trivial
  · refine ObeysOr.bind (ask_anything trivial) ?_
    intro found _
    split
    · exact ObeysOr.pure trivial
    · refine ObeysOr.bind (ask_anything trivial) ?_
      intro available _
      refine ObeysOr.bind (checked_obeys fun _ _ => trivial) ?_
      intro set _
      refine ObeysOr.bind (unixSeconds_obeys trivial) ?_
      intro observedAt _
      refine ObeysOr.bind (ask_anything trivial) ?_
      intro _ _
      refine ObeysOr.bind (publish_obeys trivial) ?_
      intro _ _
      exact ObeysOr.pure trivial

/-- A submission that assembles a VAA has saved a record, before it announces the
VAA and returns it. -/
theorem submit_foretells {signature : GuardianSignature} :
    @ObeysOr ports _ _ (Announces later) (Foretells later)
      (fun outcome => ∀ vaa, outcome = SubmitOutcome.assembled vaa → (later.vaa? id).isSome)
      (fun _ => True) (submitSignature crypto id signature) := by
  rw [submitSignature]
  refine ObeysOr.bind (ask_anything trivial) ?_
  intro found _
  refine ObeysOr.bind (checked_obeys fun _ _ => trivial) ?_
  intro pending _
  refine ObeysOr.bind (ask_anything trivial) ?_
  intro available _
  refine ObeysOr.bind (checked_obeys fun _ _ => trivial) ?_
  intro set _
  refine ObeysOr.bind (checked_obeys fun _ _ => trivial) ?_
  intro _ _
  rw [collectSignature]
  refine ObeysOr.bind (publish_obeys trivial) ?_
  intro _ _
  split
  · refine ObeysOr.bind (ask_anything trivial) ?_
    intro _ _
    apply ObeysOr.pure
    intro vaa assembled
    cases assembled
  · rw [completeObservation]
    refine ObeysOr.bind (checked_obeys fun _ _ => trivial) ?_
    intro _ _
    refine ObeysOr.bind (unixSeconds_obeys trivial) ?_
    intro assembledAt _
    have saves : @ObeysOr ports _ _ (Announces later) (Foretells later)
        (fun _ => (later.vaa? id).isSome) (fun _ => True)
        (saveVaa { id, vaa := assemble (pending.insertSorted signature), assembledAt }) :=
      ask_obeys trivial (fun _ _ saved _ => saved) fun _ _ _ _ => trivial
    refine ObeysOr.bind saves ?_
    intro _ saved
    refine ObeysOr.bind (ask_anything trivial) ?_
    intro _ _
    refine ObeysOr.bind (publish_obeys saved) ?_
    intro _ _
    exact ObeysOr.pure fun _ _ => saved

end

section

variable {crypto : Crypto} {signing : Signing crypto} {hex : Hex}
  {guardians : SimulatedGuardians signing} {id : MessageId}

def Replied (hex : Hex) (later : Memory) (operation : Operation)
    (outcome : Checked ApiError Answer) : Prop :=
  ∀ name id answer text, named operation = some name → MessageId.fromHex hex name = .ok id →
    outcome = .ok answer → carried answer = some text → (later.vaa? id).isSome

theorem resolve_foretells (later : Memory) (operation : Operation) :
    ((api hex guardians).body operation).Obeys (ApiAnnounces later) (ApiForetells later)
      (Replied hex later operation) := by
  have failed (operation : Operation) (fault : Fault ApiError) :
      Replied hex later operation (.error fault) := by
    intro name id answer text _ _ succeeded
    cases succeeded
  -- An operation that names no message carries no VAA.
  have unnamed {operation : Operation} (nameless : named operation = none)
      (obeys : ((api hex guardians).body operation).Obeys (ApiAnnounces later)
        (ApiForetells later) fun _ => True) :
      ((api hex guardians).body operation).Obeys (ApiAnnounces later) (ApiForetells later)
        (Replied hex later operation) := by
    apply obeys.imp
    intro outcome _ name id answer text asks
    cases nameless.symm.trans asks
  cases operation with
  | health => exact unnamed rfl trivial
  | pendingMessages =>
      apply unnamed rfl
      apply obeys_of_obeysOr
      refine ObeysOr.bind (inner_obeys (ask_anything trivial)) ?_
      intro _ _
      exact ObeysOr.pure trivial
  | guardianSet =>
      apply unnamed rfl
      apply obeys_of_obeysOr
      refine ObeysOr.bind (inner_obeys (ask_anything trivial)) ?_
      intro _ _
      exact ObeysOr.pure trivial
  | stats =>
      apply unnamed rfl
      apply obeys_of_obeysOr
      refine ObeysOr.bind (inner_obeys stats_foretells) ?_
      intro _ _
      exact ObeysOr.pure trivial
  | submitObservation input =>
      apply unnamed rfl
      apply obeys_of_obeysOr
      refine ObeysOr.bind (rateLimit_obeys trivial trivial) ?_
      intro _ _
      refine ObeysOr.bind (argument_obeys fun _ _ => trivial) ?_
      intro body _
      refine ObeysOr.bind (inner_obeys observe_foretells) ?_
      intro _ _
      exact ObeysOr.pure trivial
  | vaa name =>
      apply obeys_of_obeysOr
      refine ObeysOr.bind (argument_obeys fun _ _ => failed _ _) ?_
      intro id read
      have foretold : @ObeysOr ports _ _ (Announces later) (Foretells later)
          (fun found => ∀ record, found = some record → (later.vaa? id).isSome) (fun _ => True)
          (getVaa id) :=
        ask_obeys trivial (fun _ found told answered record same => told record (by
          rw [← same]
          exact answered)) fun _ _ _ _ => trivial
      refine ObeysOr.bind (inner_obeys (foretold.imp (fun _ told => told)
        fun fault _ => failed _ (reported fault))) ?_
      intro found told
      apply ObeysOr.pure
      intro other otherId answer text same readOther succeeded carries
      cases same
      cases read.symm.trans readOther
      cases succeeded
      cases found with
      | none => cases carries
      | some record => exact told record rfl
  | signAsGuardian name guardianIndex =>
      apply obeys_of_obeysOr
      refine ObeysOr.bind (rateLimit_obeys trivial (failed _ _)) ?_
      intro _ _
      refine ObeysOr.bind (argument_obeys fun _ _ => failed _ _) ?_
      intro id read
      refine ObeysOr.bind (ofOption_obeys fun _ => failed _ _) ?_
      intro signature _
      refine ObeysOr.bind (inner_obeys (submit_foretells.imp (fun _ told => told)
        fun fault _ => failed _ (reported fault))) ?_
      intro outcome told
      apply ObeysOr.pure
      intro other otherId answer text same readOther succeeded carries
      cases same
      cases read.symm.trans readOther
      cases succeeded
      cases outcome with
      | collected held needed => cases carries
      | assembled vaa => exact told vaa rfl

theorem isSome_serve (op : PortOp) (now : Int64) {memory : Memory}
    (stored : (memory.vaa? id).isSome) : ((memory.serve now op).2.vaa? id).isSome := by
  cases op with
  | saveVaa record =>
      rw [Memory.serve, Memory.vaa?_save]
      split
      · rfl
      · exact stored
  | _ => exact stored

theorem isSome_of_leads {pool later : (api hex guardians).Pool}
    (leads : Leads (AnyOrder hex guardians) pool later) (stored : (pool.world.vaa? id).isSome) :
    (later.world.vaa? id).isSome := by
  induction leads with
  | refl => exact stored
  | tail _ step induction =>
      rcases step.world with same | ⟨call, op, choice, _, served⟩
      · rw [same]
        exact induction
      · rw [served]
        cases op with
        | inl op => exact induction
        | inr op => exact isSome_serve op choice.2 induction

theorem stored_of_reachable {initial : Memory} {pool : (api hex guardians).Pool}
    (reachable : Reachable (AnyOrder hex guardians) initial pool) :
    (∀ id, .vaaAssembled id ∈ pool.world.events →
      .vaaAssembled id ∈ initial.events ∨ (pool.world.vaa? id).isSome) ∧
    ∀ call ∈ pool.calls, ∀ outcome, call.result? = some outcome →
      Replied hex pool.world call.request outcome := by
  have upheld := @Reachable.upholds (api hex guardians) (AnyOrder hex guardians) initial
    (ApiAnnounces pool.world) (ApiForetells pool.world) (Replied hex pool.world)
    (fun memory => ∀ id, .vaaAssembled id ∈ memory.events →
      .vaaAssembled id ∈ initial.events ∨ (pool.world.vaa? id).isSome)
    (fun _ announced => .inl announced) pool
    (by
      intro before after _ rest told op choice asked served
      rw [served]
      cases op with
      | inl op => exact ⟨told, trivial⟩
      | inr op =>
          cases op with
          | getVaa id =>
              refine ⟨told, fun record found => ?_⟩
              apply isSome_of_leads rest
              rw [served]
              exact Option.isSome_of_eq_some (Except.ok.inj found)
          | saveVaa record =>
              refine ⟨told, ?_⟩
              apply isSome_of_leads rest
              rw [served]
              have saved := @Memory.vaa?_save before.world record record.id
              exact Option.isSome_of_eq_some (saved.trans (if_pos rfl))
          | publish event =>
              refine ⟨fun id announced => ?_, trivial⟩
              rcases List.mem_append.mp announced with earlier | new
              · exact told id earlier
              · cases List.mem_singleton.mp new
                exact .inr asked
          | _ => exact ⟨told, trivial⟩)
    reachable fun call _ => resolve_foretells pool.world call.request
  refine ⟨upheld.1, fun call member outcome returned => ?_⟩
  exact Call.ends_of_returned returned (upheld.2 call member)

def Keyed (memory : Memory) : Prop := ∀ id record, memory.vaa? id = some record → record.id = id

theorem Keyed.serve {memory : Memory} (keyed : Keyed memory) (op : PortOp) (now : Int64) :
    Keyed (memory.serve now op).2 := by
  cases op with
  | saveVaa saved =>
      intro id record found
      rw [Memory.serve, Memory.vaa?_save] at found
      split at found
      · rename_i same
        cases found
        exact same.symm
      · exact keyed id record found
  | _ => exact keyed

/-- A lookup finds a record of the id, and of the id only in stores that are
keyed. -/
def Finds (keyed : Prop) (id : MessageId) : (op : apiPorts.Op) → apiPorts.Response op → Prop
  | .inr (.getVaa other), answer =>
      other = id → ∃ record, answer = .ok (some record) ∧ (keyed → record.id = id)
  | _, _ => True

def FindsVaa (hex : Hex) (keyed : Prop) (id : MessageId) (operation : Operation)
    (outcome : Checked ApiError Answer) : Prop :=
  ∀ spelling, operation = .vaa spelling → MessageId.fromHex hex spelling = .ok id →
    ∃ found, outcome = .ok (.vaa (some found)) ∧ (keyed → found.id = id.toHex hex)

theorem resolve_finds {keyed : Prop} (operation : Operation) :
    ((api hex guardians).body operation).Obeys (fun _ => True) (Finds keyed id)
      (FindsVaa hex keyed id operation) := by
  by_cases looksUp : ∃ spelling, operation = .vaa spelling ∧ MessageId.fromHex hex spelling = .ok id
  · rcases looksUp with ⟨spelling, rfl, read⟩
    apply obeys_of_obeysOr
    refine ObeysOr.bind (argument_obeys fun message unread => ?_) ?_
    · cases read.symm.trans unread
    · intro other readOther
      cases read.symm.trans readOther
      have finds : @ObeysOr ports _ _ (fun _ => True) (fun op => Finds keyed id (.inr op))
          (fun found => ∃ record, found = some record ∧ (keyed → record.id = id))
          (fun _ => False) (getVaa id) := by
        apply ask_obeys trivial
        · intro response value relied answered
          rcases relied rfl with ⟨record, found, own⟩
          cases found.symm.trans answered
          exact ⟨record, rfl, own⟩
        · intro response error relied answered
          rcases relied rfl with ⟨record, found, _⟩
          cases found.symm.trans answered
      refine ObeysOr.bind (inner_obeys
        (finds.imp (fun _ found => found) fun _ never => never.elim)) ?_
      intro found present
      rcases present with ⟨record, rfl, own⟩
      exact ObeysOr.pure fun _ _ _ => ⟨_, rfl, fun isKeyed =>
        congrArg (MessageId.toHex hex) (own isKeyed)⟩
  · refine obeys_of_forall ?_ _
    intro outcome spelling same read
    exact absurd ⟨spelling, same, read⟩ looksUp

theorem keyed_of_reachable {initial : Memory} (keyed : Keyed initial)
    {pool : (api hex guardians).Pool}
    (reachable : Reachable (AnyOrder hex guardians) initial pool) : Keyed pool.world := by
  induction reachable with
  | start => exact keyed
  | step _ step induction =>
      rcases step.world with same | ⟨_, op, choice, _, served⟩
      · rw [same]
        exact induction
      · rw [served]
        cases op with
        | inl op => exact induction
        | inr op => exact induction.serve op choice.2

theorem found_of_stored {pool later : (api hex guardians).Pool}
    (stored : (pool.world.vaa? id).isSome) (leads : Leads (AnyOrder hex guardians) pool later)
    {position : Nat} {lookup : (api hex guardians).Call} (began : pool.calls.length ≤ position)
    (found : later.calls[position]? = some lookup) {spelling : String}
    (looksUp : lookup.request = .vaa spelling) (same : MessageId.fromHex hex spelling = .ok id)
    {outcome : Checked ApiError Answer} (ended : lookup.result? = some outcome) :
    ∃ vaa, outcome = .ok (.vaa (some vaa)) ∧ (Keyed pool.world → vaa.id = id.toHex hex) := by
  have upheld := @Leads.upholds (api hex guardians) (AnyOrder hex guardians)
    (Finds (Keyed pool.world) id) (FindsVaa hex (Keyed pool.world) id)
    (fun memory => (memory.vaa? id).isSome ∧ (Keyed pool.world → Keyed memory)) pool later
    ⟨stored, fun isKeyed => isKeyed⟩
    (by
      intro before after _ _ kept op choice served
      rw [served]
      cases op with
      | inl op => exact ⟨kept, trivial⟩
      | inr op =>
          refine ⟨⟨isSome_serve op choice.2 kept.1,
            fun isKeyed => (kept.2 isKeyed).serve op choice.2⟩, ?_⟩
          cases op with
          | getVaa other =>
              intro same
              rw [same]
              rcases Option.isSome_iff_exists.mp kept.1 with ⟨record, recordAt⟩
              exact ⟨record, congrArg Except.ok recordAt,
                fun isKeyed => kept.2 isKeyed id record recordAt⟩
          | _ => trivial)
    resolve_finds leads
  exact Call.ends_of_returned ended (upheld.2 position lookup began found) spelling looksUp same

/-- Once an operation has answered with a VAA, every lookup of the message that
begins afterwards finds one, whatever operations are in flight. If records were
stored under their own ids from the start, it is that of the message. -/
theorem published_vaas_stay_available {initial : Memory} {pool : (api hex guardians).Pool}
    (reachable : Reachable (AnyOrder hex guardians) initial pool)
    {call : (api hex guardians).Call} (member : call ∈ pool.calls) {answer : Answer}
    (returned : call.result? = some (.ok answer)) {text name : String}
    (carries : carried answer = some text) (asked : named call.request = some name)
    (read : MessageId.fromHex hex name = .ok id) {later : (api hex guardians).Pool}
    (leads : Leads (AnyOrder hex guardians) pool later) {position : Nat}
    {lookup : (api hex guardians).Call} (began : pool.calls.length ≤ position)
    (found : later.calls[position]? = some lookup) {spelling : String}
    (looksUp : lookup.request = .vaa spelling) (same : MessageId.fromHex hex spelling = .ok id)
    {outcome : Checked ApiError Answer} (ended : lookup.result? = some outcome) :
    ∃ vaa, outcome = .ok (.vaa (some vaa)) ∧ (Keyed initial → vaa.id = id.toHex hex) := by
  have stored : (pool.world.vaa? id).isSome :=
    (stored_of_reachable reachable).2 call member _ returned name id answer text asked read rfl
      carries
  rcases found_of_stored stored leads began found looksUp same ended with ⟨vaa, answered, own⟩
  exact ⟨vaa, answered, fun keyed => own (keyed_of_reachable keyed reachable)⟩

end

namespace Sample

open Types.Sample Infra.Sample

def signed : (api hex simulated).Pool :=
  (schedule (AnyOrder hex simulated) announced
    (.start (.signAsGuardian messageId 1) :: served 2 8)).get (by decide +kernel)

def lookedUp : (api hex simulated).Pool :=
  (schedule (AnyOrder hex simulated) signed (.start (.vaa messageId) :: served 3 1)).get
    (by decide +kernel)

theorem signed_reachable : Reachable (AnyOrder hex simulated) state.memory signed :=
  announced_reachable.leads (schedule_leads (Option.some_get _).symm)

theorem signed_leads : Leads (AnyOrder hex simulated) signed lookedUp :=
  schedule_leads (Option.some_get _).symm

end Sample

section

open Types.Sample Infra.Sample

theorem published_vaas_stay_available_lookup :
    ∃ (lookup : (api hex simulated).Call) (vaa : GqlVaa), Sample.lookedUp.calls[3]? = some lookup ∧
      lookup.result? = some (.ok (.vaa (some vaa))) ∧ vaa.id = Sample.messageId := by
  have answers : Sample.signed.calls.length = 3 ∧ (Sample.signed.calls[2]?).any fun call =>
      call.request = .signAsGuardian Sample.messageId 1 &&
        ((call.result?.bind Except.toOption).bind carried).isSome := by
    decide +kernel
  have looksUp : (Sample.lookedUp.calls[3]?).any fun lookup =>
      lookup.request = .vaa Sample.messageId && lookup.result?.isSome := by
    decide +kernel
  rcases (Option.any_eq_true _ _).mp answers.2 with ⟨call, found, ended⟩
  rcases (Option.any_eq_true _ _).mp looksUp with ⟨lookup, position, returns⟩
  rcases Bool.and_eq_true_iff.mp ended with ⟨signs, carries⟩
  rcases Bool.and_eq_true_iff.mp returns with ⟨asks, outcomeAt⟩
  rcases Option.isSome_iff_exists.mp outcomeAt with ⟨outcome, outcomeIs⟩
  rcases exists_carried carries with ⟨answer, text, returned, carriesText⟩
  have read := MessageId.fromHex_toHex hex_lawful announcementDigest
  have asked : named call.request = some Sample.messageId := by
    rw [of_decide_eq_true signs]
    rfl
  rcases published_vaas_stay_available Sample.signed_reachable (List.mem_of_getElem? found)
    returned carriesText asked read Sample.signed_leads answers.1.le position
    (of_decide_eq_true asks) read outcomeIs with ⟨vaa, same, own⟩
  have keyed : Keyed Sample.state.memory := by
    intro id record found
    cases found
  exact ⟨lookup, vaa, position, same ▸ outcomeIs, own keyed⟩

end

end WormVerify.Node
