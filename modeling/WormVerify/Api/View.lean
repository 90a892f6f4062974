import WormVerify.Api.Schema
import WormVerify.Infra.Reliance

/-! # The engine behind the schema

A mutation that is granted a permit and whose arguments can be read runs one
request of the engine. All other operations only read.
-/

namespace WormVerify.Api

open WormVerify.Types WormVerify.Core WormVerify.Infra Service Program Checked

def Reads : apiPorts.Op → Prop
  | .inl _ => True
  | .inr .listPending | .inr (.getVaa _) | .inr .countVaas | .inr .currentGuardianSet => True
  | .inr _ => False

def Idle (program : Program apiPorts α) : Prop :=
  program.Obeys Reads (fun _ _ => True) fun _ => True

section

variable {crypto : Crypto} {signing : Signing crypto}

/-- An engine program whose reply is then rendered. -/
def rendered (inner : Program ports Reply) (render : Reply → Checked ApiError Answer) :
    Program apiPorts (Checked ApiError Answer) :=
  inner.within limiterPorts >>= fun reply => .done (render reply)

def permitted (program : Program apiPorts (Checked ApiError Answer)) :
    Except RateLimited Unit → Program apiPorts (Checked ApiError Answer)
  | .ok () => program
  | .error _ => .done (fail ⟨"rate limit exceeded"⟩)

def screened (program : Program apiPorts (Checked ApiError Answer)) :
    Program apiPorts (Checked ApiError Answer) :=
  .call (.inl .tryAcquire) (permitted program)

def observed : Reply → Checked EngineError MessageId
  | .observed outcome => outcome
  | _ => panic

def submitted : Reply → Checked EngineError SubmitOutcome
  | .submitted outcome => outcome
  | _ => panic

def render (hex : Hex) : Request → Reply → Checked ApiError Answer
  | .observe _ _, reply =>
      (mapError toErr (observed reply)).map fun id => .submitObservation (id.toHex hex)
  | .submit id _, reply =>
      (mapError toErr (submitted reply)).map fun outcome =>
        .signAsGuardian (submitResult hex id outcome)
  | .upgrade _, _ => panic

variable (hex : Hex) (guardians : SimulatedGuardians signing)

def registry : InMemoryGuardianRegistry := .new guardians.guardianSet

inductive Asks : Operation → Request → Prop
  | observe (input : ObservationInput) (body : VaaBody) (read : input.intoBody hex = .ok body) :
      Asks (.submitObservation input) (.observe input.guardianSetIndex body)
  | submit (text : String) (guardianIndex : UInt8) (id : MessageId)
      (signature : GuardianSignature) (read : MessageId.fromHex hex text = .ok id)
      (signed : guardians.sign guardianIndex id = some signature) :
      Asks (.signAsGuardian text guardianIndex) (.submit id signature)

def Engages (operation : Operation) (program : Program apiPorts (Checked ApiError Answer)) :
    Prop :=
  ∃ request, Asks hex guardians operation request ∧
    program = rendered ((aggregator crypto).body request) (render hex request)

def granted (call : (api hex guardians).Call) : Bool :=
  call.transcript.any fun exchange =>
    match exchange with
    | ⟨.inl .tryAcquire, .ok ()⟩ => true
    | _ => false

/-- What a call of the schema shows of the engine. -/
inductive Shows : (api hex guardians).Call → Option (aggregator crypto).Call → Prop
  | idle {request : Operation} {transcript : List (Exchange apiPorts)}
      {program : Program apiPorts (Checked ApiError Answer)} (idle : Idle program) :
      Shows ⟨request, transcript, program⟩ none
  | screening {request : Operation} {transcript : List (Exchange apiPorts)}
      {resume : Except RateLimited Unit → Program apiPorts (Checked ApiError Answer)}
      (opens : ∀ answer, Idle (resume answer) ∨
        answer = .ok () ∧ Engages hex guardians request (resume answer)) :
      Shows ⟨request, transcript, .call (.inl .tryAcquire) resume⟩ none
  | engaged {request : Operation} {transcript : List (Exchange apiPorts)} {behind : Request}
      {asked : List (Exchange ports)} {inner : Program ports Reply}
      {render : Reply → Checked ApiError Answer} (asks : Asks hex guardians request behind)
      (permit : granted hex guardians ⟨request, transcript, rendered inner render⟩ = true)
      (obeys : inner.Obeys Served (Truthful crypto (registry guardians)) fun _ => True) :
      Shows ⟨request, transcript, rendered inner render⟩ (some ⟨behind, asked, inner⟩)

end

/-! ## Operations that are seen from behind -/

section

variable {crypto : Crypto} {signing : Signing crypto} {hex : Hex}
  {guardians : SimulatedGuardians signing}

theorem reads_serve {op : PortOp} (reads : Reads (.inr op)) (now : Int64) (memory : Memory) :
    (memory.serve now op).2 = memory := by
  cases op with
  | listPending | getVaa _ | countVaas | currentGuardianSet => rfl
  | _ => exact reads.elim

theorem argument_ok (value : α) (next : α → ResolverM β) :
    argument (.ok value) >>= next = next value := rfl

theorem rendered_eq {computation : EngineM α} {reply : Checked EngineError α → Reply}
    {render : Reply → Checked ApiError Answer} {present : α → β} {answer : β → Answer}
    (renders : ∀ outcome,
      render (reply outcome) = (mapError toErr outcome).map fun value => answer (present value)) :
    (answer <$> do return present (← engine computation) : ResolverM Answer).run =
      rendered (reply <$> computation.run) render := by
  change (mapError toErr <$> computation.run.within limiterPorts) >>= _ >>= _ =
    (computation.run >>= fun outcome => .done (reply outcome)).within limiterPorts >>= _
  rw [within_bind]
  change computation.run.within limiterPorts >>= _ >>= _ >>= _ = _
  simp only [bind_bind]
  congr 1
  funext outcome
  change _ = Program.done (render (reply outcome))
  rw [renders]
  rcases outcome with fault | value
  · cases fault <;> rfl
  · rfl

theorem screened_eq {answer : α → Answer} {rest : ResolverM α} :
    (answer <$> do rateLimit; rest : ResolverM Answer).run = screened (answer <$> rest).run := by
  change Program.call _ _ = _
  rw [screened]
  congr 1
  funext verdict
  cases verdict <;> rfl

/-- A mutation runs what it asks of the engine, once it has a permit. -/
theorem body_of_asks {operation : Operation} {request : Request}
    (asks : Asks hex guardians operation request) :
    (api hex guardians).body operation =
      screened (rendered ((aggregator crypto).body request) (render hex request)) := by
  cases asks with
  | observe input body read =>
      change (Answer.submitObservation <$> MutationRoot.submitObservation hex crypto input).run = _
      rw [MutationRoot.submitObservation, screened_eq, read, argument_ok]
      exact congrArg screened (rendered_eq fun _ => rfl)
  | submit text guardianIndex id signature read signed =>
      change (Answer.signAsGuardian <$>
        MutationRoot.signAsGuardian hex crypto guardians text guardianIndex).run = _
      rw [MutationRoot.signAsGuardian, screened_eq, read, argument_ok, signed]
      exact congrArg screened (rendered_eq fun _ => rfl)

theorem Asks.obeys {operation : Operation} {request : Request}
    (asks : Asks hex guardians operation request) {registry : InMemoryGuardianRegistry} :
    ((aggregator crypto).body request).Obeys Served (Truthful crypto registry) fun _ => True := by
  have tells : ((aggregator crypto).body request).Obeys (Tells registry)
      (Truthful crypto registry) fun _ => True := by
    cases asks with
    | observe => exact Obeys.bind observe_obeys fun _ _ => trivial
    | submit => exact Obeys.bind submit_obeys fun _ _ => trivial
  exact tells.permit fun _ => Tells.served

theorem screened_shows {operation : Operation}
    {program : Program apiPorts (Checked ApiError Answer)}
    (shape : (api hex guardians).body operation = screened program)
    (opens : Idle program ∨ Engages hex guardians operation program) :
    Shows hex guardians (.fresh operation) none := by
  change Shows hex guardians ⟨operation, [], (api hex guardians).body operation⟩ none
  rw [shape]
  apply Shows.screening
  intro verdict
  cases verdict with
  | error limited => exact .inl trivial
  | ok _ => exact opens.imp_right fun engages => ⟨rfl, engages⟩

theorem fresh_shows (operation : Operation) : Shows hex guardians (.fresh operation) none := by
  cases operation with
  | health => exact .idle trivial
  | vaa id =>
      apply Shows.idle
      change Idle (Answer.vaa <$> QueryRoot.vaa hex id).run
      rw [QueryRoot.vaa]
      cases MessageId.fromHex hex id with
      | error message => trivial
      | ok mid => exact ⟨trivial, fun response _ => by cases response <;> trivial⟩
  | pendingMessages =>
      exact .idle ⟨trivial, fun response _ => by cases response <;> trivial⟩
  | guardianSet =>
      exact .idle ⟨trivial, fun response _ => by cases response <;> trivial⟩
  | stats =>
      apply Shows.idle
      refine ⟨trivial, fun response _ => ?_⟩
      cases response with
      | error error => trivial
      | ok listed => exact ⟨trivial, fun counted _ => by cases counted <;> trivial⟩
  | submitObservation input =>
      cases read : input.intoBody hex with
      | error message =>
          apply screened_shows screened_eq
          rw [read]
          exact .inl trivial
      | ok body =>
          have asks : Asks hex guardians _ _ := .observe input body read
          exact screened_shows (body_of_asks asks) (.inr ⟨_, asks, rfl⟩)
  | signAsGuardian messageId guardianIndex =>
      cases read : MessageId.fromHex hex messageId with
      | error message =>
          apply screened_shows screened_eq
          rw [read]
          exact .inl trivial
      | ok mid =>
          cases signed : guardians.sign guardianIndex mid with
          | none =>
              apply screened_shows screened_eq
              rw [read, argument_ok, signed]
              exact .inl trivial
          | some signature =>
              have asks : Asks hex guardians _ _ :=
                .submit messageId guardianIndex mid signature read signed
              exact screened_shows (body_of_asks asks) (.inr ⟨_, asks, rfl⟩)

/-! ## The view -/

theorem granted_concat {request : Operation} {transcript : List (Exchange apiPorts)}
    {exchange : Exchange apiPorts} {program later : Program apiPorts (Checked ApiError Answer)}
    (permit : granted hex guardians ⟨request, transcript, program⟩ = true) :
    granted hex guardians ⟨request, transcript ++ [exchange], later⟩ = true := by
  rw [granted] at permit ⊢
  rw [List.any_append, permit, Bool.true_or]

theorem shows_serve {memory : Memory} {calls : List (aggregator crypto).Call}
    {request : Operation} {transcript : List (Exchange apiPorts)} {op : apiPorts.Op}
    {resume : apiPorts.Response op → Program apiPorts (Checked ApiError Answer)}
    {seen : Option (aggregator crypto).Call} (choice : Except RateLimited Unit × Int64)
    (behind : Reachable (Unupgraded crypto) (.new (registry guardians)) ⟨memory, calls⟩)
    (shows : Shows hex guardians ⟨request, transcript, .call op resume⟩ seen) :
    ∃ shown, Moves (Unupgraded crypto) memory seen
        ((api hex guardians).serve choice memory op).2 shown ∧
      Shows hex guardians ⟨request,
        transcript ++ [⟨op, ((api hex guardians).serve choice memory op).1⟩],
        resume ((api hex guardians).serve choice memory op).1⟩ shown := by
  generalize program : Program.call op resume = current at shows
  cases shows with
  | idle idle =>
      subst program
      refine ⟨none, ?_, .idle (idle.2 _ trivial)⟩
      cases op with
      | inl limiterOp => exact Moves.idle _ _
      | inr op =>
          have unchanged := reads_serve idle.1 choice.2 memory
          change Moves (Unupgraded crypto) memory none (memory.serve choice.2 op).2 none
          rw [unchanged]
          exact Moves.idle _ _
  | @screening _ _ later opens =>
      cases program
      rcases opens choice.1 with idle | ⟨permit, behindRequest, asks, shape⟩
      · exact ⟨none, Moves.idle _ _, .idle idle⟩
      · refine ⟨some (.fresh behindRequest), Moves.begins _ _, ?_⟩
        change Shows hex guardians ⟨request, transcript ++ [⟨.inl .tryAcquire, choice.1⟩],
          later choice.1⟩ _
        rw [shape]
        refine .engaged asks ?_ asks.obeys
        rw [granted, permit, List.any_append]
        exact Bool.or_true _
  | @engaged _ _ behindRequest asked inner render asks permit obeys =>
      cases inner with
      | done reply => cases program
      | call innerOp innerResume =>
          cases program
          have sound := unupgraded_sound behind
          have truthful := truthful_serve sound.1 sound.2 innerOp choice.2
          have moves := @Moves.serves (aggregator crypto) (Unupgraded crypto) memory behindRequest
            asked innerOp innerResume choice.2 obeys.1
          exact ⟨_, moves, .engaged asks (granted_concat permit) (obeys.2 _ truthful)⟩

def AnyOrder (hex : Hex) (guardians : SimulatedGuardians signing) :
    (api hex guardians).Rule := fun _ _ _ => True

def view (hex : Hex) (guardians : SimulatedGuardians signing) :
    View (api hex guardians) (aggregator crypto) (AnyOrder hex guardians) (Unupgraded crypto)
      (.new (registry guardians)) where
  world memory := memory
  Shows := Shows hex guardians
  fresh := fresh_shows
  serve _ _ _ _ _ _ choice _ behind _ shows := shows_serve choice behind shows

theorem granted_of_shows {call : (api hex guardians).Call} {seen : (aggregator crypto).Call}
    (shows : Shows hex guardians call (some seen)) :
    granted hex guardians call = true ∧ Asks hex guardians call.request seen.request := by
  cases shows with
  | engaged asks permit obeys => exact ⟨permit, asks⟩

theorem seen_le_granted {calls : List (api hex guardians).Call}
    {seen : List (Option (aggregator crypto).Call)}
    (shows : List.Forall₂ (Shows hex guardians) calls seen) :
    seen.reduceOption.length ≤ calls.countP (granted hex guardians) := by
  induction shows with
  | nil => exact Nat.le_refl 0
  | cons head tail induction =>
      rw [List.countP_cons]
      rename_i call shown _ _
      cases shown with
      | none =>
          rw [List.reduceOption_cons_of_none]
          omega
      | some inner =>
          rw [List.reduceOption_cons_of_some, if_pos (granted_of_shows head).1]
          exact Nat.succ_le_succ induction

theorem seen_asked {calls : List (api hex guardians).Call}
    {seen : List (Option (aggregator crypto).Call)}
    (shows : List.Forall₂ (Shows hex guardians) calls seen) :
    ∀ inner ∈ seen.reduceOption, ∃ call ∈ calls, granted hex guardians call = true ∧
      Asks hex guardians call.request inner.request := by
  intro inner member
  rw [List.reduceOption_mem_iff] at member
  rcases List.mem_iff_getElem.mp member with ⟨position, inside, found⟩
  have paired := shows.get (shows.length_eq.symm ▸ inside) inside
  rw [List.get_eq_getElem, List.get_eq_getElem, found] at paired
  exact ⟨_, List.getElem_mem _, granted_of_shows paired⟩

/-- Every state of the schema is a state of the engine, whose calls were each
asked for by a call of the schema with a permit of the limiter. -/
theorem engine_behind {pool : (api hex guardians).Pool}
    (reachable : Reachable (AnyOrder hex guardians) (.new (registry guardians)) pool) :
    ∃ calls, Reachable (Unupgraded crypto) (.new (registry guardians)) ⟨pool.world, calls⟩ ∧
      calls.length ≤ pool.calls.countP (granted hex guardians) ∧
      ∀ inner ∈ calls, ∃ call ∈ pool.calls, granted hex guardians call = true ∧
        Asks hex guardians call.request inner.request := by
  rcases (view hex guardians).reachable reachable with ⟨seen, calls, shows, behind, arranged⟩
  refine ⟨calls, behind, arranged.length_eq ▸ seen_le_granted shows, ?_⟩
  intro inner member
  exact seen_asked shows inner (arranged.mem_iff.mp member)

end

end WormVerify.Api
