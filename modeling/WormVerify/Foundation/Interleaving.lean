import Mathlib.Algebra.Order.BigOperators.Group.List
import Mathlib.Algebra.Order.Ring.Nat
import Mathlib.Logic.Relation

/-! # Concurrent calls over shared ports

Calls are programs that touch a shared world through ports only. One port call
is atomic; the port calls of different calls interleave in any order. Every
call keeps the transcript of the port calls it has made, so that properties of
a schedule can be stated on it.
-/

namespace WormVerify

/-- The operations a program may ask its ports for, with their response types. -/
structure Interface where
  Op : Type
  Response : Op → Type

inductive Program (ports : Interface) (α : Type)
  | done (value : α)
  | call (op : ports.Op) (resume : ports.Response op → Program ports α)

namespace Program

variable {ports : Interface}

def bind (program : Program ports α) (next : α → Program ports β) : Program ports β :=
  match program with
  | .done value => next value
  | .call op resume => .call op fun response => (resume response).bind next

instance : Monad (Program ports) where
  pure := .done
  bind := bind

def request (op : ports.Op) : Program ports (ports.Response op) := .call op .done

@[simp] theorem call_bind (op : ports.Op) (resume : ports.Response op → Program ports α)
    (next : α → Program ports β) :
    Program.call op resume >>= next = .call op fun response => resume response >>= next := rfl

end Program

structure Exchange (ports : Interface) where
  op : ports.Op
  response : ports.Response op

/-- A world behind ports and the requests that can be made of it. `Choice` is
what the environment decides at a single port call. -/
structure Service where
  ports : Interface
  World : Type
  Request : Type
  Result : Type
  Choice : Type
  body : Request → Program ports Result
  serve : Choice → World → (op : ports.Op) → ports.Response op × World

namespace Service

variable (service : Service)

structure Call where
  request : service.Request
  transcript : List (Exchange service.ports)
  program : Program service.ports service.Result

structure Pool where
  world : service.World
  calls : List service.Call

abbrev Rule := service.World → service.Call → service.ports.Op → Prop

variable {service}

def Call.fresh (request : service.Request) : service.Call where
  request := request
  transcript := []
  program := service.body request

def Call.result? (call : service.Call) : Option service.Result :=
  match call.program with
  | .done value => some value
  | .call _ _ => none

/-- One step of a pool: a new call begins, or one port call is served. -/
inductive Step (allowed : service.Rule) : service.Pool → service.Pool → Prop
  | start (pool : service.Pool) (request : service.Request) :
      Step allowed pool ⟨pool.world, pool.calls ++ [.fresh request]⟩
  | serve (world : service.World) (earlier later : List service.Call)
      (request : service.Request) (transcript : List (Exchange service.ports))
      (op : service.ports.Op)
      (resume : service.ports.Response op → Program service.ports service.Result)
      (choice : service.Choice)
      (permitted : allowed world ⟨request, transcript, .call op resume⟩ op) :
      Step allowed ⟨world, earlier ++ ⟨request, transcript, .call op resume⟩ :: later⟩
        ⟨(service.serve choice world op).2, earlier ++
          ⟨request, transcript ++ [⟨op, (service.serve choice world op).1⟩],
            resume (service.serve choice world op).1⟩ :: later⟩

inductive Reachable (allowed : service.Rule) (initial : service.World) : service.Pool → Prop
  | start : Reachable allowed initial ⟨initial, []⟩
  | step {pool next : service.Pool} :
      Reachable allowed initial pool → Step allowed pool next →
      Reachable allowed initial next

abbrev Leads (allowed : service.Rule) : service.Pool → service.Pool → Prop :=
  Relation.ReflTransGen (Step allowed)

theorem Reachable.leads {allowed : service.Rule} {initial : service.World}
    {pool later : service.Pool} (reachable : Reachable allowed initial pool)
    (leads : Leads allowed pool later) : Reachable allowed initial later := by
  induction leads with
  | refl => exact reachable
  | tail _ step induction => exact induction.step step

theorem Reachable.fromStart {allowed : service.Rule} {initial : service.World}
    {pool : service.Pool} (reachable : Reachable allowed initial pool) :
    Leads allowed ⟨initial, []⟩ pool := by
  induction reachable with
  | start => exact .refl
  | step _ step induction => exact induction.tail step

theorem Step.permit {allowed other : service.Rule} {pool next : service.Pool}
    (step : Step allowed pool next)
    (permits : ∀ call op choice, allowed pool.world call op →
      next.world = (service.serve choice pool.world op).2 → other pool.world call op) :
    Step other pool next := by
  cases step with
  | start _ request => exact .start pool request
  | serve world earlier later request transcript op resume choice permitted =>
      exact .serve world earlier later request transcript op resume choice
        (permits _ op choice permitted rfl)

theorem Step.world {allowed : service.Rule} {pool next : service.Pool}
    (step : Step allowed pool next) :
    next.world = pool.world ∨ ∃ call op choice, allowed pool.world call op ∧
      next.world = (service.serve choice pool.world op).2 := by
  cases step with
  | start _ request => exact .inl rfl
  | serve world earlier later request transcript op resume choice permitted =>
      exact .inr ⟨_, op, choice, permitted, rfl⟩

theorem Leads.returned {allowed : service.Rule} {pool later : service.Pool}
    (leads : Leads allowed pool later) {call : service.Call} (member : call ∈ pool.calls)
    (returned : call.result?.isSome) : call ∈ later.calls := by
  induction leads with
  | refl => exact member
  | tail _ step induction =>
      cases step with
      | start _ request => exact List.mem_append_left _ induction
      | serve world earlier rest request transcript op resume choice permitted =>
          rcases List.mem_append.mp induction with before | member
          · exact List.mem_append_left _ before
          · rcases List.mem_cons.mp member with rfl | after
            · cases returned
            · exact List.mem_append_right _ (List.mem_cons_of_mem _ after)

/-! ## Proof outlines

An outline gives every point of a program an assertion about the world. The
assertion must survive whatever other calls do, so each call promises to change
the world only along `evolves` and may rely on the others doing the same.
-/

structure Discipline (service : Service) where
  allowed : service.Rule
  /-- Holds of the world between any two port calls. -/
  invariant : service.World → Prop
  /-- How one port call may change the world. -/
  evolves : service.World → service.World → Prop
  /-- What is to be shown of every call at every point. -/
  claim : service.World → service.Call → Prop

variable (discipline : Discipline service)

/-- The discipline's proof that a program, entered in a world that satisfies
the assertion, keeps its promises. -/
inductive Outline (request : service.Request) :
    (service.World → Prop) → List (Exchange service.ports) →
      Program service.ports service.Result → Prop
  | done {assertion : service.World → Prop} {transcript : List (Exchange service.ports)}
      {value : service.Result}
      (claims : ∀ world, discipline.invariant world → assertion world →
        discipline.claim world ⟨request, transcript, .done value⟩) :
      Outline request assertion transcript (.done value)
  | call {assertion : service.World → Prop} {transcript : List (Exchange service.ports)}
      {op : service.ports.Op}
      {resume : service.ports.Response op → Program service.ports service.Result}
      (next : service.ports.Response op → service.World → Prop)
      (claims : ∀ world, discipline.invariant world → assertion world →
        discipline.claim world ⟨request, transcript, .call op resume⟩)
      (serves : ∀ world choice, discipline.invariant world → assertion world →
        discipline.allowed world ⟨request, transcript, .call op resume⟩ op →
        discipline.invariant (service.serve choice world op).2 ∧
          discipline.evolves world (service.serve choice world op).2 ∧
          next (service.serve choice world op).1 (service.serve choice world op).2)
      (stable : ∀ response before after, next response before →
        discipline.evolves before after → discipline.invariant after →
        next response after)
      (rest : ∀ response,
        Outline request (next response) (transcript ++ [⟨op, response⟩]) (resume response)) :
      Outline request assertion transcript (.call op resume)

section Rules

variable {discipline} {request : service.Request}
  {transcript : List (Exchange service.ports)}
  {program : Program service.ports service.Result}

theorem Outline.unreachable {assertion : service.World → Prop}
    (never : ∀ world, ¬assertion world) :
    Outline discipline request assertion transcript program := by
  induction program generalizing assertion transcript with
  | done value => exact .done fun world _ holds => absurd holds (never world)
  | call op resume induction =>
      apply Outline.call fun _ _ => False
      · intro world _ holds
        exact absurd holds (never world)
      · intro world choice _ holds
        exact absurd holds (never world)
      · intro response before after reached
        exact reached.elim
      · intro response
        exact induction response fun _ => id

theorem Outline.weaken {assertion stronger : service.World → Prop}
    (outline : Outline discipline request assertion transcript program)
    (implies : ∀ world, stronger world → assertion world) :
    Outline discipline request stronger transcript program := by
  cases outline with
  | done claims => exact .done fun world kept holds => claims world kept (implies world holds)
  | call next claims serves stable rest =>
      exact .call next (fun world kept holds => claims world kept (implies world holds))
        (fun world choice kept holds => serves world choice kept (implies world holds))
        stable rest

/-- A port call with an answer of which something is known, in whatever world,
and around which the assertion stays as it is. -/
theorem Outline.ask {assertion : service.World → Prop} {op : service.ports.Op}
    {resume : service.ports.Response op → Program service.ports service.Result}
    (fact : service.ports.Response op → Prop)
    (claims : ∀ world, discipline.invariant world → assertion world →
      discipline.claim world ⟨request, transcript, .call op resume⟩)
    (serves : ∀ world choice, discipline.invariant world → assertion world →
      discipline.allowed world ⟨request, transcript, .call op resume⟩ op →
      discipline.invariant (service.serve choice world op).2 ∧
        discipline.evolves world (service.serve choice world op).2 ∧
        assertion (service.serve choice world op).2 ∧
        fact (service.serve choice world op).1)
    (stable : ∀ before after, assertion before → discipline.evolves before after →
      discipline.invariant after → assertion after)
    (rest : ∀ response, fact response →
      Outline discipline request assertion (transcript ++ [⟨op, response⟩])
        (resume response)) :
    Outline discipline request assertion transcript (.call op resume) := by
  apply Outline.call fun response world => assertion world ∧ fact response
  · exact claims
  · exact serves
  · intro response before after reached evolved kept
    exact ⟨stable before after reached.1 evolved kept, reached.2⟩
  · intro response
    by_cases known : fact response
    · exact (rest response known).weaken fun world reached => reached.1
    · exact .unreachable fun world reached => known reached.2

end Rules

/-- A call at a point of its outline whose assertion holds and is stable. -/
def Supported (world : service.World) (call : service.Call) : Prop :=
  ∃ assertion, Outline discipline call.request assertion call.transcript call.program ∧
    assertion world ∧ ∀ before after, assertion before →
      discipline.evolves before after → discipline.invariant after → assertion after

variable {discipline}

theorem Supported.claims {world : service.World} {call : service.Call}
    (supported : Supported discipline world call) (invariant : discipline.invariant world) :
    discipline.claim world call := by
  rcases supported with ⟨assertion, outline, holds, -⟩
  rcases call with ⟨request, transcript, program⟩
  cases outline with
  | done claims => exact claims world invariant holds
  | call next claims serves stable rest => exact claims world invariant holds

theorem Supported.serve {world : service.World} {request : service.Request}
    {transcript : List (Exchange service.ports)} {op : service.ports.Op}
    {resume : service.ports.Response op → Program service.ports service.Result}
    (supported : Supported discipline world ⟨request, transcript, .call op resume⟩)
    (invariant : discipline.invariant world) (choice : service.Choice)
    (permitted : discipline.allowed world ⟨request, transcript, .call op resume⟩ op) :
    discipline.invariant (service.serve choice world op).2 ∧
      discipline.evolves world (service.serve choice world op).2 ∧
      Supported discipline (service.serve choice world op).2
        ⟨request, transcript ++ [⟨op, (service.serve choice world op).1⟩],
          resume (service.serve choice world op).1⟩ := by
  rcases supported with ⟨assertion, outline, holds, -⟩
  cases outline with
  | call next claims serves stable rest =>
      rcases serves world choice invariant holds permitted with ⟨kept, evolved, reached⟩
      exact ⟨kept, evolved, next _, rest _, reached, stable _⟩

theorem Supported.evolve {before after : service.World} {call : service.Call}
    (supported : Supported discipline before call)
    (evolved : discipline.evolves before after) (invariant : discipline.invariant after) :
    Supported discipline after call := by
  rcases supported with ⟨assertion, outline, holds, stable⟩
  exact ⟨assertion, outline, stable before after holds evolved invariant, stable⟩

def Outlined (discipline : Discipline service) : Prop :=
  ∀ request, Outline discipline request (fun _ => True) [] (service.body request)

theorem Outlined.fresh (outlined : Outlined discipline) (world : service.World)
    (request : service.Request) : Supported discipline world (.fresh request) :=
  ⟨fun _ => True, outlined request, trivial, fun _ _ _ _ _ => trivial⟩

def Sound (discipline : Discipline service) (pool : service.Pool) : Prop :=
  discipline.invariant pool.world ∧ ∀ call ∈ pool.calls, Supported discipline pool.world call

theorem Sound.step (outlined : Outlined discipline) {pool next : service.Pool}
    (sound : Sound discipline pool) (step : Step discipline.allowed pool next) :
    Sound discipline next := by
  rcases sound with ⟨invariant, supported⟩
  cases step with
  | start _ request =>
      refine ⟨invariant, ?_⟩
      intro call member
      rcases List.mem_append.mp member with old | new
      · exact supported call old
      · rw [List.mem_singleton.mp new]
        exact outlined.fresh pool.world request
  | serve world earlier later request transcript op resume choice permitted =>
      have served := (supported _ (by simp)).serve invariant choice permitted
      rcases served with ⟨kept, evolved, advanced⟩
      refine ⟨kept, ?_⟩
      intro call member
      rcases List.mem_append.mp member with other | member
      · exact (supported call (List.mem_append_left _ other)).evolve evolved kept
      · rcases List.mem_cons.mp member with equal | other
        · exact equal ▸ advanced
        · exact (supported call (by simp [other])).evolve evolved kept

theorem Reachable.sound (outlined : Outlined discipline) {initial : service.World}
    (start : discipline.invariant initial) {pool : service.Pool}
    (reachable : Reachable discipline.allowed initial pool) : Sound discipline pool := by
  induction reachable with
  | start => exact ⟨start, by simp⟩
  | step _ step induction => exact induction.step outlined step

/-- The rule of the method: with an outline for every request, the invariant
and the claims hold in every reachable pool. -/
theorem Reachable.claims (outlined : Outlined discipline) {initial : service.World}
    (start : discipline.invariant initial) {pool : service.Pool}
    (reachable : Reachable discipline.allowed initial pool) :
    discipline.invariant pool.world ∧
      ∀ call ∈ pool.calls, discipline.claim pool.world call := by
  rcases reachable.sound outlined start with ⟨invariant, supported⟩
  exact ⟨invariant, fun call member => (supported call member).claims invariant⟩

/-- A preorder that contains `evolves` relates a reachable pool to every later
one. -/
theorem Reachable.evolves (outlined : Outlined discipline) {initial : service.World}
    (start : discipline.invariant initial) {pool later : service.Pool}
    (reachable : Reachable discipline.allowed initial pool)
    (leads : Leads discipline.allowed pool later)
    {related : service.World → service.World → Prop} (refl : ∀ world, related world world)
    (trans : ∀ first second third,
      related first second → related second third → related first third)
    (contains : ∀ before after, discipline.evolves before after → related before after) :
    related pool.world later.world := by
  induction leads with
  | refl => exact refl pool.world
  | tail leads step induction =>
      have sound := (reachable.leads leads).sound outlined start
      cases step with
      | start _ request => exact induction
      | serve world earlier rest request transcript op resume choice permitted =>
          have served := (sound.2 _ (by simp)).serve sound.1 choice permitted
          exact trans _ _ _ induction (contains _ _ served.2.1)

/-! ## Tallies

A quantity of the world that every port call changes by the weight of the call
equals the total weight of all transcripts.
-/

def weight {ports : Interface} (weigh : ports.Op → Nat) (transcript : List (Exchange ports)) :
    Nat :=
  (transcript.map fun exchange => weigh exchange.op).sum

def total (weigh : service.ports.Op → Nat) (calls : List service.Call) : Nat :=
  (calls.map fun call => weight weigh call.transcript).sum

section

variable {ports : Interface} (weigh : ports.Op → Nat)

@[simp] theorem weight_nil : weight weigh [] = 0 := rfl

@[simp] theorem weight_append (first second : List (Exchange ports)) :
    weight weigh (first ++ second) = weight weigh first + weight weigh second := by
  simp [weight]

@[simp] theorem weight_cons (exchange : Exchange ports) (rest : List (Exchange ports)) :
    weight weigh (exchange :: rest) = weigh exchange.op + weight weigh rest := by
  simp [weight]

end

@[simp] theorem total_nil (weigh : service.ports.Op → Nat) :
    total weigh ([] : List service.Call) = 0 := rfl

@[simp] theorem total_append (weigh : service.ports.Op → Nat)
    (first second : List service.Call) :
    total weigh (first ++ second) = total weigh first + total weigh second := by
  simp [total]

@[simp] theorem total_cons (weigh : service.ports.Op → Nat)
    (call : service.Call) (rest : List service.Call) :
    total weigh (call :: rest) = weight weigh call.transcript + total weigh rest := by
  simp [total]

theorem Reachable.tally (outlined : Outlined discipline) {initial : service.World}
    (start : discipline.invariant initial) {pool : service.Pool}
    (reachable : Reachable discipline.allowed initial pool)
    (weigh : service.ports.Op → Nat) (measure : service.World → Nat)
    (begins : measure initial = 0)
    (counts : ∀ world request transcript op resume choice,
      discipline.invariant world →
      discipline.claim world ⟨request, transcript, .call op resume⟩ →
      discipline.allowed world ⟨request, transcript, .call op resume⟩ op →
      measure (service.serve choice world op).2 = measure world + weigh op) :
    total weigh pool.calls = measure pool.world := by
  induction reachable with
  | start => exact begins.symm
  | step reachable step induction =>
      rcases reachable.claims outlined start with ⟨invariant, claims⟩
      cases step with
      | start _ request => simp [induction, Call.fresh]
      | serve world earlier later request transcript op resume choice permitted =>
          have counted := counts world request transcript op resume choice invariant
            (claims _ (by simp)) permitted
          simp only [total_append, total_cons, weight_append, weight_cons, weight_nil] at *
          omega

theorem total_le_total (lighter heavier : service.ports.Op → Nat) {calls : List service.Call}
    (lightest : ∀ call ∈ calls,
      weight lighter call.transcript ≤ weight heavier call.transcript) :
    total lighter calls ≤ total heavier calls :=
  List.sum_le_sum lightest

theorem total_congr (first second : service.ports.Op → Nat) {calls : List service.Call}
    (same : ∀ call ∈ calls, weight first call.transcript = weight second call.transcript) :
    total first calls = total second calls :=
  congrArg List.sum (List.map_congr_left same)

theorem countP_le_total (weigh : service.ports.Op → Nat) (selected : service.Call → Bool)
    (calls : List service.Call)
    (heavy : ∀ call ∈ calls, selected call = true → 1 ≤ weight weigh call.transcript) :
    calls.countP selected ≤ total weigh calls := by
  induction calls with
  | nil => simp
  | cons head tail induction =>
      have rest := induction fun call member => heavy call (List.mem_cons_of_mem _ member)
      have first := heavy head List.mem_cons_self
      rw [total_cons, List.countP_cons]
      split
      · rename_i chosen
        have := first chosen
        omega
      · omega

/-! ## Executing a schedule -/

inductive Action (service : Service)
  | start (request : service.Request)
  | serve (position : Nat) (choice : service.Choice)

/-- Take one step of a schedule, unless the rule forbids it. -/
def act (allowed : service.Rule) [∀ world call op, Decidable (allowed world call op)]
    (pool : service.Pool) : Action service → Option service.Pool
  | .start request => some ⟨pool.world, pool.calls ++ [.fresh request]⟩
  | .serve position choice =>
      match pool.calls[position]? with
      | some ⟨request, transcript, .call op resume⟩ =>
          if allowed pool.world ⟨request, transcript, .call op resume⟩ op then
            let served := service.serve choice pool.world op
            some ⟨served.2, pool.calls.take position ++
              ⟨request, transcript ++ [⟨op, served.1⟩], resume served.1⟩ ::
                pool.calls.drop (position + 1)⟩
          else
            none
      | _ => none

def schedule (allowed : service.Rule) [∀ world call op, Decidable (allowed world call op)]
    (pool : service.Pool) : List (Action service) → Option service.Pool
  | [] => some pool
  | action :: rest =>
      match act allowed pool action with
      | some next => schedule allowed next rest
      | none => none

variable {allowed : service.Rule} [∀ world call op, Decidable (allowed world call op)]

theorem act_serve {pool next : service.Pool} {position : Nat} {choice : service.Choice}
    (acted : act allowed pool (.serve position choice) = some next) :
    ∃ request transcript op resume,
      pool.calls[position]? = some ⟨request, transcript, .call op resume⟩ ∧
      allowed pool.world ⟨request, transcript, .call op resume⟩ op ∧
      pool.calls = pool.calls.take position ++
        ⟨request, transcript, .call op resume⟩ :: pool.calls.drop (position + 1) ∧
      next = ⟨(service.serve choice pool.world op).2, pool.calls.take position ++
        ⟨request, transcript ++ [⟨op, (service.serve choice pool.world op).1⟩],
          resume (service.serve choice pool.world op).1⟩ ::
          pool.calls.drop (position + 1)⟩ := by
  rw [act] at acted
  split at acted
  · rename_i request transcript op resume found
    split at acted
    · rename_i permitted
      rcases List.getElem?_eq_some_iff.mp found with ⟨inside, at_position⟩
      refine ⟨request, transcript, op, resume, found, permitted, ?_,
        (Option.some.inj acted).symm⟩
      rw [← at_position, List.getElem_cons_drop, List.take_append_drop]
    · cases acted
  · cases acted

theorem act_step {pool next : service.Pool} {action : Action service}
    (acted : act allowed pool action = some next) : Step allowed pool next := by
  cases action with
  | start request =>
      cases acted
      exact .start pool request
  | serve position choice =>
      rcases act_serve acted with
        ⟨request, transcript, op, resume, -, permitted, shape, rfl⟩
      have step := Step.serve pool.world (pool.calls.take position)
        (pool.calls.drop (position + 1)) request transcript op resume choice permitted
      rw [← shape] at step
      exact step

theorem schedule_leads {pool next : service.Pool} {actions : List (Action service)}
    (scheduled : schedule allowed pool actions = some next) : Leads allowed pool next := by
  induction actions generalizing pool with
  | nil =>
      cases scheduled
      exact .refl
  | cons action rest induction =>
      rw [schedule] at scheduled
      split at scheduled
      · rename_i middle acted
        exact .head (act_step acted) (induction scheduled)
      · cases scheduled

theorem schedule_reachable {initial : service.World} {pool : service.Pool}
    {actions : List (Action service)}
    (scheduled : schedule allowed ⟨initial, []⟩ actions = some pool) :
    Reachable allowed initial pool :=
  Reachable.start.leads (schedule_leads scheduled)

end Service

end WormVerify
