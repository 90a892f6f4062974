import WormVerify.Foundation.Reliance
import WormVerify.Foundation.Sequential
import Mathlib.Data.List.ReduceOption

/-! # Services in front of services

A service may serve its requests by running the programs of another one, next to
port calls of its own. What holds of the service behind carries over along a
view: every pool of the service in front shows a pool of the service behind.
-/

namespace WormVerify

abbrev Interface.beside (own inner : Interface) : Interface where
  Op := own.Op ⊕ inner.Op
  Response
    | .inl op => own.Response op
    | .inr op => inner.Response op

namespace Program

variable {ports own inner : Interface}

def within (own : Interface) (program : Program inner α) : Program (own.beside inner) α :=
  match program with
  | .done value => .done value
  | .call op resume => .call (.inr op) fun response => (resume response).within own

theorem bind_bind (program : Program ports α) (next : α → Program ports β)
    (last : β → Program ports γ) :
    program >>= next >>= last = program >>= fun value => next value >>= last := by
  induction program with
  | done value => rfl
  | call op resume induction =>
      simp only [call_bind]
      congr 1
      funext response
      exact induction response

theorem within_bind (program : Program inner α) (next : α → Program inner β) :
    (program >>= next).within own =
      program.within own >>= fun value => (next value).within own := by
  induction program with
  | done value => rfl
  | call op resume induction =>
      simp only [call_bind, within]
      congr 1
      funext response
      exact induction response

theorem Obeys.within {guarantee : (own.beside inner).Op → Prop}
    {rely : (op : (own.beside inner).Op) → (own.beside inner).Response op → Prop}
    {program : Program inner α} {ends : α → Prop}
    (obeys : program.Obeys (fun op => guarantee (.inr op)) (fun op => rely (.inr op)) ends) :
    (program.within own).Obeys guarantee rely ends := by
  induction program with
  | done value => exact obeys
  | call op resume induction =>
      exact ⟨obeys.1, fun response relied => induction response (obeys.2 response relied)⟩

theorem Spends.within {weigh : (own.beside inner).Op → Nat} {program : Program inner α}
    {budget : Nat} (spends : program.Spends (fun op => weigh (.inr op)) budget) :
    (program.within own).Spends weigh budget := by
  induction program generalizing budget with
  | done value => trivial
  | call op resume induction =>
      exact ⟨spends.1, fun response => induction response (spends.2 response)⟩

end Program

namespace Service

/-! ## Programs in a pool -/

section

variable {service : Service} {allowed : service.Rule} {initial : service.World}

/-- A schedule may serve the rest of one call at once. -/
theorem leads_perform (free : ∀ world call op, allowed world call op)
    (earlier later : List service.Call) (request : service.Request)
    (transcript : List (Exchange service.ports))
    (program : Program service.ports service.Result) (choices : Nat → service.Choice)
    (world : service.World) :
    Leads allowed ⟨world, earlier ++ ⟨request, transcript, program⟩ :: later⟩
      ⟨(service.perform program choices world).2, earlier ++
        ⟨request, transcript ++ (service.perform program choices world).1.transcript,
          .done (service.perform program choices world).1.result⟩ :: later⟩ := by
  induction program generalizing transcript choices world with
  | done value =>
      rw [perform, List.append_nil]
  | call op resume induction =>
      have rest := induction (service.serve (choices 0) world op).1
        (transcript ++ [⟨op, (service.serve (choices 0) world op).1⟩])
        (fun turn => choices (turn + 1)) (service.serve (choices 0) world op).2
      rw [List.append_assoc] at rest
      exact .head (.serve world earlier later request transcript op resume (choices 0)
        (free _ _ _)) rest

theorem leads_request (free : ∀ world call op, allowed world call op) (pool : service.Pool)
    (request : service.Request) (choices : Nat → service.Choice) :
    let performed := service.perform (service.body request) choices pool.world
    Leads allowed pool ⟨performed.2,
      pool.calls ++ [⟨request, performed.1.transcript, .done performed.1.result⟩]⟩ :=
  .head (.start pool request) (leads_perform free pool.calls [] request [] _ choices pool.world)

def afterTurns (service : Service) (pool : service.Pool) : List (Turn service) → service.Pool
  | [] => pool
  | turn :: rest =>
      let performed := service.perform (service.body turn.request) turn.choices pool.world
      afterTurns service ⟨performed.2, pool.calls ++
        [⟨turn.request, performed.1.transcript, .done performed.1.result⟩]⟩ rest

theorem leads_afterTurns (free : ∀ world call op, allowed world call op) (pool : service.Pool)
    (turns : List (Turn service)) : Leads allowed pool (service.afterTurns pool turns) := by
  induction turns generalizing pool with
  | nil => exact .refl
  | cons turn rest induction =>
      exact (leads_request free pool turn.request turn.choices).trans (induction _)

theorem requests_afterTurns (pool : service.Pool) (turns : List (Turn service)) :
    (service.afterTurns pool turns).calls.map Call.request =
      pool.calls.map Call.request ++ turns.map Turn.request := by
  induction turns generalizing pool with
  | nil => exact (List.append_nil _).symm
  | cons turn rest induction => simp [afterTurns, induction]

end

/-! ## Another world behind the ports -/

abbrev onWorld (service : Service) (World : Type)
    (serve : service.Choice → World → (op : service.ports.Op) → service.ports.Response op × World) :
    Service where
  ports := service.ports
  World := World
  Request := service.Request
  Result := service.Result
  Choice := service.Choice
  body := service.body
  serve := serve

section

variable {service : Service} {World : Type}
  {serve : service.Choice → World → (op : service.ports.Op) → service.ports.Response op × World}

def Call.onWorld (call : service.Call) : (service.onWorld World serve).Call where
  request := call.request
  transcript := call.transcript
  program := call.program

/-- If a related world answers every port call of a reachable pool alike and stays
related, then the same calls are reachable over it, port call for port call. The
pools may be limited to requests of some kind. -/
theorem Reachable.onWorld {allowed : service.Rule} {initial : service.World}
    {suitable : service.Request → Prop} {related : service.World → World → Prop}
    (alike : ∀ pool, Reachable allowed initial pool → (∀ call ∈ pool.calls, suitable call.request) →
      ∀ call op choice other, allowed pool.world call op → related pool.world other →
      (serve choice other op).1 = (service.serve choice pool.world op).1 ∧
        related (service.serve choice pool.world op).2 (serve choice other op).2)
    {start : World} (begins : related initial start) {pool : service.Pool}
    (reachable : Reachable allowed initial pool)
    (limited : ∀ call ∈ pool.calls, suitable call.request) :
    ∃ world, related pool.world world ∧
      @Reachable (service.onWorld World serve) (fun _ _ _ => True) start
        ⟨world, pool.calls.map Call.onWorld⟩ := by
  induction reachable with
  | start => exact ⟨start, begins, .start⟩
  | step reachable step induction =>
      cases step with
      | start pool request =>
          rw [List.forall_mem_append, List.forall_mem_singleton] at limited
          rcases induction limited.1 with ⟨world, same, reached⟩
          refine ⟨world, same, ?_⟩
          rw [List.map_append]
          exact reached.step (@Step.start (service.onWorld World serve) _ ⟨world, _⟩ request)
      | serve world earlier later request transcript op resume choice permitted =>
          have limitedBefore : ∀ call ∈ earlier ++ ⟨request, transcript, .call op resume⟩ :: later,
              suitable call.request := by
            rw [List.forall_mem_append, List.forall_mem_cons] at limited ⊢
            exact limited
          rcases induction limitedBefore with ⟨other, same, reached⟩
          rcases alike _ reachable limitedBefore _ op choice other permitted same with
            ⟨answers, after⟩
          refine ⟨_, after, ?_⟩
          rw [List.map_append, List.map_cons] at reached ⊢
          rw [← answers]
          exact reached.step (@Step.serve (service.onWorld World serve) _ other _ _ request
            transcript op resume choice trivial)

end

/-! ## Views -/

section

variable {front back : Service}

/-- What one step in front may do behind: nothing, begin a call, or serve one
port call. -/
inductive Moves (permitted : back.Rule) :
    back.World → Option back.Call → back.World → Option back.Call → Prop
  | idle (world : back.World) (seen : Option back.Call) : Moves permitted world seen world seen
  | begins (world : back.World) (request : back.Request) :
      Moves permitted world none world (some (.fresh request))
  | serves (world : back.World) (request : back.Request)
      (transcript : List (Exchange back.ports)) (op : back.ports.Op)
      (resume : back.ports.Response op → Program back.ports back.Result) (choice : back.Choice)
      (permit : permitted world ⟨request, transcript, .call op resume⟩ op) :
      Moves permitted world (some ⟨request, transcript, .call op resume⟩)
        (back.serve choice world op).2
        (some ⟨request, transcript ++ [⟨op, (back.serve choice world op).1⟩],
          resume (back.serve choice world op).1⟩)

/-- How the calls of one service show calls of another one behind it, in runs
from a world. -/
structure View (front back : Service) (allowed : front.Rule) (permitted : back.Rule)
    (start : front.World) where
  world : front.World → back.World
  Shows : front.Call → Option back.Call → Prop
  fresh : ∀ request, Shows (.fresh request) none
  serve : ∀ before calls request transcript op resume choice seen,
    Reachable permitted (world start) ⟨world before, calls⟩ →
    allowed before ⟨request, transcript, .call op resume⟩ op →
    Shows ⟨request, transcript, .call op resume⟩ seen →
    ∃ shown, Moves permitted (world before) seen (world (front.serve choice before op).2) shown ∧
      Shows ⟨request, transcript ++ [⟨op, (front.serve choice before op).1⟩],
        resume (front.serve choice before op).1⟩ shown

theorem forall₂_split {holds : α → β → Prop} {earlier later : List α} {middle : α}
    {seen : List β} (related : List.Forall₂ holds (earlier ++ middle :: later) seen) :
    ∃ before shown after, seen = before ++ shown :: after ∧ List.Forall₂ holds earlier before ∧
      holds middle shown ∧ List.Forall₂ holds later after := by
  induction earlier generalizing seen with
  | nil =>
      rcases List.forall₂_cons_left_iff.mp related with ⟨shown, after, head, tail, rfl⟩
      exact ⟨[], shown, after, rfl, .nil, head, tail⟩
  | cons first earlier induction =>
      rcases List.forall₂_cons_left_iff.mp related with ⟨firstSeen, rest, head, tail, rfl⟩
      rcases induction tail with ⟨before, shown, after, rfl, pairs, middle, remaining⟩
      exact ⟨firstSeen :: before, shown, after, rfl, .cons head pairs, middle, remaining⟩

variable {allowed : front.Rule} {permitted : back.Rule} {start : front.World}
  {initial : back.World}

theorem Moves.reachable {world next : back.World} {seen shown : Option back.Call}
    (moves : Moves permitted world seen next shown) {before after : List (Option back.Call)}
    {calls : List back.Call} (reachable : Reachable permitted initial ⟨world, calls⟩)
    (arranged : calls.Perm (before ++ seen :: after).reduceOption) :
    ∃ moved, Reachable permitted initial ⟨next, moved⟩ ∧
      moved.Perm (before ++ shown :: after).reduceOption := by
  cases moves with
  | idle => exact ⟨calls, reachable, arranged⟩
  | begins request =>
      refine ⟨calls ++ [.fresh request], reachable.step (.start _ request), ?_⟩
      simp only [List.reduceOption_append, List.reduceOption_cons_of_none,
        List.reduceOption_cons_of_some] at arranged ⊢
      exact (List.perm_append_singleton _ _).trans ((arranged.cons _).trans
        List.perm_middle.symm)
  | serves request transcript op resume choice permit =>
      rw [List.reduceOption_append, List.reduceOption_cons_of_some] at arranged
      have member := arranged.mem_iff.mpr (List.mem_append_right _ List.mem_cons_self)
      rcases List.append_of_mem member with ⟨earlier, later, rfl⟩
      refine ⟨_, reachable.step (.serve world earlier later request transcript op resume choice
        permit), ?_⟩
      have others := (List.perm_cons _).mp
        (List.perm_middle.symm.trans (arranged.trans List.perm_middle))
      rw [List.reduceOption_append, List.reduceOption_cons_of_some]
      exact List.perm_middle.trans ((others.cons _).trans List.perm_middle.symm)

/-- Every reachable pool in front shows a reachable pool behind, call for
call. -/
theorem View.reachable (view : View front back allowed permitted start) {pool : front.Pool}
    (reachable : Reachable allowed start pool) :
    ∃ seen calls, List.Forall₂ view.Shows pool.calls seen ∧
      Reachable permitted (view.world start) ⟨view.world pool.world, calls⟩ ∧
      calls.Perm seen.reduceOption := by
  induction reachable with
  | start => exact ⟨[], [], .nil, .start, .refl _⟩
  | step reachable step induction =>
      rcases induction with ⟨seen, calls, shows, behind, arranged⟩
      cases step with
      | start pool request =>
          refine ⟨seen ++ [none], calls, ?_, behind, ?_⟩
          · exact List.rel_append shows (.cons (view.fresh request) .nil)
          · simpa [List.reduceOption_append] using arranged
      | serve world earlier later request transcript op resume choice permit =>
          rcases forall₂_split shows with ⟨before, shown, after, rfl, first, current, last⟩
          rcases view.serve world calls request transcript op resume choice shown behind permit
            current with ⟨next, moves, shows⟩
          rcases moves.reachable behind arranged with ⟨moved, reached, rearranged⟩
          exact ⟨before ++ next :: after, moved, List.rel_append first (.cons shows last),
            reached, rearranged⟩

end

end Service

end WormVerify
