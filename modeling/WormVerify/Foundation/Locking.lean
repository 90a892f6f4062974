import WormVerify.Foundation.Interleaving

/-! # Schedules with locks

A call may hold locks on the way. As long as it stands where it does, the port
calls that it locks are served to no other call.
-/

namespace WormVerify.Service

variable {service : Service}

/-- The port calls that a call keeps the others from, at the point it has
reached. -/
abbrev Locks (service : Service) := service.Call → service.ports.Op → Prop

inductive LockedStep (allowed : service.Rule) (locks : Locks service) :
    service.Pool → service.Pool → Prop
  | start (pool : service.Pool) (request : service.Request) :
      LockedStep allowed locks pool ⟨pool.world, pool.calls ++ [.fresh request]⟩
  | serve (world : service.World) (earlier later : List service.Call)
      (request : service.Request) (transcript : List (Exchange service.ports))
      (op : service.ports.Op)
      (resume : service.ports.Response op → Program service.ports service.Result)
      (choice : service.Choice)
      (permitted : allowed world ⟨request, transcript, .call op resume⟩ op)
      (unlocked : ∀ holder ∈ earlier ++ later, ¬locks holder op) :
      LockedStep allowed locks
        ⟨world, earlier ++ ⟨request, transcript, .call op resume⟩ :: later⟩
        ⟨(service.serve choice world op).2, earlier ++
          ⟨request, transcript ++ [⟨op, (service.serve choice world op).1⟩],
            resume (service.serve choice world op).1⟩ :: later⟩

abbrev LockedLeads (allowed : service.Rule) (locks : Locks service) :
    service.Pool → service.Pool → Prop :=
  Relation.ReflTransGen (LockedStep allowed locks)

variable {allowed other : service.Rule} {locks : Locks service}

/-- If in every state that a rule reaches the locks leave only port calls that
the rule permits as well, then a run with the locks is one of that rule. -/
theorem LockedLeads.leads {initial : service.World} {pool later : service.Pool}
    (permits : ∀ world earlier later request transcript op resume,
      Reachable other initial
        ⟨world, earlier ++ ⟨request, transcript, .call op resume⟩ :: later⟩ →
      allowed world ⟨request, transcript, .call op resume⟩ op →
      (∀ holder ∈ earlier ++ later, ¬locks holder op) →
      other world ⟨request, transcript, .call op resume⟩ op)
    (reachable : Reachable other initial pool) (leads : LockedLeads allowed locks pool later) :
    Leads other pool later := by
  induction leads with
  | refl => exact .refl
  | tail _ step induction =>
      apply induction.tail
      have reached := reachable.leads induction
      cases step with
      | start _ request => exact .start _ request
      | serve world earlier later request transcript op resume choice permitted unlocked =>
          exact .serve world earlier later request transcript op resume choice
            (permits world earlier later request transcript op resume reached permitted unlocked)

/-! ## Executing a schedule with locks -/

variable [∀ world call op, Decidable (allowed world call op)]
  [∀ call op, Decidable (locks call op)]

def unlocked (locks : Locks service) [∀ call op, Decidable (locks call op)]
    (pool : service.Pool) : Action service → Bool
  | .start _ => true
  | .serve position _ =>
      match pool.calls[position]? with
      | some ⟨_, _, .call op _⟩ =>
          (pool.calls.take position ++ pool.calls.drop (position + 1)).all fun holder =>
            !decide (locks holder op)
      | _ => true

def lockedSchedule (allowed : service.Rule) [∀ world call op, Decidable (allowed world call op)]
    (locks : Locks service) [∀ call op, Decidable (locks call op)] (pool : service.Pool) :
    List (Action service) → Option service.Pool
  | [] => some pool
  | action :: rest =>
      if unlocked locks pool action then
        match act allowed pool action with
        | some next => lockedSchedule allowed locks next rest
        | none => none
      else
        none

theorem act_lockedStep {pool next : service.Pool} {action : Action service}
    (free : unlocked locks pool action = true) (acted : act allowed pool action = some next) :
    LockedStep allowed locks pool next := by
  cases action with
  | start request =>
      cases acted
      exact .start pool request
  | serve position choice =>
      rcases act_serve acted with
        ⟨request, transcript, op, resume, found, permitted, shape, rfl⟩
      simp only [unlocked, found, List.all_eq_true] at free
      have step := LockedStep.serve pool.world (pool.calls.take position)
        (pool.calls.drop (position + 1)) request transcript op resume choice permitted
        fun holder member => of_decide_eq_false (Bool.not_eq_true' _ ▸ free holder member)
      rw [← shape] at step
      exact step

theorem lockedSchedule_leads {pool next : service.Pool} {actions : List (Action service)}
    (scheduled : lockedSchedule allowed locks pool actions = some next) :
    LockedLeads allowed locks pool next := by
  induction actions generalizing pool with
  | nil =>
      cases scheduled
      exact .refl
  | cons action rest induction =>
      rw [lockedSchedule] at scheduled
      split at scheduled
      · rename_i free
        split at scheduled
        · rename_i middle acted
          exact .head (act_lockedStep free acted) (induction scheduled)
        · cases scheduled
      · cases scheduled

end WormVerify.Service
