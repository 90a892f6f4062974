import WormVerify.Foundation.Interleaving

/-! # What programs rely on

A program that asks its ports only what it may ask, and relies on no more than
what they do answer, keeps doing so in every pool. The same holds of a budget
that no path through a program exceeds.
-/

namespace WormVerify

namespace Program

variable {ports : Interface}

/-- The program only asks what the guarantee permits, and as long as the answers
can be relied on it ends as described. -/
def Obeys (guarantee : ports.Op → Prop) (rely : (op : ports.Op) → ports.Response op → Prop)
    (ends : α → Prop) : Program ports α → Prop
  | .done value => ends value
  | .call op resume =>
      guarantee op ∧ ∀ response, rely op response → (resume response).Obeys guarantee rely ends

section

variable {guarantee : ports.Op → Prop} {rely : (op : ports.Op) → ports.Response op → Prop}
variable {program : Program ports α} {ends : α → Prop}

theorem Obeys.imp {weaker : α → Prop} (obeys : program.Obeys guarantee rely ends)
    (implies : ∀ value, ends value → weaker value) : program.Obeys guarantee rely weaker := by
  induction program with
  | done value => exact implies value obeys
  | call op resume induction =>
      exact ⟨obeys.1, fun response relied => induction response (obeys.2 response relied)⟩

theorem Obeys.permit {other : ports.Op → Prop} (obeys : program.Obeys guarantee rely ends)
    (permits : ∀ op, guarantee op → other op) : program.Obeys other rely ends := by
  induction program with
  | done value => exact obeys
  | call op resume induction =>
      exact ⟨permits op obeys.1, fun response relied =>
        induction response (obeys.2 response relied)⟩

theorem Obeys.bind {middle : α → Prop} {next : α → Program ports β} {ends : β → Prop}
    (obeys : program.Obeys guarantee rely middle)
    (rest : ∀ value, middle value → (next value).Obeys guarantee rely ends) :
    (program >>= next).Obeys guarantee rely ends := by
  induction program with
  | done value => exact rest value obeys
  | call op resume induction =>
      exact ⟨obeys.1, fun response relied => induction response (obeys.2 response relied)⟩

end

theorem obeys_of_forall {rely : (op : ports.Op) → ports.Response op → Prop} {ends : α → Prop}
    (always : ∀ value, ends value) (program : Program ports α) :
    program.Obeys (fun _ => True) rely ends := by
  induction program with
  | done value => exact always value
  | call op resume induction => exact ⟨trivial, fun response _ => induction response⟩

/-! ## Programs that can fail -/

def ObeysOr (guarantee : ports.Op → Prop) (rely : (op : ports.Op) → ports.Response op → Prop)
    (ends : α → Prop) (fails : ε → Prop) (program : ExceptT ε (Program ports) α) : Prop :=
  program.run.Obeys guarantee rely fun outcome =>
    match outcome with
    | .ok value => ends value
    | .error error => fails error

section

variable {guarantee : ports.Op → Prop} {rely : (op : ports.Op) → ports.Response op → Prop}
variable {ends : α → Prop} {fails : ε → Prop} {program : ExceptT ε (Program ports) α}

theorem ObeysOr.pure {value : α} (holds : ends value) :
    ObeysOr guarantee rely ends fails (Pure.pure value : ExceptT ε (Program ports) α) :=
  holds

theorem ObeysOr.imp {weaker : α → Prop} {weakerFails : ε → Prop}
    (obeys : ObeysOr guarantee rely ends fails program)
    (value : ∀ value, ends value → weaker value)
    (error : ∀ error, fails error → weakerFails error) :
    ObeysOr guarantee rely weaker weakerFails program := by
  apply Obeys.imp obeys
  intro outcome holds
  cases outcome with
  | ok found => exact value found holds
  | error failed => exact error failed holds

theorem ObeysOr.bind {next : α → ExceptT ε (Program ports) β} {last : β → Prop}
    (obeys : ObeysOr guarantee rely ends fails program)
    (rest : ∀ value, ends value → ObeysOr guarantee rely last fails (next value)) :
    ObeysOr guarantee rely last fails (program >>= next) := by
  change (program.run >>= ExceptT.bindCont next).Obeys guarantee rely _
  apply Obeys.bind obeys
  intro outcome holds
  cases outcome with
  | ok value => exact rest value holds
  | error error => exact holds

theorem ObeysOr.map {transform : α → β} {last : β → Prop}
    (obeys : ObeysOr guarantee rely (fun value => last (transform value)) fails program) :
    ObeysOr guarantee rely last fails (transform <$> program) := by
  apply Obeys.bind obeys
  intro outcome holds
  cases outcome with
  | ok value => exact holds
  | error error => exact holds

end

/-! ## Budgets -/

/-- No path through the program spends more than the budget. -/
def Spends (weigh : ports.Op → Nat) : Program ports α → Nat → Prop
  | .done _, _ => True
  | .call op resume, budget =>
      weigh op ≤ budget ∧ ∀ response, (resume response).Spends weigh (budget - weigh op)

section

variable {weigh : ports.Op → Nat} {program : Program ports α} {budget more : Nat}

theorem Spends.mono (spends : program.Spends weigh budget) (enough : budget ≤ more) :
    program.Spends weigh more := by
  induction program generalizing budget more with
  | done value => trivial
  | call op resume induction =>
      refine ⟨spends.1.trans enough, fun response => ?_⟩
      exact induction response (spends.2 response) (Nat.sub_le_sub_right enough _)

theorem Spends.bind {next : α → Program ports β} (spends : program.Spends weigh budget)
    (rest : ∀ value, (next value).Spends weigh more) :
    (program >>= next).Spends weigh (budget + more) := by
  induction program generalizing budget with
  | done value => exact (rest value).mono (Nat.le_add_left _ _)
  | call op resume induction =>
      have affordable := spends.1
      refine ⟨by omega, fun response => ?_⟩
      have left := induction response (spends.2 response)
      exact left.mono (by omega)

theorem Spends.map {transform : α → β} (spends : program.Spends weigh budget) :
    (transform <$> program).Spends weigh budget :=
  spends.bind fun value => show (Program.done (transform value)).Spends weigh 0 from trivial

def SpendsOr (weigh : ports.Op → Nat) (program : ExceptT ε (Program ports) α) (budget : Nat) :
    Prop :=
  program.run.Spends weigh budget

variable {program : ExceptT ε (Program ports) α} {next : α → ExceptT ε (Program ports) β}

theorem SpendsOr.pure {value : α} :
    SpendsOr weigh (Pure.pure value : ExceptT ε (Program ports) α) budget :=
  trivial

theorem SpendsOr.bind (spends : SpendsOr weigh program budget)
    (rest : ∀ value, SpendsOr weigh (next value) more) :
    SpendsOr weigh (program >>= next) (budget + more) := by
  change (program.run >>= ExceptT.bindCont next).Spends weigh _
  apply Spends.bind spends
  intro outcome
  cases outcome with
  | ok value => exact rest value
  | error error => trivial

theorem SpendsOr.map {transform : α → β} (spends : SpendsOr weigh program budget) :
    SpendsOr weigh (transform <$> program) budget := by
  refine @Spends.bind _ ports weigh program.run budget 0 _ _ spends ?_
  intro outcome
  cases outcome <;> trivial

theorem SpendsOr.bind_pure {transform : α → β} (spends : SpendsOr weigh program budget) :
    SpendsOr weigh (program >>= fun value => Pure.pure (transform value)) budget :=
  spends.bind fun _ => @SpendsOr.pure _ _ _ _ 0 _

theorem SpendsOr.bind_free (spends : SpendsOr weigh program 0)
    (rest : ∀ value, SpendsOr weigh (next value) budget) :
    SpendsOr weigh (program >>= next) budget :=
  Nat.zero_add budget ▸ spends.bind rest

end

end Program

namespace Service

variable {service : Service} {allowed : service.Rule} {initial : service.World}

/-! ## Reliance in a pool -/

section

variable {guarantee : service.ports.Op → Prop}
  {rely : (op : service.ports.Op) → service.ports.Response op → Prop}
  {ends : service.Request → service.Result → Prop}

/-- If every permitted question on the way to a pool keeps an invariant of the
world and is answered reliably, and the requests of the pool all obey, then the
pool upholds the invariant, and its calls still obey. -/
theorem Reachable.upholds {invariant : service.World → Prop} (start : invariant initial)
    {pool : service.Pool}
    (serves : ∀ before after, Reachable allowed initial before → Leads allowed after pool →
      invariant before.world → ∀ op choice, guarantee op →
      after.world = (service.serve choice before.world op).2 →
      invariant after.world ∧ rely op (service.serve choice before.world op).1)
    (reachable : Reachable allowed initial pool)
    (bodies : ∀ call ∈ pool.calls,
      (service.body call.request).Obeys guarantee rely (ends call.request)) :
    invariant pool.world ∧
      ∀ call ∈ pool.calls, call.program.Obeys guarantee rely (ends call.request) := by
  suffices onTheWay : ∀ {reached}, Reachable allowed initial reached →
      Leads allowed reached pool → (∀ call ∈ reached.calls,
        (service.body call.request).Obeys guarantee rely (ends call.request)) →
      invariant reached.world ∧
        ∀ call ∈ reached.calls, call.program.Obeys guarantee rely (ends call.request) from
    onTheWay reachable .refl bodies
  intro reached before
  induction before with
  | start => exact fun _ _ => ⟨start, fun call member => by cases member⟩
  | step before step induction =>
      intro rest bodies
      have earlier := induction (.head step rest)
      cases step with
      | start pool request =>
          rw [List.forall_mem_append, List.forall_mem_singleton] at bodies ⊢
          have holds := earlier bodies.1
          exact ⟨holds.1, holds.2, bodies.2⟩
      | serve world first last request transcript op resume choice permitted =>
          rw [List.forall_mem_append, List.forall_mem_cons] at bodies
          have holds := earlier (by
            rw [List.forall_mem_append, List.forall_mem_cons]
            exact bodies)
          rw [List.forall_mem_append, List.forall_mem_cons] at holds ⊢
          rcases holds with ⟨holds, earlierObey, current, laterObey⟩
          have served := serves _ _ before rest holds op choice current.1 rfl
          exact ⟨served.1, earlierObey, current.2 _ served.2, laterObey⟩

theorem Call.ends_of_returned {call : service.Call} {result : service.Result}
    (returned : call.result? = some result) {described : service.Result → Prop}
    (obeys : call.program.Obeys guarantee rely described) : described result := by
  rcases call with ⟨request, transcript, program⟩
  cases program with
  | done value =>
      cases returned
      exact obeys
  | call op resume => cases returned

theorem Reachable.returned
    (bodies : ∀ request, (service.body request).Obeys guarantee rely (ends request))
    (reliable : ∀ pool, Reachable allowed initial pool → ∀ op choice, guarantee op →
      rely op (service.serve choice pool.world op).1)
    {pool : service.Pool} (reachable : Reachable allowed initial pool) {call : service.Call}
    (member : call ∈ pool.calls) {result : service.Result}
    (returned : call.result? = some result) : ends call.request result := by
  have upheld := @Reachable.upholds service allowed initial guarantee rely ends
    (fun _ => True) trivial pool (fun before _ reached _ _ op choice asked _ =>
      ⟨trivial, reliable before reached op choice asked⟩) reachable
    fun call _ => bodies call.request
  exact Call.ends_of_returned returned (upheld.2 call member)

end

/-! ## Calls that begin later -/

section

variable {rely : (op : service.ports.Op) → service.ports.Response op → Prop}
  {ends : service.Request → service.Result → Prop}

theorem getElem?_elsewhere {first last : List α} {left right : α} {position : Nat}
    (elsewhere : position ≠ first.length) :
    (first ++ left :: last)[position]? = (first ++ right :: last)[position]? := by
  rcases Nat.lt_or_gt_of_ne elsewhere with before | after
  · rw [List.getElem?_append_left before, List.getElem?_append_left before]
  · rcases Nat.exists_eq_add_of_lt after with ⟨distance, rfl⟩
    have beyond : first.length ≤ first.length + distance + 1 := by omega
    rw [List.getElem?_append_right beyond, List.getElem?_append_right beyond, Nat.add_assoc,
      Nat.add_sub_cancel_left]
    rfl

/-- If every port call on the way from one pool to another keeps an invariant and
is answered reliably, then the calls that begin on the way end as they do on
reliable answers. -/
theorem Leads.upholds {invariant : service.World → Prop} {pool later : service.Pool}
    (start : invariant pool.world)
    (serves : ∀ before after, Leads allowed pool before → Leads allowed after later →
      invariant before.world → ∀ op choice,
      after.world = (service.serve choice before.world op).2 →
      invariant after.world ∧ rely op (service.serve choice before.world op).1)
    (bodies : ∀ request, (service.body request).Obeys (fun _ => True) rely (ends request))
    (leads : Leads allowed pool later) :
    invariant later.world ∧ ∀ position call, pool.calls.length ≤ position →
      later.calls[position]? = some call →
      call.program.Obeys (fun _ => True) rely (ends call.request) := by
  suffices onTheWay : ∀ {reached}, Leads allowed pool reached → Leads allowed reached later →
      invariant reached.world ∧ ∀ position call, pool.calls.length ≤ position →
        reached.calls[position]? = some call →
        call.program.Obeys (fun _ => True) rely (ends call.request) from onTheWay leads .refl
  intro reached before
  induction before with
  | refl =>
      intro _
      refine ⟨start, fun position call new found => ?_⟩
      rw [List.getElem?_eq_none new] at found
      cases found
  | @tail middle _ before step induction =>
      intro rest
      have earlier := induction (.head step rest)
      cases step with
      | start _ request =>
          refine ⟨earlier.1, fun position call new found => ?_⟩
          change (middle.calls ++ [Call.fresh request])[position]? = some call at found
          by_cases old : position < middle.calls.length
          · rw [List.getElem?_append_left old] at found
            exact earlier.2 position call new found
          · rw [List.getElem?_append_right (Nat.le_of_not_lt old)] at found
            rw [List.mem_singleton.mp (List.mem_of_getElem? found)]
            exact bodies request
      | serve world first last request transcript op resume choice permitted =>
          have served := serves _ _ before rest earlier.1 op choice rfl
          refine ⟨served.1, fun position call new found => ?_⟩
          by_cases own : position = first.length
          · subst own
            have current := earlier.2 first.length ⟨request, transcript, .call op resume⟩ new
              (by simp)
            let answer := (service.serve choice world op).1
            have same : call = ⟨request, transcript ++ [⟨op, answer⟩], resume answer⟩ := by
              simpa [eq_comm] using found
            rw [same]
            exact current.2 answer served.2
          · exact earlier.2 position call new ((getElem?_elsewhere own).trans found)

end

/-! ## Budgets in a pool -/

section

variable {weigh : service.ports.Op → Nat}

theorem Reachable.weight_le {budget : service.Request → Nat}
    (bodies : ∀ request, (service.body request).Spends weigh (budget request))
    {pool : service.Pool} (reachable : Reachable allowed initial pool) :
    ∀ call ∈ pool.calls, ∃ left, call.program.Spends weigh left ∧
      weight weigh call.transcript + left ≤ budget call.request := by
  induction reachable with
  | start =>
      intro call member
      cases member
  | step reachable step induction =>
      cases step with
      | start pool request =>
          rw [List.forall_mem_append, List.forall_mem_singleton]
          exact ⟨induction, budget request, bodies request, by simp [Call.fresh]⟩
      | serve world earlier later request transcript op resume choice permitted =>
          rw [List.forall_mem_append, List.forall_mem_cons] at induction ⊢
          rcases induction with ⟨first, ⟨left, spends, within⟩, last⟩
          refine ⟨first, ⟨left - weigh op, spends.2 _, ?_⟩, last⟩
          have affordable := spends.1
          simp only [weight_append, weight_cons, weight_nil] at within ⊢
          omega

variable {budget : Nat}

theorem total_le_mul {calls : List service.Call}
    (spent : ∀ call ∈ calls, weight weigh call.transcript ≤ budget) :
    total weigh calls ≤ budget * calls.length := by
  induction calls with
  | nil => exact Nat.zero_le _
  | cons call rest induction =>
      rw [List.forall_mem_cons] at spent
      have others := induction spent.2
      rw [total_cons, List.length_cons, Nat.mul_succ]
      omega

/-- A quantity that a port call raises by no more than its weight is bounded by
the budgets of all calls. -/
theorem Reachable.measure_le (bodies : ∀ request, (service.body request).Spends weigh budget)
    (measure : service.World → Nat) (begins : measure initial = 0)
    (raises : ∀ world op choice,
      measure (service.serve choice world op).2 ≤ measure world + weigh op)
    {pool : service.Pool} (reachable : Reachable allowed initial pool) :
    measure pool.world ≤ budget * pool.calls.length := by
  have counted : measure pool.world ≤ total weigh pool.calls := by
    clear bodies
    induction reachable with
    | start => exact begins.le
    | step reachable step induction =>
        cases step with
        | start pool request => simpa [Call.fresh] using induction
        | serve world earlier later request transcript op resume choice permitted =>
            have raised := raises world op choice
            simp only [total_append, total_cons, weight_append, weight_cons, weight_nil] at *
            omega
  have spent : ∀ call ∈ pool.calls, weight weigh call.transcript ≤ budget := by
    intro call member
    rcases @Reachable.weight_le _ _ _ _ (fun _ => budget) bodies _ reachable call member with
      ⟨left, _, within⟩
    omega
  exact counted.trans (total_le_mul spent)

end

end Service

end WormVerify
