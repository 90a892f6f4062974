import WormVerify.Foundation.Interleaving
import WormVerify.Foundation.Transactions

/-! # Calls one after another

A call that no other call interrupts runs from its first port call to its
result. What the environment decides during the call is given in advance, one
choice for each port call. A run of such calls is a machine in which every
operation commits.
-/

namespace WormVerify

structure Outcome (ports : Interface) (α : Type) where
  result : α
  transcript : List (Exchange ports)

namespace Service

def perform (service : Service) : Program service.ports α → (Nat → service.Choice) →
    service.World → Outcome service.ports α × service.World
  | .done value, _, world => (⟨value, []⟩, world)
  | .call op resume, choices, world =>
      let served := service.serve (choices 0) world op
      let rest := perform service (resume served.1) (fun turn => choices (turn + 1)) served.2
      (⟨rest.1.result, ⟨op, served.1⟩ :: rest.1.transcript⟩, rest.2)

section

variable (service : Service) {α β : Type}

theorem perform_map (transform : α → β) (program : Program service.ports α)
    (choices : Nat → service.Choice) (world : service.World) :
    service.perform (transform <$> program) choices world =
      (⟨transform (service.perform program choices world).1.result,
        (service.perform program choices world).1.transcript⟩,
        (service.perform program choices world).2) := by
  induction program generalizing choices world with
  | done value => rfl
  | call op resume induction =>
      have mapped : transform <$> Program.call op resume =
        .call op fun response => transform <$> resume response := rfl
      simp only [mapped, perform, induction]

theorem perform_served {program : Program service.ports α} {choices : Nat → service.Choice}
    {world : service.World} {exchange : Exchange service.ports}
    (member : exchange ∈ (service.perform program choices world).1.transcript) :
    ∃ turn during, exchange.response = (service.serve (choices turn) during exchange.op).1 := by
  induction program generalizing choices world with
  | done value => cases member
  | call op resume induction =>
      rcases List.mem_cons.mp member with rfl | later
      · exact ⟨0, world, rfl⟩
      · rcases induction _ later with ⟨turn, during, served⟩
        exact ⟨turn + 1, during, served⟩

/-! ## What a call ensures -/

/-- Whatever the environment chooses, the program ends as described. -/
def Ensures (program : Program service.ports α) (world : service.World)
    (ends : Outcome service.ports α → service.World → Prop) : Prop :=
  ∀ choices, ends (service.perform program choices world).1
    (service.perform program choices world).2

variable {service} {world : service.World}

theorem Ensures.done {value : α} {ends : Outcome service.ports α → service.World → Prop}
    (holds : ends ⟨value, []⟩ world) : service.Ensures (.done value) world ends :=
  fun _ => holds

theorem Ensures.call {op : service.ports.Op}
    {resume : service.ports.Response op → Program service.ports α}
    {ends : Outcome service.ports α → service.World → Prop}
    (rest : ∀ choice, service.Ensures (resume (service.serve choice world op).1)
      (service.serve choice world op).2 fun outcome after =>
        ends ⟨outcome.result, ⟨op, (service.serve choice world op).1⟩ :: outcome.transcript⟩
          after) :
    service.Ensures (.call op resume) world ends :=
  fun choices => rest (choices 0) fun turn => choices (turn + 1)

theorem Ensures.imp {program : Program service.ports α}
    {ends weaker : Outcome service.ports α → service.World → Prop}
    (ensures : service.Ensures program world ends)
    (implies : ∀ outcome after, ends outcome after → weaker outcome after) :
    service.Ensures program world weaker :=
  fun choices => implies _ _ (ensures choices)

theorem Ensures.bind {program : Program service.ports α} {next : α → Program service.ports β}
    {ends : Outcome service.ports β → service.World → Prop}
    (ensures : service.Ensures program world fun outcome after =>
      service.Ensures (next outcome.result) after fun last final =>
        ends ⟨last.result, outcome.transcript ++ last.transcript⟩ final) :
    service.Ensures (program >>= next) world ends := by
  induction program generalizing world ends with
  | done value =>
      intro choices
      exact ensures choices choices
  | call op resume induction =>
      apply Ensures.call
      intro choice
      apply induction
      intro choices
      exact ensures fun turn => match turn with
        | 0 => choice
        | turn + 1 => choices turn

theorem Ensures.map {transform : α → β} {program : Program service.ports α}
    {ends : Outcome service.ports β → service.World → Prop}
    (ensures : service.Ensures program world fun outcome after =>
      ends ⟨transform outcome.result, outcome.transcript⟩ after) :
    service.Ensures (transform <$> program) world ends := by
  intro choices
  rw [perform_map]
  exact ensures choices

end

/-! ## Runs -/

structure Turn (service : Service) where
  request : service.Request
  choices : Nat → service.Choice

def sequential (service : Service) (initial : service.World) :
    Machine service.World (Turn service) Empty (Outcome service.ports service.Result) where
  initial := initial
  execute world turn :=
    let performed := service.perform (service.body turn.request) turn.choices world
    .ok (performed.2, performed.1)

section

variable (service : Service)

theorem state_sequential_concat (initial : service.World) (turns : List (Turn service))
    (turn : Turn service) :
    (service.sequential initial).state (turns ++ [turn]) =
      (service.perform (service.body turn.request) turn.choices
        ((service.sequential initial).state turns)).2 :=
  Machine.state_concat _ turns turn

/-- A property of the world and the journal that every request preserves holds
after every run. -/
theorem sequential_induction (initial : service.World) (allowed : service.Request → Prop)
    (motive : service.World → List (Commit service.World (Turn service)
      (Outcome service.ports service.Result)) → Prop)
    (start : motive initial [])
    (serve : ∀ world journal turn, motive world journal → allowed turn.request →
      service.Ensures (service.body turn.request) world fun outcome after =>
        motive after (journal ++ [⟨world, turn, after, outcome⟩]))
    (turns : List (Turn service)) (permitted : ∀ turn ∈ turns, allowed turn.request) :
    motive ((service.sequential initial).state turns)
      ((service.sequential initial).journal turns) := by
  apply Machine.run_induction _ (fun turn => allowed turn.request) motive start _ turns permitted
  intro world journal turn after outcome earlier permitted executed
  cases executed
  exact serve world journal turn earlier permitted turn.choices

theorem performed_of_mem_journal {initial : service.World} {turns : List (Turn service)}
    {entry : Commit service.World (Turn service) (Outcome service.ports service.Result)}
    (member : entry ∈ (service.sequential initial).journal turns) :
    ∃ earlier later, turns = earlier ++ entry.op :: later ∧
      entry.before = (service.sequential initial).state earlier ∧
      entry.output = (service.perform (service.body entry.op.request) entry.op.choices
        entry.before).1 ∧
      entry.after = (service.perform (service.body entry.op.request) entry.op.choices
        entry.before).2 := by
  rcases Machine.exists_of_mem_journal _ member with ⟨earlier, later, split, before, executed⟩
  have performed := Prod.mk.inj (Except.ok.inj executed)
  exact ⟨earlier, later, split, before, performed.2.symm, performed.1.symm⟩

end

end Service

end WormVerify
