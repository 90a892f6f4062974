import Mathlib.Data.List.Induction

/-! # Machines with atomic operations

An operation either commits, with a new state and an output, or fails and
leaves the state as it was. A run is a sequence of attempted operations; its
journal keeps the committed ones, each with the states around it.
-/

namespace WormVerify

structure Machine (State : Type u) (Op : Type v) (Err : Type w) (Out : Type x) where
  initial : State
  execute : State → Op → Except Err (State × Out)

structure Commit (State : Type u) (Op : Type v) (Out : Type x) where
  before : State
  op : Op
  after : State
  output : Out

namespace Machine

variable {State : Type u} {Op : Type v} {Err : Type w} {Out : Type x}

def perform (machine : Machine State Op Err Out)
    (current : State × List (Commit State Op Out)) (op : Op) :
    State × List (Commit State Op Out) :=
  match machine.execute current.1 op with
  | .ok (next, output) => (next, current.2 ++ [⟨current.1, op, next, output⟩])
  | .error _ => current

def run (machine : Machine State Op Err Out) (ops : List Op) :
    State × List (Commit State Op Out) :=
  ops.foldl machine.perform (machine.initial, [])

def state (machine : Machine State Op Err Out) (ops : List Op) : State :=
  (machine.run ops).1

def journal (machine : Machine State Op Err Out) (ops : List Op) :
    List (Commit State Op Out) :=
  (machine.run ops).2

variable (machine : Machine State Op Err Out)

@[simp] theorem state_nil : machine.state [] = machine.initial := rfl

@[simp] theorem journal_nil : machine.journal [] = [] := rfl

theorem run_concat (ops : List Op) (op : Op) :
    machine.run (ops ++ [op]) = machine.perform (machine.run ops) op := by
  simp [run]

theorem concat_of_ok {ops : List Op} {op : Op} {next : State} {output : Out}
    (committed : machine.execute (machine.state ops) op = .ok (next, output)) :
    machine.state (ops ++ [op]) = next ∧
      machine.journal (ops ++ [op]) =
        machine.journal ops ++ [⟨machine.state ops, op, next, output⟩] := by
  rw [state] at committed
  simp only [state, journal, run_concat, perform, committed, and_self]

theorem concat_of_error {ops : List Op} {op : Op} {error : Err}
    (aborted : machine.execute (machine.state ops) op = .error error) :
    machine.state (ops ++ [op]) = machine.state ops ∧
      machine.journal (ops ++ [op]) = machine.journal ops := by
  rw [state] at aborted
  simp only [state, journal, run_concat, perform, aborted, and_self]

def next (current : State) (op : Op) : State :=
  match machine.execute current op with
  | .ok (next, _) => next
  | .error _ => current

theorem state_concat (ops : List Op) (op : Op) :
    machine.state (ops ++ [op]) = machine.next (machine.state ops) op := by
  cases outcome : machine.execute (machine.state ops) op with
  | error error => simp only [next, outcome, (machine.concat_of_error outcome).1]
  | ok result => simp only [next, outcome, (machine.concat_of_ok outcome).1]

/-- A property of the state and the journal that holds at the start, and that
every commit of an allowed operation keeps, holds after every run. -/
theorem run_induction (allowed : Op → Prop)
    (motive : State → List (Commit State Op Out) → Prop)
    (start : motive machine.initial [])
    (commit : ∀ current journal op next output, motive current journal → allowed op →
      machine.execute current op = .ok (next, output) →
      motive next (journal ++ [⟨current, op, next, output⟩]))
    (ops : List Op) (permitted : ∀ op ∈ ops, allowed op) :
    motive (machine.state ops) (machine.journal ops) := by
  induction ops using List.reverseRecOn with
  | nil => exact start
  | append_singleton ops op induction =>
      have earlier := induction fun other member => permitted other (by simp [member])
      cases outcome : machine.execute (machine.state ops) op with
      | error error =>
          rcases machine.concat_of_error outcome with ⟨sameState, sameJournal⟩
          rw [sameState, sameJournal]
          exact earlier
      | ok result =>
          rcases result with ⟨next, output⟩
          rcases machine.concat_of_ok outcome with ⟨nextState, nextJournal⟩
          rw [nextState, nextJournal]
          exact commit _ _ op next output earlier (permitted op (by simp)) outcome

theorem exists_of_mem_journal {ops : List Op} {entry : Commit State Op Out}
    (member : entry ∈ machine.journal ops) :
    ∃ earlier later, ops = earlier ++ entry.op :: later ∧
      entry.before = machine.state earlier ∧
      machine.execute entry.before entry.op = .ok (entry.after, entry.output) := by
  induction ops using List.reverseRecOn with
  | nil => simp at member
  | append_singleton ops op induction =>
      have fromEarlier : entry ∈ machine.journal ops →
          ∃ earlier later, ops ++ [op] = earlier ++ entry.op :: later ∧
            entry.before = machine.state earlier ∧
            machine.execute entry.before entry.op = .ok (entry.after, entry.output) := by
        intro recorded
        rcases induction recorded with ⟨earlier, later, split, before, committed⟩
        exact ⟨earlier, later ++ [op], by simp [split], before, committed⟩
      cases outcome : machine.execute (machine.state ops) op with
      | error error =>
          rw [(machine.concat_of_error outcome).2] at member
          exact fromEarlier member
      | ok result =>
          rcases result with ⟨next, output⟩
          rw [(machine.concat_of_ok outcome).2] at member
          rcases List.mem_append.mp member with recorded | last
          · exact fromEarlier recorded
          · rw [List.mem_singleton] at last
            subst last
            exact ⟨ops, [], rfl, rfl, outcome⟩

/-- A property of the state that fails at the start and holds after a run was
gained by one operation of the run and has held since. -/
theorem exists_gain (holds : State → Prop) (start : ¬holds machine.initial) {ops : List Op}
    (now : holds (machine.state ops)) :
    ∃ before op during, ops = before ++ op :: during ∧ ¬holds (machine.state before) ∧
      ∀ kept, kept <+: during → holds (machine.state (before ++ op :: kept)) := by
  induction ops using List.reverseRecOn with
  | nil => exact absurd now start
  | append_singleton ops op induction =>
      by_cases earlier : holds (machine.state ops)
      · rcases induction earlier with ⟨before, gain, during, rfl, without, held⟩
        refine ⟨before, gain, during ++ [op], by simp, without, ?_⟩
        intro kept keptOf
        rcases List.prefix_concat_iff.mp keptOf with whole | part
        · subst whole
          simpa using now
        · exact held kept part
      · refine ⟨ops, op, [], rfl, earlier, ?_⟩
        intro kept keptOf
        rw [List.prefix_nil.mp keptOf]
        exact now

/-- A machine whose every allowed operation looks like that of a model, from
related states to related states, has runs that look like those of the model. -/
theorem runs_alike {Model : Type u'} {Answer : Type x'}
    (model : Machine Model Op Err Answer) (view : Out → Answer) (allowed : Op → Prop)
    (related : State → Model → Prop) (start : related machine.initial model.initial)
    (step : ∀ current abstract op, related current abstract → allowed op →
      ∃ next output abstractNext, machine.execute current op = .ok (next, output) ∧
        model.execute abstract op = .ok (abstractNext, view output) ∧
        related next abstractNext)
    (ops : List Op) (permitted : ∀ op ∈ ops, allowed op) :
    related (machine.state ops) (model.state ops) ∧
      (machine.journal ops).map (fun entry => view entry.output) =
        (model.journal ops).map Commit.output := by
  induction ops using List.reverseRecOn with
  | nil => exact ⟨start, rfl⟩
  | append_singleton ops op induction =>
      rcases induction fun other member => permitted other (List.mem_append_left _ member) with
        ⟨soFar, alike⟩
      rcases step _ _ op soFar (permitted op (by simp)) with
        ⟨next, output, abstractNext, executed, modelled, after⟩
      rcases machine.concat_of_ok executed with ⟨state, journal⟩
      rcases model.concat_of_ok modelled with ⟨modelState, modelJournal⟩
      rw [state, journal, modelState, modelJournal, List.map_append, List.map_append, alike]
      exact ⟨after, rfl⟩

/-- A preorder on states that every commit from an invariant state follows
relates the state after a run to the state after each of its extensions. -/
theorem state_append_related (allowed : Op → Prop)
    (invariant : State → List (Commit State Op Out) → Prop)
    (holds : ∀ ops, (∀ op ∈ ops, allowed op) →
      invariant (machine.state ops) (machine.journal ops))
    (related : State → State → Prop) (refl : ∀ current, related current current)
    (trans : ∀ first second third,
      related first second → related second third → related first third)
    (commit : ∀ current journal op next output, invariant current journal → allowed op →
      machine.execute current op = .ok (next, output) → related current next)
    (earlier later : List Op) (permitted : ∀ op ∈ earlier ++ later, allowed op) :
    related (machine.state earlier) (machine.state (earlier ++ later)) := by
  induction later using List.reverseRecOn with
  | nil => simpa using refl (machine.state earlier)
  | append_singleton later op induction =>
      rw [← List.append_assoc] at permitted ⊢
      have permittedBefore : ∀ other ∈ earlier ++ later, allowed other :=
        fun other member => permitted other (List.mem_append_left _ member)
      have soFar := induction permittedBefore
      cases outcome : machine.execute (machine.state (earlier ++ later)) op with
      | error error =>
          rw [(machine.concat_of_error outcome).1]
          exact soFar
      | ok result =>
          rcases result with ⟨next, output⟩
          rw [(machine.concat_of_ok outcome).1]
          exact trans _ _ _ soFar
            (commit _ _ op next output (holds _ permittedBefore)
              (permitted op (by simp)) outcome)

end Machine

/-- When an operation of a run is marked by what came before it, one of the
marked operations from there on is the last. -/
theorem exists_last {Op : Type v} (marked : List Op → Op → Prop) {before : List Op} {op : Op}
    (first : marked before op) (during : List Op) :
    ∃ earlier last later, before ++ op :: during = earlier ++ last :: later ∧
      last ∈ op :: during ∧ marked earlier last ∧
      ∀ between other rest, later = between ++ other :: rest →
        ¬marked (earlier ++ last :: between) other := by
  induction during using List.reverseRecOn with
  | nil =>
      refine ⟨before, op, [], rfl, List.mem_cons_self, first, ?_⟩
      intro between other rest split
      simp at split
  | append_singleton during call induction =>
      by_cases again : marked (before ++ op :: during) call
      · refine ⟨before ++ op :: during, call, [], by simp, by simp, again, ?_⟩
        intro between other rest split
        simp at split
      · rcases induction with ⟨earlier, last, later, whole, member, marks, unmarked⟩
        refine ⟨earlier, last, later ++ [call], ?_, ?_, marks, ?_⟩
        · rw [← List.cons_append, ← List.append_assoc, whole]
          simp
        · rw [← List.cons_append]
          exact List.mem_append_left _ member
        · intro between other rest split
          rcases List.eq_nil_or_concat rest with none | ⟨initial, final, some⟩
          · subst none
            rcases List.append_inj' split rfl with ⟨same, singleton⟩
            cases singleton
            rwa [← same, ← whole]
          · subst some
            rw [List.concat_eq_append, ← List.cons_append, ← List.append_assoc] at split
            exact unmarked between other initial (List.append_inj' split rfl).1

end WormVerify
