import WormVerify.Foundation.Transactions

/-! # Isolated parts of a state

A part of the state may be changed by some operations only, and these may depend
on nothing but the part. After a run it is then what these operations alone make
of it.
-/

namespace WormVerify.Machine

variable {State : Type u} {Op : Type v} {Err : Type w} {Out : Type x} {Part : Type y}
  (machine : Machine State Op Err Out)

theorem next_of_ok {current next : State} {op : Op} {output : Out}
    (committed : machine.execute current op = .ok (next, output)) :
    machine.next current op = next := by
  simp only [Machine.next, committed]

/-- A property of the state that holds after a run, and that every commit of an
allowed operation keeps, still holds after a longer run. -/
theorem state_append_induction (allowed : Op → Prop) (motive : State → Prop)
    (commit : ∀ current op next output, motive current → allowed op →
      machine.execute current op = .ok (next, output) → motive next)
    (earlier : List Op) {later : List Op} (start : motive (machine.state earlier))
    (permitted : ∀ op ∈ later, allowed op) : motive (machine.state (earlier ++ later)) := by
  induction later using List.reverseRecOn with
  | nil => rwa [List.append_nil]
  | append_singleton later op induction =>
      have before := induction fun other member => permitted other (List.mem_append_left _ member)
      rw [← List.append_assoc]
      cases outcome : machine.execute (machine.state (earlier ++ later)) op with
      | error error =>
          rw [(machine.concat_of_error outcome).1]
          exact before
      | ok result =>
          rcases result with ⟨next, output⟩
          rw [(machine.concat_of_ok outcome).1]
          exact commit _ op next output before (permitted op (by simp)) outcome

def commits (current : State) (op : Op) : Bool :=
  match machine.execute current op with
  | .ok _ => true
  | .error _ => false

def committed (ops : List Op) : List Op := (machine.journal ops).map Commit.op

theorem committed_concat (ops : List Op) (op : Op) :
    machine.committed (ops ++ [op]) =
      machine.committed ops ++ if machine.commits (machine.state ops) op then [op] else [] := by
  cases outcome : machine.execute (machine.state ops) op with
  | error error => simp [committed, commits, outcome, (machine.concat_of_error outcome).2]
  | ok result => simp [committed, commits, outcome, (machine.concat_of_ok outcome).2]

/-- Only relevant operations change the part, and whether they commit and what
they make of it is decided by the part. -/
structure Isolated (part : State → Part) (relevant : Op → Bool) : Prop where
  frame : ∀ {current next op output}, relevant op = false →
    machine.execute current op = .ok (next, output) → part next = part current
  determined : ∀ {left right next op output}, relevant op = true → part left = part right →
    machine.execute left op = .ok (next, output) →
    ∃ other answer, machine.execute right op = .ok (other, answer) ∧ part other = part next

namespace Isolated

variable {machine} {part : State → Part} {relevant : Op → Bool}
  (isolated : machine.Isolated part relevant)

include isolated

theorem next_irrelevant {op : Op} (irrelevant : relevant op = false) (current : State) :
    part (machine.next current op) = part current := by
  cases outcome : machine.execute current op with
  | error error => simp only [Machine.next, outcome]
  | ok result =>
      rw [machine.next_of_ok outcome]
      exact isolated.frame irrelevant outcome

theorem next_alike {op : Op} (acts : relevant op = true) {left right : State}
    (same : part left = part right) :
    part (machine.next left op) = part (machine.next right op) := by
  cases outcome : machine.execute left op with
  | ok result =>
      rcases isolated.determined acts same outcome with ⟨other, answer, committed, alike⟩
      rw [machine.next_of_ok outcome, machine.next_of_ok committed, alike]
  | error error =>
      cases mirrored : machine.execute right op with
      | error error => simpa only [Machine.next, outcome, mirrored] using same
      | ok result =>
          rcases isolated.determined acts same.symm mirrored with ⟨other, answer, committed, _⟩
          cases outcome.symm.trans committed

theorem commits_alike {op : Op} (acts : relevant op = true) {left right : State}
    (same : part left = part right) : machine.commits left op = machine.commits right op := by
  cases outcome : machine.execute left op with
  | ok result =>
      rcases isolated.determined acts same outcome with ⟨other, answer, committed, _⟩
      simp only [commits, outcome, committed]
  | error error =>
      cases mirrored : machine.execute right op with
      | error error => simp only [commits, outcome, mirrored]
      | ok result =>
          rcases isolated.determined acts same.symm mirrored with ⟨other, answer, committed, _⟩
          cases outcome.symm.trans committed

theorem state_filter (ops : List Op) :
    part (machine.state ops) = part (machine.state (ops.filter relevant)) := by
  induction ops using List.reverseRecOn with
  | nil => rfl
  | append_singleton ops op induction =>
      rw [List.filter_append, machine.state_concat]
      cases acts : relevant op with
      | false =>
          rw [isolated.next_irrelevant acts, induction, List.filter_cons_of_neg (by simp [acts]),
            List.filter_nil, List.append_nil]
      | true =>
          rw [List.filter_cons_of_pos acts, List.filter_nil, machine.state_concat]
          exact isolated.next_alike acts induction

theorem committed_filter (ops : List Op) :
    (machine.committed ops).filter relevant = machine.committed (ops.filter relevant) := by
  induction ops using List.reverseRecOn with
  | nil => rfl
  | append_singleton ops op induction =>
      rw [List.filter_append, machine.committed_concat, List.filter_append, induction]
      cases acts : relevant op with
      | false =>
          rw [List.filter_cons_of_neg (by simp [acts]), List.filter_nil, List.append_nil]
          split <;> simp [acts]
      | true =>
          rw [List.filter_cons_of_pos acts, List.filter_nil, machine.committed_concat]
          rw [isolated.commits_alike acts (isolated.state_filter ops)]
          split <;> simp [acts]

/-- Runs with the same relevant operations end with the same part, and the same
of these operations are committed. -/
theorem eq_of_filter_eq {left right : List Op}
    (same : left.filter relevant = right.filter relevant) :
    part (machine.state left) = part (machine.state right) ∧
      (machine.committed left).filter relevant = (machine.committed right).filter relevant := by
  rw [isolated.state_filter left, isolated.committed_filter left, same,
    ← isolated.state_filter right, ← isolated.committed_filter right]
  exact ⟨rfl, rfl⟩

end Isolated

end WormVerify.Machine
