import WormVerify.Foundation.Checked
import WormVerify.Foundation.Transactions

/-! # The circuit breaker

A breaker is shared under a lock, so that its calls take effect one after
another. Instants and durations are nanoseconds.
-/

namespace WormVerify.Resilience

open Checked

abbrev Instant := Nat

abbrev Duration := Nat

/-- The time since an earlier instant, zero if it is not earlier. -/
def durationSince (now earlier : Instant) : Duration := now - earlier

structure BreakerConfig where
  /-- Consecutive failures in the closed state that trip the breaker. -/
  failureThreshold : UInt32
  /-- How long the breaker stays open before allowing a trial call. -/
  openDuration : Duration
  deriving DecidableEq

inductive CircuitState
  | closed
  | open
  | halfOpen
  deriving DecidableEq, Repr

inductive CircuitOpen
  | circuitOpen
  deriving DecidableEq, Repr

inductive RawState
  | closed
  | open (openedAt : Instant)
  | halfOpen
  deriving DecidableEq, Repr

/-- What the lock of a breaker guards. -/
structure Inner where
  failures : UInt32
  state : RawState
  deriving DecidableEq, Repr

namespace CircuitBreaker

def new : Inner where
  failures := 0
  state := .closed

def state (inner : Inner) : CircuitState :=
  match inner.state with
  | .closed => .closed
  | .open _ => .open
  | .halfOpen => .halfOpen

section

variable (config : BreakerConfig)

/-- Check whether a call may proceed. A rejected call changes nothing. -/
def acquire (now : Instant) (guard : Inner) : Except CircuitOpen (Inner × Unit) :=
  match guard.state with
  | .closed => .ok (guard, ())
  | .halfOpen => .ok (guard, ())
  | .open openedAt =>
      if config.openDuration ≤ durationSince now openedAt then
        .ok ({ guard with state := .halfOpen }, ())
      else
        .error .circuitOpen

def recordSuccess (guard : Inner) : Inner :=
  let guard := { guard with failures := 0 }
  { guard with state := .closed }

def recordFailure (now : Instant) (guard : Inner) : Inner :=
  match guard.state with
  | .halfOpen => { guard with state := .open now }
  | .closed =>
      let guard := { guard with failures := saturatingAddU32 guard.failures 1 }
      if config.failureThreshold ≤ guard.failures then
        { guard with state := .open now }
      else
        guard
  | .open _ => guard

/-! ## Runs -/

inductive Operation
  | acquire
  | recordSuccess
  | recordFailure
  deriving DecidableEq, Repr

structure Call where
  operation : Operation
  now : Instant
  deriving DecidableEq

def execute (guard : Inner) (call : Call) : Except CircuitOpen (Inner × Unit) :=
  match call.operation with
  | .acquire => acquire config call.now guard
  | .recordSuccess => .ok (recordSuccess guard, ())
  | .recordFailure => .ok (recordFailure config call.now guard, ())

def machine : Machine Inner Call CircuitOpen Unit where
  initial := new
  execute := execute config

def ClockMonotone (calls : List Call) : Prop :=
  calls.Pairwise fun earlier later => earlier.now ≤ later.now

instance (calls : List Call) : Decidable (ClockMonotone calls) :=
  inferInstanceAs (Decidable (calls.Pairwise _))

end

/-! ## Single calls -/

section

variable (config : BreakerConfig) (guard : Inner) (failures : UInt32) (now : Instant)

@[simp] theorem next_acquire_closed :
    (machine config).next ⟨failures, .closed⟩ ⟨.acquire, now⟩ = ⟨failures, .closed⟩ := rfl

@[simp] theorem next_acquire_halfOpen :
    (machine config).next ⟨failures, .halfOpen⟩ ⟨.acquire, now⟩ = ⟨failures, .halfOpen⟩ := rfl

@[simp] theorem next_acquire_open (openedAt : Instant) :
    (machine config).next ⟨failures, .open openedAt⟩ ⟨.acquire, now⟩ =
      if config.openDuration ≤ now - openedAt then ⟨failures, .halfOpen⟩
      else ⟨failures, .open openedAt⟩ := by
  by_cases cooled : config.openDuration ≤ now - openedAt <;>
    simp [Machine.next, machine, execute, acquire, durationSince, cooled]

@[simp] theorem next_recordSuccess :
    (machine config).next guard ⟨.recordSuccess, now⟩ = new := rfl

@[simp] theorem next_recordFailure :
    (machine config).next guard ⟨.recordFailure, now⟩ = recordFailure config now guard := rfl

end

/-! ## The half-open state -/

section

variable (config : BreakerConfig)

def EntersHalfOpen (before : List Call) (probe : Call) : Prop :=
  state ((machine config).state before) ≠ .halfOpen ∧
    state ((machine config).state (before ++ [probe])) = .halfOpen

/-- From each transition into the half-open state until the next recorded
outcome, the call that made the transition is admitted and every other one is
rejected. -/
def SingleProbe (calls : List Call) : Prop :=
  ∀ before probe during after, calls = before ++ probe :: (during ++ after) →
    EntersHalfOpen config before probe →
    (∀ call ∈ during, call.operation = .acquire) →
    (probe.operation = .acquire ∧
        ∃ next, (machine config).execute ((machine config).state before) probe = .ok next) ∧
      ∀ earlier call later, during = earlier ++ call :: later →
        (machine config).execute ((machine config).state (before ++ probe :: earlier)) call =
          .error .circuitOpen

def HalfOpenUndisturbed (calls : List Call) : Prop :=
  ∀ before call after, calls = before ++ call :: after → call.operation = .acquire →
    state ((machine config).state before) ≠ .halfOpen

end

variable {config : BreakerConfig} {guard next : Inner} {call : Call}

theorem execute_of_unopened (unopened : state guard ≠ .open)
    (acquires : call.operation = .acquire) :
    execute config guard call = .ok (guard, ()) := by
  rcases guard with ⟨failures, raw⟩
  cases raw with
  | halfOpen => simp [execute, acquires, acquire]
  | closed => simp [execute, acquires, acquire]
  | «open» openedAt => exact absurd rfl unopened

theorem execute_of_halfOpen (halfOpen : state guard = .halfOpen)
    (acquires : call.operation = .acquire) :
    execute config guard call = .ok (guard, ()) :=
  execute_of_unopened (halfOpen.trans_ne (by simp)) acquires

theorem state_recordFailure_ne (now : Instant) (guard : Inner) :
    state (recordFailure config now guard) ≠ .halfOpen := by
  rcases guard with ⟨failures, raw⟩
  cases raw with
  | closed =>
      simp only [recordFailure]
      split <;> simp [state]
  | «open» openedAt => simp [recordFailure, state]
  | halfOpen => simp [recordFailure, state]

theorem acquire_of_halfOpen
    (executed : execute config guard call = .ok (next, ())) (halfOpen : state next = .halfOpen) :
    call.operation = .acquire := by
  rcases call with ⟨operation, now⟩
  cases operation with
  | acquire => rfl
  | recordSuccess =>
      cases executed
      cases halfOpen
  | recordFailure =>
      cases executed
      exact absurd halfOpen (state_recordFailure_ne now guard)

theorem admitted_of_halfOpen {calls : List Call}
    (halfOpen : state ((machine config).state (calls ++ [call])) = .halfOpen) :
    call.operation = .acquire ∧
      ∃ result, (machine config).execute ((machine config).state calls) call = .ok result := by
  cases outcome : (machine config).execute ((machine config).state calls) call with
  | ok result =>
      rw [((machine config).concat_of_ok outcome).1] at halfOpen
      exact ⟨acquire_of_halfOpen outcome halfOpen, result, rfl⟩
  | error rejection =>
      rw [((machine config).concat_of_error outcome).1] at halfOpen
      rcases call with ⟨operation, now⟩
      cases operation with
      | acquire =>
          have admitted := @execute_of_halfOpen config _ ⟨.acquire, now⟩ halfOpen rfl
          exact absurd (admitted.symm.trans outcome) (by simp)
      | recordSuccess => cases outcome
      | recordFailure => cases outcome

theorem halfOpen_concat {calls : List Call}
    (halfOpen : state ((machine config).state calls) = .halfOpen)
    (acquires : call.operation = .acquire) :
    state ((machine config).state (calls ++ [call])) = .halfOpen := by
  have admitted := @execute_of_halfOpen config _ call halfOpen acquires
  rw [((machine config).concat_of_ok admitted).1]
  exact halfOpen

theorem halfOpen_append {calls : List Call}
    (halfOpen : state ((machine config).state calls) = .halfOpen) (during : List Call)
    (acquires : ∀ call ∈ during, call.operation = .acquire) :
    state ((machine config).state (calls ++ during)) = .halfOpen := by
  induction during generalizing calls with
  | nil => simpa using halfOpen
  | cons call rest induction =>
      have stays := halfOpen_concat halfOpen (acquires call List.mem_cons_self)
      have rested := induction stays fun other member =>
        acquires other (List.mem_cons_of_mem _ member)
      rwa [List.append_assoc, List.singleton_append] at rested

/-- A half-open breaker was moved there by one call, and every call since then
asked to proceed. -/
theorem exists_probe {calls : List Call}
    (halfOpen : state ((machine config).state calls) = .halfOpen) :
    ∃ before probe during, calls = before ++ probe :: during ∧
      EntersHalfOpen config before probe ∧ ∀ call ∈ during, call.operation = .acquire := by
  have closedFirst : state (machine config).initial ≠ .halfOpen := by
    intro equal
    cases equal
  rcases (machine config).exists_gain (fun guard => state guard = .halfOpen) closedFirst
    halfOpen with ⟨before, probe, during, rfl, without, held⟩
  refine ⟨before, probe, during, rfl, ⟨without, held [] List.nil_prefix⟩, ?_⟩
  intro call member
  rcases List.append_of_mem member with ⟨earlier, later, rfl⟩
  have after := held (earlier ++ [call]) ⟨later, by simp⟩
  rw [← List.cons_append, ← List.append_assoc] at after
  exact (admitted_of_halfOpen after).1

/-- The breaker admits a single probe exactly in the runs in which nobody asks
to proceed while it is half-open. -/
theorem single_probe_iff (config : BreakerConfig) (calls : List Call) :
    SingleProbe config calls ↔ HalfOpenUndisturbed config calls := by
  constructor
  · intro single before call after split acquires halfOpen
    rcases exists_probe halfOpen with ⟨first, probe, during, rfl, enters, acquiring⟩
    have acquiringToo : ∀ other ∈ during ++ [call], other.operation = .acquire := by
      rw [List.forall_mem_append, List.forall_mem_singleton]
      exact ⟨acquiring, acquires⟩
    have rejected := (single first probe (during ++ [call]) after (by simp [split]) enters
      acquiringToo).2 during call [] rfl
    have admitted := @execute_of_halfOpen config _ call halfOpen acquires
    exact absurd (admitted.symm.trans rejected) (by simp)
  · intro undisturbed before probe during after split enters acquiring
    refine ⟨admitted_of_halfOpen enters.2, ?_⟩
    intro earlier call later duringIs
    subst duringIs
    have halfOpen : state ((machine config).state (before ++ probe :: earlier)) = .halfOpen := by
      have stays := halfOpen_append enters.2 earlier fun other member =>
        acquiring other (List.mem_append_left _ member)
      rwa [List.append_assoc, List.singleton_append] at stays
    exact absurd halfOpen (undisturbed (before ++ probe :: earlier) call (later ++ after)
      (by simp [split]) (acquiring call (by simp)))

def Sample.sensitive : BreakerConfig := ⟨1, 10 * 10 ^ 9⟩

def Sample.twoCallers : List Call :=
  [⟨.recordFailure, 0⟩, ⟨.acquire, 11 * 10 ^ 9⟩, ⟨.acquire, 11 * 10 ^ 9⟩]

/-- Both callers are admitted before any outcome is recorded. -/
theorem two_probes_admitted :
    ¬∀ (config : BreakerConfig) (calls : List Call), ClockMonotone calls →
      SingleProbe config calls := by
  intro always
  have single := always Sample.sensitive Sample.twoCallers (by decide +kernel)
    [⟨.recordFailure, 0⟩] ⟨.acquire, 11 * 10 ^ 9⟩ [⟨.acquire, 11 * 10 ^ 9⟩] [] rfl
    (by unfold EntersHalfOpen; decide +kernel) (by simp)
  have rejected := single.2 [] ⟨.acquire, 11 * 10 ^ 9⟩ [] rfl
  cases rejected

end CircuitBreaker

end WormVerify.Resilience
