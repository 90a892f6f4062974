import WormVerify.Resilience.Breaker

/-! # When the breaker trips, and for how long

The failure count of a closed breaker is that of its call history. An open
breaker keeps its cooldown only while no late success is recorded.
-/

namespace WormVerify.Resilience.CircuitBreaker

open Checked

/-! ## Consecutive failures -/

def consecutiveFailures (calls : List Call) : Nat :=
  (calls.reverse.takeWhile fun call => call.operation ≠ .recordSuccess).countP
    fun call => call.operation = .recordFailure

theorem consecutiveFailures_concat (calls : List Call) (call : Call) :
    consecutiveFailures (calls ++ [call]) =
      match call.operation with
      | .acquire => consecutiveFailures calls
      | .recordSuccess => 0
      | .recordFailure => consecutiveFailures calls + 1 := by
  rcases call with ⟨operation, now⟩
  cases operation <;> simp [consecutiveFailures]

variable {config : BreakerConfig}

/-- The number of failures in a row that trips the breaker. -/
def tripsAt (config : BreakerConfig) : Nat :=
  max config.failureThreshold.toNat 1

theorem tripsAt_pos (config : BreakerConfig) : 0 < tripsAt config :=
  Nat.lt_of_lt_of_le Nat.zero_lt_one (Nat.le_max_right _ _)

theorem tripsAt_lt (config : BreakerConfig) : tripsAt config < 2 ^ 32 := by
  have bounded := config.failureThreshold.toNat_lt
  unfold tripsAt
  omega

theorem recordFailure_closed {failures : UInt32} (below : failures.toNat < tripsAt config)
    (now : Instant) :
    (saturatingAddU32 failures 1).toNat = failures.toNat + 1 ∧
      recordFailure config now ⟨failures, .closed⟩ =
        if failures.toNat + 1 = tripsAt config then
          ⟨saturatingAddU32 failures 1, .open now⟩
        else
          ⟨saturatingAddU32 failures 1, .closed⟩ := by
  have limit := tripsAt_lt config
  have counted : (saturatingAddU32 failures 1).toNat = failures.toNat + 1 := by
    rw [toNat_saturatingAddU32, UInt32.toNat_one]
    omega
  have reached : config.failureThreshold ≤ saturatingAddU32 failures 1 ↔
      failures.toNat + 1 = tripsAt config := by
    rw [UInt32.le_iff_toNat_le, counted]
    unfold tripsAt at below ⊢
    omega
  refine ⟨counted, ?_⟩
  simp only [recordFailure, reached]

/-- A closed breaker counts the failures in a row, of which there are too few
to trip it. -/
theorem failures_eq {calls : List Call} {failures : UInt32}
    (closed : (machine config).state calls = ⟨failures, .closed⟩) :
    failures.toNat = consecutiveFailures calls ∧ failures.toNat < tripsAt config := by
  induction calls using List.reverseRecOn generalizing failures with
  | nil =>
      cases closed
      exact ⟨rfl, tripsAt_pos config⟩
  | append_singleton calls call induction =>
      rw [Machine.state_concat] at closed
      rw [consecutiveFailures_concat]
      rcases call with ⟨operation, now⟩
      rcases before : (machine config).state calls with ⟨count, raw⟩
      rw [before] at closed
      cases operation with
      | acquire =>
          cases raw with
          | closed =>
              cases closed
              exact induction before
          | halfOpen => cases closed
          | «open» openedAt =>
              rw [next_acquire_open] at closed
              split at closed <;> cases closed
      | recordSuccess =>
          cases closed
          exact ⟨rfl, tripsAt_pos config⟩
      | recordFailure =>
          rw [next_recordFailure] at closed
          cases raw with
          | closed =>
              rcases induction before with ⟨equal, below⟩
              rcases recordFailure_closed below now with ⟨counted, recorded⟩
              rw [recorded] at closed
              split at closed
              · cases closed
              · cases closed
                rw [counted, equal]
                exact ⟨rfl, by omega⟩
          | halfOpen => cases closed
          | «open» openedAt => cases closed

/-- A closed breaker counts the failures in a row, and opens at the failure
that makes them as many as the threshold asks for, or one if it asks for none. -/
theorem trips_iff_consecutive (config : BreakerConfig) (calls : List Call)
    (closed : state ((machine config).state calls) = .closed) :
    ((machine config).state calls).failures.toNat = consecutiveFailures calls ∧
      consecutiveFailures calls < tripsAt config ∧
      ∀ call, state ((machine config).state (calls ++ [call])) = .open ↔
        call.operation = .recordFailure ∧
          consecutiveFailures (calls ++ [call]) = tripsAt config := by
  rcases before : (machine config).state calls with ⟨failures, raw⟩
  rw [before] at closed
  cases raw with
  | «open» openedAt => cases closed
  | halfOpen => cases closed
  | closed =>
      rcases failures_eq before with ⟨equal, below⟩
      refine ⟨equal, equal ▸ below, ?_⟩
      intro call
      rw [Machine.state_concat, before, consecutiveFailures_concat]
      rcases call with ⟨operation, now⟩
      cases operation with
      | acquire => simp [state]
      | recordSuccess => simp [state, new]
      | recordFailure =>
          rw [next_recordFailure, (recordFailure_closed below now).2, equal]
          split <;> simp [state, *]

def Sample.tolerant : BreakerConfig := ⟨2, 10 * 10 ^ 9⟩

def Sample.recovered : List Call :=
  [⟨.recordFailure, 0⟩, ⟨.recordFailure, 0⟩, ⟨.acquire, 11 * 10 ^ 9⟩,
    ⟨.recordSuccess, 12 * 10 ^ 9⟩, ⟨.recordFailure, 13 * 10 ^ 9⟩]

theorem recovered_trips_at_two :
    ((machine Sample.tolerant).state Sample.recovered).failures.toNat =
        consecutiveFailures Sample.recovered ∧
      consecutiveFailures Sample.recovered < tripsAt Sample.tolerant ∧
      ∀ call, state ((machine Sample.tolerant).state (Sample.recovered ++ [call])) = .open ↔
        call.operation = .recordFailure ∧
          consecutiveFailures (Sample.recovered ++ [call]) = tripsAt Sample.tolerant :=
  trips_iff_consecutive Sample.tolerant Sample.recovered (by decide +kernel)

/-! ## The cooldown -/

section

variable (config : BreakerConfig)

def EntersOpen (before : List Call) (trip : Call) : Prop :=
  state ((machine config).state before) ≠ .open ∧
    state ((machine config).state (before ++ [trip])) = .open

def AsksTooEarly (before : List Call) (trip probe : Call) : Prop :=
  EntersOpen config before trip ∧ probe.operation = .acquire ∧
    probe.now < trip.now + config.openDuration

def HonoursCooldown (calls : List Call) : Prop :=
  ∀ before trip during probe after, calls = before ++ trip :: (during ++ probe :: after) →
    AsksTooEarly config before trip probe →
    (machine config).execute ((machine config).state (before ++ trip :: during)) probe =
      .error .circuitOpen

/-- No success is recorded between the call that last opened the breaker and a
caller that asks to proceed before the cooldown has elapsed. -/
def CooldownUndisturbed (calls : List Call) : Prop :=
  ∀ before trip during probe after, calls = before ++ trip :: (during ++ probe :: after) →
    AsksTooEarly config before trip probe →
    (∀ between other rest, during = between ++ other :: rest →
      ¬EntersOpen config (before ++ trip :: between) other) →
    ∀ call ∈ during, call.operation ≠ .recordSuccess

end

theorem next_of_opens {guard : Inner} {call : Call} (without : state guard ≠ .open)
    (opened : state ((machine config).next guard call) = .open) :
    ∃ failures, (machine config).next guard call = ⟨failures, .open call.now⟩ := by
  rcases call with ⟨operation, now⟩
  rcases guard with ⟨count, raw⟩
  cases raw with
  | «open» openedAt => exact absurd rfl without
  | closed =>
      cases operation with
      | acquire => cases opened
      | recordSuccess => cases opened
      | recordFailure =>
          rw [next_recordFailure] at opened ⊢
          by_cases reached : config.failureThreshold ≤ saturatingAddU32 count 1
          · exact ⟨saturatingAddU32 count 1, by simp only [recordFailure, if_pos reached]⟩
          · simp [recordFailure, reached, state] at opened
  | halfOpen =>
      cases operation with
      | acquire => cases opened
      | recordSuccess => cases opened
      | recordFailure => exact ⟨count, rfl⟩

theorem next_of_closed {guard : Inner} {call : Call} (closed : state guard = .closed)
    (unopened : state ((machine config).next guard call) ≠ .open) :
    state ((machine config).next guard call) = .closed := by
  rcases call with ⟨operation, now⟩
  rcases guard with ⟨count, raw⟩
  cases raw with
  | «open» openedAt => cases closed
  | halfOpen => cases closed
  | closed =>
      cases operation with
      | acquire => rfl
      | recordSuccess => rfl
      | recordFailure =>
          rw [next_recordFailure] at unopened ⊢
          by_cases reached : config.failureThreshold ≤ saturatingAddU32 count 1
          · simp [recordFailure, reached, state] at unopened
          · simp [recordFailure, reached, state]

/-- Until the cooldown elapses only a success changes an open breaker. -/
theorem open_append {calls : List Call} {failures : UInt32} {openedAt : Instant}
    (opened : (machine config).state calls = ⟨failures, .open openedAt⟩) (during : List Call)
    (early : ∀ call ∈ during,
      openedAt ≤ call.now ∧ call.now < openedAt + config.openDuration)
    (noSuccess : ∀ call ∈ during, call.operation ≠ .recordSuccess) :
    (machine config).state (calls ++ during) = ⟨failures, .open openedAt⟩ := by
  induction during using List.reverseRecOn with
  | nil => simpa using opened
  | append_singleton during call induction =>
      rw [List.forall_mem_append, List.forall_mem_singleton] at early noSuccess
      rw [← List.append_assoc, Machine.state_concat, induction early.1 noSuccess.1]
      rcases call with ⟨operation, now⟩
      cases operation with
      | acquire =>
          have cooling : ¬config.openDuration ≤ now - openedAt :=
            Nat.not_le.mpr (Nat.sub_lt_left_of_lt_add early.2.1 early.2.2)
          rw [next_acquire_open, if_neg cooling]
      | recordSuccess => exact absurd rfl noSuccess.2
      | recordFailure => rfl

theorem closed_append {calls : List Call}
    (closed : state ((machine config).state calls) = .closed) (during : List Call)
    (untripped : ∀ between other rest, during = between ++ other :: rest →
      ¬EntersOpen config (calls ++ between) other) :
    state ((machine config).state (calls ++ during)) = .closed := by
  induction during using List.reverseRecOn with
  | nil => simpa using closed
  | append_singleton during call induction =>
      have soFar := induction fun between other rest split =>
        untripped between other (rest ++ [call]) (by simp [split])
      have notOpen : ¬EntersOpen config (calls ++ during) call := untripped during call [] rfl
      rw [EntersOpen, Machine.state_concat, soFar] at notOpen
      rw [← List.append_assoc, Machine.state_concat]
      refine next_of_closed soFar ?_
      intro opened
      exact notOpen ⟨by simp, opened⟩

/-- The breaker that a success has closed admits a caller unless it trips again. -/
theorem admitted_of_success {calls during : List Call} {success probe : Call}
    (succeeds : success.operation = .recordSuccess) (asks : probe.operation = .acquire)
    (untripped : ∀ between other rest, during = between ++ other :: rest →
      ¬EntersOpen config (calls ++ success :: between) other) :
    (machine config).execute ((machine config).state (calls ++ success :: during)) probe ≠
      .error .circuitOpen := by
  have reset : state ((machine config).state (calls ++ [success])) = .closed := by
    rw [Machine.state_concat]
    rcases success with ⟨operation, now⟩
    cases succeeds
    rfl
  have closed := closed_append reset during (by simpa using untripped)
  rw [List.append_assoc, List.singleton_append] at closed
  have admitted := @execute_of_unopened config _ probe (closed.trans_ne (by simp)) asks
  intro rejected
  exact absurd (admitted.symm.trans rejected) (by simp)

theorem rejected_of_opened {before during : List Call} {trip probe : Call}
    (early : AsksTooEarly config before trip probe)
    (ordered : ∀ call ∈ during, trip.now ≤ call.now ∧ call.now ≤ probe.now)
    (latest : trip.now ≤ probe.now)
    (noSuccess : ∀ call ∈ during, call.operation ≠ .recordSuccess) :
    (machine config).execute ((machine config).state (before ++ trip :: during)) probe =
      .error .circuitOpen := by
  rcases early with ⟨enters, asks, bound⟩
  rw [EntersOpen, Machine.state_concat] at enters
  rcases next_of_opens enters.1 enters.2 with ⟨failures, opened⟩
  rw [← Machine.state_concat] at opened
  have still := open_append opened during (fun call member =>
    ⟨(ordered call member).1, Nat.lt_of_le_of_lt (ordered call member).2 bound⟩) noSuccess
  rw [List.append_assoc, List.singleton_append] at still
  rw [still]
  rcases probe with ⟨operation, now⟩
  cases asks
  have cooling : ¬config.openDuration ≤ now - trip.now :=
    Nat.not_le.mpr (Nat.sub_lt_left_of_lt_add latest bound)
  simp [machine, execute, acquire, durationSince, cooling]

/-- Callers are rejected throughout every cooldown exactly in the runs in which
no success is recorded before a caller that comes too early. -/
theorem honours_cooldown_iff (config : BreakerConfig) (calls : List Call)
    (monotone : ClockMonotone calls) :
    HonoursCooldown config calls ↔ CooldownUndisturbed config calls := by
  constructor
  · intro honours before trip during probe after split early untripped call member success
    rcases List.append_of_mem member with ⟨between, rest, duringIs⟩
    subst duringIs
    have rejected := honours before trip (between ++ call :: rest) probe after split early
    rw [← List.cons_append, ← List.append_assoc] at rejected
    refine admitted_of_success success early.2.1 ?_ rejected
    intro first other later restIs
    have untouched := untripped (between ++ call :: first) other later (by simp [restIs])
    simpa using untouched
  · intro undisturbed before trip during probe after split early
    rcases exists_last (EntersOpen config) early.1 during with
      ⟨earlier, last, later, whole, member, enters, untripped⟩
    have regrouped : calls = earlier ++ last :: (later ++ probe :: after) := by
      rw [split, ← List.cons_append, ← List.append_assoc, whole]
      simp
    have fromTrip := monotone
    rw [split, ClockMonotone, List.pairwise_append] at fromTrip
    have fromLast := monotone
    rw [regrouped, ClockMonotone, List.pairwise_append, List.pairwise_cons,
      List.pairwise_append] at fromLast
    have notBefore : trip.now ≤ last.now := by
      rcases List.mem_cons.mp member with same | inside
      · rw [same]
      · exact (List.pairwise_cons.mp fromTrip.2.1).1 last (List.mem_append_left _ inside)
    have earlyForLast : AsksTooEarly config earlier last probe :=
      ⟨enters, early.2.1, Nat.lt_of_lt_of_le early.2.2 (Nat.add_le_add_right notBefore _)⟩
    rw [whole]
    exact rejected_of_opened earlyForLast
      (fun call inside => ⟨fromLast.2.1.1 call (List.mem_append_left _ inside),
        fromLast.2.1.2.2.2 call inside probe List.mem_cons_self⟩)
      (fromLast.2.1.1 probe (by simp))
      (undisturbed earlier last later probe after regrouped earlyForLast untripped)

/-- Two admitted calls, of which the first trips the breaker and the second
succeeds, and a caller two seconds into the cooldown. -/
def Sample.lateSuccess : List Call :=
  [⟨.acquire, 0⟩, ⟨.acquire, 0⟩, ⟨.recordFailure, 0⟩, ⟨.recordSuccess, 10 ^ 9⟩,
    ⟨.acquire, 2 * 10 ^ 9⟩]

theorem lateSuccess_honours_iff :
    HonoursCooldown Sample.sensitive Sample.lateSuccess ↔
      CooldownUndisturbed Sample.sensitive Sample.lateSuccess :=
  honours_cooldown_iff Sample.sensitive Sample.lateSuccess (by decide +kernel)

/-- The late success ends the cooldown, and the caller is admitted. -/
theorem admitted_while_cooling :
    ¬∀ (config : BreakerConfig) (calls : List Call), ClockMonotone calls →
      HonoursCooldown config calls := by
  intro always
  have rejected := always Sample.sensitive Sample.lateSuccess (by decide +kernel)
    [⟨.acquire, 0⟩, ⟨.acquire, 0⟩] ⟨.recordFailure, 0⟩ [⟨.recordSuccess, 10 ^ 9⟩]
    ⟨.acquire, 2 * 10 ^ 9⟩ [] rfl
    (by unfold AsksTooEarly EntersOpen; decide +kernel)
  cases rejected

end WormVerify.Resilience.CircuitBreaker
