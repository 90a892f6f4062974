import WormVerify.Foundation.Isolation
import WormVerify.Resilience.Tripping

/-! # How often the breaker opens

Within any stretch of a run the breaker opens once, and once more for each
success recorded and for each cooldown that passes.
-/

namespace WormVerify.Resilience.CircuitBreaker

section

variable (config : BreakerConfig)

def opens (entry : Commit Inner Call Unit) : Bool :=
  state entry.before ≠ .open ∧ state entry.after = .open

def trips (calls : List Call) : Nat := ((machine config).journal calls).countP opens

end

def successes (calls : List Call) : Nat :=
  calls.countP fun call => call.operation = .recordSuccess

theorem successes_concat (calls : List Call) (call : Call) :
    successes (calls ++ [call]) =
      successes calls + if call.operation = .recordSuccess then 1 else 0 := by
  simp [successes, List.countP_append, List.countP_singleton]

variable {config : BreakerConfig}

theorem trips_concat (calls : List Call) (call : Call) :
    trips config (calls ++ [call]) = trips config calls +
      if state ((machine config).state calls) ≠ .open ∧
        state ((machine config).next ((machine config).state calls) call) = .open
      then 1 else 0 := by
  rw [trips, trips]
  cases outcome : (machine config).execute ((machine config).state calls) call with
  | error rejection =>
      have unchanged : (machine config).next ((machine config).state calls) call =
          (machine config).state calls := by
        simp only [Machine.next, outcome]
      rw [((machine config).concat_of_error outcome).2, unchanged,
        if_neg (fun both => both.1 both.2)]
      rfl
  | ok result =>
      rcases result with ⟨after, output⟩
      rw [((machine config).concat_of_ok outcome).2, List.countP_append, List.countP_singleton,
        (machine config).next_of_ok outcome]
      simp [opens]

/-- The trips since the start are covered by the successes and the time since
then, and the latest one of an open breaker by nothing yet. -/
def Covered (cooldown start now tripped succeeded : Nat) : RawState → Prop
  | .open openedAt => tripped ≤ succeeded ∨
      openedAt ≤ now ∧ start + tripped * cooldown ≤ openedAt + (succeeded + 1) * cooldown
  | _ => start + tripped * cooldown ≤ now + succeeded * cooldown

namespace Covered

variable {cooldown start now tripped succeeded : Nat}

theorem beginning (begun : start ≤ now) (raw : RawState) :
    Covered cooldown start now 0 0 raw := by
  cases raw with
  | closed => simpa [Covered] using begun
  | halfOpen => simpa [Covered] using begun
  | «open» openedAt => exact .inl (Nat.le_refl 0)

theorem later {next : Nat} {raw : RawState} (ordered : now ≤ next)
    (covered : Covered cooldown start now tripped succeeded raw) :
    Covered cooldown start next tripped succeeded raw := by
  cases raw with
  | closed => exact Nat.le_trans covered (Nat.add_le_add_right ordered _)
  | halfOpen => exact Nat.le_trans covered (Nat.add_le_add_right ordered _)
  | «open» openedAt =>
      exact covered.imp_right fun latest => ⟨Nat.le_trans latest.1 ordered, latest.2⟩

theorem spared {raw : RawState} (begun : start ≤ now)
    (covered : Covered cooldown start now tripped succeeded raw) :
    start + tripped * cooldown ≤ now + (succeeded + 1) * cooldown := by
  have more : succeeded * cooldown ≤ (succeeded + 1) * cooldown :=
    Nat.mul_le_mul_right _ (Nat.le_succ _)
  cases raw with
  | closed => exact Nat.le_trans covered (Nat.add_le_add_left more _)
  | halfOpen => exact Nat.le_trans covered (Nat.add_le_add_left more _)
  | «open» openedAt =>
      rcases covered with paid | ⟨opened, latest⟩
      · exact Nat.add_le_add begun (Nat.le_trans (Nat.mul_le_mul_right _ paid) more)
      · exact Nat.le_trans latest (Nat.add_le_add_right opened _)

theorem cooled {openedAt : Nat} (begun : start ≤ now)
    (covered : Covered cooldown start now tripped succeeded (.open openedAt))
    (elapsed : cooldown ≤ now - openedAt) :
    Covered cooldown start now tripped succeeded .halfOpen := by
  rcases covered with paid | ⟨opened, latest⟩
  · exact Nat.add_le_add begun (Nat.mul_le_mul_right _ paid)
  · change start + tripped * cooldown ≤ now + succeeded * cooldown
    have ends : openedAt + cooldown ≤ now := Nat.add_le_of_le_sub' opened elapsed
    rw [Nat.succ_mul] at latest
    omega

theorem trip (covered : start + tripped * cooldown ≤ now + succeeded * cooldown) :
    Covered cooldown start now (tripped + 1) succeeded (.open now) := by
  refine .inr ⟨Nat.le_refl now, ?_⟩
  rw [Nat.succ_mul, Nat.succ_mul]
  omega

theorem next {guard : Inner} {call : Call} (begun : start ≤ call.now)
    (covered : Covered config.openDuration start call.now tripped succeeded guard.state) :
    Covered config.openDuration start call.now
      (tripped + if state guard ≠ .open ∧ state ((machine config).next guard call) = .open
        then 1 else 0)
      (succeeded + if call.operation = .recordSuccess then 1 else 0)
      ((machine config).next guard call).state := by
  rcases call with ⟨operation, now⟩
  rcases guard with ⟨failures, raw⟩
  cases operation with
  | acquire =>
      cases raw with
      | closed => simpa [state] using covered
      | halfOpen => simpa [state] using covered
      | «open» openedAt =>
          rw [next_acquire_open]
          split
          · rename_i elapsed
            simpa [state] using cooled begun covered elapsed
          · simpa [state] using covered
  | recordSuccess =>
      have closed : Covered config.openDuration start now tripped (succeeded + 1) .closed :=
        spared begun covered
      simpa [state, new] using closed
  | recordFailure =>
      rw [next_recordFailure]
      cases raw with
      | closed =>
          by_cases reached : config.failureThreshold ≤ Checked.saturatingAddU32 failures 1
          · have opened : recordFailure config now ⟨failures, .closed⟩ =
                ⟨Checked.saturatingAddU32 failures 1, .open now⟩ := by
              simp only [recordFailure, if_pos reached]
            rw [opened]
            simpa [state] using trip covered
          · have counted : recordFailure config now ⟨failures, .closed⟩ =
                ⟨Checked.saturatingAddU32 failures 1, .closed⟩ := by
              simp only [recordFailure, if_neg reached]
            rw [counted]
            simpa [state] using covered
      | halfOpen => simpa [recordFailure, state] using trip covered
      | «open» openedAt => simpa [recordFailure, state] using covered

end Covered

theorem covered_append (before : List Call) {during : List Call} (monotone : ClockMonotone during)
    {start now : Instant} (begun : start ≤ now)
    (within : ∀ call ∈ during, start ≤ call.now ∧ call.now ≤ now) :
    ∃ tripped, trips config (before ++ during) = trips config before + tripped ∧
      Covered config.openDuration start now tripped (successes during)
        ((machine config).state (before ++ during)).state := by
  induction during using List.reverseRecOn generalizing now with
  | nil =>
      rw [List.append_nil]
      exact ⟨0, rfl, .beginning begun _⟩
  | append_singleton during call induction =>
      rw [ClockMonotone, List.pairwise_append] at monotone
      rw [List.forall_mem_append, List.forall_mem_singleton] at within
      rcases induction monotone.1 within.2.1 (fun other member =>
        ⟨(within.1 other member).1, monotone.2.2 other member call (List.mem_singleton_self _)⟩)
        with ⟨tripped, counted, covered⟩
      rw [← List.append_assoc, trips_concat, counted, Nat.add_assoc, successes_concat,
        Machine.state_concat]
      exact ⟨_, rfl, (covered.next within.2.1).later within.2.2⟩

/-- In any stretch of a run the breaker opens at most once, once more for each
success recorded, and once more for each open duration that passes. -/
theorem trips_are_bounded (config : BreakerConfig) (before during : List Call)
    (monotone : ClockMonotone during) (start finish : Instant)
    (within : ∀ call ∈ during, start ≤ call.now ∧ call.now ≤ finish) :
    trips config (before ++ during) * config.openDuration ≤
      (trips config before + successes during + 1) * config.openDuration + (finish - start) := by
  rcases @covered_append config before during monotone start (max start finish)
    (Nat.le_max_left _ _) (fun call member => ⟨(within call member).1,
      Nat.le_trans (within call member).2 (Nat.le_max_right _ _)⟩) with
    ⟨tripped, counted, covered⟩
  have spared := covered.spared (Nat.le_max_left _ _)
  rw [counted, Nat.add_assoc, Nat.add_mul, Nat.add_mul]
  generalize config.openDuration = cooldown at spared ⊢
  omega

def Sample.outage : List Call :=
  [⟨.recordFailure, 0⟩, ⟨.acquire, 10 * 10 ^ 9⟩, ⟨.recordFailure, 10 * 10 ^ 9⟩,
    ⟨.acquire, 20 * 10 ^ 9⟩, ⟨.recordFailure, 20 * 10 ^ 9⟩]

theorem outage_trips :
    trips Sample.sensitive ([] ++ Sample.outage) = 3 ∧
      trips Sample.sensitive ([] ++ Sample.outage) * Sample.sensitive.openDuration ≤
        (trips Sample.sensitive [] + successes Sample.outage + 1) *
          Sample.sensitive.openDuration + (20 * 10 ^ 9 - 0) :=
  ⟨by decide +kernel,
    trips_are_bounded Sample.sensitive [] Sample.outage (by decide +kernel) 0 (20 * 10 ^ 9)
      (by decide +kernel)⟩

end WormVerify.Resilience.CircuitBreaker
