import WormVerify.Foundation.Sequential
import WormVerify.Resilience.Backoff

/-! # Retrying a fallible operation -/

namespace WormVerify.Resilience.Retry

open Checked

variable {Error Value : Type}

inductive Await
  | op
  | sleep (duration : Duration)
  deriving DecidableEq

/-- The operation answers with a value or an error, and a sleep with nothing. -/
def ports (Error Value : Type) : Interface where
  Op := Await
  Response
    | .op => Except Error Value
    | .sleep _ => Unit

/-- The attempts that are left, with the error of the one before them. -/
def retryLoop (policy : RetryPolicy) (attempts : UInt32) :
    List UInt32 → Option Error → Program (ports Error Value) (Checked Error Value)
  | [], none => .done panic
  | [], some lastErr => .done (fail lastErr)
  | attempt :: rest, _ => .call .op fun
      | .ok value => .done (.ok value)
      | .error err =>
          match addU32 attempt 1 with
          | .error fault => .done (.error fault)
          | .ok next =>
              if next < attempts then
                .call (.sleep (policy.backoffFor attempt)) fun _ =>
                  retryLoop policy attempts rest (some err)
              else
                retryLoop policy attempts rest (some err)

/-- The values of `0..attempts`. -/
def range (attempts : UInt32) : List UInt32 :=
  (List.range attempts.toNat).map UInt32.ofNat

def retry (policy : RetryPolicy) : Program (ports Error Value) (Checked Error Value) :=
  let attempts := max policy.maxAttempts 1
  retryLoop policy attempts (range attempts) none

/-- The surroundings of a retry are the outcomes that the operation has still
to produce. -/
def service (Error Value : Type) : Service where
  ports := ports Error Value
  World := Nat → Except Error Value
  Request := RetryPolicy
  Result := Checked Error Value
  Choice := Unit
  body := retry
  serve _ outcomes
    | .op => (outcomes 0, fun turn => outcomes (turn + 1))
    | .sleep _ => ((), outcomes)

def runs (outcomes : Nat → Except Error Value)
    (program : Program (ports Error Value) (Checked Error Value)) :
    List Await × Checked Error Value :=
  let outcome := ((service Error Value).perform program (fun _ => ()) outcomes).1
  (outcome.transcript.map Exchange.op, outcome.result)

/-! ## Single attempts -/

section

variable (outcomes : Nat → Except Error Value)

@[simp] theorem runs_done (result : Checked Error Value) :
    runs outcomes (.done result) = ([], result) := rfl

@[simp] theorem runs_op
    (resume : (ports Error Value).Response .op →
      Program (ports Error Value) (Checked Error Value)) :
    runs outcomes (.call .op resume) =
      (.op :: (runs (fun turn => outcomes (turn + 1)) (resume (outcomes 0))).1,
        (runs (fun turn => outcomes (turn + 1)) (resume (outcomes 0))).2) := rfl

@[simp] theorem runs_sleep (duration : Duration)
    (resume : (ports Error Value).Response (.sleep duration) →
      Program (ports Error Value) (Checked Error Value)) :
    runs outcomes (.call (.sleep duration) resume) =
      (.sleep duration :: (runs outcomes (resume ())).1, (runs outcomes (resume ())).2) := rfl

end

section

variable {policy : RetryPolicy} {attempts attempt : UInt32} {rest : List UInt32}
  {lastErr : Option Error} {outcomes : Nat → Except Error Value} {value : Value} {err : Error}

theorem runs_of_ok (succeeds : outcomes 0 = .ok value) :
    runs outcomes (retryLoop policy attempts (attempt :: rest) lastErr) =
      ([.op], .ok value) := by
  simp [retryLoop, succeeds]

theorem addU32_one {attempt attempts : UInt32} (inside : attempt.toNat < attempts.toNat) :
    ∃ next, (addU32 attempt 1 : Checked Error UInt32) = .ok next ∧
      next.toNat = attempt.toNat + 1 := by
  have bounded := attempts.toNat_lt
  have sum : (attempt + 1).toNat = attempt.toNat + 1 := by
    rw [UInt32.toNat_add, UInt32.toNat_one]
    omega
  exact ⟨attempt + 1, addU32_eq_ok.mpr sum, sum⟩

theorem runs_of_last (fails : outcomes 0 = .error err)
    (last : attempt.toNat + 1 = attempts.toNat) :
    runs outcomes (retryLoop policy attempts [attempt] lastErr) = ([.op], fail err) := by
  rcases @addU32_one Error attempt attempts (by omega) with ⟨next, added, nextIs⟩
  have finished : ¬next < attempts := by
    rw [UInt32.lt_iff_toNat_lt]
    omega
  simp [retryLoop, fails, added, finished]

theorem runs_of_error (fails : outcomes 0 = .error err)
    (more : attempt.toNat + 1 < attempts.toNat) :
    runs outcomes (retryLoop policy attempts (attempt :: rest) lastErr) =
      (.op :: .sleep (policy.backoffFor attempt) ::
          (runs (fun turn => outcomes (turn + 1))
            (retryLoop policy attempts rest (some err))).1,
        (runs (fun turn => outcomes (turn + 1))
          (retryLoop policy attempts rest (some err))).2) := by
  rcases @addU32_one Error attempt attempts (by omega) with ⟨next, added, nextIs⟩
  have unfinished : next < attempts := by
    rw [UInt32.lt_iff_toNat_lt]
    omega
  simp [retryLoop, fails, added, unfinished]

end

/-! ## Whole retries -/

def retried (policy : RetryPolicy) (first count : Nat) : List Await :=
  (List.range' first count).flatMap fun attempt =>
    [.sleep (policy.backoffFor (UInt32.ofNat attempt)), .op]

@[simp] theorem retried_zero (policy : RetryPolicy) (first : Nat) :
    retried policy first 0 = [] := rfl

theorem retried_succ (policy : RetryPolicy) (first count : Nat) :
    retried policy first (count + 1) =
      .sleep (policy.backoffFor (UInt32.ofNat first)) :: .op ::
        retried policy (first + 1) count := by
  simp [retried, List.range'_succ]

def FailsFor (outcomes : Nat → Except Error Value) (turns : Nat) : Prop :=
  ∀ turn < turns, ∃ err, outcomes turn = .error err

theorem FailsFor.tail {outcomes : Nat → Except Error Value} {turns : Nat}
    (fails : FailsFor outcomes (turns + 1)) :
    FailsFor (fun turn => outcomes (turn + 1)) turns :=
  fun turn before => fails (turn + 1) (Nat.succ_lt_succ before)

theorem fails_or_succeeds (outcomes : Nat → Except Error Value) (turns : Nat) :
    FailsFor outcomes turns ∨ ∃ failures value, failures < turns ∧
      FailsFor outcomes failures ∧ outcomes failures = .ok value := by
  induction turns with
  | zero => exact .inl fun turn before => absurd before (Nat.not_lt_zero _)
  | succ turns induction =>
      rcases induction with fails | ⟨failures, value, before, fails, succeeds⟩
      · cases outcome : outcomes turns with
        | ok value => exact .inr ⟨turns, value, Nat.lt_succ_self _, fails, outcome⟩
        | error err =>
            refine .inl fun turn before => ?_
            rcases Nat.lt_succ_iff_lt_or_eq.mp before with earlier | last
            · exact fails turn earlier
            · exact ⟨err, last ▸ outcome⟩
      · exact .inr ⟨failures, value, Nat.lt_succ_of_lt before, fails, succeeds⟩

section

variable {policy : RetryPolicy} {attempts : UInt32}

theorem toNat_ofNat_of_le {position : Nat} (inside : position ≤ attempts.toNat) :
    (UInt32.ofNat position).toNat = position :=
  UInt32.toNat_ofNat_of_lt' (Nat.lt_of_le_of_lt inside attempts.toNat_lt)

theorem runs_of_success {left first turns : Nat} {outcomes : Nat → Except Error Value}
    {lastErr : Option Error} {value : Value} (bound : first + left = attempts.toNat)
    (fails : FailsFor outcomes turns) (succeeds : outcomes turns = .ok value)
    (inside : turns < left) :
    runs outcomes (retryLoop policy attempts ((List.range' first left).map UInt32.ofNat)
      lastErr) = (.op :: retried policy first turns, .ok value) := by
  induction turns generalizing left first outcomes lastErr with
  | zero =>
      rcases left with - | left
      · omega
      · rw [List.range'_succ, List.map_cons, runs_of_ok succeeds]
        rfl
  | succ turns induction =>
      rcases left with - | left
      · omega
      · rcases fails 0 (Nat.succ_pos _) with ⟨err, failed⟩
        have position := toNat_ofNat_of_le (by omega : first ≤ attempts.toNat)
        rw [List.range'_succ, List.map_cons, runs_of_error failed (by omega),
          induction (by omega) fails.tail succeeds (by omega), retried_succ]

theorem runs_of_failure {left first : Nat} {outcomes : Nat → Except Error Value}
    {lastErr : Option Error} {err : Error} (bound : first + (left + 1) = attempts.toNat)
    (fails : FailsFor outcomes left) (last : outcomes left = .error err) :
    runs outcomes (retryLoop policy attempts ((List.range' first (left + 1)).map UInt32.ofNat)
      lastErr) = (.op :: retried policy first left, fail err) := by
  induction left generalizing first outcomes lastErr with
  | zero =>
      have position := toNat_ofNat_of_le (by omega : first ≤ attempts.toNat)
      exact runs_of_last last (by omega)
  | succ left induction =>
      rcases fails 0 (Nat.succ_pos _) with ⟨other, failed⟩
      have position := toNat_ofNat_of_le (by omega : first ≤ attempts.toNat)
      rw [List.range'_succ, List.map_cons, runs_of_error failed (by omega),
        induction (by omega) fails.tail last, retried_succ]

end

def attemptLimit (policy : RetryPolicy) : Nat := max policy.maxAttempts.toNat 1

theorem toNat_max_one (count : UInt32) : (max count 1).toNat = max count.toNat 1 := by
  have unfolded : max count 1 = if count ≤ 1 then 1 else count := rfl
  rw [unfolded]
  split
  next small => exact (Nat.max_eq_right (UInt32.le_iff_toNat_le.mp small)).symm
  next large =>
    rw [UInt32.le_iff_toNat_le] at large
    exact (Nat.max_eq_left (Nat.le_of_not_le large)).symm

theorem retry_eq_loop (policy : RetryPolicy) :
    (retry policy : Program (ports Error Value) (Checked Error Value)) =
      retryLoop policy (max policy.maxAttempts 1)
        ((List.range' 0 (attemptLimit policy)).map UInt32.ofNat) none := by
  simp only [retry, range, toNat_max_one, attemptLimit, List.range_eq_range']

/-- A number of calls, with the delays between one call and the next. -/
def schedule (policy : RetryPolicy) (calls : Nat) : List Await :=
  .op :: retried policy 0 (calls - 1)

/-- A retry calls until the first success, or as often as it may, sleeps for
the backoff between two calls only, and returns the outcome of the last one. -/
theorem retry_runs (policy : RetryPolicy) (outcomes : Nat → Except Error Value) :
    (∀ failures value, failures < attemptLimit policy → FailsFor outcomes failures →
        outcomes failures = .ok value →
          runs outcomes (retry policy) = (schedule policy (failures + 1), .ok value)) ∧
      (FailsFor outcomes (attemptLimit policy) →
        ∃ err, outcomes (attemptLimit policy - 1) = .error err ∧
          runs outcomes (retry policy) = (schedule policy (attemptLimit policy), fail err)) ∧
      Settles (runs outcomes (retry policy)).2 := by
  have limit : 0 + attemptLimit policy = (max policy.maxAttempts 1).toNat := by
    rw [toNat_max_one, attemptLimit, Nat.zero_add]
  have positive : 1 ≤ attemptLimit policy := Nat.le_max_right _ _
  have succeeding : ∀ failures value, failures < attemptLimit policy →
      FailsFor outcomes failures → outcomes failures = .ok value →
        runs outcomes (retry policy) = (schedule policy (failures + 1), .ok value) := by
    intro failures value inside fails succeeds
    rw [retry_eq_loop]
    exact runs_of_success limit fails succeeds inside
  have failing : FailsFor outcomes (attemptLimit policy) →
      ∃ err, outcomes (attemptLimit policy - 1) = .error err ∧
        runs outcomes (retry policy) = (schedule policy (attemptLimit policy), fail err) := by
    intro fails
    rcases fails (attemptLimit policy - 1) (by omega) with ⟨err, last⟩
    refine ⟨err, last, ?_⟩
    rcases whole : attemptLimit policy with - | left
    · omega
    · rw [whole] at limit last fails
      rw [retry_eq_loop, whole]
      exact runs_of_failure limit (fun turn before => fails turn (by omega)) last
  refine ⟨succeeding, failing, ?_⟩
  rcases fails_or_succeeds outcomes (attemptLimit policy) with
    fails | ⟨failures, value, inside, fails, succeeds⟩
  · rcases failing fails with ⟨err, last, ran⟩
    simp [ran]
  · simp [succeeding failures value inside fails succeeds]

def Sample.patient : RetryPolicy where
  maxAttempts := 3
  initialBackoff := .fromMillis 50
  multiplier := 2
  maxBackoff := .fromMillis 5000

def Sample.transient (turn : Nat) : Except Unit Nat :=
  if turn < 2 then .error () else .ok turn

example : runs Sample.transient (retry Sample.patient) =
    ([.op, .sleep (.fromMillis 50), .op, .sleep (.fromMillis 100), .op], .ok 2) := by
  decide +kernel

end WormVerify.Resilience.Retry
