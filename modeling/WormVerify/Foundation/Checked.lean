import Mathlib.Algebra.Order.Ring.Nat
import Mathlib.Data.List.Basic
import Mathlib.Tactic.Cases

/-! # Checked computations

Results of programs that can stop early in two ways: by returning one of their
own errors, or by aborting. The operations below are the ones that abort on a
bad index or on arithmetic overflow, and their total counterparts. Each comes
with one lemma that says exactly when it succeeds.
-/

namespace WormVerify

/-- How a checked computation ends without a value. -/
inductive Fault (ε : Type u)
  | returned (error : ε)
  | panicked
  deriving DecidableEq, Repr

abbrev Checked (ε : Type u) (α : Type v) := Except (Fault ε) α

namespace Checked

variable {ε : Type u} {δ : Type u} {α : Type v} {β : Type v}

def fail (error : ε) : Checked ε α := .error (.returned error)

def panic : Checked ε α := .error .panicked

def require (condition : Prop) [Decidable condition] (error : ε) : Checked ε PUnit.{v + 1} :=
  if condition then .ok ⟨⟩ else fail error

def okOr (value : Option α) (error : ε) : Checked ε α :=
  match value with
  | some found => .ok found
  | none => fail error

/-- Carry the returned errors over to another error type. A panic stays a
panic. -/
def mapError (transform : ε → δ) : Checked ε α → Checked δ α
  | .ok value => .ok value
  | .error (.returned error) => .error (.returned (transform error))
  | .error .panicked => .error .panicked

/-! ## Sequencing -/

@[simp] theorem ok_bind (value : α) (next : α → Checked ε β) :
    (Except.ok value : Checked ε α) >>= next = next value := rfl

@[simp] theorem error_bind (fault : Fault ε) (next : α → Checked ε β) :
    (Except.error fault : Checked ε α) >>= next = .error fault := rfl

@[simp] theorem pure_eq_ok (value : α) : (pure value : Checked ε α) = .ok value := rfl

theorem bind_eq_ok {first : Checked ε α} {next : α → Checked ε β} {result : β} :
    first >>= next = .ok result ↔ ∃ value, first = .ok value ∧ next value = .ok result := by
  cases first with
  | error fault => simp
  | ok value => simp

@[simp] theorem require_eq_ok {condition : Prop} [Decidable condition] {error : ε}
    {result : PUnit.{v + 1}} :
    require condition error = .ok result ↔ condition := by
  by_cases holds : condition <;> simp [require, fail, holds]

theorem require_of {condition : Prop} [Decidable condition] {error : ε}
    (holds : condition) :
    (require condition error : Checked ε PUnit.{v + 1}) = .ok ⟨⟩ := by
  simp [holds]

@[simp] theorem okOr_eq_ok {value : Option α} {error : ε} {result : α} :
    okOr value error = .ok result ↔ value = some result := by
  cases value <;> simp [okOr, fail]

@[simp] theorem mapError_eq_ok {transform : ε → δ} {outcome : Checked ε α} {result : α} :
    mapError transform outcome = .ok result ↔ outcome = .ok result := by
  rcases outcome with fault | value
  · cases fault <;> simp [mapError]
  · simp [mapError]

/-! ## Returned errors -/

theorem bind_eq_fail {first : Checked ε α} {next : α → Checked ε β} {error : ε} :
    first >>= next = fail error ↔
      first = fail error ∨ ∃ value, first = .ok value ∧ next value = fail error := by
  cases first <;> simp [fail]

theorem require_eq_fail {condition : Prop} [Decidable condition] {error returned : ε} :
    (require condition error : Checked ε PUnit.{v + 1}) = fail returned ↔
      ¬condition ∧ error = returned := by
  by_cases holds : condition <;> simp [require, fail, holds]

theorem okOr_eq_fail {value : Option α} {error returned : ε} :
    okOr value error = fail returned ↔ value = none ∧ error = returned := by
  cases value <;> simp [okOr, fail]

/-! ## Changing the error type -/

theorem mapError_eq_fail {transform : ε → δ} {outcome : Checked ε α} {error : δ} :
    mapError transform outcome = fail error ↔
      ∃ cause, outcome = fail cause ∧ transform cause = error := by
  rcases outcome with fault | value
  · cases fault <;> simp [mapError, fail]
  · simp [mapError, fail]

section

variable (transform : ε → δ)

@[simp] theorem mapError_ok (value : α) :
    mapError transform (.ok value : Checked ε α) = .ok value := rfl

@[simp] theorem mapError_fail (error : ε) :
    mapError transform (fail error : Checked ε α) = fail (transform error) := rfl

@[simp] theorem mapError_bind (first : Checked ε α) (next : α → Checked ε β) :
    mapError transform (first >>= next) =
      mapError transform first >>= fun value => mapError transform (next value) := by
  cases first with
  | ok value => rfl
  | error fault => cases fault <;> rfl

@[simp] theorem mapError_require (condition : Prop) [Decidable condition] (error : ε) :
    mapError transform (require condition error : Checked ε PUnit.{v + 1}) =
      require condition (transform error) := by
  by_cases holds : condition <;> simp [require, holds]

@[simp] theorem mapError_okOr (value : Option α) (error : ε) :
    mapError transform (okOr value error) = okOr value (transform error) := by
  cases value <;> simp [okOr]

end

/-! ## Computations that never abort -/

/-- The computation ends with a value or with one of its own errors. -/
def Settles (outcome : Checked ε α) : Prop := outcome ≠ .error .panicked

@[simp] theorem settles_ok (value : α) : Settles (.ok value : Checked ε α) := by
  simp [Settles]

@[simp] theorem settles_fail (error : ε) : Settles (fail error : Checked ε α) := by
  simp [Settles, fail]

@[simp] theorem settles_require {condition : Prop} [Decidable condition] {error : ε} :
    Settles (require condition error : Checked ε PUnit.{v + 1}) := by
  by_cases holds : condition <;> simp [require, holds]

@[simp] theorem settles_okOr {value : Option α} {error : ε} :
    Settles (okOr value error) := by
  cases value <;> simp [okOr]

theorem Settles.bind {first : Checked ε α} {next : α → Checked ε β} (head : Settles first)
    (tail : ∀ value, first = .ok value → Settles (next value)) :
    Settles (first >>= next) := by
  cases first with
  | error fault => simpa [Settles] using head
  | ok value => exact tail value rfl

theorem Settles.mapError {transform : ε → δ} {outcome : Checked ε α} (settles : Settles outcome) :
    Settles (mapError transform outcome) := by
  rcases outcome with fault | value
  · cases fault with
    | returned error => exact settles_fail _
    | panicked => exact absurd rfl settles
  · exact settles_ok value

theorem require_ne_panic {condition : Prop} [Decidable condition] {error : ε} :
    (require condition error : Checked ε PUnit.{v + 1}) ≠ panic := settles_require

theorem okOr_ne_panic {value : Option α} {error : ε} : okOr value error ≠ panic := settles_okOr

theorem ok_ne_panic {value : α} : (.ok value : Checked ε α) ≠ panic := settles_ok value

theorem bind_eq_panic {first : Checked ε α} {next : α → Checked ε β} :
    first >>= next = panic ↔
      first = panic ∨ ∃ value, first = .ok value ∧ next value = panic := by
  cases first <;> simp [panic]

theorem Settles.exists_fail {outcome : Checked ε α} (settles : Settles outcome)
    (valueless : ∀ value, outcome ≠ .ok value) : ∃ error, outcome = fail error := by
  cases outcome with
  | ok value => exact absurd rfl (valueless value)
  | error fault =>
      cases fault with
      | returned error => exact ⟨error, rfl⟩
      | panicked => exact absurd rfl settles

/-! ## Machine arithmetic -/

/-- One past the largest value of a 64-bit `usize`. -/
def usizeLimit : Nat := 2 ^ 64

def addUsize (left right : Nat) : Checked ε Nat :=
  if left + right < usizeLimit then .ok (left + right) else panic

def mulUsize (left right : Nat) : Checked ε Nat :=
  if left * right < usizeLimit then .ok (left * right) else panic

def checkedAddUsize (left right : Nat) : Option Nat :=
  if left + right < usizeLimit then some (left + right) else none

theorem addUsize_eq_ok {left right sum : Nat} :
    (addUsize left right : Checked ε Nat) = .ok sum ↔
      left + right < usizeLimit ∧ sum = left + right := by
  by_cases fits : left + right < usizeLimit <;> simp [addUsize, panic, fits, eq_comm]

theorem addUsize_of_lt {left right : Nat} (fits : left + right < usizeLimit) :
    (addUsize left right : Checked ε Nat) = .ok (left + right) := by
  simp [addUsize, fits]

theorem mulUsize_of_lt {left right : Nat} (fits : left * right < usizeLimit) :
    (mulUsize left right : Checked ε Nat) = .ok (left * right) := by
  simp [mulUsize, fits]

theorem checkedAddUsize_of_lt {left right : Nat} (fits : left + right < usizeLimit) :
    checkedAddUsize left right = some (left + right) := by
  simp [checkedAddUsize, fits]

def addU32 (left right : UInt32) : Checked ε UInt32 :=
  if left.toNat + right.toNat < 2 ^ 32 then .ok (left + right) else panic

def subU32 (left right : UInt32) : Checked ε UInt32 :=
  if right ≤ left then .ok (left - right) else panic

def saturatingAddU32 (left right : UInt32) : UInt32 :=
  if left.toNat + right.toNat < 2 ^ 32 then left + right else UInt32.ofNat (2 ^ 32 - 1)

def saturatingPowU32 (base exponent : UInt32) : UInt32 :=
  if base.toNat ^ exponent.toNat < 2 ^ 32 then
    UInt32.ofNat (base.toNat ^ exponent.toNat)
  else
    UInt32.ofNat (2 ^ 32 - 1)

/-- Values of `u128` are bounded naturals. -/
def saturatingMulU128 (left right : Nat) : Nat := min (left * right) (2 ^ 128 - 1)

def checkedAddU64 (left right : UInt64) : Option UInt64 :=
  if left.toNat + right.toNat < 2 ^ 64 then some (left + right) else none

def checkedAddI64 (left right : Int64) : Option Int64 :=
  if -2 ^ 63 ≤ left.toInt + right.toInt ∧ left.toInt + right.toInt < 2 ^ 63 then
    some (left + right)
  else
    none

def i64FromU32 (value : UInt32) : Int64 := Int64.ofNat value.toNat

theorem addU32_eq_ok {left right sum : UInt32} :
    (addU32 left right : Checked ε UInt32) = .ok sum ↔
      sum.toNat = left.toNat + right.toNat := by
  have bounded := sum.toNat_lt
  by_cases fits : left.toNat + right.toNat < 2 ^ 32
  · simp only [addU32, if_pos fits, Except.ok.injEq, ← UInt32.toNat_inj, UInt32.toNat_add,
      Nat.mod_eq_of_lt fits, eq_comm]
  · simp only [addU32, if_neg fits, panic, reduceCtorEq, false_iff]
    omega

theorem addU32_eq_panic {left right : UInt32} :
    (addU32 left right : Checked ε UInt32) = panic ↔
      UInt32.size ≤ left.toNat + right.toNat := by
  rw [addU32, ← Nat.not_lt]
  by_cases fits : left.toNat + right.toNat < 2 ^ 32
  · rw [if_pos fits]
    simpa [panic, UInt32.size] using fits
  · rw [if_neg fits]
    simpa [UInt32.size] using fits

theorem subU32_of_le {left right : UInt32} (ordered : right ≤ left) :
    (subU32 left right : Checked ε UInt32) = .ok (left - right) := by
  simp [subU32, ordered]

theorem toNat_saturatingAddU32 (left right : UInt32) :
    (saturatingAddU32 left right).toNat = min (left.toNat + right.toNat) (2 ^ 32 - 1) := by
  by_cases fits : left.toNat + right.toNat < 2 ^ 32
  · rw [saturatingAddU32, if_pos fits, UInt32.toNat_add, Nat.mod_eq_of_lt fits]
    exact (Nat.min_eq_left (Nat.le_pred_of_lt fits)).symm
  · rw [saturatingAddU32, if_neg fits, UInt32.toNat_ofNat_of_lt' (by decide)]
    exact (Nat.min_eq_right (Nat.le_trans (by decide) (Nat.not_lt.mp fits))).symm

theorem toNat_saturatingPowU32 (base exponent : UInt32) :
    (saturatingPowU32 base exponent).toNat =
      min (base.toNat ^ exponent.toNat) (2 ^ 32 - 1) := by
  by_cases fits : base.toNat ^ exponent.toNat < 2 ^ 32
  · rw [saturatingPowU32, if_pos fits, UInt32.toNat_ofNat_of_lt' fits]
    exact (Nat.min_eq_left (Nat.le_pred_of_lt fits)).symm
  · rw [saturatingPowU32, if_neg fits, UInt32.toNat_ofNat_of_lt' (by decide)]
    exact (Nat.min_eq_right (Nat.le_trans (by decide) (Nat.not_lt.mp fits))).symm

theorem checkedAddU64_eq_some {left right sum : UInt64} :
    checkedAddU64 left right = some sum ↔ sum.toNat = left.toNat + right.toNat := by
  have bounded := sum.toNat_lt
  by_cases fits : left.toNat + right.toNat < 2 ^ 64
  · simp only [checkedAddU64, if_pos fits, Option.some.injEq, ← UInt64.toNat_inj,
      UInt64.toNat_add, Nat.mod_eq_of_lt fits, eq_comm]
  · simp only [checkedAddU64, if_neg fits, reduceCtorEq, false_iff]
    omega

theorem checkedAddI64_eq_some {left right sum : Int64} :
    checkedAddI64 left right = some sum ↔ sum.toInt = left.toInt + right.toInt := by
  have below := sum.toInt_lt
  have above := sum.le_toInt
  by_cases fits : -2 ^ 63 ≤ left.toInt + right.toInt ∧ left.toInt + right.toInt < 2 ^ 63
  · have exact_sum : (left + right).toInt = left.toInt + right.toInt := by
      rw [Int64.toInt_add]
      exact Int.bmod_eq_of_le fits.1 fits.2
    simp only [checkedAddI64, if_pos fits, Option.some.injEq, ← Int64.toInt_inj, exact_sum,
      eq_comm]
  · simp only [checkedAddI64, if_neg fits, reduceCtorEq, false_iff]
    omega

@[simp] theorem toInt_i64FromU32 (value : UInt32) :
    (i64FromU32 value).toInt = (value.toNat : Int) := by
  have bounded := value.toNat_lt
  exact Int64.toInt_ofNat_of_lt (by omega)

/-! ## Slices -/

/-- `values[position]`. -/
def index (values : List α) (position : Nat) : Checked ε α :=
  match values[position]? with
  | some value => .ok value
  | none => panic

/-- `values.get(start..stop)`. -/
def getRange (values : List α) (start stop : Nat) : Option (List α) :=
  if start ≤ stop ∧ stop ≤ values.length then
    some ((values.drop start).take (stop - start))
  else
    none

/-- `values.get(start..)`. -/
def getFrom (values : List α) (start : Nat) : Option (List α) :=
  if start ≤ values.length then some (values.drop start) else none

/-- `values[start..stop]`. -/
def slice (values : List α) (start stop : Nat) : Checked ε (List α) :=
  match getRange values start stop with
  | some found => .ok found
  | none => panic

/-- `values[start..]`. -/
def sliceFrom (values : List α) (start : Nat) : Checked ε (List α) :=
  match getFrom values start with
  | some found => .ok found
  | none => panic

def ChunkAt (values : List α) (start : Nat) (chunk : List α) : Prop :=
  values.drop start = chunk ++ values.drop (start + chunk.length)

theorem chunkAt_append {values first second : List α} {start : Nat} :
    ChunkAt values start (first ++ second) ↔
      ChunkAt values start first ∧ ChunkAt values (start + first.length) second := by
  simp only [ChunkAt, List.length_append, ← Nat.add_assoc]
  constructor
  · intro whole
    have rest : values.drop (start + first.length) =
        second ++ values.drop (start + first.length + second.length) := by
      rw [← List.drop_drop, whole, List.append_assoc, List.drop_left]
    rw [rest, whole, List.append_assoc]
    exact ⟨rfl, rfl⟩
  · intro parts
    rw [parts.1, List.append_assoc, ← parts.2]

theorem eq_append_iff {values chunk rest : List α} :
    values = chunk ++ rest ↔ ChunkAt values 0 chunk ∧ values.drop chunk.length = rest := by
  simp only [ChunkAt, List.drop_zero, Nat.zero_add]
  constructor
  · intro equal
    subst equal
    simp
  · intro parts
    rw [← parts.2]
    exact parts.1

theorem ChunkAt.length_le {values chunk : List α} {start : Nat}
    (held : ChunkAt values start chunk) (nonempty : chunk ≠ []) :
    start + chunk.length ≤ values.length := by
  have total := congrArg List.length held
  have positive := List.length_pos_iff.mpr nonempty
  simp only [List.length_append, List.length_drop] at total
  omega

theorem index_eq_ok {values : List α} {position : Nat} {value : α} :
    (index values position : Checked ε α) = .ok value ↔ ChunkAt values position [value] := by
  rw [index, ChunkAt, List.drop_eq_getElem?_toList_append]
  cases values[position]? <;> simp [panic]

theorem getElem?_eq_some {values : List α} {position : Nat} {value : α} :
    values[position]? = some value ↔ ChunkAt values position [value] := by
  rw [ChunkAt, List.drop_eq_getElem?_toList_append]
  cases values[position]? <;> simp

theorem getRange_eq_some {values found : List α} {start stop : Nat}
    (proper : start < stop) :
    getRange values start stop = some found ↔
      found.length = stop - start ∧ ChunkAt values start found := by
  constructor
  · intro read
    have bounds : start ≤ stop ∧ stop ≤ values.length := by
      by_contra outside
      simp [getRange, outside] at read
    simp only [getRange, bounds, and_self, if_true, Option.some.injEq] at read
    have length : found.length = stop - start := by
      rw [← read, List.length_take, List.length_drop]
      omega
    refine ⟨length, ?_⟩
    rw [ChunkAt, length, ← List.drop_drop, ← read, List.take_append_drop]
  · intro parts
    rcases parts with ⟨length, held⟩
    have fits := held.length_le (List.ne_nil_of_length_pos (by omega))
    have inside : start ≤ stop ∧ stop ≤ values.length := by omega
    rw [getRange, if_pos inside, held, ← length, List.take_left]

@[simp] theorem getFrom_eq_some {values found : List α} {start : Nat} :
    getFrom values start = some found ↔ start ≤ values.length ∧ values.drop start = found := by
  by_cases inside : start ≤ values.length <;> simp [getFrom, inside]

theorem slice_eq_ok {values found : List α} {start stop : Nat} :
    (slice values start stop : Checked ε (List α)) = .ok found ↔
      getRange values start stop = some found := by
  rw [slice]
  cases getRange values start stop <;> simp [panic]

theorem sliceFrom_eq_ok {values found : List α} {start : Nat} :
    (sliceFrom values start : Checked ε (List α)) = .ok found ↔
      start ≤ values.length ∧ values.drop start = found := by
  rw [sliceFrom, ← getFrom_eq_some]
  cases getFrom values start <;> simp [panic]

theorem index_of_lt {values : List α} {position : Nat} (inside : position < values.length) :
    (index values position : Checked ε α) = .ok values[position] := by
  simp [index, inside]

theorem slice_of_le {values : List α} {start stop : Nat} (ordered : start ≤ stop)
    (inside : stop ≤ values.length) :
    (slice values start stop : Checked ε (List α)) =
      .ok ((values.drop start).take (stop - start)) := by
  simp [slice, getRange, ordered, inside]

theorem sliceFrom_of_le {values : List α} {start : Nat} (inside : start ≤ values.length) :
    (sliceFrom values start : Checked ε (List α)) = .ok (values.drop start) := by
  simp [sliceFrom, getFrom, inside]

end Checked

end WormVerify
