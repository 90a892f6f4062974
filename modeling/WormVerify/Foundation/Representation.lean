import WormVerify.Foundation.Bytes
import WormVerify.Foundation.Isolation

/-! # Values held as bytes

A layout says how the values of a type are written as bytes. What it writes can
be read off the front of longer data, so that fields follow one another and
values can be held in buffers that are larger than needed.
-/

namespace WormVerify

/-- A binary format for the writable values of a type. -/
structure Layout (α : Type) where
  write : α → List UInt8
  read : List UInt8 → Option (α × List UInt8)
  Writable : α → Prop
  read_write : ∀ value, Writable value → ∀ rest,
    read (write value ++ rest) = some (value, rest)

namespace Layout

variable {α β : Type}

def array (length : Nat) : Layout (Bytes length) where
  write value := value.val
  read data :=
    if long : (data.take length).length = length then
      some (⟨data.take length, long⟩, data.drop length)
    else
      none
  Writable _ := True
  read_write value _ rest := by
    rcases value with ⟨bytes, proper⟩
    simp [List.take_left' proper, List.drop_left' proper, proper]

def through (layout : Layout β) (into : α → β) (back : β → α)
    (back_into : ∀ value, back (into value) = value) : Layout α where
  write value := layout.write (into value)
  read data := (layout.read data).map fun found => (back found.1, found.2)
  Writable value := layout.Writable (into value)
  read_write value writable rest := by
    rw [layout.read_write (into value) writable rest, Option.map_some, back_into]

/-- A word, least significant byte first. -/
def word (α : Type) [MachineWord α] : Layout α :=
  (array (MachineWord.width α)).through
    (fun value => ⟨toLeBytes value, by simp [toLeBytes]⟩)
    (fun bytes => fromBeBytes bytes.val.reverse)
    (fun value => by simp [toLeBytes])

def byte : Layout UInt8 :=
  (array 1).through (fun value => ⟨[value], rfl⟩) (fun bytes => bytes.val.headD 0) fun _ => rfl

def i64 : Layout Int64 :=
  (word UInt64).through Int64.toUInt64 UInt64.toInt64 fun _ => rfl

def pair (first : Layout α) (second : Layout β) : Layout (α × β) where
  write value := first.write value.1 ++ second.write value.2
  read data := do
    let (left, data) ← first.read data
    let (right, data) ← second.read data
    return ((left, right), data)
  Writable value := first.Writable value.1 ∧ second.Writable value.2
  read_write value writable rest := by
    simp only [List.append_assoc, first.read_write value.1 writable.1, Option.bind_eq_bind,
      Option.bind_some, second.read_write value.2 writable.2]
    rfl

variable (element : Layout α)

def readMany : Nat → List UInt8 → Option (List α × List UInt8)
  | 0, data => some ([], data)
  | count + 1, data => do
      let (head, data) ← element.read data
      let (tail, data) ← readMany count data
      return (head :: tail, data)

theorem readMany_write {values : List α} (writable : ∀ value ∈ values, element.Writable value)
    (rest : List UInt8) :
    element.readMany values.length (values.flatMap element.write ++ rest) =
      some (values, rest) := by
  induction values with
  | nil => rfl
  | cons head tail induction =>
      rw [List.forall_mem_cons] at writable
      simp [readMany, element.read_write head writable.1, induction writable.2]

/-- The number of values in four bytes, and then the values. -/
def vector : Layout (List α) where
  write values := (word UInt32).write (UInt32.ofNat values.length) ++
    values.flatMap element.write
  read data := do
    let (count, data) ← (word UInt32).read data
    element.readMany count.toNat data
  Writable values := values.length < 2 ^ 32 ∧ ∀ value ∈ values, element.Writable value
  read_write values writable rest := by
    have counted : (UInt32.ofNat values.length).toNat = values.length :=
      UInt32.toNat_ofNat_of_lt writable.1
    rw [List.append_assoc, (word UInt32).read_write _ trivial]
    simp [counted, element.readMany_write writable.2]

/-! ## Sizes -/

@[simp] theorem array_length {length : Nat} (value : Bytes length) :
    ((array length).write value).length = length := value.property

@[simp] theorem through_write (layout : Layout β) (into : α → β) (back : β → α)
    (back_into : ∀ value, back (into value) = value) (value : α) :
    (layout.through into back back_into).write value = layout.write (into value) := rfl

@[simp] theorem word_length [MachineWord α] (value : α) :
    ((word α).write value).length = MachineWord.width α := by
  rw [word, through_write, array_length]

@[simp] theorem u16_width : MachineWord.width UInt16 = 2 := rfl

@[simp] theorem u32_width : MachineWord.width UInt32 = 4 := rfl

@[simp] theorem u64_width : MachineWord.width UInt64 = 8 := rfl

@[simp] theorem byte_length (value : UInt8) : (byte.write value).length = 1 := rfl

@[simp] theorem i64_length (value : Int64) : (i64.write value).length = 8 :=
  word_length _

@[simp] theorem pair_write (first : Layout α) (second : Layout β) (value : α × β) :
    (first.pair second).write value = first.write value.1 ++ second.write value.2 := rfl

theorem vector_length {width : Nat} (uniform : ∀ value, (element.write value).length = width)
    (values : List α) : (element.vector.write values).length = 4 + values.length * width := by
  have elements : (values.flatMap element.write).length = values.length * width := by
    induction values with
    | nil => simp
    | cons head tail induction =>
        rw [List.flatMap_cons, List.length_append, induction, uniform, List.length_cons,
          Nat.succ_mul, Nat.add_comm]
  change ((word UInt32).write _ ++ values.flatMap element.write).length = _
  rw [List.length_append, word_length, elements]
  rfl

end Layout

/-! ## Buffers -/

def overwrite (data written : List UInt8) : Option (List UInt8) :=
  if written.length ≤ data.length then some (written ++ data.drop written.length) else none

def padded (size : Nat) (written : List UInt8) : List UInt8 :=
  written ++ .replicate (size - written.length) 0

theorem padded_length {size : Nat} {written : List UInt8} (fits : written.length ≤ size) :
    (padded size written).length = size := by
  rw [padded, List.length_append, List.length_replicate, Nat.add_sub_cancel' fits]

theorem overwrite_zeros {size : Nat} {written : List UInt8} (fits : written.length ≤ size) :
    overwrite (.replicate size 0) written = some (padded size written) := by
  rw [overwrite, List.length_replicate, if_pos fits, List.drop_replicate, padded]

theorem overwrite_padded {size : Nat} {old written : List UInt8}
    (same : old.length = written.length) :
    overwrite (padded size old) written = some (padded size written) := by
  have fits : written.length ≤ (padded size old).length := by
    rw [padded, List.length_append, same]
    exact Nat.le_add_right _ _
  rw [overwrite, if_pos fits, padded, List.drop_left' same, padded, same]

/-! ## Machines on represented states -/

namespace Machine

/-- When a machine does on representations what another one does on states, its
runs are those of the other one, represented. -/
theorem represented {State : Type u} {Concrete : Type u'} {Op : Type v} {Err : Type w}
    {Failure : Type w'} {Out : Type x} (machine : Machine State Op Err Out)
    (concrete : Machine Concrete Op Failure Out) (represent : State → Concrete)
    (invariant : State → Prop) (holds : ∀ ops, invariant (machine.state ops))
    (start : concrete.initial = represent machine.initial)
    (commit : ∀ current op next output, invariant current →
      machine.execute current op = .ok (next, output) →
      concrete.execute (represent current) op = .ok (represent next, output))
    (abort : ∀ current op error, invariant current →
      machine.execute current op = .error error →
      ∃ failure, concrete.execute (represent current) op = .error failure) (ops : List Op) :
    concrete.state ops = represent (machine.state ops) ∧
      (concrete.journal ops).map (fun entry => (entry.op, entry.output)) =
        (machine.journal ops).map fun entry => (entry.op, entry.output) := by
  induction ops using List.reverseRecOn with
  | nil => exact ⟨start, rfl⟩
  | append_singleton ops op induction =>
      rcases induction with ⟨same, alike⟩
      cases outcome : machine.execute (machine.state ops) op with
      | error error =>
          rcases abort _ op error (holds ops) outcome with ⟨failure, failed⟩
          rw [← same] at failed
          rcases machine.concat_of_error outcome with ⟨state, journal⟩
          rcases concrete.concat_of_error failed with ⟨concreteState, concreteJournal⟩
          rw [state, journal, concreteState, concreteJournal]
          exact ⟨same, alike⟩
      | ok result =>
          rcases result with ⟨next, output⟩
          have committed := commit _ op next output (holds ops) outcome
          rw [← same] at committed
          rcases machine.concat_of_ok outcome with ⟨state, journal⟩
          rcases concrete.concat_of_ok committed with ⟨concreteState, concreteJournal⟩
          rw [state, journal, concreteState, concreteJournal, List.map_append, List.map_append,
            alike]
          exact ⟨rfl, rfl⟩

end Machine

end WormVerify
