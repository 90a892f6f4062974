import WormVerify.Infra.Postgres
import WormVerify.Infra.Soundness

/-! # The adapters with Postgres

The table takes the place of the in-memory store for completed VAAs. Both answer
alike as long as no id is saved twice and every record fits the wire format, on a
database that is in reach and whose table is keyed by the id alone and takes
every emitter chain. The table of the migration is not keyed so: its key includes
the emitter chain, and no insert ever succeeds.
-/

namespace WormVerify.Infra

open WormVerify.Types WormVerify.Core Checked

/-! ## The declaration of the table -/

inductive Column
  | id
  | guardianSetIndex
  | emitterChain
  | sequence
  | vaaBytes
  | assembledAt
  deriving DecidableEq

inductive Refusal
  | noMatchingConstraint
  | noPartition

/-- What the adapter meets: the declaration of the table, and the texts of the
database's errors. A partition takes the emitter chains from its lower bound up
to, but not including, its upper one. -/
structure Postgres where
  primaryKey : List Column
  partitions : Option (List (Int × Int))
  describe : Refusal → String

namespace Postgres

/-- The table of `0001_init.sql`. -/
def migrated (describe : Refusal → String) : Postgres where
  primaryKey := [.id, .emitterChain]
  partitions := some [(1, 2), (2, 65535)]
  describe := describe

def covers (postgres : Postgres) (chain : Int32) : Bool :=
  match postgres.partitions with
  | none => true
  | some ranges => ranges.any fun range => range.1 ≤ chain.toInt && chain.toInt < range.2

/-- `ON CONFLICT (id)` needs a key on `id` alone. The database looks for it
before it looks for the partition of the row. The columns take all values that
the adapter binds, as long as the wire bytes stay below a gigabyte. -/
def refuses? (postgres : Postgres) (row : VaaRow) : Option Refusal :=
  if postgres.primaryKey ≠ [.id] then
    some .noMatchingConstraint
  else if ¬postgres.covers row.emitterChain then
    some .noPartition
  else
    none

structure Accepts (postgres : Postgres) : Prop where
  keyed : postgres.primaryKey = [.id]
  covered : ∀ chain : UInt16, postgres.covers chain.toUInt32.toInt32

end Postgres

def PgVaaStore.save (postgres : Postgres) (rows : PgVaaStore) (record : VaaRecord) :
    Except EngineError PgVaaStore :=
  match postgres.refuses? (.ofRecord record) with
  | some refusal => .error (.store (postgres.describe refusal))
  | none => .ok (rows.insert (.ofRecord record))

theorem Postgres.Accepts.save {postgres : Postgres} (accepts : postgres.Accepts)
    (rows : PgVaaStore) (record : VaaRecord) :
    rows.save postgres record = .ok (rows.insert (.ofRecord record)) := by
  have unrefused : postgres.refuses? (.ofRecord record) = none := by
    simp [refuses?, accepts.keyed, VaaRow.ofRecord, accepts.covered]
  rw [PgVaaStore.save, unrefused]

theorem save_migrated (describe : Refusal → String) (rows : PgVaaStore) (record : VaaRecord) :
    rows.save (.migrated describe) record =
      .error (.store (describe .noMatchingConstraint)) := rfl

/-! ## The table as a port -/

def settled : (outcome : Checked ε α) → Settles outcome → Except ε α
  | .ok value, _ => .ok value
  | .error (.returned error), _ => .error error
  | .error .panicked, settles => absurd rfl settles

theorem settled_of_ok {outcome : Checked ε α} {value : α} (same : outcome = .ok value)
    (settles : Settles outcome) : settled outcome settles = .ok value := by
  subst same
  rfl

theorem PgVaaStore.settles_get (rows : PgVaaStore) (id : MessageId) : Settles (rows.get id) := by
  rw [get]
  split
  · exact settles_ok none
  · rename_i row _
    intro aborted
    cases parsed : Vaa.parse row.vaaBytes with
    | ok vaa =>
        rw [parsed] at aborted
        cases aborted
    | error fault =>
        cases fault with
        | returned error =>
            rw [parsed] at aborted
            cases aborted
        | panicked => exact Vaa.settles_parse row.vaaBytes parsed

structure Database where
  memory : Memory
  table : PgVaaStore

def Database.new (guardians : InMemoryGuardianRegistry) : Database := ⟨.new guardians, []⟩

def Database.serve (postgres : Postgres) (now : Int64) (database : Database) :
    (op : PortOp) → op.Response × Database
  | .saveVaa record =>
      match database.table.save postgres record with
      | .ok table => (.ok (), { database with table })
      | .error error => (.error error, database)
  | .getVaa id => (settled (database.table.get id) (database.table.settles_get id), database)
  | .countVaas => (.ok database.table.count, database)
  | op =>
      let served := database.memory.serve now op
      (served.1, { database with memory := served.2 })

theorem Database.table_serve_migrated (describe : Refusal → String) (now : Int64)
    (database : Database) (op : PortOp) :
    (database.serve (.migrated describe) now op).2.table = database.table := by
  cases op <;> rfl

/-! ## The same records -/

/-- The table has a row of every record that the memory holds, and the other
stores hold the same. -/
structure Mirrors (memory : Memory) (database : Database) : Prop where
  others : database.memory = { memory with vaas := ∅ }
  rows : ∀ id : MessageId, database.table.select id.val = (memory.vaa? id).map VaaRow.ofRecord
  size : memory.vaas.entries.length = database.table.length

/-- The records are stored under their ids, and the wire format carries them. -/
def Readable (memory : Memory) : Prop :=
  ∀ id record, memory.vaa? id = some record → record.id = id ∧ record.vaa.WellFormed

section

variable {memory : Memory} {database : Database}

theorem Mirrors.get (mirrors : Mirrors memory database) (readable : Readable memory)
    (id : MessageId) : database.table.get id = .ok (memory.vaa? id) := by
  have row := mirrors.rows id
  cases found : memory.vaa? id with
  | none =>
      rw [found] at row
      rw [PgVaaStore.get, row]
      rfl
  | some record =>
      rw [found] at row
      rcases readable id record found with ⟨sameId, wellFormed⟩
      exact (pgGet_eq_ok row sameId).mpr ⟨wellFormed, rfl, rfl⟩

theorem Mirrors.count (mirrors : Mirrors memory database) :
    database.table.count = UInt64.ofNat memory.vaas.entries.length := by
  rw [mirrors.size]
  rfl

theorem Mirrors.save (mirrors : Mirrors memory database) {record : VaaRecord}
    (vacant : memory.vaa? record.id = none) :
    Mirrors { memory with vaas := memory.vaas.insert record.id record }
      { database with table := database.table.insert (.ofRecord record) } where
  others := mirrors.others
  rows id := by
    have sameId : (VaaRow.ofRecord record).id = id.val ↔ id = record.id :=
      Subtype.ext_iff.symm.trans eq_comm
    change (database.table.insert (.ofRecord record)).select id.val = _
    rw [PgVaaStore.select_insert, mirrors.rows, Memory.vaa?_save]
    by_cases same : id = record.id
    · subst same
      rw [vacant, if_pos (sameId.mpr rfl), if_pos rfl]
      rfl
    · rw [if_neg (mt sameId.mp same), if_neg same, Option.or_none]
  size := by
    have absent : record.id ∉ memory.vaas := by
      rw [← AList.lookup_isSome]
      change ¬(memory.vaa? record.id).isSome = true
      simp [vacant]
    have row := mirrors.rows record.id
    rw [vacant] at row
    have free : (database.table.select (VaaRow.ofRecord record).id).isSome = false := by
      change (database.table.select record.id.val).isSome = false
      rw [row]
      rfl
    change (memory.vaas.insert record.id record).entries.length =
      (database.table.insert (.ofRecord record)).length
    rw [length_insert, PgVaaStore.length_insert, if_neg absent, free, mirrors.size]
    rfl

def Vacant (memory : Memory) : PortOp → Prop
  | .saveVaa record => memory.vaa? record.id = none
  | _ => True

theorem Mirrors.serve {postgres : Postgres} (accepts : postgres.Accepts)
    (mirrors : Mirrors memory database) (readable : Readable memory)
    {op : PortOp} (vacant : Vacant memory op) (now : Int64) :
    (database.serve postgres now op).1 = (memory.serve now op).1 ∧
      Mirrors (memory.serve now op).2 (database.serve postgres now op).2 := by
  rcases database with ⟨inner, table⟩
  cases mirrors.others
  cases op with
  | saveVaa record =>
      simp only [Database.serve, accepts.save table record]
      exact ⟨rfl, mirrors.save vacant⟩
  | getVaa id => exact ⟨settled_of_ok (mirrors.get readable id) _, mirrors⟩
  | countVaas => exact ⟨congrArg Except.ok mirrors.count, mirrors⟩
  | _ => exact ⟨rfl, rfl, mirrors.rows, mirrors.size⟩

end

end WormVerify.Infra
