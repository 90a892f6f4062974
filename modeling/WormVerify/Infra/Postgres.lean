import WormVerify.Infra.Memory
import WormVerify.Foundation.Transactions
import WormVerify.Types.Codec

/-! # The Postgres store

The Postgres adapter keeps the wire bytes of the first VAA saved under an id and
parses them on every read. The in-memory adapter keeps the last record as it
is.
-/

namespace WormVerify.Infra

open WormVerify.Types WormVerify.Core Checked

/-! ## The two adapters -/

inductive VaaStoreOp
  | save (record : VaaRecord)
  | get (id : MessageId)
  | count
  deriving DecidableEq

inductive VaaStoreReply
  | saved (outcome : Checked EngineError Unit)
  | got (outcome : Checked EngineError (Option VaaRecord))
  | counted (outcome : Checked EngineError UInt64)
  deriving DecidableEq

abbrev InMemoryVaaStore := DashMap MessageId VaaRecord

def InMemoryVaaStore.serve (vaas : InMemoryVaaStore) :
    VaaStoreOp → VaaStoreReply × InMemoryVaaStore
  | .save record => (.saved (.ok ()), vaas.insert record.id record)
  | .get id => (.got (.ok (vaas.lookup id)), vaas)
  | .count => (.counted (.ok (UInt64.ofNat vaas.entries.length)), vaas)

structure VaaRow where
  id : List UInt8
  guardianSetIndex : Int64
  emitterChain : Int32
  sequence : Int64
  vaaBytes : List UInt8
  assembledAt : Int64
  deriving DecidableEq

def VaaRow.ofRecord (record : VaaRecord) : VaaRow where
  id := record.id.val
  guardianSetIndex := record.vaa.guardianSetIndex.toUInt64.toInt64
  emitterChain := record.vaa.body.emitterChain.toUInt32.toInt32
  sequence := record.vaa.body.sequence.toInt64
  vaaBytes := record.vaa.encode
  assembledAt := record.assembledAt

/-- The rows of the table in the order of their insertion. -/
abbrev PgVaaStore := List VaaRow

namespace PgVaaStore

/-- `SELECT … WHERE id = $1` for at most one row. -/
def select (rows : PgVaaStore) (id : List UInt8) : Option VaaRow :=
  rows.find? fun row => row.id = id

/-- `INSERT … ON CONFLICT (id) DO NOTHING`. -/
def insert (rows : PgVaaStore) (row : VaaRow) : PgVaaStore :=
  if (rows.select row.id).isSome then rows else rows ++ [row]

def get (rows : PgVaaStore) (id : MessageId) : Checked EngineError (Option VaaRecord) :=
  match rows.select id.val with
  | none => .ok none
  | some row => do
      let vaa ← mapError .vaa (Vaa.parse row.vaaBytes)
      return some { id, vaa, assembledAt := row.assembledAt }

/-- The row count is a signed number, and cast. -/
def count (rows : PgVaaStore) : UInt64 := (Int64.ofNat rows.length).toUInt64

def serve (rows : PgVaaStore) : VaaStoreOp → VaaStoreReply × PgVaaStore
  | .save record => (.saved (.ok ()), rows.insert (.ofRecord record))
  | .get id => (.got (rows.get id), rows)
  | .count => (.counted (.ok rows.count), rows)

end PgVaaStore

def inMemoryVaaStore : Machine InMemoryVaaStore VaaStoreOp Empty VaaStoreReply where
  initial := ∅
  execute vaas op := .ok ((vaas.serve op).2, (vaas.serve op).1)

def pgVaaStore : Machine PgVaaStore VaaStoreOp Empty VaaStoreReply where
  initial := []
  execute rows op := .ok ((rows.serve op).2, (rows.serve op).1)

/-! ## The adapter of the aggregator -/

namespace VaaStoreOp

def portOp : VaaStoreOp → PortOp
  | .save record => .saveVaa record
  | .get id => .getVaa id
  | .count => .countVaas

def reply : (op : VaaStoreOp) → op.portOp.Response → VaaStoreReply
  | .save _, response => .saved (fallible response)
  | .get _, response => .got (fallible response)
  | .count, response => .counted (fallible response)

end VaaStoreOp

theorem serve_portOp (memory : Memory) (now : Int64) (op : VaaStoreOp) :
    InMemoryVaaStore.serve memory.vaas op =
      (op.reply (memory.serve now op.portOp).1, (memory.serve now op.portOp).2.vaas) := by
  cases op <;> rfl

/-! ## What the stores hold -/

def savedUnder (id : MessageId) (ops : List VaaStoreOp) : List VaaRecord :=
  ops.filterMap fun op =>
    match op with
    | .save record => if record.id = id then some record else none
    | _ => none

section

variable {ops : List VaaStoreOp} {id : MessageId} {record : VaaRecord}

theorem savedUnder_save :
    savedUnder id (ops ++ [.save record]) =
      savedUnder id ops ++ if record.id = id then [record] else [] := by
  by_cases same : record.id = id <;> simp [savedUnder, same]

theorem savedUnder_get (other : MessageId) :
    savedUnder id (ops ++ [.get other]) = savedUnder id ops := by
  simp [savedUnder]

theorem savedUnder_count : savedUnder id (ops ++ [.count]) = savedUnder id ops := by
  simp [savedUnder]

theorem id_of_mem_savedUnder (member : record ∈ savedUnder id ops) : record.id = id := by
  rcases List.mem_filterMap.mp member with ⟨op, _, kept⟩
  cases op with
  | save saved =>
      simp only [Option.ite_none_right_eq_some, Option.some.injEq] at kept
      exact kept.2 ▸ kept.1
  | get other => cases kept
  | count => cases kept

end

/-- One store holds the last records, the other the rows of the first ones, and
both hold as many. -/
structure Stored (ops : List VaaStoreOp) (vaas : InMemoryVaaStore) (rows : PgVaaStore) :
    Prop where
  last : ∀ id, vaas.lookup id = (savedUnder id ops).getLast?
  first : ∀ id : MessageId, rows.select id.val = (savedUnder id ops).head?.map VaaRow.ofRecord
  size : vaas.entries.length = rows.length

theorem PgVaaStore.select_insert (rows : PgVaaStore) (row : VaaRow) (id : List UInt8) :
    (rows.insert row).select id =
      (rows.select id).or (if row.id = id then some row else none) := by
  rw [insert]
  split
  · rename_i present
    by_cases same : row.id = id
    · subst same
      rcases Option.isSome_iff_exists.mp present with ⟨found, foundAt⟩
      rw [foundAt]
      rfl
    · rw [if_neg same, Option.or_none]
  · rw [select, List.find?_append]
    by_cases same : row.id = id <;> simp [select, same]

theorem length_insert {κ ν : Type} [DecidableEq κ] (map : DashMap κ ν) (key : κ) (value : ν) :
    (map.insert key value).entries.length =
      if key ∈ map then map.entries.length else map.entries.length + 1 := by
  have sized (other : DashMap κ ν) : other.entries.length = other.keys.length :=
    (List.length_map _).symm
  rw [sized, sized, AList.keys_insert, List.length_cons]
  split
  · rename_i present
    rw [List.length_erase_of_mem (AList.mem_keys.mp present)]
    exact Nat.sub_add_cancel (List.length_pos_of_mem (AList.mem_keys.mp present))
  · rename_i absent
    rw [List.erase_of_not_mem fun member => absent (AList.mem_keys.mpr member)]

theorem PgVaaStore.length_insert (rows : PgVaaStore) (row : VaaRow) :
    (rows.insert row).length =
      if (rows.select row.id).isSome then rows.length else rows.length + 1 := by
  rw [insert]
  split
  · rfl
  · exact List.length_append

namespace Stored

variable {ops : List VaaStoreOp} {vaas : InMemoryVaaStore} {rows : PgVaaStore}
  (stored : Stored ops vaas rows)

include stored

theorem quiet {op : VaaStoreOp} (saves : ∀ id, savedUnder id (ops ++ [op]) = savedUnder id ops) :
    Stored (ops ++ [op]) vaas rows where
  last id := by rw [saves, stored.last]
  first id := by rw [saves, stored.first]
  size := stored.size

theorem mem_iff (id : MessageId) : id ∈ vaas ↔ (rows.select id.val).isSome = true := by
  rw [← AList.lookup_isSome, stored.last, stored.first]
  cases savedUnder id ops <;> simp

theorem save (record : VaaRecord) :
    Stored (ops ++ [.save record]) (vaas.insert record.id record)
      (rows.insert (.ofRecord record)) where
  last id := by
    rw [savedUnder_save]
    by_cases same : record.id = id
    · subst same
      rw [AList.lookup_insert, if_pos rfl, List.getLast?_concat]
    · rw [AList.lookup_insert_ne (Ne.symm same), if_neg same, List.append_nil, stored.last]
  first id := by
    have sameId : (VaaRow.ofRecord record).id = id.val ↔ record.id = id := Subtype.ext_iff.symm
    rw [PgVaaStore.select_insert, stored.first, savedUnder_save, List.head?_append, Option.map_or]
    by_cases same : record.id = id
    · rw [if_pos (sameId.mpr same), if_pos same]
      rfl
    · rw [if_neg (mt sameId.mp same), if_neg same]
      rfl
  size := by
    rw [length_insert, PgVaaStore.length_insert, stored.size]
    exact if_congr (stored.mem_iff record.id) rfl rfl

theorem serve (op : VaaStoreOp) : Stored (ops ++ [op]) (vaas.serve op).2 (rows.serve op).2 := by
  cases op with
  | save record => exact stored.save record
  | get id => exact stored.quiet fun _ => savedUnder_get id
  | count => exact stored.quiet fun _ => savedUnder_count

end Stored

theorem stored_run (ops : List VaaStoreOp) :
    Stored ops (inMemoryVaaStore.state ops) (pgVaaStore.state ops) := by
  induction ops using List.reverseRecOn with
  | nil => exact ⟨fun _ => rfl, fun _ => rfl, rfl⟩
  | append_singleton ops op induction =>
      rw [(inMemoryVaaStore.concat_of_ok rfl).1, (pgVaaStore.concat_of_ok rfl).1]
      exact induction.serve op

/-! ## When the stores are interchangeable -/

/-- Reading the first record back gives the last one: the wire format carries
the last VAA, and both records have the same wire bytes and time. -/
structure ReadsBack (first last : VaaRecord) : Prop where
  wellFormed : last.vaa.WellFormed
  bytes : first.vaa.encode = last.vaa.encode
  assembledAt : first.assembledAt = last.assembledAt

/-- Whenever an id is read that was saved before, the first record saved under
it reads back as the last one. -/
def ReadsAgree (ops : List VaaStoreOp) : Prop :=
  ∀ earlier id later, ops = earlier ++ .get id :: later →
    ∀ first last, (savedUnder id earlier).head? = some first →
      (savedUnder id earlier).getLast? = some last → ReadsBack first last

def replies {State : Type} (store : Machine State VaaStoreOp Empty VaaStoreReply)
    (ops : List VaaStoreOp) : List VaaStoreReply :=
  (store.journal ops).map Commit.output

section

variable {ops : List VaaStoreOp} {vaas : InMemoryVaaStore} {rows : PgVaaStore}

theorem pgGet_eq_ok {id : MessageId} {first last : VaaRecord}
    (found : rows.select id.val = some (.ofRecord first)) (sameId : last.id = id) :
    rows.get id = .ok (some last) ↔ ReadsBack first last := by
  rw [PgVaaStore.get, found]
  simp only [bind_eq_ok, mapError_eq_ok, VaaRow.ofRecord, Vaa.parse_eq_ok, pure_eq_ok]
  constructor
  · intro read
    rcases read with ⟨vaa, ⟨bytes, wellFormed⟩, same⟩
    cases Option.some.inj (Except.ok.inj same)
    exact ⟨wellFormed, bytes, rfl⟩
  · intro readsBack
    refine ⟨last.vaa, ⟨readsBack.bytes, readsBack.wellFormed⟩, ?_⟩
    rw [← sameId, readsBack.assembledAt]

theorem Stored.get_alike (stored : Stored ops vaas rows) (id : MessageId) :
    (vaas.serve (.get id)).1 = (rows.serve (.get id)).1 ↔
      ∀ first last, (savedUnder id ops).head? = some first →
        (savedUnder id ops).getLast? = some last → ReadsBack first last := by
  have lookup := stored.last id
  have select := stored.first id
  change VaaStoreReply.got (.ok (vaas.lookup id)) = .got (rows.get id) ↔ _
  rw [VaaStoreReply.got.injEq, lookup]
  cases saved : savedUnder id ops with
  | nil =>
      rw [saved] at select
      simp [PgVaaStore.get, select]
  | cons first rest =>
      have nonempty := List.cons_ne_nil first rest
      have lastSaved : (first :: rest).getLast nonempty ∈ savedUnder id ops := by
        rw [saved]
        exact List.getLast_mem nonempty
      have lastId := id_of_mem_savedUnder lastSaved
      rw [saved] at select
      rw [List.getLast?_eq_some_getLast nonempty, eq_comm, pgGet_eq_ok select lastId]
      simp

theorem Stored.count_alike (stored : Stored ops vaas rows) :
    (vaas.serve .count).1 = (rows.serve .count).1 := by
  change VaaStoreReply.counted (.ok (UInt64.ofNat vaas.entries.length)) = _
  rw [stored.size]
  rfl

theorem Stored.serve_alike (stored : Stored ops vaas rows) (op : VaaStoreOp) :
    (vaas.serve op).1 = (rows.serve op).1 ↔
      ∀ id, op = .get id → ∀ first last, (savedUnder id ops).head? = some first →
        (savedUnder id ops).getLast? = some last → ReadsBack first last := by
  cases op with
  | save record => exact ⟨fun _ _ same => (nomatch same), fun _ => rfl⟩
  | get id =>
      rw [stored.get_alike id]
      exact ⟨fun alike _ same => VaaStoreOp.get.inj same ▸ alike, fun alike => alike id rfl⟩
  | count => exact ⟨fun _ _ same => (nomatch same), fun _ => stored.count_alike⟩

end

theorem replies_concat {State : Type} (store : Machine State VaaStoreOp Empty VaaStoreReply)
    {ops : List VaaStoreOp} {op : VaaStoreOp} {next : State} {reply : VaaStoreReply}
    (served : store.execute (store.state ops) op = .ok (next, reply)) :
    replies store (ops ++ [op]) = replies store ops ++ [reply] := by
  rw [replies, (store.concat_of_ok served).2, List.map_append]
  rfl

theorem readsAgree_concat (ops : List VaaStoreOp) (op : VaaStoreOp) :
    ReadsAgree (ops ++ [op]) ↔ ReadsAgree ops ∧
      ∀ id, op = .get id → ∀ first last, (savedUnder id ops).head? = some first →
        (savedUnder id ops).getLast? = some last → ReadsBack first last := by
  constructor
  · intro agree
    constructor
    · intro earlier id later split
      exact agree earlier id (later ++ [op]) (by simp [split])
    · intro id same
      exact agree ops id [] (by rw [same])
  · intro parts earlier id later split
    rcases List.eq_nil_or_concat later with rfl | ⟨middle, last, rfl⟩
    · rcases List.append_singleton_inj.mp split with ⟨rfl, same⟩
      exact parts.2 id same
    · have regrouped : ops ++ [op] = (earlier ++ .get id :: middle) ++ [last] := by
        simp [split]
      exact parts.1 earlier id middle (List.append_singleton_inj.mp regrouped).1

/-- Both stores answer a sequence of calls alike exactly when its reads agree. -/
theorem replies_eq_iff_readsAgree (ops : List VaaStoreOp) :
    replies inMemoryVaaStore ops = replies pgVaaStore ops ↔ ReadsAgree ops := by
  induction ops using List.reverseRecOn with
  | nil =>
      refine ⟨?_, fun _ => rfl⟩
      intro _ earlier id later split
      simp at split
  | append_singleton ops op induction =>
      rw [replies_concat inMemoryVaaStore rfl, replies_concat pgVaaStore rfl,
        List.append_singleton_inj, induction, (stored_run ops).serve_alike op, readsAgree_concat]

namespace Sample

open Types.Sample

def oversizedRecord : VaaRecord where
  id := oversizedDigest
  vaa := { vaa with body := oversizedBody }
  assembledAt := 0

end Sample

/-- The record is read from memory, and not from Postgres. -/
theorem oversized_record_unreadable :
    ¬∀ ops, replies inMemoryVaaStore ops = replies pgVaaStore ops := by
  intro always
  have alike := always [.save Sample.oversizedRecord, .get Types.Sample.oversizedDigest]
  revert alike
  decide +kernel

end WormVerify.Infra
