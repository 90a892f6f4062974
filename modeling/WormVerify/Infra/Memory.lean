import WormVerify.Core.Engine
import Mathlib.Data.List.AList

/-! # The in-memory adapters

Each port call is one operation of a concurrent map, so it is atomic. The
aggregator is the engine over these adapters, with the registry's `upgrade` as
one more request.
-/

namespace WormVerify.Infra

open WormVerify.Types WormVerify.Core

abbrev DashMap (κ ν : Type) := AList fun _ : κ => ν

structure InMemoryGuardianRegistry where
  sets : DashMap UInt32 GuardianSet
  current : UInt32

def InMemoryGuardianRegistry.new (set : GuardianSet) : InMemoryGuardianRegistry where
  sets := AList.singleton set.index set
  current := set.index

structure Memory where
  messages : DashMap MessageId PendingObservation
  vaas : DashMap MessageId VaaRecord
  guardians : InMemoryGuardianRegistry
  events : List DomainEvent

namespace Memory

def new (guardians : InMemoryGuardianRegistry) : Memory where
  messages := ∅
  vaas := ∅
  guardians := guardians
  events := []

def pending? (memory : Memory) (id : MessageId) : Option PendingObservation :=
  memory.messages.lookup id

def vaa? (memory : Memory) (id : MessageId) : Option VaaRecord := memory.vaas.lookup id

def guardianSet? (memory : Memory) (index : UInt32) : Option GuardianSet :=
  memory.guardians.sets.lookup index

/-- Serve one port call. The clock reading is the environment's choice. -/
def serve (now : Int64) (memory : Memory) : (op : PortOp) → op.Response × Memory
  | .getPending id => (.ok (memory.pending? id), memory)
  | .upsertPending pending =>
      (.ok (), { memory with messages := memory.messages.insert pending.message.id pending })
  | .listPending => (.ok (memory.messages.entries.map Sigma.snd), memory)
  | .removePending id => (.ok (), { memory with messages := memory.messages.erase id })
  | .saveVaa record => (.ok (), { memory with vaas := memory.vaas.insert record.id record })
  | .getVaa id => (.ok (memory.vaa? id), memory)
  | .countVaas => (.ok (UInt64.ofNat memory.vaas.entries.length), memory)
  | .currentGuardianSet =>
      (match memory.guardianSet? memory.guardians.current with
        | some set => .ok set
        | none => .error .guardianSetUnavailable, memory)
  | .getGuardianSet index => (.ok (memory.guardianSet? index), memory)
  | .publish event => ((), { memory with events := memory.events ++ [event] })
  | .unixSeconds => (now, memory)
  | .insertGuardianSet set =>
      let guardians :=
        { memory.guardians with sets := memory.guardians.sets.insert set.index set }
      ((), { memory with guardians })
  | .writeCurrent index =>
      ((), { memory with guardians := { memory.guardians with current := index } })

end Memory

inductive Request
  | observe (guardianSetIndex : UInt32) (body : VaaBody)
  | submit (id : MessageId) (signature : GuardianSignature)
  | upgrade (set : GuardianSet)
  deriving DecidableEq

inductive Reply
  | observed (outcome : Checked EngineError MessageId)
  | submitted (outcome : Checked EngineError SubmitOutcome)
  | upgraded
  deriving DecidableEq

/-- The registry's `upgrade`, which writes the set before the current index. -/
def upgrade (set : GuardianSet) : Program ports Unit :=
  .call (.insertGuardianSet set) fun _ => .call (.writeCurrent set.index) fun _ => .done ()

abbrev aggregator (crypto : Crypto) : Service where
  ports := ports
  World := Memory
  Request := Request
  Result := Reply
  Choice := Int64
  body
    | .observe guardianSetIndex body =>
        Reply.observed <$> (observeMessage crypto guardianSetIndex body).run
    | .submit id signature => Reply.submitted <$> (submitSignature crypto id signature).run
    | .upgrade set => (fun _ => Reply.upgraded) <$> upgrade set
  serve := Memory.serve

end WormVerify.Infra
