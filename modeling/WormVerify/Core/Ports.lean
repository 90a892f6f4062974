import WormVerify.Core.Domain
import WormVerify.Foundation.Interleaving

/-! # The ports of the engine

The engine is a program over its ports. What a port answers is left to the
adapters.
-/

namespace WormVerify.Core

open WormVerify.Types

inductive PortOp
  | getPending (id : MessageId)
  | upsertPending (pending : PendingObservation)
  | listPending
  | removePending (id : MessageId)
  | saveVaa (record : VaaRecord)
  | getVaa (id : MessageId)
  | countVaas
  | currentGuardianSet
  | getGuardianSet (index : UInt32)
  | publish (event : DomainEvent)
  | unixSeconds
  /-- The two writes of the registry's own `upgrade`, which the engine does not
  call. -/
  | insertGuardianSet (set : GuardianSet)
  | writeCurrent (index : UInt32)
  deriving DecidableEq

/-- Stores and the registry may fail; the event sink and the clock may not. -/
abbrev PortOp.Response : PortOp → Type
  | .getPending _ => Except EngineError (Option PendingObservation)
  | .upsertPending _ => Except EngineError Unit
  | .listPending => Except EngineError (List PendingObservation)
  | .removePending _ => Except EngineError Unit
  | .saveVaa _ => Except EngineError Unit
  | .getVaa _ => Except EngineError (Option VaaRecord)
  | .countVaas => Except EngineError UInt64
  | .currentGuardianSet => Except EngineError GuardianSet
  | .getGuardianSet _ => Except EngineError (Option GuardianSet)
  | .publish _ => Unit
  | .unixSeconds => Int64
  | .insertGuardianSet _ => Unit
  | .writeCurrent _ => Unit

abbrev ports : Interface where
  Op := PortOp
  Response := PortOp.Response

/-- An engine computation: port calls that end in a checked result. -/
abbrev EngineM (α : Type) := ExceptT (Fault EngineError) (Program ports) α

def fallible (answer : Except EngineError α) : Checked EngineError α :=
  match answer with
  | .ok value => .ok value
  | .error error => Checked.fail error

section

variable {α : Type}

def EngineM.ofChecked (outcome : Checked EngineError α) : EngineM α :=
  ExceptT.mk (.done outcome)

def askFallible (op : PortOp) (fits : PortOp.Response op = Except EngineError α) :
    EngineM α :=
  ExceptT.mk (.call op fun response => .done (fallible (fits ▸ response)))

end

def getPending (id : MessageId) : EngineM (Option PendingObservation) :=
  askFallible (.getPending id) rfl

def upsertPending (pending : PendingObservation) : EngineM Unit :=
  askFallible (.upsertPending pending) rfl

def listPending : EngineM (List PendingObservation) := askFallible .listPending rfl

def removePending (id : MessageId) : EngineM Unit := askFallible (.removePending id) rfl

def saveVaa (record : VaaRecord) : EngineM Unit := askFallible (.saveVaa record) rfl

def getVaa (id : MessageId) : EngineM (Option VaaRecord) := askFallible (.getVaa id) rfl

def countVaas : EngineM UInt64 := askFallible .countVaas rfl

def getGuardianSet (index : UInt32) : EngineM (Option GuardianSet) :=
  askFallible (.getGuardianSet index) rfl

def publish (event : DomainEvent) : EngineM Unit :=
  ExceptT.mk (.call (.publish event) fun _ => .done (.ok ()))

def unixSeconds : EngineM Int64 :=
  ExceptT.mk (.call .unixSeconds fun now => .done (.ok now))

end WormVerify.Core
