import WormVerify.Types.Verification

/-! # Domain entities of the aggregation core -/

namespace WormVerify.Core

open WormVerify.Types

/-- The digest of a message's body. -/
abbrev MessageId := Bytes 32

def MessageId.fromBody (crypto : Crypto) (body : VaaBody) : MessageId := body.digest crypto

structure ObservedMessage where
  id : MessageId
  guardianSetIndex : UInt32
  body : VaaBody
  observedAt : Int64
  deriving DecidableEq

structure PendingObservation where
  message : ObservedMessage
  signatures : List GuardianSignature
  guardianCount : Nat
  deriving DecidableEq

structure VaaRecord where
  id : MessageId
  vaa : Vaa
  assembledAt : Int64
  deriving DecidableEq

inductive DomainEvent
  | messageObserved (id : MessageId)
  | signatureCollected (id : MessageId) (guardianIndex : UInt8) (held needed : Nat)
  | vaaAssembled (id : MessageId)
  deriving DecidableEq

inductive EngineError
  | store (description : String)
  | messageNotObserved
  | guardianSetUnavailable
  | guardianIndexOutOfRange (index : UInt8)
  | invalidSignature (index : UInt8)
  | duplicateSignature (index : UInt8)
  | vaa (error : VaaError)
  | alreadyCompleted
  deriving DecidableEq

namespace PendingObservation

def new (message : ObservedMessage) (guardianCount : Nat) : PendingObservation where
  message := message
  signatures := []
  guardianCount := guardianCount

def quorum (pending : PendingObservation) : Nat := Types.quorum pending.guardianCount

def quorumReached (pending : PendingObservation) : Bool :=
  decide (pending.quorum ≤ pending.signatures.length)

def hasGuardian (pending : PendingObservation) (index : UInt8) : Bool :=
  pending.signatures.any fun signature => signature.guardianIndex == index

def insertSorted (pending : PendingObservation) (signature : GuardianSignature) :
    PendingObservation :=
  let position :=
    match BinarySearch.binarySearchByKey pending.signatures signature.position
      GuardianSignature.position with
    | .ok found => found
    | .error insertion => insertion
  { pending with signatures := pending.signatures.insertIdx position signature }

variable {pending : PendingObservation} {signature : GuardianSignature}

@[simp] theorem insertSorted_quorum :
    (pending.insertSorted signature).quorum = pending.quorum := rfl

theorem hasGuardian_eq_false {index : UInt8} :
    pending.hasGuardian index = false ↔
      ∀ held ∈ pending.signatures, held.guardianIndex ≠ index := by
  simp [hasGuardian]

theorem insertSorted_spec (ascending : Ascending GuardianSignature.position pending.signatures)
    (absent : pending.hasGuardian signature.guardianIndex = false) :
    Ascending GuardianSignature.position (pending.insertSorted signature).signatures ∧
      (pending.insertSorted signature).signatures.Perm (signature :: pending.signatures) := by
  rw [insertSorted]
  cases search : BinarySearch.binarySearchByKey pending.signatures signature.position
      GuardianSignature.position with
  | ok found =>
      rcases BinarySearch.binarySearchByKey_ok search with ⟨held, member, same⟩
      exact absurd (UInt8.toNat_inj.mp same) (hasGuardian_eq_false.mp absent held member)
  | error insertion =>
      rcases BinarySearch.binarySearchByKey_error ascending search with ⟨inside, separates⟩
      exact ⟨BinarySearch.ascending_insertIdx ascending inside separates,
        List.perm_insertIdx signature pending.signatures inside⟩

end PendingObservation

end WormVerify.Core
