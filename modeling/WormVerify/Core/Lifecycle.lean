import WormVerify.Core.Engine
import Mathlib.Data.Set.Card

/-! # The life of a message

What the aggregation is for, without its stores: a message is unobserved, then
pending while signatures are accepted, then completed. It keeps the guardian set
it was observed under.
-/

namespace WormVerify.Core

open WormVerify.Types Checked

/-! ## Accepted signatures -/

structure Ballot where
  rs : Bytes 64
  recoveryId : UInt8
  deriving DecidableEq

/-- The signatures accepted for a message, at most one from each index. -/
abbrev Ballots := UInt8 → Option Ballot

namespace Ballots

def none : Ballots := fun _ => Option.none

def cast (ballots : Ballots) (signature : GuardianSignature) : Ballots :=
  Function.update ballots signature.guardianIndex
    (some ⟨signature.rs, signature.recoveryId⟩)

def signatureOf (index : UInt8) (ballot : Ballot) : GuardianSignature where
  guardianIndex := index
  rs := ballot.rs
  recoveryId := ballot.recoveryId

def signatures (ballots : Ballots) : List GuardianSignature :=
  (List.range 256).filterMap fun position =>
    (ballots (UInt8.ofNat position)).map (signatureOf (UInt8.ofNat position))

variable {ballots : Ballots} {signature : GuardianSignature}

@[simp] theorem signatures_none : none.signatures = [] := by
  simp [signatures, none]

theorem mem_signatures :
    signature ∈ ballots.signatures ↔
      ballots signature.guardianIndex = some ⟨signature.rs, signature.recoveryId⟩ := by
  rw [signatures, List.mem_filterMap]
  constructor
  · intro listed
    rcases listed with ⟨position, _, found⟩
    rcases Option.map_eq_some_iff.mp found with ⟨ballot, cast, rfl⟩
    exact cast
  · intro cast
    refine ⟨signature.position, List.mem_range.mpr signature.position_lt, ?_⟩
    rw [GuardianSignature.position, UInt8.ofNat_toNat, cast]
    rfl

theorem signatures_ascending : Ascending GuardianSignature.position ballots.signatures := by
  rw [Ascending, signatures, List.pairwise_filterMap]
  apply List.Pairwise.imp_of_mem _ List.pairwise_lt_range
  intro earlier later earlierMem laterMem less first firstAt second secondAt
  rcases Option.map_eq_some_iff.mp firstAt with ⟨_, _, rfl⟩
  rcases Option.map_eq_some_iff.mp secondAt with ⟨_, _, rfl⟩
  rw [List.mem_range] at earlierMem laterMem
  simp only [GuardianSignature.position, signatureOf, UInt8.toNat_ofNat']
  omega

theorem hasGuardian_eq {pending : PendingObservation}
    (held : pending.signatures = ballots.signatures) (index : UInt8) :
    pending.hasGuardian index = (ballots index).isSome := by
  cases cast : ballots index with
  | none =>
      apply PendingObservation.hasGuardian_eq_false.mpr
      intro other member same
      rw [held, mem_signatures, same, cast] at member
      cases member
  | some ballot =>
      apply List.any_eq_true.mpr
      refine ⟨signatureOf index ballot, ?_, by simp [signatureOf]⟩
      rw [held, mem_signatures]
      exact cast

theorem insertSorted_signatures {pending : PendingObservation}
    (held : pending.signatures = ballots.signatures)
    (free : ballots signature.guardianIndex = Option.none) :
    (pending.insertSorted signature).signatures = (ballots.cast signature).signatures := by
  have ascending : Ascending GuardianSignature.position pending.signatures :=
    held ▸ signatures_ascending
  have absent : pending.hasGuardian signature.guardianIndex = false := by
    rw [hasGuardian_eq held, free]
    rfl
  rcases PendingObservation.insertSorted_spec ascending absent with ⟨inserted, perm⟩
  apply Ascending.eq_of_mem_iff inserted signatures_ascending
  intro other
  rw [perm.mem_iff, List.mem_cons, held, mem_signatures, mem_signatures, cast]
  rcases other with ⟨index, rs, recoveryId⟩
  rcases signature with ⟨target, targetRs, targetId⟩
  by_cases same : index = target
  · subst same
    have free : ballots index = Option.none := free
    simp [free, eq_comm]
  · simp [same]

end Ballots

/-! ## Phases -/

inductive Phase
  | unobserved
  | pending (guardianSetIndex : UInt32) (set : GuardianSet) (body : VaaBody) (ballots : Ballots)
  | completed

namespace Phase

def isPending : Phase → Bool
  | .pending _ _ _ _ => true
  | _ => false

def isCompleted : Phase → Bool
  | .completed => true
  | _ => false

/-- A message only moves forward, and a pending one keeps what it has. -/
def Advances : Phase → Phase → Prop
  | .unobserved, _ => True
  | .pending guardianSetIndex set body ballots, .pending laterIndex laterSet laterBody later =>
      laterIndex = guardianSetIndex ∧ laterSet = set ∧ laterBody = body ∧
        ∀ index ballot, ballots index = some ballot → later index = some ballot
  | .pending _ _ _ _, .completed => True
  | .completed, .completed => True
  | _, _ => False

theorem Advances.refl (phase : Phase) : Advances phase phase := by
  cases phase with
  | unobserved => trivial
  | pending guardianSetIndex set body ballots => exact ⟨rfl, rfl, rfl, fun _ _ cast => cast⟩
  | completed => trivial

theorem Advances.trans {first second third : Phase} (earlier : Advances first second)
    (later : Advances second third) : Advances first third := by
  cases first with
  | unobserved => trivial
  | pending guardianSetIndex set body ballots =>
      cases second with
      | unobserved => exact earlier.elim
      | pending secondIndex secondSet secondBody secondBallots =>
          rcases earlier with ⟨rfl, rfl, rfl, kept⟩
          cases third with
          | unobserved => exact later.elim
          | pending thirdIndex thirdSet thirdBody thirdBallots =>
              rcases later with ⟨rfl, rfl, rfl, keptLater⟩
              exact ⟨rfl, rfl, rfl, fun index ballot cast =>
                keptLater index ballot (kept index ballot cast)⟩
          | completed => trivial
      | completed =>
          cases third with
          | completed => trivial
          | unobserved => exact later.elim
          | pending thirdIndex thirdSet thirdBody thirdBallots => exact later.elim
  | completed =>
      cases second with
      | completed => exact later
      | unobserved => exact earlier.elim
      | pending secondIndex secondSet secondBody secondBallots => exact earlier.elim

end Phase

/-! ## The machine -/

structure Lifecycle where
  phase : MessageId → Phase
  registry : UInt32 → Option GuardianSet
  events : List DomainEvent

namespace Lifecycle

def new (registry : UInt32 → Option GuardianSet) : Lifecycle where
  phase _ := .unobserved
  registry := registry
  events := []

variable (crypto : Crypto) (state : Lifecycle)

def enter (id : MessageId) (phase : Phase) (published : List DomainEvent) : Lifecycle where
  phase := Function.update state.phase id phase
  registry := state.registry
  events := state.events ++ published

def observe (guardianSetIndex : UInt32) (body : VaaBody) :
    Checked EngineError MessageId × Lifecycle :=
  let id := MessageId.fromBody crypto body
  match state.phase id with
  | .completed => (fail .alreadyCompleted, state)
  | .pending _ _ _ _ => (.ok id, state)
  | .unobserved =>
      match state.registry guardianSetIndex with
      | none => (fail .guardianSetUnavailable, state)
      | some set =>
          (.ok id, state.enter id (.pending guardianSetIndex set body .none)
            [.messageObserved id])

/-- Accept a checked signature: the message stays pending below the quorum of
its set and is completed with it. -/
def accept (id : MessageId) (guardianSetIndex : UInt32) (set : GuardianSet) (body : VaaBody)
    (ballots : Ballots) (guardianIndex : UInt8) : SubmitOutcome × Lifecycle :=
  let accepted := ballots.signatures.length
  let needed := quorum set.keys.length
  let collected : DomainEvent := .signatureCollected id guardianIndex accepted needed
  if accepted < needed then
    (.collected accepted needed,
      state.enter id (.pending guardianSetIndex set body ballots) [collected])
  else
    (.assembled ⟨supportedVersion, guardianSetIndex, ballots.signatures, body⟩,
      state.enter id .completed [collected, .vaaAssembled id])

def verdict (set : GuardianSet) (ballots : Ballots) (id : MessageId)
    (signature : GuardianSignature) : Checked EngineError Unit :=
  match set.keys[signature.position]? with
  | none => fail (.guardianIndexOutOfRange signature.guardianIndex)
  | some guardian =>
      if (ballots signature.guardianIndex).isSome then
        fail (.duplicateSignature signature.guardianIndex)
      else if recoverGuardian crypto id signature = .ok guardian then
        .ok ()
      else
        fail (.invalidSignature signature.guardianIndex)

def submit (id : MessageId) (signature : GuardianSignature) :
    Checked EngineError SubmitOutcome × Lifecycle :=
  match state.phase id with
  | .pending guardianSetIndex set body ballots =>
      match verdict crypto set ballots id signature with
      | .error fault => (.error fault, state)
      | .ok () =>
          let accepted := state.accept id guardianSetIndex set body (ballots.cast signature)
            signature.guardianIndex
          (.ok accepted.1, accepted.2)
  | .unobserved => (fail .messageNotObserved, state)
  | .completed => (fail .messageNotObserved, state)

def upgrade (set : GuardianSet) : Lifecycle :=
  { state with registry := Function.update state.registry set.index (some set) }

noncomputable def stats : EngineStats where
  pending := {id | (state.phase id).isPending = true}.ncard
  completed := UInt64.ofNat {id | (state.phase id).isCompleted = true}.ncard

section

variable {crypto : Crypto} {state : Lifecycle}

theorem enter_advances {id : MessageId} {phase : Phase} (published : List DomainEvent)
    (forward : (state.phase id).Advances phase) (other : MessageId) :
    (state.phase other).Advances ((state.enter id phase published).phase other) := by
  by_cases same : other = id
  · subst same
    simpa [enter] using forward
  · simpa [enter, same] using Phase.Advances.refl (state.phase other)

theorem verdict_free {set : GuardianSet} {ballots : Ballots} {id : MessageId}
    {signature : GuardianSignature} (admitted : verdict crypto set ballots id signature = .ok ()) :
    ballots signature.guardianIndex = none := by
  unfold verdict at admitted
  split at admitted
  · cases admitted
  · split at admitted
    · cases admitted
    · rename_i free
      exact Option.not_isSome_iff_eq_none.mp free

/-! ## Forward moves -/

theorem observe_advances (guardianSetIndex : UInt32) (body : VaaBody) (other : MessageId) :
    (state.phase other).Advances
      ((state.observe crypto guardianSetIndex body).2.phase other) := by
  cases phase : state.phase (.fromBody crypto body) with
  | completed => simpa only [observe, phase] using Phase.Advances.refl _
  | pending _ _ _ _ => simpa only [observe, phase] using Phase.Advances.refl _
  | unobserved =>
      cases available : state.registry guardianSetIndex with
      | none => simpa only [observe, phase, available] using Phase.Advances.refl _
      | some set =>
          simp only [observe, phase, available]
          exact enter_advances _ (by rw [phase]; trivial) other

theorem accept_advances {id : MessageId} {guardianSetIndex : UInt32} {set : GuardianSet}
    {body : VaaBody} {ballots : Ballots} {signature : GuardianSignature}
    (phase : state.phase id = .pending guardianSetIndex set body ballots)
    (free : ballots signature.guardianIndex = none) (other : MessageId) :
    (state.phase other).Advances ((state.accept id guardianSetIndex set body
      (ballots.cast signature) signature.guardianIndex).2.phase other) := by
  simp only [accept]
  split
  · apply enter_advances
    rw [phase]
    refine ⟨rfl, rfl, rfl, ?_⟩
    intro index ballot cast
    have different : index ≠ signature.guardianIndex := by
      intro same
      rw [same, free] at cast
      cases cast
    rw [Ballots.cast, Function.update_of_ne different, cast]
  · apply enter_advances
    rw [phase]
    trivial

theorem submit_advances (id : MessageId) (signature : GuardianSignature) (other : MessageId) :
    (state.phase other).Advances ((state.submit crypto id signature).2.phase other) := by
  cases phase : state.phase id with
  | completed => simpa only [submit, phase] using Phase.Advances.refl _
  | unobserved => simpa only [submit, phase] using Phase.Advances.refl _
  | pending guardianSetIndex set body ballots =>
      cases admitted : verdict crypto set ballots id signature with
      | error fault => simpa only [submit, phase, admitted] using Phase.Advances.refl _
      | ok _ =>
          simp only [submit, phase, admitted]
          exact accept_advances phase (verdict_free admitted) other

end

end Lifecycle

end WormVerify.Core
