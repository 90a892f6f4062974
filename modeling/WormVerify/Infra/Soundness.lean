import WormVerify.Infra.Outlines

/-! # Soundness of aggregation

Whatever the order of the port calls, all that is stored is attested by the
guardians of its set. The registry is only asked never to change a set that it
holds.
-/

namespace WormVerify.Infra

open WormVerify.Types WormVerify.Core Service Checked

/-- The set at an index of the registry never changes. -/
def Immutable (crypto : Crypto) : (aggregator crypto).Rule := fun memory _ op =>
  match op with
  | .insertGuardianSet set =>
      memory.guardianSet? set.index = none ∨ memory.guardianSet? set.index = some set
  | _ => True

instance (crypto : Crypto) (memory : Memory) (call : (aggregator crypto).Call) (op : PortOp) :
    Decidable (Immutable crypto memory call op) :=
  match op with
  | .insertGuardianSet set =>
      inferInstanceAs (Decidable (memory.guardianSet? set.index = none ∨
        memory.guardianSet? set.index = some set))
  | .getPending _ | .upsertPending _ | .listPending | .removePending _ | .saveVaa _ | .getVaa _
  | .countVaas | .currentGuardianSet | .getGuardianSet _ | .publish _ | .unixSeconds
  | .writeCurrent _ => inferInstanceAs (Decidable True)

section

variable {crypto : Crypto} {assignment : UInt32 → Option GuardianSet} {fresh : Prop}

theorem guardianSet?_serve {memory : Memory} {call : (aggregator crypto).Call} {op : PortOp}
    (immutable : Immutable crypto memory call op) (now : Int64) {index : UInt32}
    {set : GuardianSet} (registered : memory.guardianSet? index = some set) :
    (memory.serve now op).2.guardianSet? index = some set := by
  cases op with
  | insertGuardianSet inserted =>
      by_cases same : index = inserted.index
      · subst same
        rcases immutable with vacant | equal
        · rw [vacant] at registered
          cases registered
        · rw [← registered, equal]
          exact AList.lookup_insert memory.guardians.sets
      · exact (AList.lookup_insert_ne same).trans registered
  | _ => exact registered

theorem guardianSet?_insert {memory : Memory} {set : GuardianSet} (now : Int64) :
    (memory.serve now (.insertGuardianSet set)).2.guardianSet? set.index = some set :=
  AList.lookup_insert memory.guardians.sets

/-- A run with an immutable registry respects whatever its last registry
assigns. -/
theorem leads_disciplined {allowed : (aggregator crypto).Rule}
    (immutable : ∀ memory call op, allowed memory call op → Immutable crypto memory call op)
    (isFresh : fresh → ∀ memory call op, allowed memory call op → Fresh crypto memory call op)
    {pool later : (aggregator crypto).Pool} (leads : Leads allowed pool later)
    (assigned : ∀ index set, later.world.guardianSet? index = some set →
      assignment index = some set) :
    Leads (discipline crypto assignment fresh).allowed pool later ∧
      ∀ index set, pool.world.guardianSet? index = some set → assignment index = some set := by
  induction leads with
  | refl => exact ⟨.refl, assigned⟩
  | tail _ step induction =>
      rename_i middle last _
      have registered : ∀ index set, middle.world.guardianSet? index = some set →
          assignment index = some set := by
        intro index set found
        apply assigned
        rcases step.world with same | ⟨call, op, now, permitted, served⟩
        · rw [same, found]
        · rw [served]
          exact guardianSet?_serve (immutable _ call op permitted) now found
      rcases induction registered with ⟨leads, initially⟩
      refine ⟨leads.tail (step.permit ?_), initially⟩
      intro call op now permitted served
      refine ⟨?_, fun fresh => isFresh fresh _ call op permitted⟩
      cases op with
      | insertGuardianSet set =>
          apply assigned
          rw [served]
          exact guardianSet?_insert now
      | _ => trivial

theorem memorySound_new {guardians : InMemoryGuardianRegistry}
    (registered : ∀ index set, (Memory.new guardians).guardianSet? index = some set →
      assignment index = some set) :
    MemorySound crypto assignment (.new guardians) where
  pending id pending found := by cases found
  records id record found := by cases found
  registry := registered

theorem reachable_claims {allowed : (aggregator crypto).Rule}
    (immutable : ∀ memory call op, allowed memory call op → Immutable crypto memory call op)
    (isFresh : fresh → ∀ memory call op, allowed memory call op → Fresh crypto memory call op)
    {guardians : InMemoryGuardianRegistry} {pool : (aggregator crypto).Pool}
    (reachable : Reachable allowed (.new guardians) pool) :
    MemorySound crypto pool.world.guardianSet? pool.world ∧
      ∀ call ∈ pool.calls, CallClaim fresh pool.world call := by
  rcases leads_disciplined immutable isFresh reachable.fromStart fun _ _ found => found with
    ⟨leads, registered⟩
  exact (Reachable.start.leads leads).claims outlined (memorySound_new registered)

theorem immutable_claims {guardians : InMemoryGuardianRegistry}
    {pool : (aggregator crypto).Pool}
    (reachable : Reachable (Immutable crypto) (.new guardians) pool) :
    MemorySound crypto pool.world.guardianSet? pool.world ∧
      ∀ call ∈ pool.calls, CallClaim False pool.world call :=
  reachable_claims (fun _ _ _ permitted => permitted) False.elim reachable

end

/-! ## A run on the sample -/

namespace Sample

open Types.Sample

def guardianSet : GuardianSet := ⟨0, [guardian, otherGuardian], 0⟩

def observation : List (Action (aggregator crypto)) :=
  .start (.observe 0 body) :: List.replicate 6 (.serve 0 0)

def completion : List (Action (aggregator crypto)) :=
  observation ++
    .start (.submit digest signature) :: List.replicate 4 (.serve 1 0) ++
    .start (.submit digest otherSignature) :: List.replicate 7 (.serve 2 0)

def completed : (aggregator crypto).Pool :=
  (schedule (Immutable crypto) ⟨.new (.new guardianSet), []⟩ completion).get
    (by decide +kernel)

theorem completed_reachable :
    Reachable (Immutable crypto) (.new (.new guardianSet)) completed :=
  schedule_reachable (Option.some_get _).symm

end Sample

/-! ## The stores in every reachable state -/

/-- In every state that any interleaving reaches, the pending observations and
the records are attested, and no submission fails at the final verification. -/
theorem aggregation_soundness (crypto : Crypto) (guardians : InMemoryGuardianRegistry)
    {pool : (aggregator crypto).Pool}
    (reachable : Reachable (Immutable crypto) (.new guardians) pool) :
    (∀ id pending, pool.world.pending? id = some pending →
      PendingSound crypto pool.world.guardianSet? id pending) ∧
    (∀ id record, pool.world.vaa? id = some record →
      RecordSound crypto pool.world.guardianSet? id record) ∧
    ∀ call ∈ pool.calls, ∀ error, call.result? ≠ some (.submitted (fail (.vaa error))) := by
  rcases immutable_claims reachable with ⟨sound, claims⟩
  exact ⟨sound.pending, sound.records, fun call member => (claims call member).verified⟩

theorem aggregation_soundness_completion :
    ∃ record, Sample.completed.world.vaa? Types.Sample.digest = some record ∧
      RecordSound Types.Sample.crypto Sample.completed.world.guardianSet?
        Types.Sample.digest record := by
  have sound := aggregation_soundness Types.Sample.crypto (.new Sample.guardianSet)
    Sample.completed_reachable
  have stored : (Sample.completed.world.vaa? Types.Sample.digest).isSome := by decide +kernel
  rcases Option.isSome_iff_exists.mp stored with ⟨record, found⟩
  exact ⟨record, found, sound.2.1 _ record found⟩

end WormVerify.Infra
