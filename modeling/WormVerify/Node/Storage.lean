import WormVerify.Node.Startup
import WormVerify.Infra.Database
import WormVerify.Infra.Provenance

/-! # A node on Postgres

The schema runs over the table as it does over the memory. On a table that takes
the adapter's rows, clients cannot tell the difference, unless a payload is too
large for the wire format or two calls complete the same message. On the table
of the migration nothing is ever stored.
-/

namespace WormVerify.Node

open WormVerify.Types WormVerify.Core WormVerify.Infra WormVerify.Api Service Checked

section

variable {crypto : Crypto} {signing : Signing crypto} (hex : Hex)
  (guardians : SimulatedGuardians signing) (postgres : Postgres)

/-- No port call saves under an id that already has a record. -/
def VacantSaves : (api hex guardians).Rule := fun memory _ op =>
  match op with
  | .inl _ => True
  | .inr op => Vacant memory op

abbrev databaseApi : Service :=
  (api hex guardians).onWorld Database fun choice database op =>
    match op with
    | .inl .tryAcquire => (choice.1, database)
    | .inr op => database.serve postgres choice.2 op

end

section

variable {crypto : Crypto} {signing : Signing crypto} {hex : Hex}
  {guardians : SimulatedGuardians signing} {pool : (api hex guardians).Pool}

/-- On the table of the migration no operation ever stores a VAA. -/
theorem migrated_table_stays_empty {describe : Refusal → String}
    {allowed : (databaseApi hex guardians (.migrated describe)).Rule}
    {pool : (databaseApi hex guardians (.migrated describe)).Pool}
    (reachable : Reachable allowed (.new (registry guardians)) pool) :
    pool.world.table = [] := by
  induction reachable with
  | start => rfl
  | step _ step induction =>
      rcases step.world with same | ⟨_, op, choice, _, served⟩
      · rw [same, induction]
      · rw [served]
        cases op with
        | inl op => exact induction
        | inr op => exact (Database.table_serve_migrated describe choice.2 _ op).trans induction

end

namespace Sample

open Types.Sample Infra.Sample

instance (memory : Memory) (op : PortOp) : Decidable (Vacant memory op) :=
  match op with
  | .saveVaa record => inferInstanceAs (Decidable (memory.vaa? record.id = none))
  | .getPending _ | .upsertPending _ | .listPending | .removePending _ | .getVaa _ | .countVaas
  | .currentGuardianSet | .getGuardianSet _ | .publish _ | .unixSeconds | .insertGuardianSet _
  | .writeCurrent _ => inferInstanceAs (Decidable True)

instance (memory : Memory) (call : (api hex simulated).Call) (op : apiPorts.Op) :
    Decidable (VacantSaves hex simulated memory call op) :=
  match op with
  | .inl _ => inferInstanceAs (Decidable True)
  | .inr op => inferInstanceAs (Decidable (Vacant memory op))

def saved : (api hex simulated).Pool :=
  (schedule (VacantSaves hex simulated) ⟨state.memory, []⟩ completing).get (by decide +kernel)

end Sample

section

open Types.Sample Infra.Sample

end

end WormVerify.Node
