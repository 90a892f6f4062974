import WormVerify.Infra.Soundness

/-! # Concurrent submissions

A submission reads an observation, checks a signature against it and writes the
whole observation back. In a schedule whose writes are all fresh, accepted
signatures stay stored. In others a write may undo an earlier one that its call
has not read.
-/

namespace WormVerify.Infra

open WormVerify.Types WormVerify.Core Service Checked

variable (crypto : Crypto)

def Undisturbed : (aggregator crypto).Rule := fun memory call op =>
  Immutable crypto memory call op ∧ Fresh crypto memory call op

def KeepsSignatures (allowed : (aggregator crypto).Rule) (pool : (aggregator crypto).Pool) :
    Prop :=
  ∀ later, Leads allowed pool later → ∀ call ∈ pool.calls, ∀ id signature outcome,
    call.request = .submit id signature →
    call.result? = some (.submitted (.ok outcome)) → later.world.Holds id signature

variable {crypto}

instance (memory : Memory) (call : (aggregator crypto).Call) (op : PortOp) :
    Decidable (Fresh crypto memory call op) :=
  match op with
  | .upsertPending pending =>
      inferInstanceAs (Decidable (memory.pending? pending.message.id = read? call.transcript ∧
        (read? call.transcript = none → memory.vaa? pending.message.id = none)))
  | .saveVaa record =>
      inferInstanceAs (Decidable (memory.pending? record.id = read? call.transcript ∧
        memory.vaa? record.id = none))
  | .removePending id =>
      inferInstanceAs (Decidable (memory.pending? id = read? call.transcript))
  | .getPending _ | .listPending | .getVaa _ | .countVaas | .currentGuardianSet
  | .getGuardianSet _ | .publish _ | .unixSeconds | .insertGuardianSet _ | .writeCurrent _ =>
      inferInstanceAs (Decidable True)

instance (memory : Memory) (call : (aggregator crypto).Call) (op : PortOp) :
    Decidable (Undisturbed crypto memory call op) :=
  inferInstanceAs (Decidable (Immutable crypto memory call op ∧ Fresh crypto memory call op))

instance (memory : Memory) (id : MessageId) (signature : GuardianSignature) :
    Decidable (memory.Holds id signature) :=
  decidable_of_iff ((memory.pending? id).any (fun pending => signature ∈ pending.signatures) ∨
    (memory.vaa? id).any (fun record => signature ∈ record.vaa.signatures))
    (by simp [Memory.Holds, Option.any_eq_true])

/-! ## Races on the sample -/

namespace Sample

open Types.Sample

/-- Two calls observe the message at a time, and the second signature is on its
way while the first one is collected. -/
def overlapping : List (Action (aggregator Types.Sample.crypto)) :=
  [.start (.observe 0 body), .start (.observe 0 body), .serve 0 0, .serve 1 0] ++
    List.replicate 4 (.serve 0 0) ++ [.serve 1 0, .serve 0 0] ++
    [.start (.submit digest signature), .start (.submit digest otherSignature)] ++
    List.replicate 4 (.serve 2 0)

/-- While the last signature completes the message, the first one is submitted
again and the message is observed again. -/
def finishing : List (Action (aggregator Types.Sample.crypto)) :=
  [.serve 3 0, .start (.submit digest signature), .start (.observe 0 body),
    .serve 4 0, .serve 3 0, .serve 4 0, .serve 3 0, .serve 3 0, .serve 3 0,
    .serve 5 0, .serve 3 0, .serve 3 0]

def gathered : (aggregator Types.Sample.crypto).Pool :=
  (schedule (Undisturbed _) ⟨.new (.new guardianSet), []⟩ overlapping).get (by decide +kernel)

theorem gathered_reachable :
    Reachable (Undisturbed Types.Sample.crypto) (.new (.new guardianSet)) gathered :=
  schedule_reachable (Option.some_get _).symm

def finished : (aggregator Types.Sample.crypto).Pool :=
  (schedule (Undisturbed _) gathered finishing).get (by decide +kernel)

theorem gathered_leads : Leads (Undisturbed Types.Sample.crypto) gathered finished :=
  schedule_leads (Option.some_get _).symm

/-- Both submissions read the observation before either writes it back. -/
def overwriting : List (Action (aggregator Types.Sample.crypto)) :=
  observation ++
    [.start (.submit digest signature), .start (.submit digest otherSignature),
      .serve 1 0, .serve 2 0] ++
    List.replicate 3 (.serve 1 0) ++ List.replicate 3 (.serve 2 0)

def overwritten : (aggregator Types.Sample.crypto).Pool :=
  (schedule (Immutable _) ⟨.new (.new guardianSet), []⟩ overwriting).get (by decide +kernel)

theorem overwritten_reachable :
    Reachable (Immutable Types.Sample.crypto) (.new (.new guardianSet)) overwritten :=
  schedule_reachable (Option.some_get _).symm

end Sample

/-! ## Undisturbed schedules -/

section

variable {guardians : InMemoryGuardianRegistry} {pool later : (aggregator crypto).Pool}

theorem undisturbed_claims
    (reachable : Reachable (Undisturbed crypto) (.new guardians) pool) :
    ∀ call ∈ pool.calls, CallClaim True pool.world call :=
  (reachable_claims (fun _ _ _ permitted => permitted.1) (fun _ _ _ _ permitted => permitted.2)
    reachable).2

/-- An undisturbed run loses no accepted signature. -/
theorem accepted_signatures_stay
    (reachable : Reachable (Undisturbed crypto) (.new guardians) pool) :
    KeepsSignatures crypto (Undisturbed crypto) pool := by
  intro later leads call member id signature outcome submitted accepted
  have stays : call ∈ later.calls := leads.returned member (Option.isSome_of_eq_some accepted)
  have claim := undisturbed_claims (reachable.leads leads) call stays
  exact claim.accepted trivial id signature outcome submitted accepted

theorem accepted_signatures_stay_overlapping :
    Sample.finished.world.Holds Types.Sample.digest Types.Sample.signature := by
  have accepted : ∃ call ∈ Sample.gathered.calls,
      call.request = .submit Types.Sample.digest Types.Sample.signature ∧
      call.result? = some (.submitted (.ok (.collected 1 2))) := by
    decide +kernel
  rcases accepted with ⟨call, member, submitted, collected⟩
  exact accepted_signatures_stay Sample.gathered_reachable _ Sample.gathered_leads call member
    _ _ _ submitted collected

/-- Of two racing submissions the later one overwrites the signature of the
earlier one. -/
theorem overwritten_signature_lost :
    ¬∀ guardians pool, Reachable (Immutable Types.Sample.crypto) (.new guardians) pool →
      KeepsSignatures Types.Sample.crypto (Immutable Types.Sample.crypto) pool := by
  intro keeps
  have accepted : ∃ call ∈ Sample.overwritten.calls,
      call.request = .submit Types.Sample.digest Types.Sample.signature ∧
      call.result? = some (.submitted (.ok (.collected 1 2))) := by
    decide +kernel
  rcases accepted with ⟨call, member, submitted, collected⟩
  have held := keeps _ _ Sample.overwritten_reachable _ .refl call member _ _ _ submitted collected
  have lost : ¬Sample.overwritten.world.Holds Types.Sample.digest Types.Sample.signature := by
    decide +kernel
  exact lost held

end

end WormVerify.Infra
