import WormVerify.Foundation.Locking
import WormVerify.Infra.Concurrency

/-! # Completing a message

The submission that completes a message saves its VAA and then removes its
observation. If every write is made on answers that still hold, and no other
call writes the message between the two, then the message is completed once and
never opened again: what the engine looks up before it opens a message is enough
to keep its writes fresh.
-/

namespace WormVerify.Infra

open WormVerify.Types WormVerify.Core Service Checked

/-! ## Schedules with validated writes -/

def written? : PortOp → Option MessageId
  | .upsertPending pending => some pending.message.id
  | .saveVaa record => some record.id
  | .removePending id => some id
  | _ => none

/-- An answer about the message is what the stores would answer now. -/
def Stands (memory : Memory) (id : MessageId) : Exchange ports → Prop
  | ⟨.getPending asked, .ok found⟩ => asked = id → memory.pending? id = found
  | ⟨.getVaa asked, .ok found⟩ => asked = id → memory.vaa? id = found
  | _ => True

variable (crypto : Crypto)

/-- The schedules with an immutable registry in which a call writes a message
only while all answers that it has had about the message stand. -/
def Validated : (aggregator crypto).Rule := fun memory call op =>
  Immutable crypto memory call op ∧
    ∀ id ∈ written? op, ∀ exchange ∈ call.transcript, Stands memory id exchange

/-- Between its save and its removal a call keeps the others from writing the
message. -/
def Completing : Locks (aggregator crypto) := fun call op =>
  ∃ id ∈ written? op, weight (removes id) call.transcript < weight (saves id) call.transcript

def assembles (id : MessageId) (call : (aggregator crypto).Call) : Bool :=
  match call.request, call.result? with
  | .submit submitted _, some (.submitted (.ok (.assembled _))) => submitted = id
  | _, _ => false

structure CompletesOnce (leads : (aggregator crypto).Pool → (aggregator crypto).Pool → Prop)
    (pool : (aggregator crypto).Pool) (id : MessageId) : Prop where
  assembled : pool.calls.countP (assembles crypto id) ≤ 1
  announced : pool.world.events.count (.vaaAssembled id) ≤ 1
  recorded : ∀ later, leads pool later → ∀ record,
    pool.world.vaa? id = some record → later.world.vaa? id = some record
  closed : (∀ call ∈ pool.calls, call.result?.isSome) →
    ¬((pool.world.pending? id).isSome ∧ (pool.world.vaa? id).isSome)

variable {crypto}

instance (memory : Memory) (id : MessageId) (exchange : Exchange ports) :
    Decidable (Stands memory id exchange) :=
  match exchange with
  | ⟨.getPending asked, .ok found⟩ =>
      inferInstanceAs (Decidable (asked = id → memory.pending? id = found))
  | ⟨.getVaa asked, .ok found⟩ =>
      inferInstanceAs (Decidable (asked = id → memory.vaa? id = found))
  | ⟨.getPending _, .error _⟩ | ⟨.getVaa _, .error _⟩ | ⟨.upsertPending _, _⟩
  | ⟨.listPending, _⟩ | ⟨.removePending _, _⟩ | ⟨.saveVaa _, _⟩ | ⟨.countVaas, _⟩
  | ⟨.currentGuardianSet, _⟩ | ⟨.getGuardianSet _, _⟩ | ⟨.publish _, _⟩ | ⟨.unixSeconds, _⟩
  | ⟨.insertGuardianSet _, _⟩ | ⟨.writeCurrent _, _⟩ => inferInstanceAs (Decidable True)

instance (memory : Memory) (call : (aggregator crypto).Call) (op : PortOp) :
    Decidable (Validated crypto memory call op) :=
  inferInstanceAs (Decidable (Immutable crypto memory call op ∧
    ∀ id ∈ written? op, ∀ exchange ∈ call.transcript, Stands memory id exchange))

instance (call : (aggregator crypto).Call) (op : PortOp) :
    Decidable (Completing crypto call op) :=
  inferInstanceAs (Decidable (∃ id ∈ written? op,
    weight (removes id) call.transcript < weight (saves id) call.transcript))

/-! ## Runs on the sample -/

namespace Sample

open Types.Sample

def validated : (aggregator Types.Sample.crypto).Pool :=
  (lockedSchedule (Validated _) (Completing _) ⟨.new (.new guardianSet), []⟩
    (overlapping ++ finishing)).get (by decide +kernel)

theorem validated_leads :
    LockedLeads (Validated Types.Sample.crypto) (Completing Types.Sample.crypto)
      ⟨.new (.new guardianSet), []⟩ validated :=
  lockedSchedule_leads (Option.some_get _).symm

/-- The last signature is submitted twice, and both submissions read the
observation before either completes it. -/
def repeating : List (Action (aggregator Types.Sample.crypto)) :=
  observation ++
    .start (.submit digest signature) :: List.replicate 4 (.serve 1 0) ++
    [.start (.submit digest otherSignature), .start (.submit digest otherSignature),
      .serve 2 0, .serve 3 0] ++
    List.replicate 6 (.serve 2 0) ++ List.replicate 6 (.serve 3 0)

def repeated : (aggregator Types.Sample.crypto).Pool :=
  (schedule (Immutable _) ⟨.new (.new guardianSet), []⟩ repeating).get (by decide +kernel)

theorem repeated_reachable :
    Reachable (Immutable Types.Sample.crypto) (.new (.new guardianSet)) repeated :=
  schedule_reachable (Option.some_get _).symm

end Sample

/-! ## What fresh writes count

Three measures of a message, each moved by every port call exactly by the weight
of the port call.
-/

section

variable {id : MessageId} {memory : Memory}

def stored (id : MessageId) (memory : Memory) : Nat :=
  if (memory.vaa? id).isSome then 1 else 0

def cleared (id : MessageId) (memory : Memory) : Nat :=
  if (memory.vaa? id).isSome ∧ memory.pending? id = none then 1 else 0

def announcements (id : MessageId) (memory : Memory) : Nat :=
  memory.events.count (.vaaAssembled id)

theorem stored_serve {call : (aggregator crypto).Call} {op : PortOp}
    (isFresh : Fresh crypto memory call op) (now : Int64) :
    stored id (memory.serve now op).2 = stored id memory + saves id op := by
  cases op with
  | saveVaa record =>
      by_cases same : record.id = id
      · subst same
        have vacant : memory.vaa? record.id = none := isFresh.2
        simp [stored, saves, vacant, Memory.serve, Memory.vaa?_save]
      · simp [stored, saves, Memory.serve, Memory.vaa?_save, same, Ne.symm same]
  | _ => rfl

theorem announcements_serve {op : PortOp} (now : Int64) :
    announcements id (memory.serve now op).2 = announcements id memory + assemblies id op := by
  cases op with
  | publish event =>
      cases event with
      | vaaAssembled assembled =>
          by_cases same : assembled = id <;> simp [announcements, assemblies, Memory.serve, same]
      | _ => simp [announcements, assemblies, Memory.serve]
  | _ => rfl

theorem cleared_serve {request : Request} {transcript : List (Exchange ports)} {op : PortOp}
    {resume : op.Response → Program ports Reply}
    (claim : @CallClaim crypto True memory ⟨request, transcript, .call op resume⟩)
    (isFresh : Fresh crypto memory ⟨request, transcript, .call op resume⟩ op) (now : Int64) :
    cleared id (memory.serve now op).2 = cleared id memory + removes id op := by
  cases op with
  | upsertPending pending =>
      by_cases same : pending.message.id = id
      · subst same
        have unread (completed : memory.pending? pending.message.id = none) :
            memory.vaa? pending.message.id = none :=
          isFresh.2 (isFresh.1.symm.trans completed)
        have unclosed : ¬((memory.vaa? pending.message.id).isSome ∧
            memory.pending? pending.message.id = none) := by
          intro both
          simp [unread both.2] at both
        simp [cleared, removes, Memory.serve, Memory.pending?_upsert, unclosed]
      · simp [cleared, removes, Memory.serve, Memory.pending?_upsert, Ne.symm same]
  | saveVaa record =>
      by_cases same : record.id = id
      · subst same
        rcases Option.isSome_iff_exists.mp (claim.warranted _ rfl).2.1 with ⟨old, read⟩
        have unchanged : memory.pending? record.id = some old := isFresh.1.trans read
        simp [cleared, removes, Memory.serve, unchanged]
      · simp [cleared, removes, Memory.serve, Memory.vaa?_save, Ne.symm same]
  | removePending removed =>
      by_cases same : removed = id
      · subst same
        rcases claim.warranted _ rfl with ⟨_, found, recorded⟩
        rcases Option.isSome_iff_exists.mp found with ⟨old, read⟩
        have unchanged : memory.pending? removed = some old := isFresh.trans read
        simp [cleared, removes, Memory.serve, Memory.pending?_remove, unchanged,
          recorded trivial]
      · simp [cleared, removes, Memory.serve, Memory.pending?_remove, same, Ne.symm same]
  | _ => rfl

end

/-! ## Undisturbed runs -/

section

variable {guardians : InMemoryGuardianRegistry} {pool later : (aggregator crypto).Pool}

theorem undisturbed_disciplined {assignment : UInt32 → Option GuardianSet}
    (leads : Leads (Undisturbed crypto) pool later)
    (assigned : ∀ index set, later.world.guardianSet? index = some set →
      assignment index = some set) :
    Leads (discipline crypto assignment True).allowed pool later ∧
      ∀ index set, pool.world.guardianSet? index = some set → assignment index = some set :=
  leads_disciplined (fun _ _ _ permitted => permitted.1) (fun _ _ _ _ permitted => permitted.2)
    leads assigned

theorem undisturbed_grows
    (reachable : Reachable (Undisturbed crypto) (.new guardians) pool)
    (leads : Leads (Undisturbed crypto) pool later) : pool.world.Grows later.world := by
  rcases undisturbed_disciplined leads fun _ _ found => found with ⟨laterLeads, registered⟩
  rcases undisturbed_disciplined reachable.fromStart registered with ⟨earlierLeads, initially⟩
  exact (Reachable.start.leads earlierLeads).evolves outlined (memorySound_new initially)
    laterLeads Memory.Grows.refl (fun _ _ _ => Memory.Grows.trans) fun _ _ evolved =>
      evolved trivial

theorem undisturbed_tallies
    (reachable : Reachable (Undisturbed crypto) (.new guardians) pool) (id : MessageId) :
    total (saves id) pool.calls = stored id pool.world ∧
      total (removes id) pool.calls = cleared id pool.world ∧
      total (assemblies id) pool.calls = announcements id pool.world := by
  rcases undisturbed_disciplined reachable.fromStart fun _ _ found => found with
    ⟨leads, registered⟩
  have disciplined := Reachable.start.leads leads
  have start := @memorySound_new crypto _ guardians registered
  refine ⟨?_, ?_, ?_⟩
  · exact disciplined.tally outlined start (saves id) (stored id) rfl
      fun _ _ _ _ _ now _ _ permitted => stored_serve (permitted.2 trivial) now
  · exact disciplined.tally outlined start (removes id) (cleared id) rfl
      fun _ _ _ _ _ now _ claim permitted => cleared_serve claim (permitted.2 trivial) now
  · exact disciplined.tally outlined start (assemblies id) (announcements id) rfl
      fun _ _ _ _ _ now _ _ _ => announcements_serve now

theorem stored_le_one (id : MessageId) (memory : Memory) : stored id memory ≤ 1 := by
  rw [stored]
  split <;> omega

theorem one_le_saves_of_assembles {id : MessageId} {memory : Memory}
    {call : (aggregator crypto).Call} (claim : CallClaim True memory call)
    (chosen : assembles crypto id call = true) : 1 ≤ weight (saves id) call.transcript := by
  rw [assembles] at chosen
  split at chosen
  · rename_i request result
    cases of_decide_eq_true chosen
    exact claim.assembled _ _ _ request result
  · cases chosen

/-- An undisturbed run completes a message at most once and never opens it
again. -/
theorem undisturbed_completes_once
    (reachable : Reachable (Undisturbed crypto) (.new guardians) pool) (id : MessageId) :
    CompletesOnce crypto (Leads (Undisturbed crypto)) pool id := by
  have claims := undisturbed_claims reachable
  rcases undisturbed_tallies reachable id with ⟨saved, removed, announced⟩
  have single := stored_le_one id pool.world
  refine ⟨?_, ?_, ?_, ?_⟩
  · calc pool.calls.countP (assembles crypto id)
        ≤ total (saves id) pool.calls := countP_le_total (saves id) _ pool.calls
          fun call member => one_le_saves_of_assembles (claims call member)
      _ ≤ 1 := saved ▸ single
  · calc pool.world.events.count (.vaaAssembled id)
        = total (assemblies id) pool.calls := announced.symm
      _ ≤ total (saves id) pool.calls := total_le_total (assemblies id) (saves id)
          fun call member => (claims call member).announced id
      _ ≤ 1 := saved ▸ single
  · intro later leads record found
    exact (undisturbed_grows reachable leads).records id record found
  · intro finished both
    have balanced : total (removes id) pool.calls = total (saves id) pool.calls :=
      total_congr (removes id) (saves id)
        fun call member => (claims call member).cleared (finished call member) id
    rw [removed, saved] at balanced
    rcases both with ⟨isPending, isStored⟩
    rcases Option.isSome_iff_exists.mp isPending with ⟨pending, found⟩
    simp [cleared, stored, isStored, found] at balanced

end

/-! ## Validated writes are fresh -/

section

variable {world : Memory} {earlier later : List (aggregator crypto).Call}
  {request : Request} {transcript : List (Exchange ports)} {record : VaaRecord}
  {resume : Except EngineError Unit → Program ports Reply}

/-- If an observation is still there and no call is completing the message, no
VAA of it is stored. -/
theorem vacant_of_unlocked {guardians : InMemoryGuardianRegistry}
    (reachable : Reachable (Undisturbed crypto) (.new guardians)
      ⟨world, earlier ++ ⟨request, transcript, .call (.saveVaa record) resume⟩ :: later⟩)
    (unlocked : ∀ holder ∈ earlier ++ later, ¬Completing crypto holder (.saveVaa record))
    (observed : (world.pending? record.id).isSome)
    (unsaved : @weight ports (saves record.id) transcript = 0) :
    world.vaa? record.id = none := by
  rcases undisturbed_tallies reachable record.id with ⟨saved, removed, -⟩
  have settled (calls : List (aggregator crypto).Call) (among : calls ⊆ earlier ++ later) :
      total (saves record.id) calls ≤ total (removes record.id) calls := by
    apply total_le_total
    intro call member
    by_contra completing
    exact unlocked call (among member) ⟨record.id, rfl, Nat.lt_of_not_le completing⟩
  have before := settled earlier (List.subset_append_left _ _)
  have after := settled later (List.subset_append_right _ _)
  have uncleared : cleared record.id world = 0 := by
    rcases Option.isSome_iff_exists.mp observed with ⟨pending, found⟩
    simp [cleared, found]
  have unstored : stored record.id world = 0 := by
    simp only [total_append, total_cons, uncleared] at saved removed
    omega
  simpa [stored] using unstored

/-- In an undisturbed run, a validated write that no other call has locked is
fresh. -/
theorem undisturbed_of_validated {op : PortOp} {resume : op.Response → Program ports Reply}
    {guardians : InMemoryGuardianRegistry}
    (reachable : Reachable (Undisturbed crypto) (.new guardians)
      ⟨world, earlier ++ ⟨request, transcript, .call op resume⟩ :: later⟩)
    (validated : Validated crypto world ⟨request, transcript, .call op resume⟩ op)
    (unlocked : ∀ holder ∈ earlier ++ later, ¬Completing crypto holder op) :
    Undisturbed crypto world ⟨request, transcript, .call op resume⟩ op := by
  rcases validated with ⟨immutable, stands⟩
  refine ⟨immutable, ?_⟩
  have claim := undisturbed_claims reachable ⟨request, transcript, .call op resume⟩ (by simp)
  have warranted := claim.warranted op rfl
  cases op with
  | upsertPending pending =>
      rcases warranted with ⟨asked, opened⟩
      refine ⟨stands _ rfl _ asked rfl, fun unread => ?_⟩
      exact stands _ rfl _ (opened unread) rfl
  | saveVaa record =>
      rcases warranted with ⟨asked, found, unsaved⟩
      have unchanged : world.pending? record.id = read? transcript := stands _ rfl _ asked rfl
      exact ⟨unchanged, vacant_of_unlocked reachable unlocked (unchanged ▸ found) unsaved⟩
  | removePending id => exact stands _ rfl _ warranted.1 rfl
  | _ => trivial

end

section

variable {guardians : InMemoryGuardianRegistry} {pool later : (aggregator crypto).Pool}

/-- If writes are validated and a completion is not interrupted by other writes,
a message is completed at most once and never opened again. -/
theorem messages_complete_once
    (leads : LockedLeads (Validated crypto) (Completing crypto) ⟨.new guardians, []⟩ pool)
    (id : MessageId) :
    CompletesOnce crypto (LockedLeads (Validated crypto) (Completing crypto)) pool id := by
  have undisturbed {first last : (aggregator crypto).Pool}
      (reachable : Reachable (Undisturbed crypto) (.new guardians) first)
      (leads : LockedLeads (Validated crypto) (Completing crypto) first last) :
      Leads (Undisturbed crypto) first last :=
    leads.leads (fun _ _ _ _ _ _ _ => undisturbed_of_validated) reachable
  have reachable := Reachable.start.leads (undisturbed .start leads)
  rcases undisturbed_completes_once reachable id with ⟨assembled, announced, recorded, closed⟩
  exact ⟨assembled, announced, fun later onward => recorded later (undisturbed reachable onward),
    closed⟩

theorem messages_complete_once_overlapping :
    CompletesOnce Types.Sample.crypto
      (LockedLeads (Validated Types.Sample.crypto) (Completing Types.Sample.crypto))
      Sample.validated Types.Sample.digest :=
  messages_complete_once Sample.validated_leads Types.Sample.digest

/-- Of two racing submissions of the last signature both assemble the VAA. -/
theorem repeated_submission_assembles_twice :
    ¬∀ guardians pool, Reachable (Immutable Types.Sample.crypto) (.new guardians) pool →
      ∀ id, CompletesOnce Types.Sample.crypto (Leads (Immutable Types.Sample.crypto)) pool id := by
  intro once
  have assembled := (once _ _ Sample.repeated_reachable Types.Sample.digest).assembled
  have twice : Sample.repeated.calls.countP
      (assembles Types.Sample.crypto Types.Sample.digest) = 2 := by
    decide +kernel
  omega

end

end WormVerify.Infra
