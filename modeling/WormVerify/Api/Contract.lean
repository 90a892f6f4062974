import WormVerify.Api.View

/-! # What the schema answers

All that an operation can answer, whatever other operations are in flight. Since
the simulated guardians sign for the very set that is registered, no signature
is ever found invalid.
-/

namespace WormVerify.Api

open WormVerify.Types WormVerify.Core WormVerify.Infra Service Program Checked

section

variable {crypto : Crypto} {signing : Signing crypto} (hex : Hex)
  (guardians : SimulatedGuardians signing)

/-- How an operation can end. -/
inductive Ends : Operation → Checked ApiError Answer → Prop
  | health : Ends .health (.ok (.health true))
  | unreadableQuery (text message : String) (unread : MessageId.fromHex hex text = .error message) :
      Ends (.vaa text) (fail ⟨message⟩)
  | missing (text : String) (id : MessageId) (read : MessageId.fromHex hex text = .ok id) :
      Ends (.vaa text) (.ok (.vaa none))
  | found (text : String) (id : MessageId) (record : VaaRecord)
      (read : MessageId.fromHex hex text = .ok id)
      (sound : RecordSound crypto (registry guardians).get? id record) :
      Ends (.vaa text) (.ok (.vaa (some (.ofRecord hex record))))
  | pendingMessages (listed : List PendingObservation)
      (distinct : (listed.map fun pending => pending.message.id).Nodup)
      (sound : ∀ pending ∈ listed,
        PendingSound crypto (registry guardians).get? pending.message.id pending) :
      Ends .pendingMessages (.ok (.pendingMessages (listed.map (GqlPending.ofPending hex))))
  | guardianSet : Ends .guardianSet (.ok (.guardianSet (.ofSet hex guardians.guardianSet)))
  | stats (listed : List PendingObservation) (stored : List VaaRecord)
      (listedOnce : (listed.map fun pending => pending.message.id).Nodup)
      (pendingSound : ∀ pending ∈ listed,
        PendingSound crypto (registry guardians).get? pending.message.id pending)
      (storedOnce : (stored.map fun record => record.id).Nodup)
      (recordsSound : ∀ record ∈ stored,
        RecordSound crypto (registry guardians).get? record.id record) :
      Ends .stats (.ok (.stats ⟨listed.length, UInt64.ofNat stored.length⟩))
  | limitedObservation (input : ObservationInput) :
      Ends (.submitObservation input) (fail ⟨"rate limit exceeded"⟩)
  | unreadableObservation (input : ObservationInput) (message : String)
      (unread : input.intoBody hex = .error message) :
      Ends (.submitObservation input) (fail ⟨message⟩)
  | completed (input : ObservationInput) (body : VaaBody)
      (read : input.intoBody hex = .ok body) :
      Ends (.submitObservation input) (fail (toErr .alreadyCompleted))
  | unknownSet (input : ObservationInput) (body : VaaBody)
      (read : input.intoBody hex = .ok body)
      (unknown : input.guardianSetIndex ≠ guardians.index) :
      Ends (.submitObservation input) (fail (toErr .guardianSetUnavailable))
  | observed (input : ObservationInput) (body : VaaBody)
      (read : input.intoBody hex = .ok body) :
      Ends (.submitObservation input)
        (.ok (.submitObservation ((MessageId.fromBody crypto body).toHex hex)))
  | limitedSignature (text : String) (guardianIndex : UInt8) :
      Ends (.signAsGuardian text guardianIndex) (fail ⟨"rate limit exceeded"⟩)
  | unreadableSignature (text : String) (guardianIndex : UInt8) (message : String)
      (unread : MessageId.fromHex hex text = .error message) :
      Ends (.signAsGuardian text guardianIndex) (fail ⟨message⟩)
  | noGuardian (text : String) (guardianIndex : UInt8) (id : MessageId)
      (read : MessageId.fromHex hex text = .ok id)
      (outside : guardians.len ≤ guardianIndex.toNat) :
      Ends (.signAsGuardian text guardianIndex) (fail ⟨"guardian index out of range"⟩)
  | unobserved (text : String) (guardianIndex : UInt8) (id : MessageId)
      (read : MessageId.fromHex hex text = .ok id)
      (inside : guardianIndex.toNat < guardians.len) :
      Ends (.signAsGuardian text guardianIndex) (fail (toErr .messageNotObserved))
  | duplicate (text : String) (guardianIndex : UInt8) (id : MessageId)
      (read : MessageId.fromHex hex text = .ok id)
      (inside : guardianIndex.toNat < guardians.len) :
      Ends (.signAsGuardian text guardianIndex) (fail (toErr (.duplicateSignature guardianIndex)))
  | collected (text : String) (guardianIndex : UInt8) (id : MessageId) (held : Nat)
      (read : MessageId.fromHex hex text = .ok id)
      (inside : guardianIndex.toNat < guardians.len) (first : 0 < held)
      (below : held < quorum guardians.len) :
      Ends (.signAsGuardian text guardianIndex)
        (.ok (.signAsGuardian (submitResult hex id (.collected held (quorum guardians.len)))))
  | assembled (text : String) (guardianIndex : UInt8) (id : MessageId) (vaa : Vaa)
      (read : MessageId.fromHex hex text = .ok id)
      (inside : guardianIndex.toNat < guardians.len)
      (sound : VaaSound crypto (registry guardians).get? id vaa) :
      Ends (.signAsGuardian text guardianIndex)
        (.ok (.signAsGuardian (submitResult hex id (.assembled vaa))))

end

/-! ## Resolvers over truthful ports -/

def ApiTells (registry : InMemoryGuardianRegistry) : apiPorts.Op → Prop
  | .inl _ => True
  | .inr op => Tells registry op

def ApiTruthful (crypto : Crypto) (registry : InMemoryGuardianRegistry) :
    (op : apiPorts.Op) → apiPorts.Response op → Prop
  | .inl _, _ => True
  | .inr op, answer => Truthful crypto registry op answer

/-- A fault of the engine as the schema reports it. -/
def reported : Fault EngineError → Fault ApiError
  | .returned error => .returned (toErr error)
  | .panicked => .panicked

section

variable {guarantee : apiPorts.Op → Prop}
  {rely : (op : apiPorts.Op) → apiPorts.Response op → Prop} {ends : α → Prop}
  {fails : Fault ApiError → Prop}

theorem inner_obeys {computation : EngineM α}
    (obeys : ObeysOr (fun op => guarantee (.inr op)) (fun op => rely (.inr op)) ends
      (fun fault => fails (reported fault)) computation) :
    ObeysOr guarantee rely ends fails (engine computation) := by
  have inside : (computation.run.within limiterPorts).Obeys guarantee rely _ := Obeys.within obeys
  apply Obeys.bind inside
  intro outcome holds
  rcases outcome with fault | value
  · cases fault <;> exact holds
  · exact holds

theorem engine_obeys {crypto : Crypto} {registry : InMemoryGuardianRegistry}
    {computation : EngineM α}
    (obeys : ObeysOr (Tells registry) (Truthful crypto registry) ends
      (fun fault => fails (reported fault)) computation) :
    ObeysOr (ApiTells registry) (ApiTruthful crypto registry) ends fails (engine computation) :=
  inner_obeys obeys

theorem argument_obeys {parsed : Except String α}
    (failed : ∀ message, parsed = .error message → fails (.returned ⟨message⟩)) :
    ObeysOr guarantee rely (fun value => parsed = .ok value) fails (argument parsed) := by
  cases parsed with
  | ok value => exact rfl
  | error message => exact failed message rfl

theorem ofOption_obeys {value : Option α} {message : String}
    (failed : value = none → fails (.returned ⟨message⟩)) :
    ObeysOr guarantee rely (fun found => value = some found) fails (ofOption value message) := by
  cases value with
  | some found => exact rfl
  | none => exact failed rfl

theorem obeys_of_obeysOr {ends : Checked ApiError Answer → Prop} {answer : α → Answer}
    {resolver : ResolverM α}
    (obeys : ObeysOr guarantee rely (fun value => ends (.ok (answer value)))
      (fun fault => ends (.error fault)) resolver) :
    (answer <$> resolver).run.Obeys guarantee rely ends := by
  have mapped : ObeysOr _ _ (fun answer => ends (.ok answer)) _ (answer <$> resolver) :=
    ObeysOr.map obeys
  apply Obeys.imp mapped
  intro outcome holds
  cases outcome with
  | ok value => exact holds
  | error fault => exact holds

theorem rateLimit_obeys (asked : guarantee (.inl .tryAcquire))
    (limited : fails (.returned ⟨"rate limit exceeded"⟩)) :
    ObeysOr guarantee rely (fun _ => True) fails rateLimit := by
  refine ⟨asked, ?_⟩
  intro answer _
  cases answer with
  | ok _ => trivial
  | error _ => exact limited

end

/-! ## Every operation -/

section

variable {crypto : Crypto} {signing : Signing crypto} {hex : Hex}
  {guardians : SimulatedGuardians signing}

theorem registry_get? (index : UInt32) :
    (registry guardians).get? index =
      if index = guardians.index then some guardians.guardianSet else none := by
  by_cases same : index = guardians.index
  · rw [if_pos same, same]
    exact AList.lookup_insert ∅
  · rw [if_neg same]
    let entry : Sigma fun _ : UInt32 => GuardianSet := ⟨guardians.index, guardians.guardianSet⟩
    exact List.dlookup_cons_ne [] entry same

theorem registry_get?_eq_some {index : UInt32} {set : GuardianSet} :
    (registry guardians).get? index = some set ↔
      index = guardians.index ∧ set = guardians.guardianSet := by
  rw [registry_get?]
  by_cases same : index = guardians.index <;> simp [same, eq_comm]

theorem currentGuardianSet_obeys {fails : Fault EngineError → Prop} :
    ObeysOr (Tells (registry guardians)) (Truthful crypto (registry guardians))
      (fun set => set = guardians.guardianSet) fails currentGuardianSet := by
  have current : (Memory.new (registry guardians)).guardianSet?
      (Memory.new (registry guardians)).guardians.current = some guardians.guardianSet :=
    AList.lookup_insert ∅
  rw [currentGuardianSet]
  refine obeysOr_ask trivial fun response truthful => ⟨_, ?_, rfl⟩
  simpa only [Truthful, Memory.serve, current] using truthful

theorem refused_of_signed (lawful : signing.Lawful) {id : MessageId} {guardianIndex : UInt8}
    {signature : GuardianSignature} (signed : guardians.sign guardianIndex id = some signature)
    {fault : Fault EngineError}
    (failed : SubmitFails crypto (registry guardians) id signature fault) :
    fault = .returned .messageNotObserved ∨
      fault = .returned (.duplicateSignature guardianIndex) := by
  rcases failed with unobserved | ⟨pending, set, sound, assigned, refused⟩
  · exact .inl unobserved
  · rcases SimulatedGuardians.signedBy_of_sign lawful signed with ⟨rfl, genuine⟩
    rw [(registry_get?_eq_some.mp assigned).2] at refused
    by_cases absent : pending.hasGuardian signature.guardianIndex = false
    · have checked : checkSignature crypto guardians.guardianSet pending id signature = .ok () :=
        checkSignature_eq_ok.mpr ⟨absent, genuine⟩
      rw [checked] at refused
      cases refused
    · rcases genuine with ⟨guardian, found, _⟩
      have present : pending.hasGuardian signature.guardianIndex = true :=
        Bool.not_eq_false _ ▸ absent
      simp only [checkSignature, found, okOr, present, require, not_true_eq_false,
        ok_bind] at refused
      cases refused
      exact .inr rfl

theorem submitObservation_obeys (input : ObservationInput) :
    ((api hex guardians).body (.submitObservation input)).Obeys
      (ApiTells (registry guardians)) (ApiTruthful crypto (registry guardians))
      (Ends hex guardians (.submitObservation input)) := by
  apply obeys_of_obeysOr
  apply (rateLimit_obeys trivial (.limitedObservation input)).bind
  intro _ _
  apply (argument_obeys fun message unread => .unreadableObservation input message unread).bind
  intro body read
  have refused (fault : Fault EngineError) (failed : fault = .returned .alreadyCompleted ∨
      fault = .returned .guardianSetUnavailable ∧
        (registry guardians).get? input.guardianSetIndex = none) :
      Ends hex guardians (.submitObservation input) (.error (reported fault)) := by
    rcases failed with rfl | ⟨rfl, unknown⟩
    · exact .completed input body read
    · refine .unknownSet input body read fun same => ?_
      rw [registry_get?, if_pos same] at unknown
      cases unknown
  apply (engine_obeys (observe_obeys.imp (fun _ same => same) refused)).bind
  intro id same
  subst same
  exact ObeysOr.pure (.observed input body read)

theorem signAsGuardian_obeys (lawful : signing.Lawful) (text : String) (guardianIndex : UInt8) :
    ((api hex guardians).body (.signAsGuardian text guardianIndex)).Obeys
      (ApiTells (registry guardians)) (ApiTruthful crypto (registry guardians))
      (Ends hex guardians (.signAsGuardian text guardianIndex)) := by
  apply obeys_of_obeysOr
  apply (rateLimit_obeys trivial (.limitedSignature text guardianIndex)).bind
  intro _ _
  apply (argument_obeys fun message unread =>
    .unreadableSignature text guardianIndex message unread).bind
  intro id read
  apply (ofOption_obeys ?_).bind
  · intro signature signed
    have inside : guardianIndex.toNat < guardians.len := by
      rw [← SimulatedGuardians.sign_isSome, signed]
      rfl
    have refused (fault : Fault EngineError)
        (failed : SubmitFails crypto (registry guardians) id signature fault) :
        Ends hex guardians (.signAsGuardian text guardianIndex) (.error (reported fault)) := by
      rcases refused_of_signed lawful signed failed with rfl | rfl
      · exact .unobserved text guardianIndex id read inside
      · exact .duplicate text guardianIndex id read inside
    apply (engine_obeys (submit_obeys.imp (fun _ ends => ends) refused)).bind
    intro outcome ends
    apply ObeysOr.pure
    cases outcome with
    | collected held needed =>
        rcases ends with ⟨first, below, index, set, assigned, rfl⟩
        rw [(registry_get?_eq_some.mp assigned).2, SimulatedGuardians.guardianSet_length] at below ⊢
        exact .collected text guardianIndex id held read inside first below
    | assembled vaa => exact .assembled text guardianIndex id vaa read inside ends.1
  · intro unsigned
    refine .noGuardian text guardianIndex id read (Nat.le_of_not_lt fun inside => ?_)
    rw [← SimulatedGuardians.sign_isSome, unsigned] at inside
    cases inside

theorem resolve_obeys (lawful : signing.Lawful) (operation : Operation) :
    ((api hex guardians).body operation).Obeys (ApiTells (registry guardians))
      (ApiTruthful crypto (registry guardians))
      (Ends hex guardians operation) := by
  cases operation with
  | health => exact Ends.health
  | vaa text =>
      apply obeys_of_obeysOr
      apply (argument_obeys fun message unread => .unreadableQuery text message unread).bind
      intro id read
      apply (engine_obeys getVaa_obeys).bind
      intro record sound
      apply ObeysOr.pure
      cases record with
      | none => exact .missing text id read
      | some found => exact .found text id found read (sound found rfl)
  | pendingMessages =>
      apply obeys_of_obeysOr
      apply (engine_obeys listPending_obeys).bind
      intro listed facts
      exact ObeysOr.pure (.pendingMessages listed facts.1 facts.2)
  | guardianSet =>
      apply obeys_of_obeysOr
      apply (engine_obeys currentGuardianSet_obeys).bind
      intro set same
      subst same
      exact ObeysOr.pure .guardianSet
  | stats =>
      apply obeys_of_obeysOr
      apply (engine_obeys stats_obeys).bind
      intro stats counted
      rcases counted with ⟨listed, stored, rfl, listedOnce, pendingSound, storedOnce, recordsSound⟩
      exact ObeysOr.pure
        (.stats listed stored listedOnce pendingSound storedOnce recordsSound)
  | submitObservation input => exact submitObservation_obeys input
  | signAsGuardian text guardianIndex => exact signAsGuardian_obeys lawful text guardianIndex

theorem truthful_reached {pool : (api hex guardians).Pool}
    (reached : Reachable (AnyOrder hex guardians) (.new (registry guardians)) pool)
    (op : apiPorts.Op) (choice : Except RateLimited Unit × Int64) :
    ApiTruthful crypto (registry guardians) op
      ((api hex guardians).serve choice pool.world op).1 := by
  rcases engine_behind reached with ⟨calls, behind, _⟩
  have sound := unupgraded_sound behind
  cases op with
  | inl op => trivial
  | inr op => exact truthful_serve sound.1 sound.2 op choice.2

theorem answers_end (lawful : signing.Lawful) {pool : (api hex guardians).Pool}
    (reachable : Reachable (AnyOrder hex guardians) (.new (registry guardians)) pool)
    {call : (api hex guardians).Call} (member : call ∈ pool.calls)
    {outcome : Checked ApiError Answer} (returned : call.result? = some outcome) :
    Ends hex guardians call.request outcome :=
  reachable.returned (resolve_obeys lawful)
    (fun _ reached op choice _ => truthful_reached reached op choice) member returned

theorem events_sound (lawful : signing.Lawful) {pool : (api hex guardians).Pool}
    (reachable : Reachable (AnyOrder hex guardians) (.new (registry guardians)) pool) :
    ∀ event ∈ pool.world.events, EventSound (registry guardians) event := by
  have upheld := @Reachable.upholds (api hex guardians) (AnyOrder hex guardians) _
    (ApiTells (registry guardians)) (ApiTruthful crypto (registry guardians)) (Ends hex guardians)
    (fun memory => ∀ event ∈ memory.events, EventSound (registry guardians) event)
    (fun event member => by cases member) pool
    (by
      intro before after reached _ sound op choice asked served
      refine ⟨?_, truthful_reached reached op choice⟩
      rw [served]
      cases op with
      | inl op => exact sound
      | inr op =>
          cases op with
          | publish announced =>
              intro event member
              rcases List.mem_append.mp member with earlier | new
              · exact sound event earlier
              · rw [List.mem_singleton.mp new]
                exact asked
          | _ => exact sound)
    reachable fun call _ => resolve_obeys lawful call.request
  exact upheld.1

end

end WormVerify.Api
