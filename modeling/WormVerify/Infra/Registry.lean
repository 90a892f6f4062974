import WormVerify.Infra.Failures

/-! # The guardian registry

The registry answers from the last set it was given for an index. It keeps the
history of the guardians only as far as the given sets do.
-/

namespace WormVerify.Infra

open WormVerify.Types WormVerify.Core Service

namespace InMemoryGuardianRegistry

section

variable (registry : InMemoryGuardianRegistry)

def upgrade (set : GuardianSet) : InMemoryGuardianRegistry where
  sets := registry.sets.insert set.index set
  current := set.index

def get (index : UInt32) : Except EngineError (Option GuardianSet) :=
  .ok (registry.sets.lookup index)

def currentSet : Except EngineError GuardianSet :=
  match registry.sets.lookup registry.current with
  | some set => .ok set
  | none => .error .guardianSetUnavailable

end

def after (first : GuardianSet) (sets : List GuardianSet) : InMemoryGuardianRegistry :=
  sets.foldl upgrade (new first)

theorem after_concat (first : GuardianSet) (sets : List GuardianSet) (set : GuardianSet) :
    after first (sets ++ [set]) = (after first sets).upgrade set := by
  simp [after]

/-! ## The registry behind the ports -/

section

variable {crypto : Crypto} {memory : Memory}

theorem serve_getGuardianSet (now : Int64) (index : UInt32) :
    memory.serve now (.getGuardianSet index) = (memory.guardians.get index, memory) := rfl

theorem serve_currentGuardianSet (now : Int64) :
    memory.serve now .currentGuardianSet = (memory.guardians.currentSet, memory) := rfl

theorem perform_upgrade (set : GuardianSet) (choices : Nat → Int64) :
    ((aggregator crypto).perform (Infra.upgrade set) choices memory).2 =
      { memory with guardians := memory.guardians.upgrade set } := rfl

theorem guardians_of_effect {request : EngineRequest} {outcome : Outcome ports Reply}
    {next : Memory} (effect : RequestEffect crypto memory request outcome next) :
    next.guardians = memory.guardians := by
  cases effect with
  | observed effect => cases effect <;> rfl
  | submitted effect =>
      cases effect with
      | accepted pending set found available checked outcome next effect =>
          cases effect <;> rfl
      | _ => rfl

theorem guardians_of_engine (request : EngineRequest) (choices : Nat → Int64) :
    ((aggregator crypto).perform ((aggregator crypto).body request.request) choices
      memory).2.guardians = memory.guardians :=
  guardians_of_effect (aggregator_effect crypto request choices memory).1

def upgrades (turns : List (Turn (aggregator crypto))) : List GuardianSet :=
  turns.filterMap fun turn =>
    match turn.request with
    | .upgrade set => some set
    | _ => none

theorem guardians_run (first : GuardianSet) (turns : List (Turn (aggregator crypto))) :
    (((aggregator crypto).sequential (.new (.new first))).state turns).guardians =
      after first (upgrades turns) := by
  induction turns using List.reverseRecOn with
  | nil => rfl
  | append_singleton turns turn induction =>
      rw [upgrades] at induction ⊢
      rw [state_sequential_concat, List.filterMap_append]
      rcases turn with ⟨request, choices⟩
      cases request with
      | observe guardianSetIndex body =>
          simp only [List.filterMap_cons, List.filterMap_nil, List.append_nil, ← induction]
          exact guardians_of_engine (.observe guardianSetIndex body) choices
      | submit id signature =>
          simp only [List.filterMap_cons, List.filterMap_nil, List.append_nil, ← induction]
          exact guardians_of_engine (.submit id signature) choices
      | upgrade set =>
          simp only [List.filterMap_cons, List.filterMap_nil, after_concat, ← induction]
          rfl

end

/-! ## What the registry holds -/

variable {first : GuardianSet} {sets : List GuardianSet}

/-- The registry answers with the last set it was given for the index. -/
theorem get_after (first : GuardianSet) (sets : List GuardianSet) (index : UInt32) :
    (after first sets).get index =
      .ok ((first :: sets).reverse.find? fun set => set.index = index) := by
  induction sets using List.reverseRecOn with
  | nil =>
      rw [after, List.foldl_nil, new, get, ← AList.insert_empty]
      by_cases same : index = first.index
      · subst same
        rw [AList.lookup_insert]
        simp
      · rw [AList.lookup_insert_ne same]
        simp [Ne.symm same]
  | append_singleton sets set induction =>
      rw [after_concat, upgrade, get]
      rw [get] at induction
      rw [← List.cons_append, List.reverse_append, List.reverse_singleton,
        List.singleton_append, List.find?_cons]
      by_cases same : index = set.index
      · subst same
        simp [AList.lookup_insert]
      · rw [AList.lookup_insert_ne same, induction]
        simp [Ne.symm same]

theorem current_after (first : GuardianSet) (sets : List GuardianSet) :
    (after first sets).current = ((first :: sets).getLast (by simp)).index := by
  induction sets using List.reverseRecOn with
  | nil => rfl
  | append_singleton sets set induction => simp [after_concat, upgrade]

theorem get_getLast (first : GuardianSet) (sets : List GuardianSet) :
    (after first sets).get ((first :: sets).getLast (by simp)).index =
      .ok (some ((first :: sets).getLast (by simp))) := by
  rw [get_after]
  rcases List.eq_nil_or_concat sets with none | ⟨earlier, last, some⟩
  · subst none
    simp
  · subst some
    simp

theorem currentSet_after (first : GuardianSet) (sets : List GuardianSet) :
    (after first sets).currentSet = .ok ((first :: sets).getLast (by simp)) := by
  have held := get_getLast first sets
  rw [get] at held
  rw [currentSet, current_after, Except.ok.inj held]

/-! ## The history -/

/-- What was answered for an index is answered from then on, and the index of
the active set never decreases. -/
structure KeepsHistory (first : GuardianSet) (sets : List GuardianSet) : Prop where
  kept : ∀ earlier between later, sets = earlier ++ between ++ later → ∀ index set,
    (after first earlier).get index = .ok (some set) →
      (after first (earlier ++ between)).get index = .ok (some set)
  rises : ∀ earlier between later, sets = earlier ++ between ++ later → ∀ old new,
    (after first earlier).currentSet = .ok old →
      (after first (earlier ++ between)).currentSet = .ok new → old.index ≤ new.index

/-- A set with the index of an earlier one is that set again, and has no smaller
index. -/
def Succeeds (earlier later : GuardianSet) : Prop :=
  earlier.index ≤ later.index ∧ (earlier.index = later.index → earlier = later)

instance (earlier later : GuardianSet) : Decidable (Succeeds earlier later) :=
  inferInstanceAs (Decidable (_ ∧ _))

theorem mem_of_get {index : UInt32} {set : GuardianSet}
    (answered : (after first sets).get index = .ok (some set)) :
    set ∈ first :: sets ∧ set.index = index := by
  rw [get_after] at answered
  have found := Except.ok.inj answered
  have same := List.find?_some found
  exact ⟨List.mem_reverse.mp (List.mem_of_find?_eq_some found), by simpa using same⟩

theorem exists_get {set : GuardianSet} (member : set ∈ first :: sets) :
    ∃ held, (after first sets).get set.index = .ok (some held) := by
  rw [get_after]
  cases found : (first :: sets).reverse.find? (fun other => other.index = set.index) with
  | some held => exact ⟨held, rfl⟩
  | none =>
      have absent := List.find?_eq_none.mp found set (List.mem_reverse.mpr member)
      simp at absent

theorem exists_getLast {set : GuardianSet} (member : set ∈ first :: sets) :
    ∃ earlier between, sets = earlier ++ between ∧
      (first :: earlier).getLast (by simp) = set := by
  rcases List.append_of_mem member with ⟨before, rest, split⟩
  cases before with
  | nil =>
      cases split
      exact ⟨[], sets, rfl, rfl⟩
  | cons head before =>
      cases split
      exact ⟨before ++ [set], rest, by simp, by simp⟩

theorem eq_of_succeeding {given : List GuardianSet} (succeeding : given.Pairwise Succeeds)
    {left right : GuardianSet} (leftMember : left ∈ given) (rightMember : right ∈ given)
    (same : left.index = right.index) : left = right := by
  let apart (first second : GuardianSet) : Prop := first.index = second.index → first = second
  have forwards : given.Pairwise apart := succeeding.imp fun succeeds => succeeds.2
  have backwards : given.Pairwise (flip apart) :=
    forwards.imp fun equal same => (equal same.symm).symm
  exact forwards.forall_of_forall_of_flip (fun _ _ _ => rfl) backwards leftMember rightMember
    same

theorem KeepsHistory.succeeding (history : KeepsHistory first sets) :
    (first :: sets).Pairwise Succeeds := by
  induction sets using List.reverseRecOn with
  | nil => exact List.pairwise_singleton _ _
  | append_singleton sets set induction =>
      have soFar : KeepsHistory first sets := by
        refine ⟨fun earlier between later split => ?_, fun earlier between later split => ?_⟩
        · exact history.kept earlier between (later ++ [set]) (by simp [split])
        · exact history.rises earlier between (later ++ [set]) (by simp [split])
      rw [← List.cons_append, List.pairwise_append]
      refine ⟨induction soFar, List.pairwise_singleton _ _, ?_⟩
      intro older member newer isSet
      rw [List.mem_singleton] at isSet
      subst isSet
      rcases exists_getLast member with ⟨earlier, between, rfl, last⟩
      have whole : (first :: (earlier ++ (between ++ [newer]))).getLast (by simp) = newer := by
        simp
      have activeThen := currentSet_after first earlier
      have activeNow := currentSet_after first (earlier ++ (between ++ [newer]))
      have heldThen := get_getLast first earlier
      have heldNow := get_getLast first (earlier ++ (between ++ [newer]))
      rw [last] at activeThen heldThen
      rw [whole] at activeNow heldNow
      refine ⟨history.rises earlier (between ++ [newer]) [] (by simp) older newer activeThen
        activeNow, ?_⟩
      intro same
      have kept := history.kept earlier (between ++ [newer]) [] (by simp) _ _ heldThen
      rw [same, heldNow] at kept
      exact (Option.some.inj (Except.ok.inj kept)).symm

/-- The registry keeps its history exactly when the sets it is given succeed
each other. -/
theorem keepsHistory_iff (first : GuardianSet) (sets : List GuardianSet) :
    KeepsHistory first sets ↔ (first :: sets).Pairwise Succeeds := by
  constructor
  · exact KeepsHistory.succeeding
  · intro succeeding
    refine ⟨?_, ?_⟩
    · intro earlier between later split index set answered
      subst split
      rw [← List.cons_append, List.pairwise_append] at succeeding
      rcases mem_of_get answered with ⟨member, sameIndex⟩
      have given : set ∈ first :: (earlier ++ between) := by
        rw [← List.cons_append]
        exact List.mem_append_left _ member
      rcases exists_get given with ⟨held, heldIs⟩
      rcases mem_of_get heldIs with ⟨heldGiven, heldIndex⟩
      rw [← sameIndex, heldIs, eq_of_succeeding succeeding.1 heldGiven given heldIndex]
    · intro earlier between later split old new oldIs newIs
      subst split
      rw [← List.cons_append, List.pairwise_append] at succeeding
      rw [currentSet_after] at oldIs newIs
      cases oldIs
      cases newIs
      rcases List.eq_nil_or_concat between with none | ⟨initial, last, some⟩
      · subst none
        simp
      · have ordered := succeeding.1
        rw [← List.cons_append, List.pairwise_append] at ordered
        subst some
        have succeeds := ordered.2.2 _ (List.getLast_mem (by simp)) last (by simp)
        simpa using succeeds.1

def Sample.genesis : GuardianSet := ⟨0, [], 0⟩

def Sample.reissued : GuardianSet := ⟨0, [], 1⟩

/-- An upgrade with an index in use replaces the set of that index. -/
theorem history_rewritten :
    ¬∀ (first : GuardianSet) (sets : List GuardianSet), KeepsHistory first sets := by
  intro always
  have kept := (always Sample.genesis [Sample.reissued]).kept [] [Sample.reissued] [] rfl
    0 Sample.genesis rfl
  cases Except.ok.inj kept

end InMemoryGuardianRegistry

end WormVerify.Infra
