import Mathlib.Data.List.Basic
import Mathlib.Data.List.InsertIdx
import Mathlib.Data.List.Perm.Subperm
import Mathlib.Data.List.Sort
import Mathlib.Order.Basic

/-! # Lists in strictly ascending order of a key

The order is used in two ways: a reader checks it entry by entry against the
key it saw last, and a writer keeps it by binary search.
-/

namespace WormVerify

def Ascending (key : α → Nat) (values : List α) : Prop :=
  values.Pairwise fun earlier later => key earlier < key later

namespace Ascending

/-- The order as a reader checks it: every entry is compared with the entry
before it, and the first one with the key seen last, if any. -/
def After (key : α → Nat) : Option Nat → List α → Prop
  | _, [] => True
  | last, head :: tail =>
      (∀ previous, last = some previous → previous < key head) ∧
        After key (some (key head)) tail

theorem after_some_iff (key : α → Nat) (previous : Nat) (values : List α) :
    After key (some previous) values ↔
      (∀ value ∈ values, previous < key value) ∧ Ascending key values := by
  induction values generalizing previous with
  | nil => simp [After, Ascending]
  | cons head tail induction =>
      rw [After, induction (key head), Ascending, Ascending, List.pairwise_cons]
      constructor
      · intro parts
        have headAbove := parts.1 previous rfl
        refine ⟨?_, parts.2⟩
        intro value member
        rcases List.mem_cons.mp member with equal | member
        · exact equal ▸ headAbove
        · exact Nat.lt_trans headAbove (parts.2.1 value member)
      · intro parts
        refine ⟨?_, parts.2⟩
        intro other same
        cases same
        exact parts.1 head List.mem_cons_self

theorem after_none_iff (key : α → Nat) (values : List α) :
    After key none values ↔ Ascending key values := by
  cases values with
  | nil => simp [After, Ascending]
  | cons head tail =>
      rw [After, after_some_iff, Ascending, Ascending, List.pairwise_cons]
      simp

theorem key_nodup {key : α → Nat} {values : List α} (ascending : Ascending key values) :
    (values.map key).Nodup := by
  rw [List.Nodup, List.pairwise_map]
  exact ascending.imp fun less => Nat.ne_of_lt less

theorem length_le_of_lt {key : α → Nat} {values : List α} {bound : Nat}
    (ascending : Ascending key values) (below : ∀ value ∈ values, key value < bound) :
    values.length ≤ bound := by
  have included : (values.map key).Subperm (List.range bound) := by
    apply List.Nodup.subperm (key_nodup ascending)
    intro index member
    rcases List.mem_map.mp member with ⟨value, valueMember, rfl⟩
    exact List.mem_range.mpr (below value valueMember)
  simpa using included.length_le

theorem eq_of_mem_iff {key : α → Nat} {left right : List α} (leftAscending : Ascending key left)
    (rightAscending : Ascending key right) (same : ∀ value, value ∈ left ↔ value ∈ right) :
    left = right := by
  have distinct {values : List α} (ascending : Ascending key values) : values.Nodup :=
    ascending.imp fun less same => Nat.ne_of_lt less (congrArg key same)
  have perm : left.Perm right :=
    (List.perm_ext_iff_of_nodup (distinct leftAscending) (distinct rightAscending)).mpr same
  apply List.Perm.eq_of_pairwise _ leftAscending rightAscending perm
  intro earlier later _ _ less greater
  omega

end Ascending

def sortByKey (key : α → Nat) (values : List α) : List α :=
  values.insertionSort fun earlier later => key earlier ≤ key later

section

variable {key : α → Nat} {values : List α}

theorem sortByKey_perm : (sortByKey key values).Perm values :=
  List.perm_insertionSort _ values

theorem ascending_sortByKey (distinct : (values.map key).Nodup) :
    Ascending key (sortByKey key values) := by
  let order : α → α → Prop := fun earlier later => key earlier ≤ key later
  have total : Std.Total order := ⟨fun left right => Nat.le_total _ _⟩
  have transitive : IsTrans α order := ⟨fun _ _ _ earlier later => Nat.le_trans earlier later⟩
  have sorted : (sortByKey key values).Pairwise order := List.pairwise_insertionSort order values
  have apart : ((sortByKey key values).map key).Nodup :=
    (sortByKey_perm.map key).nodup_iff.mpr distinct
  rw [List.Nodup, List.pairwise_map] at apart
  exact sorted.imp₂ (fun _ _ below different => Nat.lt_of_le_of_ne below different) apart

theorem Ascending.eq_sortByKey {arranged : List α} (ascending : Ascending key arranged)
    (perm : arranged.Perm values) : arranged = sortByKey key values := by
  have distinct : (values.map key).Nodup := (perm.map key).nodup_iff.mp ascending.key_nodup
  apply Ascending.eq_of_mem_iff ascending (ascending_sortByKey distinct)
  intro value
  rw [perm.mem_iff, sortByKey_perm.mem_iff]

end

/-! ## Binary search -/

namespace BinarySearch

/-- Halve the window `[base, base + size)` until one entry is left. -/
def searchBase (key : α → Nat) (target : Nat) (values : List α) :
    (fuel base size : Nat) → Nat
  | 0, base, _ => base
  | fuel + 1, base, size =>
      if 1 < size then
        let half := size / 2
        let middle := base + half
        let next :=
          match values[middle]? with
          | some value => if target < key value then base else middle
          | none => base
        searchBase key target values fuel next (size - half)
      else
        base

/-- `binary_search_by_key`: the position of an entry with the key, or the
position at which one could be inserted. -/
def binarySearchByKey (values : List α) (target : Nat) (key : α → Nat) : Except Nat Nat :=
  let base := searchBase key target values values.length 0 values.length
  match values[base]? with
  | none => .error 0
  | some value =>
      if key value = target then .ok base
      else if key value < target then .error (base + 1)
      else .error base

/-- Every entry left of the position has a smaller key, every other entry a
larger one. -/
def Separates (key : α → Nat) (target : Nat) (values : List α) (position : Nat) : Prop :=
  (∀ value ∈ values.take position, key value < target) ∧
    ∀ value ∈ values.drop position, target < key value

section

variable {key : α → Nat} {target : Nat} {values : List α}

theorem ascending_getElem (ascending : Ascending key values) {left right : Nat}
    {leftValue rightValue : α} (leftAt : values[left]? = some leftValue)
    (rightAt : values[right]? = some rightValue) (less : left < right) :
    key leftValue < key rightValue := by
  rcases List.getElem?_eq_some_iff.mp leftAt with ⟨leftInside, rfl⟩
  rcases List.getElem?_eq_some_iff.mp rightAt with ⟨rightInside, rfl⟩
  exact List.pairwise_iff_getElem.mp ascending left right leftInside rightInside less

/-- What the window keeps: nothing right of it is at or below the target, and
its first entry is not above it unless the window starts at zero. -/
structure Window (key : α → Nat) (target : Nat) (values : List α) (base size : Nat) :
    Prop where
  nonempty : 0 < size
  inside : base + size ≤ values.length
  left : ∀ value, values[base]? = some value → base = 0 ∨ key value ≤ target
  right : ∀ position value, base + size ≤ position →
    values[position]? = some value → target < key value

theorem searchBase_window (ascending : Ascending key values) :
    ∀ (fuel base size : Nat), size ≤ fuel → Window key target values base size →
      Window key target values (searchBase key target values fuel base size) 1
  | 0, base, size, enough, window => absurd window.nonempty (by omega)
  | fuel + 1, base, size, enough, window => by
      rw [searchBase]
      by_cases larger : 1 < size
      · rw [if_pos larger]
        have inside := window.inside
        have middleInside : base + size / 2 < values.length := by omega
        have middleAt := List.getElem?_eq_getElem middleInside
        simp only [middleAt]
        by_cases above : target < key values[base + size / 2]
        · rw [if_pos above]
          apply searchBase_window ascending fuel base (size - size / 2) (by omega)
          refine ⟨by omega, by omega, window.left, ?_⟩
          intro position value beyond valueAt
          rcases Nat.lt_or_eq_of_le (show base + size / 2 ≤ position by omega) with less | equal
          · exact Nat.lt_trans above (ascending_getElem ascending middleAt valueAt less)
          · rw [← equal, middleAt] at valueAt
            exact Option.some.inj valueAt ▸ above
        · rw [if_neg above]
          apply searchBase_window ascending fuel _ (size - size / 2) (by omega)
          refine ⟨by omega, by omega, ?_, ?_⟩
          · intro value valueAt
            rw [middleAt] at valueAt
            right
            rw [← Option.some.inj valueAt]
            omega
          · intro position value beyond valueAt
            exact window.right position value (by omega) valueAt
      · rw [if_neg larger]
        have single : size = 1 := by have := window.nonempty; omega
        exact single ▸ window

theorem window_whole (nonempty : values ≠ []) :
    Window key target values 0 values.length where
  nonempty := List.length_pos_iff.mpr nonempty
  inside := by omega
  left := by simp
  right position value beyond valueAt := by
    have inside := (List.getElem?_eq_some_iff.mp valueAt).1
    omega

theorem window_found (ascending : Ascending key values) (nonempty : values ≠ []) :
    Window key target values
      (searchBase key target values values.length 0 values.length) 1 :=
  searchBase_window ascending _ _ _ (Nat.le_refl _) (window_whole nonempty)

theorem separates_iff_getElem {position : Nat} :
    Separates key target values position ↔
      (∀ index value, index < position → values[index]? = some value → key value < target) ∧
        ∀ index value, position ≤ index → values[index]? = some value → target < key value := by
  constructor
  · intro separates
    constructor
    · intro index value less valueAt
      apply separates.1
      rw [List.mem_iff_getElem?]
      exact ⟨index, by rw [List.getElem?_take, if_pos less, valueAt]⟩
    · intro index value beyond valueAt
      apply separates.2
      rw [List.mem_iff_getElem?]
      exact ⟨index - position, by rw [List.getElem?_drop, Nat.add_sub_cancel' beyond, valueAt]⟩
  · intro separates
    constructor
    · intro value member
      rcases List.mem_iff_getElem?.mp member with ⟨index, valueAt⟩
      rw [List.getElem?_take] at valueAt
      by_cases less : index < position
      · rw [if_pos less] at valueAt
        exact separates.1 index value less valueAt
      · simp [less] at valueAt
    · intro value member
      rcases List.mem_iff_getElem?.mp member with ⟨index, valueAt⟩
      rw [List.getElem?_drop] at valueAt
      exact separates.2 (position + index) value (by omega) valueAt

theorem binarySearchByKey_ok {position : Nat}
    (found : binarySearchByKey values target key = .ok position) :
    ∃ value ∈ values, key value = target := by
  rw [binarySearchByKey] at found
  split at found
  · cases found
  · rename_i value valueAt
    split at found
    · rename_i equal
      exact ⟨value, List.mem_of_getElem? valueAt, equal⟩
    · split at found <;> cases found

/-- A missing key gets the only position that keeps the list ascending. -/
theorem binarySearchByKey_error (ascending : Ascending key values) {position : Nat}
    (missing : binarySearchByKey values target key = .error position) :
    position ≤ values.length ∧ Separates key target values position := by
  by_cases empty : values = []
  · subst empty
    simp only [binarySearchByKey, List.getElem?_nil, Except.error.injEq] at missing
    subst missing
    simp [Separates]
  · have window : Window key target values
        (searchBase key target values values.length 0 values.length) 1 :=
      window_found ascending empty
    rw [binarySearchByKey] at missing
    generalize searchBase key target values values.length 0 values.length = base at window missing
    have baseInside : base < values.length := by have := window.inside; omega
    have baseAt := List.getElem?_eq_getElem baseInside
    simp only [baseAt] at missing
    rw [separates_iff_getElem]
    by_cases equal : key values[base] = target
    · simp [equal] at missing
    · rw [if_neg equal] at missing
      by_cases below : key values[base] < target
      · rw [if_pos below] at missing
        have here := Except.error.inj missing
        subst here
        refine ⟨by omega, ?_, ?_⟩
        · intro index value less valueAt
          rcases Nat.lt_or_eq_of_le (Nat.le_of_lt_succ less) with earlier | equal
          · exact Nat.lt_trans (ascending_getElem ascending valueAt baseAt earlier) below
          · rw [equal, baseAt] at valueAt
            exact Option.some.inj valueAt ▸ below
        · intro index value beyond valueAt
          exact window.right index value beyond valueAt
      · rw [if_neg below] at missing
        have here := Except.error.inj missing
        subst here
        have atStart : base = 0 := by
          rcases window.left _ baseAt with zero | le
          · exact zero
          · omega
        refine ⟨by omega, by omega, ?_⟩
        intro index value beyond valueAt
        rcases Nat.lt_or_eq_of_le beyond with later | equal
        · exact window.right index value (by omega) valueAt
        · rw [← equal, baseAt] at valueAt
          rw [← Option.some.inj valueAt]
          omega

theorem insertIdx_eq_append (value : α) {position : Nat} (inside : position ≤ values.length) :
    values.insertIdx position value = values.take position ++ value :: values.drop position := by
  induction values generalizing position with
  | nil => simp_all
  | cons head tail induction =>
      cases position with
      | zero => rfl
      | succ position =>
          rw [List.insertIdx_succ_cons, induction (Nat.le_of_succ_le_succ inside)]
          rfl

theorem ascending_insertIdx (ascending : Ascending key values) {value : α} {position : Nat}
    (inside : position ≤ values.length)
    (separates : Separates key (key value) values position) :
    Ascending key (values.insertIdx position value) := by
  rw [insertIdx_eq_append value inside, Ascending, List.pairwise_append, List.pairwise_cons]
  refine ⟨ascending.sublist (List.take_sublist _ _),
    ⟨separates.2, ascending.sublist (List.drop_sublist _ _)⟩, ?_⟩
  intro earlier earlierMem later laterMem
  have below := separates.1 earlier earlierMem
  rcases List.mem_cons.mp laterMem with equal | laterMem
  · exact equal ▸ below
  · exact Nat.lt_trans below (separates.2 later laterMem)

end

end BinarySearch

end WormVerify
