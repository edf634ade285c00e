import Mathlib
import OptionCompiler.Sorted
/-!
# Laws of sorted entries

Inserting under a key changes what is found under this key and nothing else. Keys are collected
into the increasing list of the keys without repetitions, and an increasing list is known by its
members.

Entries that stand in the order of their keys stay as they are when they are collected, and each of
them is found under its key. The entries that carry their order are such a list, and are collected
from it again.
-/

namespace OptionCompiler

namespace Sorted

section Entries

variable {κ ν : Type} [Ord κ]

theorem find?_cons (key : κ) (entry : κ × ν) (entries : List (κ × ν)) :
    find? key (entry :: entries) =
      match compare key entry.1 with
      | .eq => some entry.2
      | _ => find? key entries := by
  unfold find?
  cases compared : compare key entry.1 <;> simp [compared]

variable [Std.LawfulEqOrd κ]

/-- The inserted value is found under its key. -/
theorem find?_insert_self (key : κ) (value : ν) (entries : List (κ × ν)) :
    find? key (insert key value entries) = some value := by
  induction entries with
  | nil => simp [insert, find?]
  | cons entry entries ih =>
      unfold insert
      cases compared : compare key entry.1 with
      | lt => simp [find?_cons]
      | eq => simp [find?_cons]
      | gt => simp [find?_cons, compared, ih]

/-- Under other keys nothing changes. -/
theorem find?_insert_of_ne {key other : κ} (different : other ≠ key) (value : ν)
    (entries : List (κ × ν)) : find? other (insert key value entries) = find? other entries := by
  have distinct : compare other key ≠ .eq :=
    fun equal => different (Std.LawfulEqCmp.compare_eq_iff_eq.mp equal)
  have skips (rest : List (κ × ν)) : find? other ((key, value) :: rest) = find? other rest := by
    rw [find?_cons]
    cases compared : compare other key with
    | eq => exact absurd compared distinct
    | lt => rfl
    | gt => rfl
  induction entries with
  | nil => exact skips []
  | cons entry entries ih =>
      unfold insert
      cases compared : compare key entry.1 with
      | lt => exact skips _
      | eq =>
          have same := Std.LawfulEqCmp.compare_eq_iff_eq.mp compared
          rw [skips, find?_cons, ← same]
          cases again : compare other key with
          | eq => exact absurd again distinct
          | lt => rfl
          | gt => rfl
      | gt => rw [find?_cons, find?_cons, ih]

end Entries

section Keys

variable {κ : Type} [Ord κ]

/-- Each key is less than the later ones. -/
def Increasing (keys : List κ) : Prop :=
  keys.Pairwise fun key later => compare key later = .lt

instance (keys : List κ) : Decidable (Increasing keys) :=
  inferInstanceAs (Decidable (keys.Pairwise _))

variable [Std.LawfulEqOrd κ]

theorem mem_insertKey {key other : κ} {keys : List κ} :
    other ∈ insertKey key keys ↔ other = key ∨ other ∈ keys := by
  induction keys with
  | nil => simp [insertKey]
  | cons first keys ih =>
      unfold insertKey
      cases compared : compare key first with
      | lt => simp
      | eq => simp [Std.LawfulEqCmp.compare_eq_iff_eq.mp compared]
      | gt => simp [ih, or_left_comm]

theorem mem_ofKeys {key : κ} {keys : List κ} : key ∈ ofKeys keys ↔ key ∈ keys := by
  have folded (start : List κ) :
      key ∈ keys.foldl (fun sorted key => insertKey key sorted) start ↔
        key ∈ start ∨ key ∈ keys := by
    induction keys generalizing start with
    | nil => simp
    | cons first keys ih =>
        rw [List.foldl_cons, ih, mem_insertKey, List.mem_cons]
        tauto
  exact (folded []).trans (by simp)

variable [Std.TransOrd κ]

theorem increasing_insertKey (key : κ) {keys : List κ} (increasing : Increasing keys) :
    Increasing (insertKey key keys) := by
  induction keys with
  | nil => exact List.pairwise_singleton _ _
  | cons first keys ih =>
      rcases List.pairwise_cons.mp increasing with ⟨least, rest⟩
      unfold insertKey
      cases compared : compare key first with
      | lt =>
          refine List.pairwise_cons.mpr ⟨?_, increasing⟩
          intro later member
          rcases List.mem_cons.mp member with rfl | member
          · exact compared
          · exact Std.TransCmp.lt_trans compared (least later member)
      | eq =>
          rw [Std.LawfulEqCmp.compare_eq_iff_eq.mp compared]
          exact increasing
      | gt =>
          refine List.pairwise_cons.mpr ⟨?_, ih rest⟩
          intro later member
          rcases mem_insertKey.mp member with rfl | member
          · exact Std.OrientedCmp.gt_iff_lt.mp compared
          · exact least later member

theorem increasing_ofKeys (keys : List κ) : Increasing (ofKeys keys) := by
  have folded (start : List κ) (increasing : Increasing start) :
      Increasing (keys.foldl (fun sorted key => insertKey key sorted) start) := by
    induction keys generalizing start with
    | nil => exact increasing
    | cons key keys ih => exact ih _ (increasing_insertKey key increasing)
  exact folded [] List.Pairwise.nil

/-- Increasing lists with the same members are equal. -/
theorem Increasing.eq_of_mem_iff {keys others : List κ} (increasing : Increasing keys)
    (increasing' : Increasing others) (same : ∀ key, key ∈ keys ↔ key ∈ others) :
    keys = others := by
  have antisymmetric : Std.Antisymm fun (key later : κ) => compare key later = .lt := by
    constructor
    intro key later less greater
    rw [Std.OrientedCmp.gt_iff_lt.mpr less] at greater
    cases greater
  have irreflexive : Std.Irrefl fun (key later : κ) => compare key later = .lt := by
    constructor
    intro key less
    have same : compare key key = .eq := Std.ReflCmp.compare_self
    rw [same] at less
    cases less
  exact List.Pairwise.eq_of_mem_iff increasing increasing' same

/-- Keys are collected by choosing them from the list of all keys. -/
theorem ofKeys_eq_filter [DecidableEq κ] {all keys : List κ} (increasing : Increasing all)
    (complete : ∀ key ∈ keys, key ∈ all) : ofKeys keys = all.filter (· ∈ keys) := by
  apply (increasing_ofKeys keys).eq_of_mem_iff (increasing.filter _)
  intro key
  rw [mem_ofKeys, List.mem_filter, decide_eq_true_eq]
  exact ⟨fun member => ⟨complete key member, member⟩, And.right⟩

end Keys

section Collecting

variable {κ ν : Type} [Ord κ]

/-- The keys change in the same way, whatever the values are. -/
theorem map_fst_insert (key : κ) (value : ν) (entries : List (κ × ν)) :
    (insert key value entries).map Prod.fst = insertKey key (entries.map Prod.fst) := by
  induction entries with
  | nil => rfl
  | cons entry entries ih =>
      simp only [insert, insertKey, List.map_cons]
      cases compare key entry.1 with
      | lt => rfl
      | eq => rfl
      | gt => exact congrArg (List.cons entry.1) ih

variable [Std.TransOrd κ]

/-- An entry whose key is greater than all others comes last. -/
theorem insert_of_forall_lt {key : κ} {entries : List (κ × ν)}
    (greatest : ∀ entry ∈ entries, compare entry.1 key = .lt) (value : ν) :
    insert key value entries = entries ++ [(key, value)] := by
  induction entries with
  | nil => rfl
  | cons entry entries ih =>
      have greater : compare key entry.1 = .gt :=
        Std.OrientedCmp.gt_iff_lt.mpr (greatest entry List.mem_cons_self)
      have rest := ih fun later member => greatest later (List.mem_cons_of_mem entry member)
      simp only [insert, greater, rest, List.cons_append]

/-- Entries that go on in the order of the keys are put behind those that are there. -/
theorem foldl_insert_of_increasing {sorted entries : List (κ × ν)}
    (increasing : Increasing ((sorted ++ entries).map Prod.fst)) :
    entries.foldl (fun sorted entry => insert entry.1 entry.2 sorted) sorted =
      sorted ++ entries := by
  induction entries generalizing sorted with
  | nil => exact (List.append_nil sorted).symm
  | cons entry entries ih =>
      have greatest : ∀ earlier ∈ sorted, compare earlier.1 entry.1 = .lt := by
        intro earlier member
        rw [List.map_append] at increasing
        exact (List.pairwise_append.mp increasing).2.2 _ (List.mem_map_of_mem member) _ (by simp)
      have longer : (sorted ++ [(entry.1, entry.2)]) ++ entries = sorted ++ entry :: entries := by
        simp
      rw [List.foldl_cons, insert_of_forall_lt greatest, ih (longer ▸ increasing), longer]

/-- Entries in the order of their keys stay as they are. -/
theorem ofList_of_increasing {entries : List (κ × ν)}
    (increasing : Increasing (entries.map Prod.fst)) : ofList entries = entries :=
  foldl_insert_of_increasing increasing

variable [Std.LawfulEqOrd κ]

/-- Under increasing keys each entry is found. -/
theorem find?_of_mem {key : κ} {value : ν} {entries : List (κ × ν)}
    (increasing : Increasing (entries.map Prod.fst)) (present : (key, value) ∈ entries) :
    find? key entries = some value := by
  induction entries with
  | nil => cases present
  | cons entry entries ih =>
      rcases List.pairwise_cons.mp increasing with ⟨least, rest⟩
      rw [find?_cons]
      rcases List.mem_cons.mp present with rfl | later
      · simp
      · have greater : compare key entry.1 = .gt :=
          Std.OrientedCmp.gt_iff_lt.mpr (least key (List.mem_map_of_mem later))
        simp [greater, ih rest later]

end Collecting

namespace Entries

variable {κ ν : Type} [Ord κ] {bound : Option κ}

theorem increasing_keys [Std.TransOrd κ] (entries : Entries κ ν bound) :
    (∀ key ∈ entries.toList.map Prod.fst, IsAfter key bound) ∧
      Increasing (entries.toList.map Prod.fst) := by
  induction entries with
  | nil => exact ⟨by simp [toList], List.Pairwise.nil⟩
  | @cons bound key value after rest ih =>
      rcases ih with ⟨later, increasing⟩
      refine ⟨?_, List.pairwise_cons.mpr ⟨later, increasing⟩⟩
      rw [toList, List.map_cons]
      intro other member
      rcases List.mem_cons.mp member with rfl | member
      · exact after
      · cases bound with
        | none => exact isAfter_none other
        | some earlier => exact Std.TransCmp.lt_trans after (later other member)

theorem increasing_toList [Std.TransOrd κ] (entries : Entries κ ν bound) :
    Increasing (entries.toList.map Prod.fst) :=
  entries.increasing_keys.2

variable [Std.TransOrd κ] [Std.LawfulEqOrd κ]

theorem toList_insert (key : κ) (value : ν) (after : IsAfter key bound)
    (entries : Entries κ ν bound) :
    (entries.insert key value after).toList = Sorted.insert key value entries.toList := by
  induction entries with
  | nil => rfl
  | cons other kept otherAfter rest ih =>
      unfold insert
      split
      · next less => simp only [toList, Sorted.insert, less]
      · next equal =>
          simp only [toList, Sorted.insert, equal]
          rw [Std.LawfulEqCmp.compare_eq_iff_eq.mp equal]
      · next greater => simp only [toList, Sorted.insert, greater, ih]

theorem toList_ofList (entries : List (κ × ν)) :
    (ofList entries).toList = Sorted.ofList entries := by
  unfold ofList Sorted.ofList
  rw [← List.foldr_reverse, ← List.foldr_reverse]
  induction entries.reverse with
  | nil => rfl
  | cons entry entries ih => rw [List.foldr_cons, List.foldr_cons, toList_insert, ih]

/-- Entries in order are collected again from their list. -/
theorem ofList_toList (entries : Entries κ ν none) : ofList entries.toList = entries := by
  apply eq_of_toList_eq
  rw [toList_ofList, ofList_of_increasing entries.increasing_toList]

end Entries

end Sorted

end OptionCompiler
