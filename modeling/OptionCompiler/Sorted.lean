/-!
# Sorted entries

A finite map as the list of its entries in increasing order of their keys. Inserting under a key
that is there already replaces its value, so of several entries with one key the last one counts.

`Sorted.Entries` is the type of the maps that carry this order: each key comes after the one
before it, so entries out of order cannot be built.
-/

namespace OptionCompiler

namespace Sorted

variable {κ ν : Type} [Ord κ]

/-- Puts `value` under `key`, in the place of an earlier value. -/
def insert (key : κ) (value : ν) : List (κ × ν) → List (κ × ν)
  | [] => [(key, value)]
  | (other, kept) :: rest =>
      match compare key other with
      | .lt => (key, value) :: (other, kept) :: rest
      | .eq => (key, value) :: rest
      | .gt => (other, kept) :: insert key value rest

/-- The value under `key`. -/
def find? (key : κ) (entries : List (κ × ν)) : Option ν :=
  (entries.find? fun entry => compare key entry.1 == .eq).map (·.2)

def ofList (entries : List (κ × ν)) : List (κ × ν) :=
  entries.foldl (fun sorted entry => insert entry.1 entry.2 sorted) []

/-- Puts `key` in its place of an increasing list without duplicates. -/
def insertKey (key : κ) : List κ → List κ
  | [] => [key]
  | other :: rest =>
      match compare key other with
      | .lt => key :: other :: rest
      | .eq => key :: rest
      | .gt => other :: insertKey key rest

/-- The different members of a list in increasing order. -/
def ofKeys (keys : List κ) : List κ :=
  keys.foldl (fun sorted key => insertKey key sorted) []

/-- Whether `key` comes after the key before it, if there is one. -/
def IsAfter (key : κ) : Option κ → Prop
  | none => True
  | some earlier => compare earlier key = .lt

theorem isAfter_none (key : κ) : IsAfter key none :=
  trivial

theorem isAfter_of_gt [Std.TransOrd κ] {key earlier : κ}
    (greater : compare key earlier = .gt) : IsAfter key (some earlier) :=
  Std.OrientedCmp.gt_iff_lt.mp greater

/-- Entries in increasing order of their keys, all of them after `bound` if there is one. -/
inductive Entries (κ ν : Type) [Ord κ] : Option κ → Type where
  | nil {bound : Option κ} : Entries κ ν bound
  | cons {bound : Option κ} (key : κ) (value : ν) (after : IsAfter key bound)
      (rest : Entries κ ν (some key)) : Entries κ ν bound

namespace Entries

variable {bound : Option κ}

def toList {bound : Option κ} : Entries κ ν bound → List (κ × ν)
  | .nil => []
  | .cons key value _ rest => (key, value) :: rest.toList

/-- Puts `value` under `key`, in the place of an earlier value. -/
def insert [Std.TransOrd κ] (key : κ) (value : ν) {bound : Option κ}
    (after : IsAfter key bound) : Entries κ ν bound → Entries κ ν bound
  | .nil => .cons key value after .nil
  | .cons other kept otherAfter rest =>
      match compared : compare key other with
      | .lt => .cons key value after (.cons other kept compared rest)
      | .eq => .cons other value otherAfter rest
      | .gt => .cons other kept otherAfter (rest.insert key value (isAfter_of_gt compared))

def ofList [Std.TransOrd κ] (entries : List (κ × ν)) : Entries κ ν none :=
  entries.foldl (fun sorted entry => sorted.insert entry.1 entry.2 (isAfter_none _)) .nil

theorem eq_of_toList_eq {entries others : Entries κ ν bound}
    (equal : entries.toList = others.toList) : entries = others := by
  induction entries with
  | nil =>
      cases others with
      | nil => rfl
      | cons => cases equal
  | cons key value after rest ih =>
      cases others with
      | nil => cases equal
      | cons other kept otherAfter others =>
          simp only [toList, List.cons.injEq, Prod.mk.injEq] at equal
          rcases equal with ⟨⟨rfl, rfl⟩, later⟩
          rw [ih later]

instance [DecidableEq κ] [DecidableEq ν] : DecidableEq (Entries κ ν bound) :=
  fun entries others =>
    decidable_of_iff (entries.toList = others.toList) ⟨eq_of_toList_eq, congrArg toList⟩

instance [Repr κ] [Repr ν] : Repr (Entries κ ν bound) where
  reprPrec entries := reprPrec entries.toList

end Entries

end Sorted

end OptionCompiler
