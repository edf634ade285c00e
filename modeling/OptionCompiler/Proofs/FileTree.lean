import OptionCompiler.Proofs.FileTree.Path
/-!
# What operations on files change

A written file is at one place and nothing else changes; directories that are made stand where
nothing was. Neither takes a directory away, and a write makes none, so after a write every path
leads where it led before. That is what makes several writes independent of each other.
-/

namespace OptionCompiler

namespace FileTree

variable {tree before middle after : FileTree} {place : Place} {name path text : String}

section Nodes

theorem lookup_filter_ne (nodes : List (Place × FileNode)) {other : Place}
    (apart : other ≠ place) :
    (nodes.filter fun entry => entry.1 ≠ place).lookup other = nodes.lookup other := by
  induction nodes with
  | nil => rfl
  | cons entry nodes ih =>
      by_cases same : entry.1 = place
      · have skipped : (other == entry.1) = false := by simpa [same] using apart
        rw [List.filter_cons_of_neg (by simpa using same), List.lookup_cons, skipped]
        exact ih
      · rw [List.filter_cons_of_pos (by simpa using same), List.lookup_cons, List.lookup_cons, ih]

/-- The outermost place is always a directory. -/
theorem ne_nil_of_node?_ne (apart : tree.node? place ≠ some .directory) : place ≠ [] := by
  rintro rfl
  exact apart rfl

theorem node?_put (tree : FileTree) (inner : place ≠ []) (node : FileNode) (other : Place) :
    (tree.put place node).node? other = if other = place then some node else tree.node? other := by
  rcases eq_or_ne other place with rfl | apart
  · simp [node?, put, inner]
  · have skipped : (other == place) = false := by simpa using apart
    simp only [node?, put, List.lookup_cons, skipped, lookup_filter_ne tree.nodes apart,
      if_neg apart]

end Nodes

section Directories

/-- Two trees with the same directories. -/
def SameDirectories (before after : FileTree) : Prop :=
  ∀ place, before.node? place = some .directory ↔ after.node? place = some .directory

/-- Every place that names lead to is one that the same names lead to after a change which keeps
the directories: a name is looked up in a directory. -/
theorem follow_eq_ok_iff_of_sameDirectories (same : SameDirectories before after)
    (start : Place) (names : List String) :
    before.follow start names = .ok place ↔ after.follow start names = .ok place := by
  induction names generalizing start with
  | nil => rfl
  | cons name names ih =>
      rcases iff_iff_and_or_not_and_not.mp (same start) with ⟨here, there⟩ | ⟨absent, gone⟩
      · simp only [follow, here, there]
        split
        · rfl
        · exact ih _
      · have stops : ∀ tree : FileTree, tree.node? start ≠ some .directory →
            ¬ tree.follow start (name :: names) = .ok place := by
          intro tree missing follows
          rw [follow] at follows
          split at follows
          · exact missing (by assumption)
          · cases follows
          · cases follows
        exact iff_of_false (stops before absent) (stops after gone)

/-- A path leads where it led before a change that keeps the directories. -/
theorem locate_eq_ok_iff_of_sameDirectories (same : SameDirectories before after)
    (path : String) : before.locate path = .ok place ↔ after.locate path = .ok place := by
  unfold locate
  split
  · rfl
  split
  · rfl
  · exact follow_eq_ok_iff_of_sameDirectories same _ _

/-- The last of several names is entered from the directory that the others lead to. -/
theorem follow_append_singleton {start : Place} {names : List String}
    (follows : tree.follow start (names ++ [name]) = .ok place) :
    ∃ directory, tree.follow start names = .ok directory ∧ place = enter directory name := by
  induction names generalizing start with
  | nil =>
      refine ⟨start, rfl, ?_⟩
      rw [List.nil_append, follow] at follows
      split at follows
      · split at follows
        · cases follows
        · exact (Except.ok.inj follows).symm
      · cases follows
      · cases follows
  | cons first names ih =>
      rw [List.cons_append, follow] at follows
      split at follows
      · next here =>
          split at follows
          · cases follows
          · next short =>
              rcases ih follows with ⟨directory, leads, entered⟩
              exact ⟨directory, by rw [follow, here, if_neg short]; exact leads, entered⟩
      · cases follows
      · cases follows

/-- A file in a directory is at the place that the directory is at, one name further. -/
theorem locate_join {directory : String} (isName : Path.IsName name)
    (plain : name ≠ "." ∧ name ≠ "..")
    (located : tree.locate (Path.join directory name) = .ok place) :
    ∃ around, tree.follow (start directory) (Path.names directory) = .ok around ∧
      place = name :: around := by
  unfold locate at located
  split at located
  · cases located
  split at located
  · cases located
  · rw [start_join directory isName, lookupNames_join directory isName] at located
    rcases follow_append_singleton located with ⟨around, leads, entered⟩
    refine ⟨around, leads, ?_⟩
    rw [entered, enter, if_neg plain.1, if_neg plain.2]

end Directories

section Writing

/-- A file is written to the place that its path leads to, unless a directory stands there. -/
theorem write_eq_ok_iff :
    tree.write path text = .ok after ↔
      ∃ place, tree.locate path = .ok place ∧ tree.node? place ≠ some .directory ∧
        after = tree.put place (.file text) := by
  unfold write
  cases located : tree.locate path with
  | error error => simp [bind, Except.bind]
  | ok place =>
      simp only [bind, Except.bind, Except.ok.injEq, exists_eq_left']
      split
      · next here => simp [here]
      · next apart => simpa [eq_comm] using fun _ => apart

/-- A path that a file can be written to. -/
def IsWritable (tree : FileTree) (path : String) : Prop :=
  ∀ text, ∃ after, tree.write path text = .ok after

theorem isWritable_iff :
    tree.IsWritable path ↔
      ∃ place, tree.locate path = .ok place ∧ tree.node? place ≠ some .directory := by
  constructor
  · intro writable
    rcases writable "" with ⟨after, written⟩
    rcases write_eq_ok_iff.mp written with ⟨place, located, apart, -⟩
    exact ⟨place, located, apart⟩
  · rintro ⟨place, located, apart⟩ text
    exact ⟨_, write_eq_ok_iff.mpr ⟨place, located, apart, rfl⟩⟩

/-- A path that can be written to leads where it led after a change that keeps the directories. -/
theorem IsWritable.locate_eq (writable : before.IsWritable path)
    (same : SameDirectories before after) : after.locate path = before.locate path := by
  rcases isWritable_iff.mp writable with ⟨place, located, -⟩
  rw [located]
  exact (locate_eq_ok_iff_of_sameDirectories same path).mp located

theorem IsWritable.of_sameDirectories (writable : before.IsWritable path)
    (same : SameDirectories before after) : after.IsWritable path := by
  rcases isWritable_iff.mp writable with ⟨place, located, apart⟩
  exact isWritable_iff.mpr ⟨place, (locate_eq_ok_iff_of_sameDirectories same path).mp located,
    (not_congr (same place)).mp apart⟩

theorem sameDirectories_put (apart : tree.node? place ≠ some .directory) (text : String) :
    SameDirectories tree (tree.put place (.file text)) := by
  intro other
  rw [node?_put tree (ne_nil_of_node?_ne apart)]
  split
  · next same =>
      subst same
      simpa using apart
  · rfl

theorem read_eq_ok_iff :
    tree.read path = .ok text ↔
      ∃ place, tree.locate path = .ok place ∧ tree.node? place = some (.file text) := by
  unfold read
  cases located : tree.locate path with
  | error error => simp [bind, Except.bind]
  | ok place =>
      simp only [bind, Except.bind, Except.ok.injEq, exists_eq_left']
      split <;> simp_all

end Writing

section Making

/-- A tree with more directories than another, where nothing was before. -/
def AddsDirectories (before after : FileTree) : Prop :=
  ∀ place, after.node? place = before.node? place ∨
    before.node? place = none ∧ after.node? place = some .directory

theorem AddsDirectories.refl (tree : FileTree) : AddsDirectories tree tree :=
  fun _ => .inl rfl

theorem AddsDirectories.trans (first : AddsDirectories before middle)
    (second : AddsDirectories middle after) : AddsDirectories before after := by
  intro place
  rcases second place with same | ⟨absent, made⟩
  · rw [same]
    exact first place
  · rcases first place with same | ⟨absent', -⟩
    · exact .inr ⟨same ▸ absent, made⟩
    · exact .inr ⟨absent', made⟩

/-- The files of a tree with more directories are the files that were there. -/
theorem AddsDirectories.file_iff (adds : AddsDirectories before after) (place : Place)
    (text : String) :
    after.node? place = some (.file text) ↔ before.node? place = some (.file text) := by
  rcases adds place with same | ⟨absent, made⟩
  · rw [same]
  · simp [absent, made]

theorem addsDirectories_make {start : Place} {names : List String}
    (made : tree.make start names = .ok after) : AddsDirectories tree after := by
  unfold make at made
  cases follows : tree.follow start names with
  | error error =>
      rw [follows] at made
      cases made
  | ok place =>
      rw [follows] at made
      simp only [bind, Except.bind] at made
      split at made
      · cases made
      · next absent =>
          cases made
          intro other
          have free : tree.node? place ≠ some .directory := by simp [absent]
          rw [node?_put tree (ne_nil_of_node?_ne free)]
          split
          · next same =>
              subst same
              exact .inr ⟨absent, rfl⟩
          · exact .inl rfl

theorem addsDirectories_ensure {start : Place} {names : List String}
    (ensured : tree.ensure start names = .ok after) : AddsDirectories tree after := by
  unfold ensure at ensured
  split at ensured
  · next made =>
      cases ensured
      exact addsDirectories_make made
  · split at ensured
    · cases ensured
      exact .refl tree
    · cases ensured

theorem addsDirectories_ensureFirst {start : Place} {directories : List (List String)}
    (ensured : tree.ensureFirst start directories = .ok after) : AddsDirectories tree after := by
  induction directories generalizing after with
  | nil =>
      cases ensured
      exact .refl tree
  | cons names outer ih =>
      unfold ensureFirst at ensured
      cases own : tree.ensure start names with
      | ok made =>
          rw [own] at ensured
          cases ensured
          exact addsDirectories_ensure own
      | error error =>
          rw [own] at ensured
          simp only at ensured
          split at ensured
          · cases around : tree.ensureFirst start outer with
            | error error =>
                rw [around] at ensured
                cases ensured
            | ok made =>
                rw [around] at ensured
                exact (ih around).trans (addsDirectories_ensure ensured)
          · cases ensured

/-- Making a directory and those around it adds directories, and nothing else changes. -/
theorem addsDirectories_makeDirectories (made : tree.makeDirectories path = .ok after) :
    AddsDirectories tree after := by
  unfold makeDirectories at made
  split at made
  · cases made
  · exact addsDirectories_ensureFirst made

end Making

end FileTree

end OptionCompiler
