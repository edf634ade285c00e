import Mathlib
import OptionCompiler.Proofs.Text.Separation
import OptionCompiler.Source.Writer
/-!
# The lines that a script writes

A script that comes back to the depth at which it starts writes a list of lines, whatever was
written before. Scripts one after the other write their lines one after the other, and a block
puts its opening and closing lines around the lines of its body, which stand one level deeper.

Lines without a line feed can be read back from the text, and a line that begins with a visible
character shows its depth.
-/

namespace OptionCompiler

namespace Source

/-- The text of a list of lines. -/
def unlines : List String → String
  | [] => ""
  | line :: lines => line ++ "\n" ++ unlines lines

theorem unlines_append (lines others : List String) :
    unlines (lines ++ others) = unlines lines ++ unlines others := by
  induction lines with
  | nil => simp [unlines]
  | cons line lines ih => simp [unlines, ih, String.append_assoc]

/-- A text without a line feed. -/
def IsLine (text : String) : Prop :=
  '\n' ∉ text.toList

instance (text : String) : Decidable (IsLine text) :=
  inferInstanceAs (Decidable (_ ∉ _))

/-- A literal is checked by its characters. -/
theorem isLine_ofList {chars : List Char} (none : '\n' ∉ chars) : IsLine (String.ofList chars) := by
  rwa [IsLine, String.toList_ofList]

theorem isLine_append {text other : String} :
    IsLine (text ++ other) ↔ IsLine text ∧ IsLine other := by
  simp [IsLine, not_or]

theorem IsLine.append {text other : String} (first : IsLine text) (second : IsLine other) :
    IsLine (text ++ other) :=
  isLine_append.mpr ⟨first, second⟩

theorem IsLine.followed {text : String} (isLine : IsLine text) {back : List Char}
    (none : '\n' ∉ back) : IsLine (text ++ String.ofList back) :=
  isLine.append (isLine_ofList none)

theorem IsLine.between {text : String} (isLine : IsLine text) {front back : List Char}
    (none : '\n' ∉ front) (none' : '\n' ∉ back) :
    IsLine (String.ofList front ++ text ++ String.ofList back) :=
  ((isLine_ofList none).append isLine).followed none'

/-- Texts without a line feed. -/
def AreLines (texts : List String) : Prop :=
  ∀ text ∈ texts, IsLine text

instance (texts : List String) : Decidable (AreLines texts) :=
  inferInstanceAs (Decidable (∀ text ∈ texts, IsLine text))

theorem areLines_nil : AreLines [] :=
  List.forall_mem_nil _

theorem areLines_cons {text : String} {texts : List String} :
    AreLines (text :: texts) ↔ IsLine text ∧ AreLines texts :=
  List.forall_mem_cons

theorem areLines_append {texts others : List String} :
    AreLines (texts ++ others) ↔ AreLines texts ∧ AreLines others :=
  List.forall_mem_append

theorem areLines_map {α : Type} {items : List α} {line : α → String} :
    AreLines (items.map line) ↔ ∀ item ∈ items, IsLine (line item) :=
  List.forall_mem_map

theorem areLines_flatMap {α : Type} {items : List α} {lines : α → List String} :
    AreLines (items.flatMap lines) ↔ ∀ item ∈ items, AreLines (lines item) :=
  List.forall_mem_flatMap

theorem toList_unlines (lines : List String) :
    (unlines lines).toList = (lines.map String.toList).flatMap fun line => line ++ ['\n'] := by
  induction lines with
  | nil => rfl
  | cons line lines ih => simp [unlines, String.toList_append, ih]

theorem splitOn_unlines {lines : List String} (areLines : AreLines lines) :
    (unlines lines).toList.splitOn '\n' = lines.map String.toList ++ [[]] := by
  rw [toList_unlines, Text.splitOn_flatMap_concat (List.forall_mem_map.mpr areLines)]

/-- Lines are read back from their text. -/
theorem eq_of_unlines_eq {lines others : List String} (linesAre : AreLines lines)
    (othersAre : AreLines others) (same : unlines lines = unlines others) :
    lines = others := by
  have injective : Function.Injective String.toList := fun _ _ => String.toList_inj.mp
  have read := splitOn_unlines linesAre
  rw [same, splitOn_unlines othersAre] at read
  exact (injective.list_map (List.append_cancel_right read)).symm

/-- A line at a depth. A line without text stays empty. -/
def lineAt (depth : Nat) (text : String) : String :=
  if text.isEmpty then "" else Writer.indentation depth ++ text

theorem isLine_lineAt {text : String} (line : IsLine text) (depth : Nat) :
    IsLine (lineAt depth text) := by
  unfold lineAt
  split_ifs
  · decide
  · refine isLine_append.mpr ⟨?_, line⟩
    simp [IsLine, Writer.indentation]

theorem areLines_lineAt {texts : List String} (lines : AreLines texts) (depth : Nat) :
    AreLines (texts.map (lineAt depth)) :=
  areLines_map.mpr fun text member => isLine_lineAt (lines text member) depth

theorem lineAt_injective (depth : Nat) : Function.Injective (lineAt depth) := by
  intro text other equal
  unfold lineAt at equal
  split_ifs at equal with empty empty' empty'
  · rw [String.isEmpty_iff.mp empty, String.isEmpty_iff.mp empty']
  · simp_all
  · simp_all
  · exact (String.append_right_inj _).mp equal

/-- Whether a line stands deeper than a depth. -/
def IsDeeper (depth : Nat) (line : String) : Prop :=
  List.replicate (4 * (depth + 1)) ' ' <+: line.toList

instance (depth : Nat) (line : String) : Decidable (IsDeeper depth line) :=
  inferInstanceAs (Decidable (_ <+: _))

theorem isDeeper_lineAt {depth inner : Nat} (inside : depth < inner) {text : String}
    (visible : text ≠ "") : IsDeeper depth (lineAt inner text) := by
  have present : text.isEmpty = false := String.isEmpty_eq_false_iff.mpr visible
  have split : 4 * inner = 4 * (depth + 1) + 4 * (inner - (depth + 1)) := by omega
  simp only [IsDeeper, lineAt, present, Bool.false_eq_true, if_false, Writer.indentation,
    String.toList_append, String.toList_ofList, split, List.replicate_add, List.append_assoc]
  exact List.prefix_append _ _

theorem lineText_eq (depth : Nat) (text : String) :
    Writer.lineText depth text = lineAt depth text ++ "\n" := by
  unfold Writer.lineText lineAt
  split <;> rfl

theorem performAll_append (writer : Writer) (script other : List Step) :
    writer.performAll (script ++ other) = (writer.performAll script).performAll other := by
  induction script generalizing writer with
  | nil => rfl
  | cons step script ih => exact ih (writer.perform step)

/-- Begun at a depth, the script writes the lines and comes back to the depth. -/
def Writes (depth : Nat) (script : List Step) (lines : List String) : Prop :=
  ∀ text, Writer.performAll ⟨text, depth⟩ script = ⟨text ++ unlines lines, depth⟩

namespace Writes

variable {depth : Nat}

theorem nil : Writes depth [] [] := by
  intro text
  simp [Writer.performAll, unlines]

theorem append {script other : List Step} {lines others : List String}
    (first : Writes depth script lines) (second : Writes depth other others) :
    Writes depth (script ++ other) (lines ++ others) := by
  intro text
  rw [performAll_append, first, second, unlines_append, String.append_assoc]

theorem cons {step : Step} {script : List Step} {lines others : List String}
    (first : Writes depth [step] lines) (rest : Writes depth script others) :
    Writes depth (step :: script) (lines ++ others) :=
  append first rest

theorem line (text : String) : Writes depth [.line text] [lineAt depth text] := by
  intro written
  simp [Writer.performAll, Writer.perform, Writer.line, lineText_eq, unlines]

theorem blank : Writes depth [.blank] [""] := by
  intro written
  simp [Writer.performAll, Writer.perform, Writer.blank, unlines]

theorem lines (texts : List String) :
    Writes depth [.lines texts] (texts.map (lineAt depth)) := by
  intro written
  simp only [Writer.performAll, Writer.perform, Writer.lines]
  induction texts generalizing written with
  | nil => simp [unlines]
  | cons text texts ih =>
      rw [List.foldl_cons, Writer.line, ih, lineText_eq]
      simp [unlines, String.append_assoc]

/-- A block writes its body one level deeper between its two lines. -/
theorem block (opening closing : String) {body : List Step} {lines : List String}
    (inner : Writes (depth + 1) body lines) :
    Writes depth [.block opening closing body]
      (lineAt depth opening :: (lines ++ [lineAt depth closing])) := by
  intro written
  simp only [Writer.performAll, Writer.perform, Writer.line, Writer.indent]
  rw [inner]
  simp [Writer.dedent, lineText_eq, unlines, unlines_append, String.append_assoc]

theorem indented {script : List Step} {lines : List String}
    (inner : Writes (depth + 1) script lines) : Writes depth (indented script) lines := by
  intro text
  simp only [Source.indented, Writer.performAll, performAll_append, Writer.perform, Writer.indent]
  rw [inner]
  simp [Writer.dedent]

theorem flatMap {α : Type} {items : List α} {script : α → List Step} {lines : α → List String}
    (each : ∀ item ∈ items, Writes depth (script item) (lines item)) :
    Writes depth (items.flatMap script) (items.flatMap lines) := by
  induction items with
  | nil => exact nil
  | cons item items ih =>
      rw [List.flatMap_cons, List.flatMap_cons]
      apply append (each item (by simp))
      apply ih
      intro later member
      exact each later (by simp [member])

end Writes

theorem written_of_writes {script : List Step} {lines : List String}
    (writes : Writes 0 script lines) : written script = unlines lines := by
  unfold written Writer.empty
  rw [writes]
  simp

end Source

end OptionCompiler
