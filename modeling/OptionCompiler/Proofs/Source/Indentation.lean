import OptionCompiler.Proofs.Source.Lines
/-!
# Indentation composes

What a script appends depends on the depth at which it begins, and on nothing that was written
before. A script that never goes below this depth appends the same lines at any depth, as deep as
the depth is: all depths that it sees are the one at which it begins and a height above it, and no
step cuts the depth off at zero. So four spaces for each level in front of every line that is not
empty are all that a deeper beginning adds.

The lines are collected along `Climbs`, which follows the height through a script. The body of a
block is followed from zero again, so a body that goes below its own beginning does not climb, even
where the whole block stays above the beginning of the script.
-/

namespace OptionCompiler

namespace Source

section Appending

/-- A writer with a text in front of what it has written. -/
def Writer.after (writer : Writer) (text : String) : Writer :=
  { writer with text := text ++ writer.text }

theorem Writer.line_after (writer : Writer) (text line : String) :
    (writer.after text).line line = (writer.line line).after text := by
  simp only [Writer.line, Writer.after, String.append_assoc]

theorem Writer.lines_after (writer : Writer) (text : String) (lines : List String) :
    (writer.after text).lines lines = (writer.lines lines).after text := by
  simp only [Writer.lines]
  induction lines generalizing writer with
  | nil => rfl
  | cons line lines ih => rw [List.foldl_cons, List.foldl_cons, writer.line_after, ih]

mutual

theorem Writer.perform_after (writer : Writer) (text : String) :
    ∀ step, (writer.after text).perform step = (writer.perform step).after text
  | .line line => writer.line_after text line
  | .lines lines => writer.lines_after text lines
  | .blank => by simp only [perform, blank, after, String.append_assoc]
  | .indent => rfl
  | .dedent => rfl
  | .block opening closing body => by
      have opened : ((writer.after text).line opening).indent =
          (writer.line opening).indent.after text := by
        rw [writer.line_after]
        rfl
      simp only [perform]
      rw [opened, performAll_after _ text body]
      exact ((writer.line opening).indent.performAll body).dedent.line_after text closing

/-- What was written before stays in front, and has no bearing on what is appended. -/
theorem Writer.performAll_after (writer : Writer) (text : String) :
    ∀ script, (writer.after text).performAll script = (writer.performAll script).after text
  | [] => rfl
  | step :: script => by
      rw [performAll, performAll, perform_after writer text step, performAll_after _ text script]

end

/-- The text that a script appends at a depth. -/
def appended (depth : ℕ) (script : List Step) : String :=
  (Writer.performAll ⟨"", depth⟩ script).text

/-- The depth at which a script ends that begins at a depth. -/
def endDepth (depth : ℕ) (script : List Step) : ℕ :=
  (Writer.performAll ⟨"", depth⟩ script).depth

theorem performAll_eq (text : String) (depth : ℕ) (script : List Step) :
    Writer.performAll ⟨text, depth⟩ script =
      ⟨text ++ appended depth script, endDepth depth script⟩ := by
  have begun : (⟨text, depth⟩ : Writer) = Writer.after ⟨"", depth⟩ text := by
    simp [Writer.after]
  rw [begun, Writer.performAll_after]
  rfl

end Appending

section Levels

/-- The text with four spaces for each level in front of every line that is not empty. -/
def deepened (levels : ℕ) (text : String) : String :=
  String.ofList (['\n'].intercalate ((text.toList.splitOn '\n').map fun line =>
    if line.isEmpty then [] else List.replicate (4 * levels) ' ' ++ line))

theorem toList_lineAt (depth : ℕ) (text : String) :
    (lineAt depth text).toList =
      if text.toList.isEmpty then [] else List.replicate (4 * depth) ' ' ++ text.toList := by
  have empty : text.isEmpty = true ↔ text.toList.isEmpty = true := by simp
  unfold lineAt
  by_cases none : text.isEmpty = true
  · rw [if_pos none, if_pos (empty.mp none)]
    rfl
  · rw [if_neg none, if_neg fun other => none (empty.mpr other), String.toList_append,
      Writer.indentation, String.toList_ofList]

/-- A line at a height, seen from a depth below, stands as deep as both together. -/
theorem lineAt_lineAt (depth height : ℕ) (text : String) :
    lineAt depth (lineAt height text) = lineAt (depth + height) text := by
  rw [← String.toList_inj, toList_lineAt, toList_lineAt, toList_lineAt]
  cases text.toList with
  | nil => rfl
  | cons c rest =>
      have visible : (List.replicate (4 * height) ' ' ++ c :: rest).isEmpty = false := by simp
      rw [List.isEmpty_cons, if_neg Bool.false_ne_true, visible, if_neg Bool.false_ne_true,
        if_neg Bool.false_ne_true, Nat.mul_add, List.replicate_add, List.append_assoc]

/-- Lines of a text are deepened one by one. -/
theorem deepened_unlines {lines : List String} (areLines : AreLines lines) (levels : ℕ) :
    deepened levels (unlines lines) = unlines (lines.map (lineAt levels)) := by
  rw [← String.toList_inj, deepened, String.toList_ofList, splitOn_unlines areLines, toList_unlines,
    Text.flatMap_concat_eq_intercalate]
  simp [toList_lineAt, Function.comp_def]

end Levels

section Climbing

/-- Begun at a height above some depth, the script never goes below the depth and ends at a height
above it. No body of a block goes below its beginning, and no text holds a line feed. -/
inductive Climbs : ℕ → List Step → ℕ → Prop where
  | nil {height : ℕ} : Climbs height [] height
  | line {height ended : ℕ} {text : String} {script : List Step} (isLine : IsLine text)
      (rest : Climbs height script ended) : Climbs height (.line text :: script) ended
  | lines {height ended : ℕ} {texts : List String} {script : List Step}
      (areLines : AreLines texts) (rest : Climbs height script ended) :
      Climbs height (.lines texts :: script) ended
  | blank {height ended : ℕ} {script : List Step} (rest : Climbs height script ended) :
      Climbs height (.blank :: script) ended
  | indent {height ended : ℕ} {script : List Step} (rest : Climbs (height + 1) script ended) :
      Climbs height (.indent :: script) ended
  | dedent {height ended : ℕ} {script : List Step} (rest : Climbs height script ended) :
      Climbs (height + 1) (.dedent :: script) ended
  | block {height rise ended : ℕ} {opening closing : String} {body script : List Step}
      (opens : IsLine opening) (closes : IsLine closing) (inside : Climbs 0 body rise)
      (rest : Climbs (height + rise) script ended) :
      Climbs height (.block opening closing body :: script) ended

/-- Begun at a height above any depth, the script appends the lines as deep as the depth is, and
ends at a height above it. -/
def WritesAbove (height : ℕ) (script : List Step) (lines : List String) (ended : ℕ) : Prop :=
  ∀ text depth, Writer.performAll ⟨text, depth + height⟩ script =
    ⟨text ++ unlines (lines.map (lineAt depth)), depth + ended⟩

namespace WritesAbove

variable {height middle ended : ℕ} {script : List Step} {lines others : List String}

theorem nil : WritesAbove height [] [] height := by
  intro text depth
  simp [Writer.performAll, unlines]

theorem cons {step : Step} (first : WritesAbove height [step] lines middle)
    (rest : WritesAbove middle script others ended) :
    WritesAbove height (step :: script) (lines ++ others) ended := by
  intro text depth
  have split : step :: script = [step] ++ script := rfl
  rw [split, performAll_append, first, rest, List.map_append, unlines_append, String.append_assoc]

/-- A step that comes back to its depth, and writes its lines as deep as the depth is. -/
theorem of_writes
    (writes : ∀ depth, Writes (depth + height) script (lines.map (lineAt depth))) :
    WritesAbove height script lines height :=
  fun text depth => writes depth text

theorem line (height : ℕ) (text : String) :
    WritesAbove height [.line text] [lineAt height text] height := by
  apply of_writes
  intro depth
  rw [List.map_singleton, lineAt_lineAt]
  exact Writes.line text

theorem texts (height : ℕ) (texts : List String) :
    WritesAbove height [.lines texts] (texts.map (lineAt height)) height := by
  apply of_writes
  intro depth
  rw [List.map_map]
  have deeper : lineAt depth ∘ lineAt height = lineAt (depth + height) :=
    funext (lineAt_lineAt depth height)
  rw [deeper]
  exact Writes.lines texts

theorem blank (height : ℕ) : WritesAbove height [.blank] [""] height := by
  apply of_writes
  intro depth
  exact Writes.blank

theorem indent (height : ℕ) : WritesAbove height [.indent] [] (height + 1) := by
  intro text depth
  simp [Writer.performAll, Writer.perform, Writer.indent, unlines, Nat.add_assoc]

/-- Above the depth at which the script begins, a level can be left. -/
theorem dedent (height : ℕ) : WritesAbove (height + 1) [.dedent] [] height := by
  intro text depth
  simp [Writer.performAll, Writer.perform, Writer.dedent, unlines, ← Nat.add_assoc]

/-- The body of a block stands one level deeper, and the closing line as much above the opening one
as the body rises. -/
theorem block (height : ℕ) (opening closing : String) {rise : ℕ} {body : List Step}
    (inside : WritesAbove 0 body lines rise) :
    WritesAbove height [.block opening closing body]
      (lineAt height opening :: (lines.map (lineAt (height + 1)) ++
        [lineAt (height + rise) closing])) (height + rise) := by
  intro text depth
  have body_eq : Writer.performAll ⟨text ++ Writer.lineText (depth + height) opening,
      depth + height + 1⟩ body =
      ⟨text ++ Writer.lineText (depth + height) opening ++
        unlines (lines.map (lineAt (depth + height + 1))), depth + height + 1 + rise⟩ :=
    inside _ (depth + height + 1)
  have back : depth + height + 1 + rise - 1 = depth + height + rise := by omega
  simp only [Writer.performAll, Writer.perform, Writer.line, Writer.indent]
  rw [body_eq]
  simp only [Writer.dedent, back]
  simp [lineText_eq, unlines, unlines_append, lineAt_lineAt, String.append_assoc,
    Function.comp_def, Nat.add_assoc]

end WritesAbove

/-- A climbing script appends the same lines at every depth. -/
theorem exists_lines_of_climbs {height ended : ℕ} {script : List Step}
    (climbs : Climbs height script ended) :
    ∃ lines, AreLines lines ∧ WritesAbove height script lines ended := by
  induction climbs with
  | nil => exact ⟨[], areLines_nil, .nil⟩
  | @line height _ text _ isLine _ ih =>
      rcases ih with ⟨others, areLines, rest⟩
      exact ⟨_, areLines_append.mpr ⟨areLines_cons.mpr ⟨isLine_lineAt isLine height,
        areLines_nil⟩, areLines⟩, .cons (.line height text) rest⟩
  | @lines height _ texts _ isLines _ ih =>
      rcases ih with ⟨others, areLines, rest⟩
      exact ⟨_, areLines_append.mpr ⟨areLines_lineAt isLines height, areLines⟩,
        .cons (.texts height texts) rest⟩
  | @blank height _ _ _ ih =>
      rcases ih with ⟨others, areLines, rest⟩
      exact ⟨_, areLines_append.mpr ⟨by decide, areLines⟩, .cons (.blank height) rest⟩
  | @indent height _ _ _ ih =>
      rcases ih with ⟨others, areLines, rest⟩
      exact ⟨_, areLines, .cons (.indent height) rest⟩
  | @dedent height _ _ _ ih =>
      rcases ih with ⟨others, areLines, rest⟩
      exact ⟨_, areLines, .cons (.dedent height) rest⟩
  | @block height rise _ opening closing _ _ opens closes _ _ ih ih' =>
      rcases ih with ⟨inner, innerLines, inside⟩
      rcases ih' with ⟨others, areLines, rest⟩
      refine ⟨_, areLines_append.mpr ⟨areLines_cons.mpr ⟨isLine_lineAt opens height,
        areLines_append.mpr ⟨areLines_lineAt innerLines (height + 1), areLines_cons.mpr
          ⟨isLine_lineAt closes (height + rise), areLines_nil⟩⟩⟩, areLines⟩,
        .cons (.block height opening closing inside) rest⟩

/-- A climbing script is written deeper by deepening what it writes. -/
theorem appended_add_of_climbs {rise : ℕ} {script : List Step} (climbs : Climbs 0 script rise)
    (depth levels : ℕ) : appended (depth + levels) script =
      deepened levels (appended depth script) := by
  rcases exists_lines_of_climbs climbs with ⟨lines, areLines, writes⟩
  have written (depth : ℕ) : appended depth script = unlines (lines.map (lineAt depth)) := by
    have run := writes "" depth
    rw [Nat.add_zero] at run
    rw [appended, run]
    exact String.empty_append
  rw [written, written, deepened_unlines (areLines_lineAt areLines depth), List.map_map]
  have deeper : lineAt levels ∘ lineAt depth = lineAt (depth + levels) := by
    funext text
    rw [Function.comp_apply, lineAt_lineAt, Nat.add_comm]
  rw [deeper]

theorem endDepth_of_climbs {rise : ℕ} {script : List Step} (climbs : Climbs 0 script rise)
    (depth : ℕ) : endDepth depth script = depth + rise := by
  rcases exists_lines_of_climbs climbs with ⟨lines, _, writes⟩
  have run := writes "" depth
  rw [Nat.add_zero] at run
  rw [endDepth, run]

end Climbing

section Scripts

theorem endDepth_block (depth : ℕ) (opening closing : String) (body : List Step) :
    endDepth depth [.block opening closing body] = endDepth (depth + 1) body - 1 := by
  simp only [endDepth, Writer.performAll, Writer.perform, Writer.line, Writer.indent]
  rw [performAll_eq]
  rfl

/-- A level that is left at depth zero can be left out of a script. -/
theorem performAll_dedent_at_zero {depth : ℕ} {script : List Step}
    (zero : endDepth depth script = 0) (text : String) (others : List Step) :
    Writer.performAll ⟨text, depth⟩ (script ++ .dedent :: others) =
      Writer.performAll ⟨text, depth⟩ (script ++ others) := by
  rw [performAll_append, performAll_append, performAll_eq text depth script, zero]
  rfl

/-- A script keeps what was written before, and what it appends depends on the depth alone. One that
climbs appends at a deeper beginning what it appends at a given one, with four spaces for each level
in front of every line that is not empty, and ends as much above the beginning. A block whose body
ends where it began leaves the depth as it was, and leaving a level at depth zero has no effect. -/
theorem indentation_composes :
    (∀ text depth script, Writer.performAll ⟨text, depth⟩ script =
      ⟨text ++ appended depth script, endDepth depth script⟩) ∧
    (∀ script rise, Climbs 0 script rise → ∀ depth levels,
      appended (depth + levels) script = deepened levels (appended depth script) ∧
        endDepth depth script = depth + rise) ∧
    (∀ depth opening closing body, endDepth (depth + 1) body = depth + 1 →
      endDepth depth [.block opening closing body] = depth) ∧
    (∀ depth script, endDepth depth script = 0 → ∀ text others,
      Writer.performAll ⟨text, depth⟩ (script ++ .dedent :: others) =
        Writer.performAll ⟨text, depth⟩ (script ++ others)) := by
  refine ⟨performAll_eq, ?_, ?_, fun _ _ zero => performAll_dedent_at_zero zero⟩
  · intro script rise climbs depth levels
    exact ⟨appended_add_of_climbs climbs depth levels, endDepth_of_climbs climbs depth⟩
  · intro depth opening closing body ends
    rw [endDepth_block, ends, Nat.add_sub_cancel]

/-- A block whose body ends deeper than it began, and empty lines at three depths. -/
def nestedScript : List Step :=
  [.blank, .block "begin" "end" [.line "first", .indent, .lines ["second", "", " third"]], .line "",
    .dedent, .line "last"]

/-- Two levels deeper, the empty lines stay empty and the other ones move. -/
theorem indentation_composes_nestedScript :
    Climbs 0 nestedScript 0 ∧
      appended 1 nestedScript =
        "\n    begin\n        first\n            second\n\n             third\n        end\n\n    last\n" ∧
      appended 3 nestedScript = deepened 2 (appended 1 nestedScript) ∧
      endDepth 3 nestedScript = 3 := by
  have body : Climbs 0 [.line "first", .indent, .lines ["second", "", " third"]] 1 :=
    .line (by decide) (.indent (.lines (by decide) .nil))
  have climbs : Climbs 0 nestedScript 0 :=
    .blank (.block (by decide) (by decide) body (.line (by decide) (.dedent
      (.line (by decide) .nil))))
  exact ⟨climbs, by decide, (indentation_composes.2.1 _ _ climbs 1 2).1,
    (indentation_composes.2.1 _ _ climbs 3 0).2⟩

-- A script that goes below its beginning is not written deeper by deepening what it writes.
example : appended 1 [.dedent, .line "last"] ≠ deepened 1 (appended 0 [.dedent, .line "last"]) := by
  decide

end Scripts

end Source

end OptionCompiler
