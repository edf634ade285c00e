import OptionCompiler.Proofs.Text.LogicalLines
/-!
# Comments of blocks and comments of lines

The comment of a block has one line for each logical line of the block, and none of these lines
holds a line feed. They are the line comments of the logical lines as long as no carriage return
has something visible behind it on its line: such a carriage return is a character of its logical
line, where the comment of a block writes it down and the comment of a line refuses it.
-/

namespace OptionCompiler

namespace Source

/-- A carriage return with something visible behind it on its line. -/
def HasInnerReturn (block : String) : Prop :=
  ∃ before between last after,
    block.toList = before ++ '\r' :: (between ++ last :: after) ∧ '\n' ∉ between ∧
      Text.isBlank last = false

theorem isRun_return {between : List Char} {last : Char} (oneLine : '\n' ∉ between)
    (visible : Text.isBlank last = false) : Text.IsRun ('\r' :: (between ++ [last])) := by
  have notFeed : last ≠ '\n' := by
    rintro rfl
    exact absurd visible (by decide)
  refine ⟨by simp [oneLine, Ne.symm notFeed], last, ?_, visible⟩
  rw [← List.cons_append, List.getLast?_concat]
  rfl

theorem exists_return_iff (block : String) :
    (∃ line ∈ Text.logicalLines block, '\r' ∈ line.toList) ↔ HasInnerReturn block := by
  constructor
  · rintro ⟨line, member, inside⟩
    rcases List.append_of_mem inside with ⟨before, behind, shape⟩
    have isLine := isLine_of_mem_logicalLines member
    have ends := Text.isVisible_of_mem_logicalLines member
    rw [IsLine, shape] at isLine
    rw [shape] at ends
    -- The line ends visibly, so the carriage return is not its last character.
    cases behind using List.reverseRecOn with
    | nil => exact absurd (ends '\r' (by simp)) (by decide)
    | append_singleton between last =>
        have visible : Text.isBlank last = false := by
          apply ends
          rw [← List.cons_append, ← List.append_assoc, List.getLast?_concat]
          rfl
        have oneLine : '\n' ∉ between := fun feed => isLine (by simp [feed])
        have stands := ((isRun_return oneLine visible).infix_iff block).mpr
          ⟨line, member, shape ▸ (List.suffix_append _ _).isInfix⟩
        rcases stands with ⟨start, after, whole⟩
        refine ⟨start, between, last, after, ?_, oneLine, visible⟩
        rw [← whole]
        simp
  · rintro ⟨before, between, last, after, shape, oneLine, visible⟩
    have stands : '\r' :: (between ++ [last]) <:+: block.toList :=
      ⟨before, after, by rw [shape]; simp⟩
    rcases ((isRun_return oneLine visible).infix_iff block).mp stands with ⟨line, member, inside⟩
    exact ⟨line, member, inside.mem List.mem_cons_self⟩

/-- A comment line holds a carriage return exactly when its text does. -/
theorem return_mem_commentLine_iff {marker line : String} (clear : '\r' ∉ marker.toList) :
    '\r' ∈ (commentLine marker line).toList ↔ '\r' ∈ line.toList := by
  unfold commentLine
  split_ifs with none
  · simp [String.isEmpty_iff.mp none, clear]
  · simp [String.toList_append, clear]

theorem lineComment_of_mem_logicalLines {block line : String}
    (member : line ∈ Text.logicalLines block) :
    lineComment line =
      if '\r' ∈ line.toList then .error (.multilineComment line)
      else .ok (commentLine plainMarker line) := by
  have terminated : line.toList.any isLineTerminator = true ↔ '\r' ∈ line.toList := by
    have isLine : '\n' ∉ line.toList := isLine_of_mem_logicalLines member
    simp only [List.any_eq_true, isLineTerminator, Bool.or_eq_true, beq_iff_eq]
    constructor
    · rintro ⟨c, inside, rfl | rfl⟩
      · exact absurd inside isLine
      · exact inside
    · exact fun inside => ⟨'\r', inside, .inr rfl⟩
  rw [lineComment, Text.trimEnd_of_visible (Text.isVisible_of_mem_logicalLines member)]
  simp only [terminated]

/-- A line of the comment of a block stays on one line and begins with its marker. -/
theorem blockComment_line {block comment : String} (member : comment ∈ blockComment block) :
    IsLine comment ∧ ∃ rest, comment = plainMarker ++ rest := by
  rcases List.mem_map.mp member with ⟨line, lineMember, rfl⟩
  exact commentLine_line (isLine_ofList (by decide)) (isLine_of_mem_logicalLines lineMember)

theorem forall_comment_iff {marker : String} (clear : '\r' ∉ marker.toList) (block : String) :
    (∀ comment ∈ (Text.logicalLines block).map (commentLine marker), '\r' ∉ comment.toList) ↔
      ¬HasInnerReturn block := by
  rw [← exists_return_iff, List.forall_mem_map]
  simp only [return_mem_commentLine_iff clear, not_exists, not_and]

/-- The comments of a block are comment lines, one for each logical line. They hold no carriage
return, and are the line comments of the logical lines, exactly when no carriage return of the
block has something visible behind it on its line. -/
theorem block_comments_agree (block : String) :
    (∀ comment ∈ blockComment block,
      IsLine comment ∧ ∃ rest, comment = plainMarker ++ rest) ∧
    (∀ comment ∈ documentation block,
      IsLine comment ∧ ∃ rest, comment = documentationMarker ++ rest) ∧
    (∀ line ∈ Text.logicalLines block,
      lineComment line =
        if '\r' ∈ line.toList then .error (.multilineComment line)
        else .ok (commentLine plainMarker line)) ∧
    [¬HasInnerReturn block,
      ∀ comment ∈ blockComment block, '\r' ∉ comment.toList,
      ∀ comment ∈ documentation block, '\r' ∉ comment.toList,
      ∀ line ∈ Text.logicalLines block, (lineComment line).isOk = true,
      (Text.logicalLines block).map lineComment = (blockComment block).map .ok].TFAE := by
  refine ⟨fun _ => blockComment_line, fun _ => documentation_line,
    fun _ => lineComment_of_mem_logicalLines, ?_⟩
  tfae_have 2 ↔ 1 := forall_comment_iff (by decide) block
  tfae_have 3 ↔ 1 := forall_comment_iff (by decide) block
  tfae_have 1 → 5 := by
    intro none
    rw [blockComment, List.map_map]
    apply List.map_congr_left
    intro line member
    have clear : '\r' ∉ line.toList :=
      fun inside => none ((exists_return_iff block).mp ⟨line, member, inside⟩)
    rw [lineComment_of_mem_logicalLines member, if_neg clear]
    rfl
  tfae_have 5 → 4 := by
    intro same line member
    have spelled : lineComment line ∈ (Text.logicalLines block).map lineComment :=
      List.mem_map_of_mem member
    rw [same] at spelled
    rcases List.mem_map.mp spelled with ⟨comment, _, spells⟩
    rw [← spells]
    rfl
  tfae_have 4 → 1 := by
    intro accepted inner
    rcases (exists_return_iff block).mpr inner with ⟨line, member, inside⟩
    have refused := accepted line member
    rw [lineComment_of_mem_logicalLines member, if_pos inside] at refused
    cases refused
  tfae_finish

/-- A carriage return inside a line is written into both comments, and refused in a line comment. -/
theorem block_comments_innerReturn :
    Text.logicalLines "one\rtwo" = ["one\rtwo"] ∧
      blockComment "one\rtwo" = ["// one\rtwo"] ∧ documentation "one\rtwo" = ["/// one\rtwo"] ∧
      lineComment "one\rtwo" = .error (.multilineComment "one\rtwo") := by
  decide

end Source

end OptionCompiler
