import OptionCompiler.Proofs.Source.Reading
/-!
# The normal form of a block of lines

The logical lines of a block are its visible lines without the white space at their ends, with one
empty line where the block has any number of blank lines between two of them, and with none at
either end. A block that is made of such lines has them for its logical lines again.

The argument is carried by `squeeze_append_cons` and `squeeze_blanks`: a visible line cuts the work
in two, and what stands before it does not see what comes after.

A run of characters that ends visibly and holds no line feed stands in the block exactly when it
stands in one of the logical lines, so nothing visible is lost or made up.
-/

namespace OptionCompiler

namespace Text

section Trimming

/-- A line of white space alone. -/
def IsBlankLine (line : String) : Prop :=
  ∀ c ∈ line.toList, isBlank c = true

instance : DecidablePred IsBlankLine :=
  fun line => inferInstanceAs (Decidable (∀ c ∈ line.toList, isBlank c = true))

/-- A line, and what is left of it without the white space at its end. -/
structure IsTrimmed (line trimmed : String) : Prop where
  blanks : ∃ tail, line.toList = trimmed.toList ++ tail ∧ ∀ c ∈ tail, isBlank c = true
  visible : ∀ last ∈ trimmed.toList.getLast?, isBlank last = false

theorem toList_trimEnd (line : String) :
    (trimEnd line).toList = line.toList.rdropWhile isBlank :=
  String.toList_ofList

theorem isTrimmed_trimEnd (line : String) : IsTrimmed line (trimEnd line) := by
  constructor
  · refine ⟨line.toList.rtakeWhile isBlank, ?_, ?_⟩
    · rw [toList_trimEnd]
      exact List.rdropWhile_append_rtakeWhile.symm
    · intro c member
      exact List.mem_rtakeWhile_imp member
  · intro last member
    rw [toList_trimEnd] at member
    rcases List.mem_getLast?_eq_getLast member with ⟨present, rfl⟩
    simpa using List.rdropWhile_last_not isBlank line.toList present

theorem trimEnd_eq_empty_iff {line : String} : trimEnd line = "" ↔ IsBlankLine line := by
  rw [← String.toList_inj, toList_trimEnd]
  exact List.rdropWhile_eq_nil_iff

theorem trimEnd_of_visible {line : String}
    (visible : ∀ last ∈ line.toList.getLast?, isBlank last = false) : trimEnd line = line := by
  rw [← String.toList_inj, toList_trimEnd, List.rdropWhile_eq_self_iff]
  intro present
  simpa using visible _ (List.getLast?_eq_some_getLast present)

end Trimming

section Lines

/-- A text and its lines. One carriage return before a line feed belongs to the ending. -/
inductive Splits : List Char → List String → Prop where
  | nil : Splits [] []
  | last {line : String} (shown : line ≠ "") (oneLine : Source.IsLine line) :
      Splits line.toList [line]
  | feed {line : String} {rest : List Char} {lines : List String} (oneLine : Source.IsLine line)
      (noReturn : line.toList.getLast? ≠ some '\r') (more : Splits rest lines) :
      Splits (line.toList ++ '\n' :: rest) (line :: lines)
  | returnFeed {line : String} {rest : List Char} {lines : List String}
      (oneLine : Source.IsLine line) (more : Splits rest lines) :
      Splits (line.toList ++ '\r' :: '\n' :: rest) (line :: lines)

variable {reversed chars rest : List Char}

theorem splits_endedLine {lines : List String} (oneLine : '\n' ∉ reversed)
    (more : Splits rest lines) :
    Splits (reversed.reverse ++ '\n' :: rest) (String.ofList (endedLine reversed) :: lines) := by
  unfold endedLine
  split
  · rename_i ended
    have isLine : Source.IsLine (String.ofList ended.reverse) :=
      Source.isLine_ofList (by simp_all)
    have split := Splits.returnFeed isLine more
    simpa using split
  · rename_i noReturn
    have isLine : Source.IsLine (String.ofList reversed.reverse) :=
      Source.isLine_ofList (by simpa using oneLine)
    have split := Splits.feed isLine ?_ more
    · simpa using split
    · intro ends
      rcases List.head?_eq_some_iff.mp (by simpa using ends) with ⟨earlier, shape⟩
      exact noReturn earlier shape

theorem splits_linesFrom (oneLine : '\n' ∉ reversed) :
    Splits (reversed.reverse ++ chars) ((linesFrom reversed chars).map String.ofList) := by
  induction chars generalizing reversed with
  | nil =>
      rw [linesFrom, List.append_nil]
      split_ifs with none
      · rw [List.isEmpty_iff.mp none]
        exact .nil
      · have isLine : Source.IsLine (String.ofList reversed.reverse) :=
          Source.isLine_ofList (by simpa using oneLine)
        have shown : String.ofList reversed.reverse ≠ "" := by simpa using none
        simpa using Splits.last shown isLine
  | cons c chars ih =>
      rw [linesFrom]
      split_ifs with feed
      · subst feed
        exact splits_endedLine oneLine (@ih [] (by simp))
      · have others := @ih (c :: reversed) (by simp [oneLine, Ne.symm feed])
        simpa using others

theorem splits_lines (block : String) : Splits block.toList (lines block) :=
  @splits_linesFrom [] block.toList (by simp)

theorem endedLine_of_head? (noReturn : reversed.head? ≠ some '\r') :
    endedLine reversed = reversed.reverse := by
  unfold endedLine
  split
  · exact absurd rfl noReturn
  · rfl

theorem linesFrom_append_feed (oneLine : '\n' ∉ chars) :
    linesFrom reversed (chars ++ '\n' :: rest) =
      endedLine (chars.reverse ++ reversed) :: linesFrom [] rest := by
  induction chars generalizing reversed with
  | nil => simp [linesFrom]
  | cons c chars ih =>
      simp only [List.mem_cons, not_or] at oneLine
      rw [List.cons_append, linesFrom, if_neg (Ne.symm oneLine.1), ih oneLine.2]
      simp

/-- Lines that are joined by line feeds are told apart again, unless the last one is empty or one
of them ends in a carriage return. -/
theorem lines_intercalate {kept : List String} (oneLine : ∀ line ∈ kept, Source.IsLine line)
    (noReturn : ∀ line ∈ kept, line.toList.getLast? ≠ some '\r')
    (last : kept.getLast? ≠ some "") : lines ("\n".intercalate kept) = kept := by
  induction kept with
  | nil => rfl
  | cons line kept ih =>
      cases kept with
      | nil =>
          have shown : line ≠ "" := by simpa using last
          rw [String.intercalate_singleton]
          exact Source.lines_of_isLine (oneLine line (by simp)) shown
      | cons next kept =>
          have others := ih (fun later member => oneLine later (by simp [member]))
            (fun later member => noReturn later (by simp [member]))
            (by simpa [List.getLast?_cons_cons] using last)
          have ended : endedLine (line.toList.reverse ++ []) = line.toList := by
            rw [endedLine_of_head?, List.append_nil, List.reverse_reverse]
            simpa using noReturn line (by simp)
          have feed : ("\n" : String).toList = ['\n'] := rfl
          rw [String.intercalate_cons_cons, lines, String.toList_append, String.toList_append, feed,
            List.append_assoc, List.singleton_append,
            linesFrom_append_feed (oneLine line (by simp)), ended, List.map_cons,
            String.ofList_toList]
          exact congrArg (line :: ·) others

end Lines

section Squeezing

variable {line : String} {rest : List String}

theorem squeeze_cons_of_ne (shown : line ≠ "") : squeeze (line :: rest) = line :: squeeze rest := by
  have present : line.isEmpty = false := String.isEmpty_eq_false_iff.mpr shown
  simp [squeeze, present]

/-- An empty line is kept in front of a line that is not empty. -/
theorem squeeze_cons_empty (rest : List String) :
    squeeze ("" :: rest) =
      if ∀ next ∈ (squeeze rest).head?, next = "" then squeeze rest else "" :: squeeze rest := by
  rw [squeeze]
  cases squeeze rest with
  | nil => simp
  | cons next later => by_cases empty : next = "" <;> simp [empty]

theorem filter_squeeze (given : List String) :
    (squeeze given).filter (· ≠ "") = given.filter (· ≠ "") := by
  induction given with
  | nil => rfl
  | cons line given ih =>
      by_cases shown : line = ""
      · rw [shown, squeeze_cons_empty]
        split_ifs <;> simpa using ih
      · rw [squeeze_cons_of_ne shown, List.filter_cons, List.filter_cons, ih]

/-- One of two lines in a row is not empty. -/
def AreApart (line next : String) : Prop :=
  line ≠ "" ∨ next ≠ ""

theorem areApart_squeeze (given : List String) : (squeeze given).IsChain AreApart := by
  induction given with
  | nil => exact .nil
  | cons line given ih =>
      by_cases shown : line = ""
      · rw [shown, squeeze_cons_empty]
        split_ifs with follows
        · exact ih
        · refine List.isChain_cons.mpr ⟨?_, ih⟩
          intro next member
          right
          intro empty
          refine follows fun other memberOther => ?_
          rw [Option.mem_unique memberOther member, empty]
      · rw [squeeze_cons_of_ne shown]
        exact List.isChain_cons.mpr ⟨fun next _ => .inl shown, ih⟩

theorem getLast?_squeeze (given : List String) : (squeeze given).getLast? ≠ some "" := by
  induction given with
  | nil => simp [squeeze]
  | cons line given ih =>
      by_cases shown : line = ""
      · rw [shown, squeeze_cons_empty]
        split_ifs with follows
        · exact ih
        · cases squeezed : squeeze given with
          | nil => simp [squeezed] at follows
          | cons next later =>
              rw [squeezed] at ih
              rwa [List.getLast?_cons_cons]
      · rw [squeeze_cons_of_ne shown]
        cases squeezed : squeeze given with
        | nil => simpa using shown
        | cons next later =>
            rw [squeezed] at ih
            rwa [List.getLast?_cons_cons]

theorem squeeze_eq_self {kept : List String} (apart : kept.IsChain AreApart)
    (last : kept.getLast? ≠ some "") : squeeze kept = kept := by
  induction kept with
  | nil => rfl
  | cons line kept ih =>
      rcases List.isChain_cons.mp apart with ⟨first, others⟩
      cases kept with
      | nil =>
          have shown : line ≠ "" := by simpa using last
          exact squeeze_cons_of_ne shown
      | cons next kept =>
          rw [List.getLast?_cons_cons] at last
          have same := ih others last
          by_cases shown : line = ""
          · have visible : next ≠ "" := by simpa [AreApart, shown] using first next rfl
            rw [shown, squeeze_cons_empty, same, if_neg (by simpa using visible)]
          · rw [squeeze_cons_of_ne shown, same]

/-- What is kept before a visible line does not depend on what comes after it. -/
theorem squeeze_append_cons (before : List String) {line : String} (shown : line ≠ "") :
    ∃ earlier, earlier.filter (· ≠ "") = before.filter (· ≠ "") ∧
      ∀ rest, squeeze (before ++ line :: rest) = earlier ++ line :: squeeze rest := by
  induction before with
  | nil => exact ⟨[], rfl, fun rest => squeeze_cons_of_ne shown⟩
  | cons first before ih =>
      rcases ih with ⟨earlier, same, cut⟩
      by_cases visible : first = ""
      · by_cases follows : ∀ next ∈ (earlier ++ [line]).head?, next = ""
        · refine ⟨earlier, by simpa [visible] using same, fun rest => ?_⟩
          rw [List.cons_append, visible, squeeze_cons_empty, cut, if_pos]
          rwa [List.head?_append] at follows ⊢
        · refine ⟨"" :: earlier, by simpa [visible] using same, fun rest => ?_⟩
          rw [List.cons_append, visible, squeeze_cons_empty, cut, if_neg, List.cons_append]
          rwa [List.head?_append] at follows ⊢
      · refine ⟨first :: earlier, ?_, fun rest => ?_⟩
        · rw [List.filter_cons, List.filter_cons, same]
        · rw [List.cons_append, squeeze_cons_of_ne visible, cut, List.cons_append]

/-- What is left of the blank lines between two visible ones. -/
def gap (blanks : List String) : List String :=
  if blanks = [] then [] else [""]

theorem squeeze_blanks {blanks : List String} (empty : ∀ blank ∈ blanks, blank = "")
    {next : String} (shown : next ≠ "") (rest : List String) :
    squeeze (blanks ++ next :: rest) = gap blanks ++ next :: squeeze rest := by
  induction blanks with
  | nil => exact squeeze_cons_of_ne shown
  | cons blank blanks ih =>
      rw [List.cons_append, empty blank (by simp), squeeze_cons_empty,
        ih fun later member => empty later (by simp [member])]
      cases blanks with
      | nil => simp [gap, shown]
      | cons other blanks => simp [gap]

end Squeezing

section NormalForm

/-- The visible lines of the first list are the lines of the second one that are not empty, in
order and trimmed. -/
def Keeps (given kept : List String) : Prop :=
  List.Forall₂ IsTrimmed (given.filter fun line => ¬IsBlankLine line) (kept.filter (· ≠ ""))

/-- What the lines of a block are turned into. -/
structure IsNormalForm (given kept : List String) : Prop where
  content : Keeps given kept
  /-- Two visible lines with nothing but blank lines between them stand in a row again, apart by
  one empty line if there was a blank one. -/
  gaps : ∀ (before : List String) (first : String) (blanks : List String) (second : String)
    (after : List String), given = before ++ first :: (blanks ++ second :: after) →
      ¬IsBlankLine first → (∀ blank ∈ blanks, IsBlankLine blank) → ¬IsBlankLine second →
        ∃ earlier line next later, kept = earlier ++ line :: (gap blanks ++ next :: later) ∧
          Keeps before earlier ∧ IsTrimmed first line ∧ IsTrimmed second next ∧ Keeps after later
  head : kept.head? ≠ some ""
  last : kept.getLast? ≠ some ""
  apart : kept.IsChain AreApart

variable {given kept : List String}

theorem keeps_of_filter_eq
    (same : kept.filter (· ≠ "") = (given.map trimEnd).filter (· ≠ "")) : Keeps given kept := by
  have visible : (given.filter fun line => ¬IsBlankLine line) =
      given.filter ((fun line => decide (line ≠ "")) ∘ trimEnd) := by
    apply List.filter_congr
    intro line _
    simp [trimEnd_eq_empty_iff]
  rw [Keeps, same, List.filter_map, visible, List.forall₂_map_right_iff, List.forall₂_same]
  intro line _
  exact isTrimmed_trimEnd line

theorem filter_dropWhile (kept : List String) :
    (kept.dropWhile String.isEmpty).filter (· ≠ "") = kept.filter (· ≠ "") := by
  induction kept with
  | nil => rfl
  | cons line kept ih =>
      by_cases shown : line = ""
      · simpa [shown] using ih
      · rw [List.dropWhile_cons_of_neg]
        simpa using shown

theorem dropWhile_append_cons (earlier : List String) {line : String} (shown : line ≠ "")
    (rest : List String) :
    (earlier ++ line :: rest).dropWhile String.isEmpty =
      earlier.dropWhile String.isEmpty ++ line :: rest := by
  have stays : (line :: rest).dropWhile String.isEmpty = line :: rest := by
    rw [List.dropWhile_cons_of_neg]
    simpa using shown
  rw [List.dropWhile_append, stays]
  split_ifs with none
  · rw [List.isEmpty_iff.mp none, List.nil_append]
  · rfl

theorem isNormalForm_squeeze (given : List String) :
    IsNormalForm given ((squeeze (given.map trimEnd)).dropWhile String.isEmpty) where
  content := by
    apply keeps_of_filter_eq
    rw [filter_dropWhile, filter_squeeze]
  gaps := by
    intro before first blanks second after split visible blank visible'
    have shown : trimEnd first ≠ "" := mt trimEnd_eq_empty_iff.mp visible
    have shown' : trimEnd second ≠ "" := mt trimEnd_eq_empty_iff.mp visible'
    have empty : ∀ line ∈ blanks.map trimEnd, line = "" := by
      rw [List.forall_mem_map]
      exact fun line member => trimEnd_eq_empty_iff.mpr (blank line member)
    rcases squeeze_append_cons (before.map trimEnd) shown with ⟨earlier, same, cut⟩
    refine ⟨earlier.dropWhile String.isEmpty, trimEnd first, trimEnd second,
      squeeze (after.map trimEnd), ?_, ?_, isTrimmed_trimEnd first, isTrimmed_trimEnd second, ?_⟩
    · have gaps : gap (blanks.map trimEnd) = gap blanks := by simp [gap]
      rw [split, List.map_append, List.map_cons, List.map_append, List.map_cons, cut,
        squeeze_blanks empty shown', dropWhile_append_cons earlier shown, gaps]
    · apply keeps_of_filter_eq
      rw [filter_dropWhile, same]
    · apply keeps_of_filter_eq
      exact filter_squeeze _
  head := by
    intro empty
    have shown := List.head?_dropWhile_not String.isEmpty (squeeze (given.map trimEnd))
    rw [empty] at shown
    simp at shown
  last := by
    intro empty
    rcases List.dropWhile_suffix String.isEmpty (l := squeeze (given.map trimEnd)) with
      ⟨dropped, whole⟩
    apply getLast?_squeeze (given.map trimEnd)
    rw [← whole, List.getLast?_append, empty]
    rfl
  apart := (areApart_squeeze _).suffix (List.dropWhile_suffix _)

theorem trimEnd_of_mem_logicalLines {block line : String} (member : line ∈ logicalLines block) :
    ∃ full ∈ lines block, trimEnd full = line :=
  List.mem_map.mp (Source.mem_of_mem_squeeze ((List.dropWhile_sublist _).mem member))

theorem isVisible_of_mem_logicalLines {block line : String} (member : line ∈ logicalLines block) :
    ∀ last ∈ line.toList.getLast?, isBlank last = false := by
  rcases trimEnd_of_mem_logicalLines member with ⟨full, _, rfl⟩
  exact (isTrimmed_trimEnd full).visible

/-- Trimmed lines in normal form are the logical lines of their block. -/
theorem logicalLines_intercalate (oneLine : ∀ line ∈ kept, Source.IsLine line)
    (visible : ∀ line ∈ kept, ∀ last ∈ line.toList.getLast?, isBlank last = false)
    (head : kept.head? ≠ some "") (last : kept.getLast? ≠ some "")
    (apart : kept.IsChain AreApart) : logicalLines ("\n".intercalate kept) = kept := by
  have noReturn : ∀ line ∈ kept, line.toList.getLast? ≠ some '\r' := by
    intro line member ends
    exact absurd (visible line member '\r' ends) (by decide)
  have trimmed : kept.map trimEnd = kept :=
    (List.map_congr_left fun line member => trimEnd_of_visible (visible line member)).trans
      (List.map_id kept)
  rw [logicalLines, lines_intercalate oneLine noReturn last, trimmed, squeeze_eq_self apart last]
  cases kept with
  | nil => rfl
  | cons line kept =>
      have shown : line ≠ "" := by simpa using head
      rw [List.dropWhile_cons_of_neg]
      simpa using shown

end NormalForm

section Runs

/-- A run of characters on one line, the last of which is visible. -/
structure IsRun (run : List Char) : Prop where
  oneLine : '\n' ∉ run
  ends : ∃ last ∈ run.getLast?, isBlank last = false

variable {run kept tail line rest : List Char}

theorem infix_append_feed_iff (oneLine : '\n' ∉ run) :
    run <:+: line ++ '\n' :: rest ↔ run <:+: line ∨ run <:+: rest := by
  constructor
  · intro inside
    rcases List.infix_append_iff.mp inside with before | after | ⟨early, late, rfl, ends, begins⟩
    · exact .inl before
    · rcases List.infix_cons_iff.mp after with begins | after
      · rcases List.prefix_cons_iff.mp begins with rfl | ⟨others, rfl, _⟩
        · exact .inl (List.nil_infix)
        · exact absurd List.mem_cons_self oneLine
      · exact .inr after
    · rcases List.prefix_cons_iff.mp begins with rfl | ⟨others, rfl, _⟩
      · rw [List.append_nil]
        exact .inl ends.isInfix
      · exact absurd (by simp) oneLine
  · rintro (before | after)
    · exact before.trans (List.prefix_append _ _).isInfix
    · exact after.trans ((List.suffix_cons _ _).trans (List.suffix_append _ _)).isInfix

/-- A run does not reach into white space at the end. -/
theorem IsRun.infix_append_iff (isRun : IsRun run) (blank : ∀ c ∈ tail, isBlank c = true) :
    run <:+: kept ++ tail ↔ run <:+: kept := by
  rcases isRun.ends with ⟨last, ends, visible⟩
  have apart : ∀ late, late <+: tail → last ∉ late := by
    intro late begins member
    rw [blank last (begins.mem member)] at visible
    cases visible
  constructor
  · intro inside
    rcases List.infix_append_iff.mp inside with before | after | ⟨early, late, rfl, ends', begins⟩
    · exact before
    · rw [blank last (after.mem (List.mem_of_getLast? ends))] at visible
      cases visible
    · cases late using List.reverseRecOn with
      | nil =>
          rw [List.append_nil]
          exact ends'.isInfix
      | append_singleton late c =>
          rw [← List.append_assoc, List.getLast?_concat] at ends
          cases ends
          exact absurd (by simp) (apart _ begins)
  · exact fun before => before.trans (List.prefix_append _ _).isInfix

theorem IsRun.infix_iff_of_splits (isRun : IsRun run) {text : List Char} {lines : List String}
    (splits : Splits text lines) :
    run <:+: text ↔ ∃ line ∈ lines, run <:+: line.toList := by
  induction splits with
  | nil =>
      rcases isRun.ends with ⟨last, ends, _⟩
      have present : run ≠ [] := by
        rintro rfl
        cases ends
      simpa using present
  | last shown oneLine => simp
  | feed oneLine noReturn more ih =>
      rw [infix_append_feed_iff isRun.oneLine, ih]
      simp
  | @returnFeed line rest lines oneLine more ih =>
      have apart : line.toList ++ '\r' :: '\n' :: rest =
          (line.toList ++ ['\r']) ++ '\n' :: rest := by
        simp
      have blank : ∀ c ∈ ['\r'], isBlank c = true := by simp [isBlank]
      rw [apart, infix_append_feed_iff isRun.oneLine, isRun.infix_append_iff blank, ih]
      simp

theorem mem_logicalLines_iff {block line : String} (shown : line ≠ "") :
    line ∈ logicalLines block ↔ ∃ full ∈ lines block, trimEnd full = line := by
  have members : ∀ {kept : List String}, line ∈ kept ↔ line ∈ kept.filter (· ≠ "") := by
    simp [shown]
  rw [logicalLines, members, filter_dropWhile, filter_squeeze, ← members, List.mem_map]

/-- What is visible on a line of a block is on a logical line, and the other way round. -/
theorem IsRun.infix_iff (isRun : IsRun run) (block : String) :
    run <:+: block.toList ↔ ∃ line ∈ logicalLines block, run <:+: line.toList := by
  have trims (full : String) : run <:+: full.toList ↔ run <:+: (trimEnd full).toList := by
    rcases (isTrimmed_trimEnd full).blanks with ⟨tail, shape, blank⟩
    rw [shape, isRun.infix_append_iff blank]
  rw [isRun.infix_iff_of_splits (splits_lines block)]
  constructor
  · rintro ⟨full, member, inside⟩
    rw [trims] at inside
    refine ⟨trimEnd full, ?_, inside⟩
    rw [mem_logicalLines_iff]
    · exact ⟨full, member, rfl⟩
    · intro empty
      rcases isRun.ends with ⟨last, ends, _⟩
      have present := inside.mem (List.mem_of_getLast? ends)
      simp [empty] at present
  · rintro ⟨line, member, inside⟩
    rcases trimEnd_of_mem_logicalLines member with ⟨full, fullMember, rfl⟩
    exact ⟨full, fullMember, (trims full).mpr inside⟩

end Runs

/-- The logical lines of a block are the normal form of its lines, and taking them again changes
nothing. -/
theorem logicalLines_normal_form (block : String) :
    Splits block.toList (lines block) ∧ IsNormalForm (lines block) (logicalLines block) ∧
      logicalLines ("\n".intercalate (logicalLines block)) = logicalLines block := by
  have normal : IsNormalForm (lines block) (logicalLines block) :=
    isNormalForm_squeeze (lines block)
  refine ⟨splits_lines block, normal, ?_⟩
  apply logicalLines_intercalate
  · exact fun line member => Source.isLine_of_mem_logicalLines member
  · exact fun line member => isVisible_of_mem_logicalLines member
  · exact normal.head
  · exact normal.last
  · exact normal.apart

example :
    logicalLines "\nfirst\n\n \n\nsecond  \r\n third\n\n" = ["first", "", "second", " third"] := by
  decide

end Text

end OptionCompiler
