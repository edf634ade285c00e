import Mathlib
import OptionCompiler.Input
import OptionCompiler.Pipeline
import OptionCompiler.Proofs.Encoding.Declaration
/-!
# What the key of an extraction tells apart

The key of an extraction is the fingerprint of the compact text of its set. That text leaves one
thing out: which number that is not finite a literal is, and that it is a number at all. So a set
with such a literal shares its key with the set that has null in its place, although an argument
that is null counts as not given and a number is a problem of its own. Sets of finite numbers
never share a text.
-/

namespace OptionCompiler

namespace Pipeline

/-- Two sets have one text exactly when they are written alike, which among sets of finite
numbers only equal sets are. -/
theorem keyText_eq_iff (left right : DeclarationSet) :
    (left.toJson.compact = right.toJson.compact ↔ left.written = right.written) ∧
      (left.isFinite = true → right.isFinite = true →
        left.toJson.compact = right.toJson.compact →
          left = right ∧ ∀ token, extract left token = extract right token) := by
  refine ⟨DeclarationSet.compact_eq_iff left right, ?_⟩
  intro finite finite' equal
  have written := (DeclarationSet.compact_eq_iff left right).mp equal
  rw [left.written_of_isFinite finite, right.written_of_isFinite finite'] at written
  exact ⟨written, fun token => by rw [written]⟩

/-- The text of a set whose only option has the given argument. -/
def argumentText (argument : String) : String :=
  "declarations:\n- name: Options\n  annotations:\n  - name: command\n  members:\n" ++
    "  - name: out\n    ty:\n      shape: text\n    annotations:\n    - name: option\n" ++
    "      args:\n      - value: " ++ argument ++ "\n"

/-- The set whose only option has the argument one and a half. -/
def fractionSet : DeclarationSet :=
  ⟨[⟨"Options", [⟨"command", []⟩], [⟨"out", ⟨.text, false, false, none⟩,
    [⟨"option", [⟨none, .float ⟨0x3ff8000000000000⟩⟩]⟩]⟩]⟩]⟩

/-- The set that is read from a text is known by its key text. -/
theorem keyText_eq_iff_fractionSet :
    ∃ read, DeclarationSet.ofText? .yaml (argumentText "15e-1") = some read ∧
      read.isFinite = true ∧ fractionSet.isFinite = true ∧
      read.toJson.compact = fractionSet.toJson.compact ∧ read.written = fractionSet.written ∧
      read = fractionSet ∧ ∀ token, extract read token = extract fractionSet token := by
  have finite : fractionSet.isFinite = true := by decide
  have known : (DeclarationSet.ofText? .yaml (argumentText "15e-1")).any (fun read =>
      read.isFinite && read.toJson.compact == fractionSet.toJson.compact) = true := by
    decide +kernel
  rcases (Option.any_eq_true _ _).mp known with ⟨read, reads, agrees⟩
  rw [Bool.and_eq_true, beq_iff_eq] at agrees
  rcases agrees with ⟨readFinite, equal⟩
  rcases keyText_eq_iff read fractionSet with ⟨written, determined⟩
  rcases determined readFinite finite equal with ⟨same, extractions⟩
  exact ⟨read, reads, readFinite, finite, equal, written.mp equal, same, extractions⟩

/-- The sets of two texts share a key text, but differ, and so do their extractions. -/
theorem keyText_null_nan :
    ∃ left right, DeclarationSet.ofText? .yaml (argumentText "null") = some left ∧
      DeclarationSet.ofText? .yaml (argumentText ".nan") = some right ∧
      left.toJson.compact = right.toJson.compact ∧ left ≠ right ∧
      extract left .live ≠ extract right .live := by
  refine ⟨⟨[⟨"Options", [⟨"command", []⟩], [⟨"out", ⟨.text, false, false, none⟩,
      [⟨"option", [⟨none, .null⟩]⟩]⟩]⟩]⟩,
    ⟨[⟨"Options", [⟨"command", []⟩], [⟨"out", ⟨.text, false, false, none⟩,
      [⟨"option", [⟨none, .float .notANumber⟩]⟩]⟩]⟩]⟩, ?_, ?_, ?_, ?_, ?_⟩
  all_goals decide +kernel

end Pipeline

end OptionCompiler
