/-!
# Indented source

Source is written as a script of steps. A line is written at the current depth, four spaces for
each level, but a line without text stays empty. A block writes its opening line, its body one
level deeper, and its closing line. Leaving the outermost level has no effect.
-/

namespace OptionCompiler

namespace Source

/-- One step of writing source. -/
inductive Step where
  | line (text : String)
  | lines (texts : List String)
  | blank
  | indent
  | dedent
  | block (opening closing : String) (body : List Step)
deriving Repr

/-- The text written so far and the current depth. -/
structure Writer where
  text : String
  depth : Nat
deriving DecidableEq, Repr

namespace Writer

/-- Nothing is written yet. -/
def empty : Writer := ⟨"", 0⟩

/-- The white space before a line at a depth. -/
def indentation (depth : Nat) : String :=
  String.ofList (List.replicate (4 * depth) ' ')

def lineText (depth : Nat) (text : String) : String :=
  if text.isEmpty then "\n" else indentation depth ++ text ++ "\n"

def line (writer : Writer) (text : String) : Writer :=
  { writer with text := writer.text ++ lineText writer.depth text }

/-- Writes several lines. -/
def lines (writer : Writer) (texts : List String) : Writer :=
  texts.foldl line writer

/-- Writes an empty line. -/
def blank (writer : Writer) : Writer :=
  { writer with text := writer.text ++ "\n" }

/-- Goes one level deeper. -/
def indent (writer : Writer) : Writer :=
  { writer with depth := writer.depth + 1 }

/-- Goes back one level, if there is one. -/
def dedent (writer : Writer) : Writer :=
  { writer with depth := writer.depth - 1 }

mutual

def perform (writer : Writer) : Step → Writer
  | .line text => writer.line text
  | .lines texts => writer.lines texts
  | .blank => writer.blank
  | .indent => writer.indent
  | .dedent => writer.dedent
  | .block opening closing body =>
      ((performAll (writer.line opening).indent body).dedent).line closing

/-- Takes the steps of a script one after the other. -/
def performAll (writer : Writer) : List Step → Writer
  | [] => writer
  | step :: steps => performAll (perform writer step) steps

end

end Writer

/-- The source that a script writes. -/
def written (script : List Step) : String :=
  (Writer.empty.performAll script).text

/-- A script one level deeper. -/
def indented (script : List Step) : List Step :=
  .indent :: (script ++ [.dedent])

end Source

end OptionCompiler
