import OptionCompiler.FileTree.Path
/-!
# Names of output files

The file that is generated for an input is named after the input: the runs of ASCII letters and
digits of its stem, in lower case, with underscores between them. Two inputs must not have one
name.
-/

namespace OptionCompiler

namespace CommandLine

namespace OutputName

/-- The runs of letters and digits of the remaining characters, where `reversed` holds the first
run so far, back to front. -/
def runsFrom (reversed : List Char) : List Char → List (List Char)
  | [] => if reversed.isEmpty then [] else [reversed.reverse]
  | c :: rest =>
      if c.isAlphanum then runsFrom (c.toLower :: reversed) rest
      else if reversed.isEmpty then runsFrom [] rest
      else reversed.reverse :: runsFrom [] rest

/-- The name of a text without any letters and digits. -/
def fallback : String := "generated"

/-- The name that a text is turned into. -/
def sanitize (text : String) : String :=
  match runsFrom [] text.toList with
  | [] => fallback
  | runs => String.ofList (['_'].intercalate runs)

def ofInput (path : String) : String :=
  sanitize ((Path.stem? path).getD "")

/-- The names of the remaining inputs, or the first name that is taken already. -/
def namesFrom (taken : List String) : List String → Except String (List String)
  | [] => .ok []
  | path :: rest =>
      let name := ofInput path
      if name ∈ taken then .error name
      else (namesFrom (name :: taken) rest).map (name :: ·)

/-- The names of the outputs of a list of inputs, or the first name that repeats. -/
def names (paths : List String) : Except String (List String) :=
  namesFrom [] paths

end OutputName

end CommandLine

end OptionCompiler
