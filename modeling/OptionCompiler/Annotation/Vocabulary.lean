import OptionCompiler.Annotation.Binding
import OptionCompiler.Descriptor
/-!
# The vocabulary of annotations

The annotations that the compiler understands: `command` on types, `option` on members, and
`directory` and `file` for the constraints on paths. Each is read completely, with a default for
every field that is not given or cannot be read.
-/

namespace OptionCompiler

def commandFields : List String :=
  ["description", "name"]

def optionFields : List String :=
  ["primary_flag", "aliases", "description", "help_name", "required", "hidden", "arity_min",
    "arity_max"]

def constraintFields : List String :=
  ["mode"]

/-- What a command annotation says. -/
structure CommandArguments where
  description : Option String
  name : Option String
deriving DecidableEq, Repr

/-- What an option annotation says. -/
structure OptionArguments where
  primaryFlag : Option String
  aliases : List String
  description : Option String
  helpName : Option String
  required : Bool
  hidden : Bool
  arityMin : Option UInt32
  arityMax : Option UInt32
deriving DecidableEq, Repr

namespace Annotation

def readCommand (mark : Annotation) : Reading CommandArguments :=
  let binding := Binding.ofArguments commandFields mark.args
  let description := Reading.text? binding "description"
  let name := Reading.text? binding "name"
  { value := ⟨description.value, name.value⟩
    problems := binding.problems ++ description.problems ++ name.problems }

/-- The problem of an option annotation without a primary flag. -/
def missingFlag (binding : Binding) : List ArgumentProblem :=
  if (binding.get? "primary_flag").isNone then [.missing "primary_flag"] else []

def readOption (mark : Annotation) : Reading OptionArguments :=
  let binding := Binding.ofArguments optionFields mark.args
  let primaryFlag := Reading.text? binding "primary_flag"
  let aliases := Reading.texts binding "aliases"
  let description := Reading.text? binding "description"
  let helpName := Reading.text? binding "help_name"
  let required := Reading.bool? binding "required"
  let hidden := Reading.bool? binding "hidden"
  let arityMin := Reading.count? binding "arity_min"
  let arityMax := Reading.count? binding "arity_max"
  { value :=
      { primaryFlag := primaryFlag.value
        aliases := aliases.value
        description := description.value
        helpName := helpName.value
        required := required.value.getD false
        hidden := hidden.value.getD false
        arityMin := arityMin.value
        arityMax := arityMax.value }
    problems :=
      binding.problems ++ primaryFlag.problems ++ missingFlag binding ++ aliases.problems ++
        description.problems ++ helpName.problems ++ required.problems ++ hidden.problems ++
        arityMin.problems ++ arityMax.problems }

/-- The constraint on paths of a kind with the given mode, which is `ExistingOnly` when there is
none. -/
def constraintOfMode (kind : PathKind) (mode : Option String) : Reading (Option PathConstraint) :=
  match kind, mode.getD "ExistingOnly" with
  | .directory, "ExistingOnly" => .clean (some (.directory .existingOnly))
  | .directory, "CreateIfMissing" => .clean (some (.directory .createIfMissing))
  | .file, "ExistingOnly" => .clean (some (.file .existingOnly))
  | _, other => ⟨none, [.unknownMode kind other]⟩

def readConstraint (kind : PathKind) (mark : Annotation) :
    Reading (Option PathConstraint) :=
  let binding := Binding.ofArguments constraintFields mark.args
  let mode := Reading.text? binding "mode"
  let constraint := constraintOfMode kind mode.value
  { value := constraint.value
    problems := binding.problems ++ mode.problems ++ constraint.problems }

end Annotation

end OptionCompiler
