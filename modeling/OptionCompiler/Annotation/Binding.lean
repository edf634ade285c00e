import OptionCompiler.Declaration
import OptionCompiler.Text
/-!
# Binding arguments to fields

An annotation has fields in a fixed order. A named argument binds to the field of that name, and
the positional arguments bind to the fields in order. A field keeps the first value bound to it.
Whatever cannot be bound, and every bound value of a kind that its field does not take, is one
problem; no problem stops the reading.

`Reading` is a value together with the problems met while reading it.
-/

namespace OptionCompiler

/-- What is wrong with the arguments of an annotation. -/
inductive ArgumentProblem where
  /-- No field has the name of the argument. -/
  | unknownName (name : String)
  /-- There are more positional arguments than fields. -/
  | tooManyPositional (limit : Nat)
  /-- The field of the argument is bound already. -/
  | repeated (field : String)
  /-- A field that must be given is not, or is null. -/
  | missing (field : String)
  /-- The value has a kind that the field does not take. -/
  | mismatch (field expected found : String)
  /-- The text is neither of the truth values. -/
  | unreadableBool (field text : String)
  /-- A count is below zero. -/
  | negativeCount (field : String) (value : Int64)
  /-- A count does not fit into 32 bits. -/
  | countOutOfRange (field : String) (value : Int64)
  /-- The text is no count. -/
  | unreadableCount (field text : String)
  /-- The mode of a constraint is none of those of its kind. -/
  | unknownMode (kind : PathKind) (mode : String)
deriving DecidableEq, Repr

namespace ArgumentProblem

/-- The modes that a constraint on paths of a kind can have, as messages show them. -/
def modesOf : PathKind → String
  | .directory => "`ExistingOnly` or `CreateIfMissing`"
  | .file => "`ExistingOnly`"

def message : ArgumentProblem → String
  | .unknownName name => "unknown argument `" ++ name ++ "`"
  | .tooManyPositional limit =>
      "too many positional arguments; expected at most " ++ toString limit
  | .repeated field => "argument `" ++ field ++ "` given more than once"
  | .missing field => "missing required argument `" ++ field ++ "`"
  | .mismatch field expected found =>
      "argument `" ++ field ++ "` expects " ++ expected ++ ", found " ++ found
  | .unreadableBool field text =>
      "argument `" ++ field ++ "` has unparseable boolean `" ++ text ++ "`"
  | .negativeCount field value =>
      "argument `" ++ field ++ "` must not be negative, found " ++ toString value.toInt
  | .countOutOfRange field value =>
      "argument `" ++ field ++ "` is out of range: " ++ toString value.toInt
  | .unreadableCount field text =>
      "argument `" ++ field ++ "` has unparseable count `" ++ text ++ "`"
  | .unknownMode kind mode =>
      "unknown " ++ kind.annotationName ++ " constraint mode `" ++ mode ++ "`; expected " ++
        modesOf kind

end ArgumentProblem

/-- A value and the problems met while reading it. -/
structure Reading (α : Type) where
  value : α
  problems : List ArgumentProblem
deriving DecidableEq, Repr

namespace Reading

/-- A value read without problems. -/
def clean {α : Type} (value : α) : Reading α :=
  ⟨value, []⟩

/-- The problems as messages about the annotation of the given name. -/
def messages {α : Type} (reading : Reading α) (name : String) : List String :=
  reading.problems.map fun problem =>
    "malformed `" ++ name ++ "` annotation: " ++ problem.message

end Reading

/-- The values bound to fields so far, how many positional arguments have been counted, and the
problems so far. -/
structure Binding where
  bound : List (String × Literal)
  position : Nat
  problems : List ArgumentProblem
deriving DecidableEq, Repr

namespace Binding

def empty : Binding := ⟨[], 0, []⟩

def problem (binding : Binding) (problem : ArgumentProblem) : Binding :=
  { binding with problems := binding.problems ++ [problem] }

/-- Binds a value to a field, unless the field is bound. -/
def bind (binding : Binding) (field : String) (value : Literal) : Binding :=
  if binding.bound.any fun entry => entry.1 = field then binding.problem (.repeated field)
  else { binding with bound := binding.bound ++ [(field, value)] }

def add (fields : List String) (binding : Binding) (argument : Argument) : Binding :=
  match argument.name with
  | some name =>
      if name ∈ fields then binding.bind name argument.value
      else binding.problem (.unknownName name)
  | none =>
      match fields[binding.position]? with
      | some field => { binding with position := binding.position + 1 }.bind field argument.value
      | none => binding.problem (.tooManyPositional fields.length)

def ofArguments (fields : List String) (arguments : List Argument) : Binding :=
  arguments.foldl (add fields) empty

/-- The value bound to a field, unless it is null. -/
def get? (binding : Binding) (field : String) : Option Literal :=
  match binding.bound.lookup field with
  | some .null => none
  | other => other

end Binding

namespace Reading

/-- A problem in the place of a value. -/
def mismatch {α : Type} (default : α) (field expected : String) (found : Literal) : Reading α :=
  ⟨default, [.mismatch field expected found.kind]⟩

def text? (binding : Binding) (field : String) : Reading (Option String) :=
  match binding.get? field with
  | none => clean none
  | some (.string text) => clean (some text)
  | some other => mismatch none field "a string" other

/-- The items of a list that are texts, with a problem for each of the others. -/
def textItems (field : String) : List Literal → Reading (List String)
  | [] => clean []
  | .string text :: items =>
      let rest := textItems field items
      ⟨text :: rest.value, rest.problems⟩
  | other :: items =>
      let rest := textItems field items
      ⟨rest.value, .mismatch field "a list of strings" other.kind :: rest.problems⟩

/-- Reads a list of texts, where one text stands for the list of it. -/
def texts (binding : Binding) (field : String) : Reading (List String) :=
  match binding.get? field with
  | none => clean []
  | some (.string text) => clean [text]
  | some (.list items) => textItems field items
  | some other => mismatch [] field "a list of strings" other

/-- The truth value that a text spells, blanks around it aside. -/
def boolOfText? (text : String) : Option Bool :=
  let trimmed := Text.trim text
  if trimmed = "true" then some true
  else if trimmed = "false" then some false
  else none

/-- Reads a truth value, which may be spelled as a text. -/
def bool? (binding : Binding) (field : String) : Reading (Option Bool) :=
  match binding.get? field with
  | none => clean none
  | some (.bool value) => clean (some value)
  | some (.string text) =>
      match boolOfText? text with
      | some value => clean (some value)
      | none => ⟨none, [.unreadableBool field text]⟩
  | some other => mismatch none field "a boolean" other

/-- The count that a text spells: decimal digits, possibly after one plus sign, with blanks
around them, for a number of 32 bits. -/
def countOfText? (text : String) : Option UInt32 :=
  match Text.unsignedNumber? (Text.trim text).toList with
  | some value => if value < 2 ^ 32 then some (UInt32.ofNat value) else none
  | none => none

/-- Reads a whole number as a count. -/
def countOfInteger (field : String) (value : Int64) : Reading (Option UInt32) :=
  if value.toInt < 0 then ⟨none, [.negativeCount field value]⟩
  else if value.toInt < 2 ^ 32 then clean (some (UInt32.ofNat value.toInt.toNat))
  else ⟨none, [.countOutOfRange field value]⟩

/-- Reads a count, which may be spelled as a text. -/
def count? (binding : Binding) (field : String) : Reading (Option UInt32) :=
  match binding.get? field with
  | none => clean none
  | some (.integer value) => countOfInteger field value
  | some (.string text) =>
      match countOfText? text with
      | some value => clean (some value)
      | none => ⟨none, [.unreadableCount field text]⟩
  | some other => mismatch none field "a non-negative integer" other

end Reading

end OptionCompiler
