import OptionCompiler.CommandLine.Run
/-!
# The program

The program on the files of the system. It prints what there is to print and exits with the code
that it ends with.
-/

namespace OptionCompiler

/-- The error of this library for an error of the system. -/
def FileError.ofSystem : IO.Error → FileError
  | .noFileOrDirectory _ _ _ => .missing
  | .alreadyExists _ _ _ => .present
  | .inappropriateType _ number description => .refused description number.toNat
  | .permissionDenied _ number description => .refused description number.toNat
  | .otherError number description => .refused description number.toNat
  | .userError _ => .notText
  | error => .refused (toString error) 0

/-- An action on the files of the system, with its refusal as a value. -/
def FileActions.attempt {α : Type} (act : IO α) : IO (Except FileError α) := do
  return (← act.toBaseIO).mapError .ofSystem

instance : FileActions IO where
  read path := FileActions.attempt (IO.FS.readFile path)
  write path text := FileActions.attempt (IO.FS.writeFile path text)
  makeDirectories path := FileActions.attempt (IO.FS.createDirAll path)

end OptionCompiler

open OptionCompiler CommandLine in
def main (arguments : List String) : IO UInt32 := do
  match ← respond arguments with
  | .ok ending =>
      IO.print ending.output
      return UInt32.ofNat ending.exitCode
  | .error problem =>
      IO.eprint problem.report
      return UInt32.ofNat problem.exitCode
