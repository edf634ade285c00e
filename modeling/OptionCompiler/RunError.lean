import OptionCompiler.Source.Spelling
/-!
# Run errors and cancellation

Why a run cannot produce any output. Findings about the input are diagnostics and never errors.

A cancellation token says whether a run may go on, and the run asks it between two units of work.
A run is given its token as it stands when the run begins, so the token keeps its state until the
run ends: a host that cancels does so before a run or between two runs. Tokens may share a flag:
`TokenTable` holds the flags of several handles.
-/

namespace OptionCompiler

/-- Why a run gives up. -/
inductive RunError where
  /-- The host cancelled the run. -/
  | cancelled
  /-- A fragment has no spelling in source. -/
  | spelling (error : Source.SpellingError)
  /-- A descriptor is not one that extraction makes. -/
  | invariant (location message : String)
deriving DecidableEq, Repr

def RunError.message : RunError → String
  | .cancelled => "pipeline run cancelled"
  | .spelling error => "format error: " ++ error.message
  | .invariant location message =>
      "internal invariant violated at " ++ location ++ ": " ++ message

/-- A fragment of source, or the error of a run that needs it. -/
def Source.orFail {α : Type} (spelled : Except Source.SpellingError α) : Except RunError α :=
  spelled.mapError .spelling

/-- Whether a run may go on. The same answer holds for the whole of a run. -/
inductive Token where
  | live
  | cancelled
deriving DecidableEq, Repr

/-- Passes only while the run may go on. -/
def Token.check : Token → Except RunError Unit
  | .live => .ok ()
  | .cancelled => .error .cancelled

/-- Handles on tokens, each the number of its flag. -/
structure TokenTable where
  flags : List Token
  handles : List Nat
deriving DecidableEq, Repr

namespace TokenTable

/-- One handle on one live flag. -/
def initial : TokenTable := ⟨[.live], [0]⟩

/-- Adds a handle on a flag of its own. -/
def create (table : TokenTable) : TokenTable :=
  ⟨table.flags ++ [.live], table.handles ++ [table.flags.length]⟩

/-- The flag of a handle. -/
def token? (table : TokenTable) (handle : Nat) : Option Token := do
  table.flags[← table.handles[handle]?]?

/-- Adds a handle on the flag of another one. -/
def share (table : TokenTable) (handle : Nat) : TokenTable :=
  match table.handles[handle]? with
  | some flag => { table with handles := table.handles ++ [flag] }
  | none => table

def cancel (table : TokenTable) (handle : Nat) : TokenTable :=
  match table.handles[handle]? with
  | some flag => { table with flags := table.flags.set flag .cancelled }
  | none => table

/-- Which handles are cancelled. -/
def cancelled (table : TokenTable) : List Bool :=
  (List.range table.handles.length).map fun handle => table.token? handle == some .cancelled

end TokenTable

end OptionCompiler
