import OptionCompiler.Descriptor
/-!
# Flags

A flag is declared as a text with any number of leading dashes. What it registers is its
spelling: one dash before one character makes a short flag, everything else is a long flag by the
name after the dashes. A text of dashes alone registers nothing, and a primary flag that
registers nothing gives way to the member name.

Long spellings come before short ones, and each kind is in the order of its characters.
-/

namespace OptionCompiler

/-- What a flag registers. -/
inductive FlagSpelling where
  | long (name : String)
  | short (letter : Char)
deriving DecidableEq, Repr

namespace FlagSpelling

instance : Ord FlagSpelling where
  compare
    | .long left, .long right => compare left right
    | .long _, .short _ => .lt
    | .short _, .long _ => .gt
    | .short left, .short right => compare left right

def isDash (c : Char) : Bool :=
  c == '-'

/-- The spelling of a flag with its dashes, if a name follows them. -/
def parse? (flag : String) : Option FlagSpelling :=
  let dashes := flag.toList.takeWhile isDash
  match flag.toList.dropWhile isDash with
  | [] => none
  | [letter] => if dashes.length = 1 then some (.short letter) else some (.long (letter.toString))
  | name => some (.long (String.ofList name))

/-- The flag that a spelling stands for. -/
def label : FlagSpelling → String
  | .long name => "--" ++ name
  | .short letter => "-" ++ letter.toString

/-- The long name that a member stands for: its underscores are dashes. -/
def memberName (member : String) : String :=
  String.ofList (member.toList.map fun c => if c = '_' then '-' else c)

end FlagSpelling

namespace OptionDescriptor

/-- The spelling of the primary flag, or else that of the member name. -/
def primarySpelling (option : OptionDescriptor) : FlagSpelling :=
  (FlagSpelling.parse? option.primaryFlag).getD (.long (FlagSpelling.memberName option.member))

/-- The spellings of the aliases that register something. -/
def aliasSpellings (option : OptionDescriptor) : List FlagSpelling :=
  option.aliases.filterMap FlagSpelling.parse?

/-- Everything that the option registers, the primary flag first. -/
def registered (option : OptionDescriptor) : List FlagSpelling :=
  option.primarySpelling :: option.aliasSpellings

end OptionDescriptor

namespace Flag

/-- Whether a name is made of runs of ASCII letters and digits with one dash between any two,
where `inRun` tells whether the name may end here. -/
def isDashedName (inRun : Bool) : List Char → Bool
  | [] => inRun
  | c :: rest =>
      if c.isAlphanum then isDashedName true rest
      else c == '-' && inRun && isDashedName false rest

/-- Whether a flag is a dash and one ASCII letter or digit, or two dashes and a dashed name. -/
def isWellFormed (flag : String) : Bool :=
  match flag.toList with
  | ['-', letter] => letter.isAlphanum
  | '-' :: '-' :: name => isDashedName false name
  | _ => false

end Flag

end OptionCompiler
