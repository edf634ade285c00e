import OptionCompiler.Yaml.Tag
/-!
# Directives

The lines before a document that begin with a percent sign. One of them names the version of the
format, which must be known. The others each give a handle its meaning, which is the first part of
the tags that are written with it. Two handles have a meaning when no directive gives them one.
-/

namespace OptionCompiler

namespace Yaml

/-- A directive. -/
inductive Directive where
  | version (major minor : Nat)
  | handle (handle : List Char) (meaning : List UInt8)
deriving DecidableEq, Repr

namespace Directive

/-- The greatest number of digits in a number of a version. -/
def versionDigits : Nat := 9

/-- A number of a version in front, and the glyphs after it. -/
def number? (glyphs : List Glyph) : Option (Nat × List Glyph) :=
  let (digits, _) := Text.spanDecimal (glyphs.map Glyph.char)
  if digits.isEmpty || versionDigits < digits.length then none
  else some (Text.decimalNumber digits, glyphs.drop digits.length)

/-- The version after the name of its directive. -/
def version? (glyphs : List Glyph) : Option (Directive × List Glyph) := do
  match ← number? (afterBlanks glyphs) with
  | (major, glyph :: rest) =>
      if glyph.char = '.' then
        (number? rest).map fun (minor, rest) => (version major minor, rest)
      else none
  | (_, []) => none

/-- A handle in front, and the glyphs after it. It ends with an exclamation mark. -/
def handleName? (glyphs : List Glyph) : Option (List Char × List Glyph) :=
  match glyphs with
  | first :: later =>
      if first.char = '!' then
        match spanName later with
        | (name, glyph :: rest) =>
            if glyph.char = '!' then some ('!' :: (name ++ ['!']), rest)
            else if name.isEmpty then some (['!'], glyph :: rest)
            else none
        | (name, []) => if name.isEmpty then some (['!'], []) else none
      else none
  | [] => none

/-- The handle and its meaning after the name of their directive, with blanks between them. -/
def handle? (glyphs : List Glyph) : Option (Directive × List Glyph) := do
  let (name, rest) ← handleName? (afterBlanks glyphs)
  if rest.head?.any fun glyph => isBlank glyph.char then
    let (meaning, rest) ← TagName.part? true (afterBlanks rest)
    if endsWord rest then some (handle name meaning, rest) else none
  else none

/-- The directive after its percent sign, and the glyphs from the next line on. -/
def read? (glyphs : List Glyph) : Option (Directive × List Glyph) := do
  let (name, rest) := spanName glyphs
  let (directive, rest) ←
    if !endsWord rest then none
    else if name = "YAML".toList then version? rest
    else if name = "TAG".toList then handle? rest
    else none
  return (directive, ← afterLine? rest)

end Directive

/-- What the directives of a document say. -/
structure Directives where
  /-- Whether one of them names the version. -/
  versioned : Bool
  meanings : List (List Char × List UInt8)
deriving DecidableEq, Repr

namespace Directives

def none : Directives := ⟨false, []⟩

/-- The handles that have a meaning without a directive. -/
def standardMeanings : List (List Char × List UInt8) :=
  [(['!'], asciiOctets ['!']), (['!', '!'], commonStart)]

/-- The directives with one more. The version stands at most once, and so does each handle. -/
def add? (directives : Directives) : Directive → Option Directives
  | .version major minor =>
      if directives.versioned || major ≠ 1 || (minor ≠ 1 && minor ≠ 2) then .none
      else some { directives with versioned := true }
  | .handle handle meaning =>
      if (directives.meanings.lookup handle).isSome then .none
      else some { directives with meanings := (handle, meaning) :: directives.meanings }

/-- The tag that a written tag stands for, if its handle has a meaning. -/
def tag? (directives : Directives) (name : TagName) : Option Tag :=
  match name.handle with
  | .none => some (.ofOctets name.suffix)
  | some handle =>
      ((directives.meanings ++ standardMeanings).lookup handle).map fun meaning =>
        .ofOctets (meaning ++ name.suffix)

end Directives

end Yaml

end OptionCompiler
