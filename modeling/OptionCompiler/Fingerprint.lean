import OptionCompiler.Json
import OptionCompiler.Sha256
/-!
# Fingerprints

The key under which a result is remembered: the digest of the compact text of the value that the
result depends on. Several fingerprints are combined in order, each ended by a zero byte, which
no digest contains.
-/

namespace OptionCompiler

/-- A key made from a value. -/
structure Fingerprint where
  text : String
deriving DecidableEq, Repr

namespace Fingerprint

/-- The bytes of a text in the UTF-8 form. -/
def utf8 (text : List Char) : List UInt8 :=
  text.flatMap String.utf8EncodeChar

def bytes (text : String) : List UInt8 :=
  text.toUTF8.data.toList

def of (value : Json) : Fingerprint :=
  ⟨Sha256.hexadecimal (utf8 value.compactText)⟩

/-- The bytes that stand for several fingerprints together. -/
def combinedBytes (parts : List Fingerprint) : List UInt8 :=
  parts.flatMap fun part => bytes part.text ++ [0]

def combine (parts : List Fingerprint) : Fingerprint :=
  ⟨Sha256.hexadecimal (combinedBytes parts)⟩

/-- The characters in front that fit into the given number of bytes. -/
def fitting (size : Nat) : List Char → List Char
  | [] => []
  | c :: rest => if c.utf8Size ≤ size then c :: fitting (size - c.utf8Size) rest else []

/-- The first twelve bytes, which are enough to tell fingerprints apart in a message. -/
def short (fingerprint : Fingerprint) : String :=
  String.ofList (fitting 12 fingerprint.text.toList)

end Fingerprint

end OptionCompiler
