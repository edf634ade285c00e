import OptionCompiler.Document
import OptionCompiler.Yaml.Node
import OptionCompiler.Yaml.Scalar
import OptionCompiler.Yaml.Tag
/-!
# Trees as they are written

The tree of a text with its aliases still in place. An anchor gives a number to the node after it,
and an alias holds the number of its anchor. The node that a number stands for is known only at
the end of the text: it is the last one that was given the number, so an alias may stand for a
node around it or after it.

In the document of a tree the node that an alias stands for takes its place. Only the parts that an
outline names are followed, and every other value is left empty, so an alias that nobody reads may
stand for a node around it.

Following ends in every case. Containers nest no deeper than the room that is given, and the
number of aliases that are followed is limited by the size of the text. A document beyond either
limit cannot be read.
-/

namespace OptionCompiler

namespace Yaml

/-- A tree as it is written. -/
inductive Tree where
  | alias (number : Nat)
  | scalar (form : ScalarForm) (tag : Option Tag) (text : String)
  | sequence (tag : Option Tag) (items : List Tree)
  | mapping (tag : Option Tag) (entries : List (Tree × Tree))
deriving Repr

namespace Tree

/-- The node of a place that is left empty. -/
def empty : Tree := .scalar .plain none ""

mutual

/-- The size of a tree: one for each alias and each scalar, two for the ends of each container. -/
def size : Tree → Nat
  | .alias _ => 1
  | .scalar _ _ _ => 1
  | .sequence _ items => itemsSize items + 2
  | .mapping _ entries => entriesSize entries + 2

def itemsSize : List Tree → Nat
  | [] => 0
  | item :: items => size item + itemsSize items

/-- The size of the keys and the values of a mapping. -/
def entriesSize : List (Tree × Tree) → Nat
  | [] => 0
  | (key, value) :: entries => size key + size value + entriesSize entries

end

end Tree

/-- The tree of a text, and the trees that the numbers of its aliases stand for. -/
structure Anchored where
  root : Tree
  targets : List (Nat × Tree)
deriving Repr

section Aliases

/-- A computation that may follow so many aliases more. -/
abbrev Following := StateT Nat Option

namespace Anchored

/-- How many aliases may be followed for each node and each end of a container. -/
def followedEach : Nat := 100

/-- The tree that stands in the place of a tree, itself unless it is an alias. -/
def target (document : Anchored) (tree : Tree) : Following Tree :=
  match tree with
  | .alias number => do
      match ← get with
      | 0 => failure
      | left + 1 =>
          set left
          document.targets.lookup number
  | other => pure other

/-- The node of a tree, followed where the outline names it. -/
def nodeIn (document : Anchored) : Nat → Outline → Tree → Following Node
  | room, outline, tree => do
      match ← document.target tree with
      | .alias _ => failure
      | .scalar form tag text => return .scalar form tag text
      | .sequence tag items =>
          match room, outline.item? with
          | _, none => return .sequence tag []
          | 0, some _ => failure
          | inner + 1, some item => return .sequence tag (← items.mapM (document.nodeIn inner item))
      | .mapping tag entries =>
          match room, outline.key? with
          | _, none => return .mapping tag []
          | 0, some _ => failure
          | inner + 1, some keyOutline =>
              let entries ← entries.mapM fun (key, value) => do
                let key ← document.nodeIn inner keyOutline key
                match outline.value? key.text? with
                | some valueOutline => return (key, ← document.nodeIn inner valueOutline value)
                | none => return (key, .empty)
              return .mapping tag entries

/-- The document of a tree whose containers nest no deeper than `room`. -/
def node? (document : Anchored) (room : Nat) (outline : Outline) : Option Node :=
  ((document.nodeIn room outline document.root).run
    (followedEach * document.root.size)).map Prod.fst

end Anchored

end Aliases

end Yaml

end OptionCompiler
