import OptionCompiler.Yaml.Token
import OptionCompiler.Yaml.Tree
/-!
# Trees from tokens

The tree of a text, built token by token. The containers that are still open lie on a stack, and
either a node is expected in a slot of the innermost one, or the innermost container itself waits
for its next mark. Many slots may stay empty, and a mark that shows so is read again by the
container.

A text is one document. Marks around it are accepted, and a second document is not. Before the
mark of its start there may be directives.

An anchor gives a number to the node after it: how many names were given to nodes so far. Giving a
name once more is no new name, so a number may be given again, and then it stands for the later
node. An alias holds the number that its name got last.
-/

namespace OptionCompiler

namespace Yaml

/-- What the next node of a mapping is. -/
inductive Pending where
  | key
  /-- A key that no value follows. -/
  | loneKey
  | value (key : Tree)
deriving Repr

/-- An open container, with its contents back to front. -/
inductive Container where
  | document (root : Option Tree)
  | blockSequence (items : List Tree)
  /-- A block sequence at the column of the mapping around it, which nothing marks the end of. -/
  | flatSequence (items : List Tree)
  | blockMapping (entries : List (Tree × Tree)) (pending : Pending)
  | flowSequence (items : List Tree)
  /-- A flow sequence, inside a mapping of one entry that is one of its items. -/
  | flowPair (items : List Tree) (pending : Pending)
  | flowMapping (entries : List (Tree × Tree)) (pending : Pending)
deriving Repr

namespace Container

/-- An entry whose key is there and whose value is the node, or whose key is the node. -/
def fill (entries : List (Tree × Tree)) (pending : Pending) (node : Tree) :
    List (Tree × Tree) × Pending :=
  match pending with
  | .key => (entries, .value node)
  | .loneKey => ((node, .empty) :: entries, .key)
  | .value key => ((key, node) :: entries, .key)

def place (container : Container) (node : Tree) : Container :=
  match container with
  | .document _ => .document (some node)
  | .blockSequence items => .blockSequence (node :: items)
  | .flatSequence items => .flatSequence (node :: items)
  | .blockMapping entries pending =>
      let (entries, pending) := fill entries pending node
      .blockMapping entries pending
  | .flowSequence items => .flowSequence (node :: items)
  | .flowPair items (.value key) => .flowSequence (.mapping none [(key, node)] :: items)
  | .flowPair items _ => .flowPair items (.value node)
  | .flowMapping entries pending =>
      let (entries, pending) := fill entries pending node
      .flowMapping entries pending

/-- The node of a container whose end is reached. -/
def node? (tag : Option Tag) : Container → Option Tree
  | .blockSequence items => some (.sequence tag items.reverse)
  | .flatSequence items => some (.sequence tag items.reverse)
  | .flowSequence items => some (.sequence tag items.reverse)
  | .blockMapping entries .key => some (.mapping tag entries.reverse)
  | .flowMapping entries .key => some (.mapping tag entries.reverse)
  | .flowMapping entries .loneKey => some (.mapping tag entries.reverse)
  | _ => none

end Container

/-- Where a node is expected. -/
inductive Slot where
  | document (marked : Bool)
  /-- Where only a directive or the start of the document may follow a directive. -/
  | prologue
  | blockItem
  | flatItem
  | blockKey
  | blockValue
  | flowItem
  | pairKey
  | pairValue
  | flowEntry
  | flowKey
  | flowValue
deriving DecidableEq, Repr

namespace Slot

def takesBlock : Slot → Bool
  | .document _ | .blockItem | .flatItem | .blockKey | .blockValue => true
  | _ => false

/-- Whether the entries of a sequence may begin in the slot without a start of their own. -/
def takesFlat : Slot → Bool
  | .blockKey | .blockValue => true
  | _ => false

def isEmptyBefore (slot : Slot) (token : Token) : Bool :=
  match slot, token with
  | .document marked, .documentStart => marked
  | .document marked, .documentEnd => marked
  | .blockItem, .blockEntry | .blockItem, .blockEnd => true
  | .flatItem, .blockEntry | .flatItem, .blockEnd | .flatItem, .key | .flatItem, .value => true
  | .blockKey, .key | .blockKey, .value | .blockKey, .blockEnd => true
  | .blockValue, .key | .blockValue, .value | .blockValue, .blockEnd => true
  | .pairValue, .flowEntry | .pairValue, .flowSequenceEnd => true
  | .flowKey, .value | .flowKey, .flowEntry | .flowKey, .flowMappingEnd => true
  | .flowValue, .flowEntry | .flowValue, .flowMappingEnd => true
  | _, _ => false

end Slot

/-- What stands before a node: the place of its anchor in the order of all anchors, and its tag. -/
structure Properties where
  anchor : Option Nat
  tag : Option Tag
deriving DecidableEq, Repr

namespace Properties

/-- Neither an anchor nor a tag. -/
def none : Properties := ⟨.none, .none⟩

def isEmpty (properties : Properties) : Bool :=
  properties.anchor.isNone && properties.tag.isNone

end Properties

/-- A container that is open, with what stands before it. -/
structure Frame where
  properties : Properties
  container : Container
deriving Repr

/-- The anchors read so far. -/
structure Anchors where
  /-- The number that each name got last. -/
  numbers : List (List Char × Nat)
  /-- The number of each anchor, last one first. -/
  order : List Nat
  /-- The nodes whose end is read, by the place of their anchors in the order. -/
  nodes : List (Nat × Tree)
deriving Repr

namespace Anchors

def empty : Anchors := ⟨[], [], []⟩

def add (anchors : Anchors) (name : List Char) : Anchors :=
  let number := anchors.numbers.length
  { anchors with
    numbers := (name, number) :: anchors.numbers.filter fun entry => entry.1 ≠ name
    order := number :: anchors.order }

/-- The anchors, where the one at a place in the order has a node. -/
def define (anchors : Anchors) (place : Option Nat) (node : Tree) : Anchors :=
  { anchors with nodes := place.toList.map (·, node) ++ anchors.nodes }

/-- The numbers with the nodes that they stand for, later anchors first. -/
def targets (anchors : Anchors) : List (Nat × Tree) :=
  let places := (List.range anchors.order.length).reverse
  (anchors.order.zip places).filterMap fun (number, place) =>
    (anchors.nodes.lookup place).map (number, ·)

end Anchors

/-- The open containers, innermost first, with the slot where a node is expected, if any, what was
read before that node, and what the directives and the anchors say. -/
structure Assembly where
  frames : List Frame
  slot : Option Slot
  properties : Properties
  directives : Directives
  anchors : Anchors
deriving Repr

namespace Assembly

def initial : Assembly :=
  ⟨[⟨.none, .document none⟩], some (.document false), .none, .none, .empty⟩

/-- Expects a node in a slot of the innermost container. -/
def expect (assembly : Assembly) (slot : Slot) : Assembly :=
  { assembly with slot := some slot }

/-- Replaces the innermost container. -/
def withContainer (assembly : Assembly) (container : Container) : Assembly :=
  match assembly.frames with
  | [] => assembly
  | frame :: frames => { assembly with frames := { frame with container := container } :: frames }

/-- Opens a container in the slot where a node is expected. -/
def openContainer (assembly : Assembly) (container : Container) (slot : Option Slot) : Assembly :=
  { assembly with
    frames := ⟨assembly.properties, container⟩ :: assembly.frames
    slot := slot
    properties := .none }

/-- Puts a node into the innermost container, for an anchor if there is one. -/
def put (assembly : Assembly) (anchor : Option Nat) (node : Tree) : Assembly :=
  match assembly.frames with
  | [] => assembly
  | frame :: frames =>
      { assembly with
        frames := { frame with container := frame.container.place node } :: frames
        slot := none
        properties := .none
        anchors := assembly.anchors.define anchor node }

/-- Puts a scalar where a node is expected. -/
def scalar (assembly : Assembly) (form : ScalarForm) (text : String) : Assembly :=
  assembly.put assembly.properties.anchor (.scalar form assembly.properties.tag text)

/-- Leaves the place empty where a node is expected. -/
def leaveEmpty (assembly : Assembly) : Assembly :=
  assembly.scalar .plain ""

/-- Closes the innermost container and puts its node into the one around it. -/
def close? (assembly : Assembly) : Option Assembly :=
  match assembly.frames with
  | [] => none
  | frame :: frames =>
      (frame.container.node? frame.properties.tag).map fun node =>
        { assembly with frames := frames, slot := none }.put frame.properties.anchor node

/-- Ends what the token shows to be over without a mark of its own: the sequence whose next entry
does not come, and the entry whose value does not come. -/
def settle (token : Token) (assembly : Assembly) : Assembly :=
  match assembly.frames with
  | [] => assembly
  | frame :: _ =>
      match frame.container with
      | .flatSequence _ =>
          if token = .blockEntry then assembly else assembly.close?.getD assembly
      | .blockMapping _ (.value _) | .flowPair _ (.value _) | .flowMapping _ (.value _) =>
          if token = .value then assembly else assembly.put none .empty
      | _ => assembly

/-- A token that the innermost container waits for. -/
def continue? (token : Token) (assembly : Assembly) : Option Assembly :=
  match assembly.frames with
  | [] => none
  | frame :: _ =>
      match frame.container, token with
      | .document (some _), .documentEnd => some assembly
      | .blockSequence _, .blockEntry => some (assembly.expect .blockItem)
      | .blockSequence _, .blockEnd => assembly.close?
      | .flatSequence _, .blockEntry => some (assembly.expect .flatItem)
      | .blockMapping _ .key, .key => some (assembly.expect .blockKey)
      | .blockMapping _ .key, .blockEnd => assembly.close?
      | .blockMapping _ (.value _), .value => some (assembly.expect .blockValue)
      | .flowSequence _, .flowEntry => some (assembly.expect .flowItem)
      | .flowSequence _, .flowSequenceEnd => assembly.close?
      | .flowPair _ (.value _), .value => some (assembly.expect .pairValue)
      | .flowMapping entries .key, .flowEntry =>
          some ((assembly.withContainer (.flowMapping entries .loneKey)).expect .flowEntry)
      | .flowMapping _ .key, .flowMappingEnd => assembly.close?
      | .flowMapping _ (.value _), .value => some (assembly.expect .flowValue)
      | _, _ => none

/-- A token after a whole node. -/
def resume? (token : Token) (assembly : Assembly) : Option Assembly :=
  continue? token (settle token (settle token assembly))

/-- A token that begins no node, after an anchor or a tag or in a slot that may stay empty. -/
def skipSlot? (slot : Slot) (token : Token) (assembly : Assembly) : Option Assembly :=
  if !assembly.properties.isEmpty || slot.isEmptyBefore token then
    resume? token assembly.leaveEmpty
  else none

/-- A token that begins no node, where one is expected. The end of a flow collection may come
after a comma, and a question mark begins a key. A mark right after such a question mark in a
flow sequence is skipped. -/
def mark? (slot : Slot) (token : Token) (assembly : Assembly) : Option Assembly :=
  if !assembly.properties.isEmpty then skipSlot? slot token assembly
  else
    match slot, token, assembly.frames.head?.map Frame.container with
    | .document false, .documentStart, _ => some (assembly.expect (.document true))
    | .flowItem, .flowSequenceEnd, _ => assembly.close?
    | .flowItem, .key, some (.flowSequence items) =>
        some ((assembly.withContainer (.flowPair items .key)).expect .pairKey)
    | .pairKey, .value, _ | .pairKey, .flowEntry, _ | .pairKey, .flowSequenceEnd, _ =>
        some assembly.leaveEmpty
    | .flowEntry, .flowMappingEnd, _ => assembly.close?
    | .flowEntry, .key, some (.flowMapping entries _) =>
        some ((assembly.withContainer (.flowMapping entries .key)).expect .flowKey)
    | _, _, _ => skipSlot? slot token assembly

/-- A directive before the start of the document. -/
def directive? (assembly : Assembly) (directive : Directive) : Option Assembly :=
  (assembly.directives.add? directive).map fun directives =>
    { assembly with directives := directives, slot := some .prologue }

/-- A token after a directive. -/
def prologue? (token : Token) (assembly : Assembly) : Option Assembly :=
  match token with
  | .directive directive => assembly.directive? directive
  | .documentStart => some (assembly.expect (.document true))
  | _ => none

/-- An anchor for the next node. -/
def anchor (assembly : Assembly) (name : List Char) : Assembly :=
  { assembly with
    properties := { assembly.properties with anchor := some assembly.anchors.order.length }
    anchors := assembly.anchors.add name }

/-- A tag for the next node. -/
def tag? (assembly : Assembly) (name : TagName) : Option Assembly :=
  (assembly.directives.tag? name).map fun tag =>
    { assembly with properties := { assembly.properties with tag := some tag } }

/-- A token where a node is expected. -/
def begin? (slot : Slot) (token : Token) (assembly : Assembly) : Option Assembly :=
  match token with
  | .directive directive =>
      if slot = .document false ∧ assembly.properties.isEmpty then assembly.directive? directive
      else mark? slot token assembly
  | .anchor name =>
      if assembly.properties.anchor.isNone then some (assembly.anchor name)
      else mark? slot token assembly
  | .tag name =>
      if assembly.properties.tag.isNone then assembly.tag? name else mark? slot token assembly
  | .alias name =>
      if assembly.properties.isEmpty then
        (assembly.anchors.numbers.lookup name).map fun number => assembly.put none (.alias number)
      else mark? slot token assembly
  | .scalar form text => some (assembly.scalar form (String.ofList text))
  | .flowSequenceStart => some (assembly.openContainer (.flowSequence []) (some .flowItem))
  | .flowMappingStart => some (assembly.openContainer (.flowMapping [] .loneKey) (some .flowEntry))
  | .blockSequenceStart =>
      if slot.takesBlock then some (assembly.openContainer (.blockSequence []) none) else none
  | .blockMappingStart =>
      if slot.takesBlock then some (assembly.openContainer (.blockMapping [] .key) none) else none
  | .blockEntry =>
      if slot.takesFlat then
        some (assembly.openContainer (.flatSequence []) (some .flatItem))
      else mark? slot token assembly
  | other => mark? slot other assembly

def accept? (assembly : Assembly) (token : Token) : Option Assembly :=
  match assembly.slot with
  | some .prologue => prologue? token assembly
  | some slot => begin? slot token assembly
  | none => resume? token assembly

/-- The tree of an assembly whose tokens are all read. -/
def finish? (assembly : Assembly) : Option Anchored :=
  match assembly.frames, assembly.slot with
  | [⟨_, .document none⟩], some (.document _) =>
      some ⟨.scalar .plain assembly.properties.tag "", []⟩
  | [⟨_, .document (some root)⟩], none => some ⟨root, assembly.anchors.targets⟩
  | _, _ => none

end Assembly

def Anchored.ofTokens? (tokens : List Token) : Option Anchored := do
  (← tokens.foldlM Assembly.accept? Assembly.initial).finish?

/-- The tree of a text. Nothing at all is read as an empty node. -/
def Anchored.ofText? (text : String) : Option Anchored := do
  ofTokens? (← Token.ofText? text)

end Yaml

end OptionCompiler
