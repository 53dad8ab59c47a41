import MigrationStatus.Yaml.Token
/-!
The content of a YAML text as a tree, and the grammar that reads it from the tokens.

A name behind `&` marks a node, and the name behind `*` stands for that node. Marked nodes are
numbered by how many different names were known before them; a name that is given again takes the
number that is due. Of several nodes with one number the last is meant.
-/

namespace MigrationStatus.Yaml

inductive Node where
  /-- A text; it is plain if it stood without quotation marks and not in a block. -/
  | scalar (text : List Char) (plain : Bool) (tag : Option (List Char))
  | sequence (items : List Node)
  | mapping (pairs : List (Node × Node))
  /-- A node that stands elsewhere. -/
  | reference (number : Nat)
  /-- A node that aliases can stand for. -/
  | anchored (number : Nat) (content : Node)
  deriving Repr, Inhabited

namespace Node

/-- What stands where nothing is written. -/
def nothing : Node := .scalar [] true none

/-! ### Aliases -/

mutual

/-- The nodes that aliases can stand for, in the order in which they begin. -/
def anchors : Node → List (Nat × Node)
  | scalar .. | reference _ => []
  | sequence items => listAnchors items
  | mapping pairs => pairAnchors pairs
  | anchored number content => (number, content) :: content.anchors

def listAnchors : List Node → List (Nat × Node)
  | [] => []
  | node :: others => node.anchors ++ listAnchors others

def pairAnchors : List (Node × Node) → List (Nat × Node)
  | [] => []
  | (key, value) :: others => key.anchors ++ value.anchors ++ pairAnchors others

end

/-- The node that an alias stands for in a tree, and every other node without its mark. -/
def resolved (root : Node) : Node → Node
  | reference number => (root.anchors.reverse.lookup number).getD nothing
  | anchored _ content => content
  | node => node

/-! ### The grammar -/

/-- What is left of the tokens, and the names that have been given so far. -/
structure Reading where
  rest : List Token
  /-- The numbers of the names. -/
  names : List (List Char × Nat)
  /-- What the handles of tags stand for. -/
  handles : List (List Char × List Char)

abbrev Reader := StateT Reading Option

/-- The token that is read next. -/
def next? : Reader (Option Token) := return (← get).rest.head?

/-- Passes over a token. -/
def pass : Reader Unit := modify fun reading => { reading with rest := reading.rest.tail }

/-- Passes over a token if it is read next. -/
def passIf (token : Token) : Reader Bool := do
  let found := (← next?) == some token
  if found then pass
  return found

/-- Gives a number to a name. -/
def nameAnchor (name : List Char) : Reader Nat := do
  let reading ← get
  let number := reading.names.length
  let others := reading.names.filter (·.1 != name)
  set { reading with names := (name, number) :: others }
  return number

/-- The number of a name, which has to be known. -/
def aliasNumber (name : List Char) : Reader Nat := do
  ((← get).names.lookup name : Option Nat)

/-- The tag that a handle and the rest stand for. -/
def tagText (handle suffix : List Char) : Reader (List Char) := do
  if handle.isEmpty then return suffix
  let beginning ← ((← get).handles.lookup handle : Option (List Char))
  return beginning ++ suffix

/-- Reads a mark for aliases, if one stands there. -/
def anchorMark : Reader (Option Nat) := do
  match ← next? with
  | some (.anchor name) =>
    pass
    return some (← nameAnchor name)
  | _ => return none

/-- Reads a tag, if one stands there. -/
def tagMark : Reader (Option (List Char)) := do
  match ← next? with
  | some (.tag handle suffix) =>
    pass
    return some (← tagText handle suffix)
  | _ => return none

/-- Reads the mark and the tag in front of a node, in either order. -/
def marks : Reader (Option Nat × Option (List Char)) := do
  match ← anchorMark with
  | some number => return (some number, ← tagMark)
  | none =>
    let tag ← tagMark
    return (← anchorMark, tag)

/-- Where a node stands, which decides what may begin it. -/
structure Place where
  /-- Outside of brackets and braces. -/
  block : Bool
  /-- In a mapping, whose sequences need not be indented. -/
  inMapping : Bool

mutual

/-- Reads a node. Every token takes at most four steps. -/
def node (place : Place) : (steps : Nat) → Reader Node
  | 0 => failure
  | steps + 1 => do
    if let some (.reference name) ← next? then
      pass
      return .reference (← aliasNumber name)
    let (number, tag) ← marks
    let content ← content place (number.isSome || tag.isSome) tag steps
    return match number with
      | some number => .anchored number content
      | none => content

/-- Reads a node behind its mark and tag. -/
def content (place : Place) (marked : Bool) (tag : Option (List Char)) :
    (steps : Nat) → Reader Node
  | 0 => failure
  | steps + 1 => do
    match ← next? with
    | some .blockEntry =>
      if place.inMapping then return .sequence (← blockItems true steps) else empty
    | some (.scalar text plain) =>
      pass
      return .scalar text plain tag
    | some .flowSequenceStart =>
      pass
      return .sequence (← flowItems true steps)
    | some .flowMappingStart =>
      pass
      return .mapping (← flowPairs true steps)
    | some .blockSequenceStart =>
      if place.block then
        pass
        return .sequence (← blockItems false steps)
      else empty
    | some .blockMappingStart =>
      if place.block then
        pass
        return .mapping (← blockPairs steps)
      else empty
    | _ => empty
where
  /-- A mark or a tag may stand alone. -/
  empty : Reader Node := if marked then return .scalar [] true tag else failure

/-- Reads a node, or nothing in front of certain tokens. -/
def nodeBefore (stops : List Token) (place : Place) : (steps : Nat) → Reader Node
  | 0 => failure
  | steps + 1 => do
    if (← next?).any stops.contains then return nothing else node place steps

/-- Reads the items of a block. Where the block is not indented, it has no end of its own. -/
def blockItems (inMapping : Bool) : (steps : Nat) → Reader (List Node)
  | 0 => failure
  | steps + 1 => do
    if ← passIf .blockEntry then
      let stops : List Token :=
        if inMapping then [.blockEntry, .key, .value, .blockEnd] else [.blockEntry, .blockEnd]
      let item ← nodeBefore stops ⟨true, false⟩ steps
      return item :: (← blockItems inMapping steps)
    else if inMapping then return []
    else if ← passIf .blockEnd then return []
    else failure

/-- Reads the pairs of a block. -/
def blockPairs : (steps : Nat) → Reader (List (Node × Node))
  | 0 => failure
  | steps + 1 => do
    if ← passIf .key then
      let stops : List Token := [.key, .value, .blockEnd]
      let key ← nodeBefore stops ⟨true, true⟩ steps
      let value ← if ← passIf .value then nodeBefore stops ⟨true, true⟩ steps else pure nothing
      return (key, value) :: (← blockPairs steps)
    else if ← passIf .blockEnd then return []
    else failure

/-- Reads the items between brackets. An item with a colon is a mapping of one pair. -/
def flowItems (first : Bool) : (steps : Nat) → Reader (List Node)
  | 0 => failure
  | steps + 1 => do
    if ← passIf .flowSequenceEnd then return []
    if !first then
      guard (← passIf .flowEntry)
    if ← passIf .flowSequenceEnd then return []
    let item ← if ← passIf .key then flowPair steps else node ⟨false, false⟩ steps
    return item :: (← flowItems false steps)

/-- Reads a pair between brackets. A token that cannot begin the key is passed over. -/
def flowPair : (steps : Nat) → Reader Node
  | 0 => failure
  | steps + 1 => do
    let stops : List Token := [.flowEntry, .flowSequenceEnd]
    let keyStops : List Token := .value :: stops
    let keyMissing := (← next?).any keyStops.contains
    let key ← nodeBefore keyStops ⟨false, false⟩ steps
    if keyMissing then pass
    let value ← if ← passIf .value then nodeBefore stops ⟨false, false⟩ steps else pure nothing
    return .mapping [(key, value)]

/-- Reads the pairs between braces. -/
def flowPairs (first : Bool) : (steps : Nat) → Reader (List (Node × Node))
  | 0 => failure
  | steps + 1 => do
    if ← passIf .flowMappingEnd then return []
    if !first then
      guard (← passIf .flowEntry)
    if ← passIf .flowMappingEnd then return []
    let stops : List Token := [.flowEntry, .flowMappingEnd]
    if ← passIf .key then
      let key ← nodeBefore (.value :: stops) ⟨false, false⟩ steps
      let value ← if ← passIf .value then nodeBefore stops ⟨false, false⟩ steps else pure nothing
      return (key, value) :: (← flowPairs false steps)
    else
      let key ← node ⟨false, false⟩ steps
      return (key, nothing) :: (← flowPairs false steps)

end

/-! ### Documents -/

/-- The handles that need no directive. -/
def standardHandles : List (List Char × List Char) :=
  [(['!'], ['!']), (['!', '!'], "tag:yaml.org,2002:".toList)]

/-- Reads directives: the version at most once, and a handle for tags at most once. -/
def directives (versioned : Bool) : (steps : Nat) → Reader Unit
  | 0 => failure
  | steps + 1 => do
    match ← next? with
    | some (.versionDirective major minor) =>
      guard (!versioned && major == 1 && (minor == 1 || minor == 2))
      pass
      directives true steps
    | some (.tagDirective handle beginning) =>
      guard (((← get).handles.lookup handle).isNone)
      pass
      modify fun reading => { reading with handles := reading.handles ++ [(handle, beginning)] }
      directives versioned steps
    | _ => modify fun reading => { reading with handles := reading.handles ++ standardHandles }

/-- Whether a token stands where content of a document may not. -/
def endsDocument : Token → Bool
  | .versionDirective .. | .tagDirective .. | .documentStart | .documentEnd => true
  | _ => false

/-- Reads the content of a document, which may be nothing behind its start mark. -/
def documentContent (started : Bool) (steps : Nat) : Reader Node := do
  if started && (← next?).all endsDocument then return nothing else node ⟨true, false⟩ steps

/-- Passes over the marks at the end of a document. -/
def passEnds : Reader Unit :=
  modify fun reading => { reading with rest := reading.rest.dropWhile (· == .documentEnd) }

/-- Whether a document begins with a directive or a mark. -/
def beginsDocument : Token → Bool
  | .versionDirective .. | .tagDirective .. | .documentStart => true
  | _ => false

/-- Reads the one document of a text. -/
def document (steps : Nat) : Reader Node := do
  match ← next? with
  | none => return nothing
  | some first =>
    let started := beginsDocument first
    if started then
      directives false steps
      guard (← passIf .documentStart)
    else modify fun reading => { reading with handles := standardHandles }
    let root ← documentContent started steps
    passEnds
    guard (← next?).isNone
    return root

/-- The content of a text with one document. Nothing at all reads as a document with nothing
in it. -/
def parse? (text : String) : Option Node := do
  let tokens ← tokens? text.toList
  (document (4 * tokens.length + 4)).run' ⟨tokens, [], []⟩

end Node

end MigrationStatus.Yaml
