import StorageHandler.Yaml.Graph.Basic
import StorageHandler.Yaml.PlainType
import StorageHandler.Yaml.Token

/-!
# From tokens to nodes

`Graph.ofTokens` reads the only document of a stream. A node gets its number before its parts are
read, so that an alias in them can name it.
-/

namespace StorageHandler.Yaml

/-- What is known in the middle of a stream of tokens. -/
structure Parser where
  tokens : List Token
  /-- What goes wrong where the tokens end. -/
  ending : YamlError
  /-- What the handles of tags stand for. -/
  handles : List (String × String)
  /-- The nodes so far. -/
  graph : Graph
  /-- The anchored nodes. -/
  anchors : List (String × Nat)
  /-- How many collections are open. -/
  depth : Nat

/-- Reads something from the tokens. -/
abbrev Parse := StateT Parser (Except YamlError)

namespace Parse

/-- The next token, which stays. -/
def peek : Parse Token := do
  let p ← get
  match p.tokens with
  | [] => throw p.ending
  | t :: _ => return t

/-- Passes the next token over. -/
def drop : Parse Unit := modify fun p => { p with tokens := p.tokens.drop 1 }

/-- Passes the next token over if it is `t`, and says whether it was. -/
def eat (t : Token) : Parse Bool := do
  if (← peek) = t then
    drop
    return true
  else return false

/-- Passes the next token over, which must be `t`. -/
def expect (t : Token) : Parse Unit := do
  if !(← eat t) then throw .malformed

/-- Adds a node and returns its number. -/
def add (node : Node) : Parse Nat := do
  let p ← get
  set { p with graph := p.graph.push node }
  return p.graph.size

/-- The properties of a node: its anchor and its tag, in whatever order. -/
structure Properties where
  anchor : Option String
  tag : Option WrittenTag

/-- The properties here. -/
def properties : Parse Properties := do
  match ← peek with
  | .anchor a =>
    drop
    match ← peek with
    | .tag t =>
      drop
      return ⟨some a, some t⟩
    | _ => return ⟨some a, none⟩
  | .tag t =>
    drop
    match ← peek with
    | .anchor a =>
      drop
      return ⟨some a, some t⟩
    | _ => return ⟨none, some t⟩
  | _ => return ⟨none, none⟩

/-- The full name of a tag. Its handle must be known. -/
def tagName (t : WrittenTag) : Parse String := do
  match t.handle with
  | none => return t.rest
  | some h =>
    match (← get).handles.lookup h with
    | some name => return name ++ t.rest
    | none => throw .malformed

/-- Remembers a node under an anchor. -/
def remember (anchor : Option String) (node : Nat) : Parse Unit :=
  match anchor with
  | none => return ()
  | some a => modify fun p => { p with anchors := (a, node) :: p.anchors }

/-- An anchor must be new. -/
def checkAnchor (anchor : Option String) : Parse Unit := do
  match anchor with
  | none => return ()
  | some a => if ((← get).anchors.lookup a).isSome then throw .malformed

/-- The tag that says nothing. -/
def openTag : String := "!"

/-- A scalar with its type. A plain one without a tag, and any with the tag that says nothing, has
the type that it looks like. -/
def scalarNode (anchor : Option String) (tag : Option String) (text : List Text.Point)
    (plain : Bool) : Parse Nat := do
  checkAnchor anchor
  let type :=
    match tag with
    | none => if plain then plainTag text else .string
    | some t => if t = openTag then plainTag text else .ofName t
  let node ← add ⟨type, .scalar text⟩
  remember anchor node
  return node

/-- The type of a collection. -/
def collectionTag (tag : Option String) (default : Tag) : Tag :=
  match tag with
  | none => default
  | some t => if t = openTag then default else .ofName t

/-- The scalar of no characters. -/
def emptyNode : Parse Nat := add .empty

/-- What is allowed where a node stands. -/
structure Place where
  /-- Block collections are allowed. -/
  block : Bool
  /-- A block sequence need not be indented. -/
  indentless : Bool

/-- How deep collections may be nested. -/
def maxDepth : Nat := 490

/-- Reads what is inside a collection. -/
def inside {α : Type} (parts : Parse α) : Parse α := do
  if maxDepth ≤ (← get).depth then throw .tooDeep
  modify fun p => { p with depth := p.depth + 1 }
  let found ← parts
  modify fun p => { p with depth := p.depth - 1 }
  return found

/-- A sequence with its items. -/
def sequenceNode (anchor tag : Option String) (items : Parse (List Nat)) : Parse Nat := do
  checkAnchor anchor
  let node ← add ⟨collectionTag tag .sequence, .sequence []⟩
  remember anchor node
  let found ← inside items
  modify fun p => { p with graph := p.graph.setShape node (.sequence found) }
  return node

/-- A mapping with its pairs. -/
def mappingNode (anchor tag : Option String) (pairs : Parse (List (Nat × Nat))) : Parse Nat := do
  checkAnchor anchor
  let node ← add ⟨collectionTag tag .mapping, .mapping []⟩
  remember anchor node
  let found ← inside pairs
  modify fun p => { p with graph := p.graph.setShape node (.mapping found) }
  return node

/-- The scalar of no characters where only properties stand; without properties there is no node. -/
def emptyOr (anchor tag : Option String) : Parse Nat := do
  if anchor.isNone ∧ tag.isNone then throw .malformed
  scalarNode anchor tag [] true

mutual

/-- The node here. -/
def node (place : Place) : (fuel : Nat) → Parse Nat
  | 0 => throw .malformed
  | fuel + 1 => do
    match ← peek with
    | .reference name =>
      drop
      match (← get).anchors.lookup name with
      | some node => return node
      | none => throw .malformed
    | _ =>
      let ⟨anchor, written⟩ ← properties
      let tag ← match written with
        | none => pure none
        | some t => some <$> tagName t
      match ← peek with
      | .scalar text plain =>
        drop
        scalarNode anchor tag text plain
      | .flowSequenceStart => sequenceNode anchor tag (drop *> flowItems true fuel)
      | .flowMappingStart => mappingNode anchor tag (drop *> flowPairs true fuel)
      | .blockEntry =>
        if place.indentless then sequenceNode anchor tag (indentlessItems fuel)
        else emptyOr anchor tag
      | .blockSequenceStart =>
        if place.block then sequenceNode anchor tag (drop *> blockItems fuel)
        else emptyOr anchor tag
      | .blockMappingStart =>
        if place.block then mappingNode anchor tag (drop *> blockPairs fuel)
        else emptyOr anchor tag
      | _ => emptyOr anchor tag

/-- The items of a block sequence. -/
def blockItems : (fuel : Nat) → Parse (List Nat)
  | 0 => throw .malformed
  | fuel + 1 => do
    if ← eat .blockEntry then
      let item ← match ← peek with
        | .blockEntry => emptyNode
        | .blockEnd => emptyNode
        | _ => node ⟨true, false⟩ fuel
      return item :: (← blockItems fuel)
    else
      expect .blockEnd
      return []

/-- The items of a block sequence that is not indented. -/
def indentlessItems : (fuel : Nat) → Parse (List Nat)
  | 0 => throw .malformed
  | fuel + 1 => do
    if ← eat .blockEntry then
      let item ← match ← peek with
        | .blockEntry => emptyNode
        | .key => emptyNode
        | .value => emptyNode
        | .blockEnd => emptyNode
        | _ => node ⟨true, false⟩ fuel
      return item :: (← indentlessItems fuel)
    else return []

/-- A key or a value of a block mapping. -/
def blockPart : (fuel : Nat) → Parse Nat
  | 0 => throw .malformed
  | fuel + 1 => do
    match ← peek with
    | .key => emptyNode
    | .value => emptyNode
    | .blockEnd => emptyNode
    | _ => node ⟨true, true⟩ fuel

/-- The pairs of a block mapping. -/
def blockPairs : (fuel : Nat) → Parse (List (Nat × Nat))
  | 0 => throw .malformed
  | fuel + 1 => do
    match ← peek with
    | .key =>
      drop
      let key ← blockPart fuel
      let value ← if ← eat .value then blockPart fuel else emptyNode
      return (key, value) :: (← blockPairs fuel)
    | _ =>
      expect .blockEnd
      return []

/-- A key or a value in a flow collection that `close` ends. -/
def flowPart (close : Token) (valueEnds : Bool) : (fuel : Nat) → Parse Nat
  | 0 => throw .malformed
  | fuel + 1 => do
    let t ← peek
    if t = .flowEntry ∨ t = close ∨ (valueEnds ∧ t = .value) then emptyNode
    else node ⟨false, false⟩ fuel

/-- The items of a flow sequence. A pair among them is a mapping of its own. -/
def flowItems (first : Bool) : (fuel : Nat) → Parse (List Nat)
  | 0 => throw .malformed
  | fuel + 1 => do
    if ← eat .flowSequenceEnd then return []
    if !first then expect .flowEntry
    match ← peek with
    | .key =>
      let item ← mappingNode none none do
        drop
        let key ← flowPart .flowSequenceEnd true fuel
        let value ← if ← eat .value then flowPart .flowSequenceEnd false fuel else emptyNode
        return [(key, value)]
      return item :: (← flowItems false fuel)
    | .flowSequenceEnd =>
      drop
      return []
    | _ =>
      let item ← node ⟨false, false⟩ fuel
      return item :: (← flowItems false fuel)

/-- The pairs of a flow mapping. A key alone has no value. -/
def flowPairs (first : Bool) : (fuel : Nat) → Parse (List (Nat × Nat))
  | 0 => throw .malformed
  | fuel + 1 => do
    if ← eat .flowMappingEnd then return []
    if !first then expect .flowEntry
    match ← peek with
    | .key =>
      drop
      let key ← flowPart .flowMappingEnd true fuel
      let value ← if ← eat .value then flowPart .flowMappingEnd false fuel else emptyNode
      return (key, value) :: (← flowPairs false fuel)
    | .flowMappingEnd =>
      drop
      return []
    | _ =>
      let key ← node ⟨false, false⟩ fuel
      let value ← emptyNode
      return (key, value) :: (← flowPairs false fuel)

end

/-- What the two handles that need no directive stand for. -/
def defaultHandles : List (String × String) := [("!", "!"), ("!!", ownTagPrefix)]

/-- The directives of a document: a version that is said twice or is not 1, or a handle that is said
twice, is refused. The handles are returned with those that need no directive. -/
def directives (version : Bool) (handles : List (String × String)) :
    (fuel : Nat) → Parse (List (String × String))
  | 0 => throw .malformed
  | fuel + 1 => do
    match ← peek with
    | .directive d =>
      drop
      match d with
      | .version major _ =>
        if version ∨ major ≠ 1 then throw .malformed
        directives true handles fuel
      | .handle h name =>
        if (handles.lookup h).isSome then throw .malformed
        directives version ((h, name) :: handles) fuel
      | .other => directives version handles fuel
    | _ => return handles ++ defaultHandles

/-- Passes over marks after which no document starts. -/
def skipDocumentEnds : (fuel : Nat) → Parse Unit
  | 0 => return ()
  | fuel + 1 => do
    if ← eat .documentEnd then skipDocumentEnds fuel

/-- The root of a document that starts with directives or a mark. It may be missing. -/
def explicitRoot (fuel : Nat) : Parse Nat := do
  let handles ← directives false [] fuel
  modify fun p => { p with handles := handles }
  expect .documentStart
  match ← peek with
  | .directive _ | .documentStart | .documentEnd | .streamEnd => emptyNode
  | _ => node ⟨true, false⟩ fuel

/-- The only document of a stream; nothing if there is none. -/
def document (fuel : Nat) : Parse (Option Nat) := do
  let root ← match ← peek with
    | .streamEnd => return none
    | .directive _ | .documentStart => explicitRoot fuel
    | _ => do
      modify fun p => { p with handles := defaultHandles }
      node ⟨true, false⟩ fuel
  skipDocumentEnds fuel
  expect .streamEnd
  return some root

end Parse

/-- The root of the only document of a text and all its nodes; nothing if there is no document. -/
def Graph.ofTokens (tokens : List Token) (ending : Option YamlError) :
    Except YamlError (Option (Nat × Graph)) := do
  let p : Parser :=
    { tokens := tokens, ending := ending.getD .malformed, handles := [], graph := #[], anchors := []
      depth := 0 }
  let (root, p) ← (Parse.document (4 * tokens.length + 8)).run p
  return root.map fun n => (n, p.graph)

end StorageHandler.Yaml
