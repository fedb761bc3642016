import StorageHandler.Yaml.BlockScalar
import StorageHandler.Yaml.Directive
import StorageHandler.Yaml.PlainScalar
import StorageHandler.Yaml.QuotedScalar

/-!
# Tokens

The words of a text. Indentation opens and closes block collections, and a colon makes a key of what
stands before it on its line: the tokens that open the mapping and mark its key are put in front of
it afterwards. What may still turn out to be a key is kept as a `PendingKey`, one for every level of
flow collections.

`tokens` gives the tokens in order and, if the text goes wrong, how. The tokens from the first
pending key on are not given then, for it is not known what stands in front of them.
-/

namespace StorageHandler.Yaml

/-- A word of a text. -/
inductive Token where
  | directive (d : Directive)
  | documentStart
  | documentEnd
  | streamEnd
  | blockSequenceStart
  | blockMappingStart
  | blockEnd
  | flowSequenceStart
  | flowSequenceEnd
  | flowMappingStart
  | flowMappingEnd
  | blockEntry
  | flowEntry
  | key
  | value
  | reference (name : String)
  | anchor (name : String)
  | tag (tag : WrittenTag)
  | scalar (text : List Text.Point) (plain : Bool)
  deriving DecidableEq, Repr

/-- Something that is a key if a colon follows it. -/
structure PendingKey where
  /-- The place of its first token in the list of all tokens. -/
  number : Nat
  /-- Whether it must be a key, since it starts where the keys of a block mapping start. -/
  required : Bool
  index : Nat
  line : Nat
  column : Nat
  deriving DecidableEq, Repr

/-- What is known in the middle of a text. -/
structure Lexer where
  cursor : Cursor
  /-- The tokens so far, the last one first. -/
  reversed : List Token
  count : Nat
  /-- The column of the innermost block collection, or -1. -/
  indent : Int
  /-- The columns of the block collections around it. -/
  indents : List Int
  /-- How many flow collections are open. -/
  flow : Nat
  /-- Whether a key may start here. -/
  keyAllowed : Bool
  /-- The pending keys by the number of flow collections around them. -/
  pending : List (Nat × PendingKey)
  finished : Bool

namespace Lexer

/-- The start of a text. -/
def start (cs : List Char) : Lexer :=
  { cursor := .start cs, reversed := [], count := 0, indent := -1, indents := [], flow := 0,
    keyAllowed := true, pending := [], finished := false }

/-- Adds a token at the end. -/
def push (l : Lexer) (t : Token) : Lexer :=
  { l with reversed := t :: l.reversed, count := l.count + 1 }

/-- Puts a token in front of the one with a number. -/
def insert (l : Lexer) (number : Nat) (t : Token) : Lexer :=
  { l with reversed := l.reversed.insertIdx (l.count - number) t, count := l.count + 1 }

/-- Moves on. -/
def move (l : Lexer) (c : Cursor) : Lexer := { l with cursor := c }

/-- Says whether a key may start next. -/
def allowKey (l : Lexer) (allowed : Bool) : Lexer := { l with keyAllowed := allowed }

/-- The pending key of this level. -/
def pendingHere (l : Lexer) : Option PendingKey := l.pending.lookup l.flow

/-- Forgets the pending key of this level. -/
def forget (l : Lexer) : Lexer := { l with pending := l.pending.filter fun p => p.1 ≠ l.flow }

/-- Gives up the pending key of this level, which must not be a required one. -/
def dropKey (l : Lexer) : Except YamlError Lexer :=
  match l.pendingHere with
  | some k => if k.required then .error .malformed else .ok l.forget
  | none => .ok l

/-- What starts here may be a key. -/
def saveKey (l : Lexer) : Except YamlError Lexer := do
  if !l.keyAllowed then return l
  let l ← l.dropKey
  let c := l.cursor
  let k : PendingKey :=
    { number := l.count, required := l.flow = 0 ∧ l.indent = c.column, index := c.index,
      line := c.line, column := c.column }
  return { l with pending := (l.flow, k) :: l.pending }

/-- The longest key, in characters. -/
def maxKey : Nat := 1024

/-- Whether a pending key can no longer be one: it must stand on one line and not be too long. -/
def isStale (c : Cursor) (k : PendingKey) : Bool := k.line != c.line || maxKey < c.index - k.index

/-- Gives up the pending keys that can no longer be keys. -/
def dropStale (l : Lexer) : Except YamlError Lexer :=
  if l.pending.any fun p => isStale l.cursor p.2 && p.2.required then .error .malformed
  else .ok { l with pending := l.pending.filter fun p => !isStale l.cursor p.2 }

/-- Closes the block collections that are indented further than `column`. -/
def unwind (l : Lexer) (column : Int) : Lexer :=
  if l.flow ≠ 0 then l
  else
    let all := l.indent :: l.indents
    let closed := all.takeWhile fun i => column < i
    match all.drop closed.length with
    | [] => l
    | indent :: indents =>
      { l with
        indent := indent, indents := indents
        reversed := List.replicate closed.length .blockEnd ++ l.reversed
        count := l.count + closed.length }

/-- Opens a block collection in a column, if it is a new one. -/
def openBlock (l : Lexer) (column : Nat) (number : Nat) (t : Token) : Lexer :=
  if l.flow = 0 ∧ l.indent < column then
    { l.insert number t with indent := column, indents := l.indent :: l.indents }
  else l

/-- The place of the next token. After a line break in block context a key may start. -/
def skipBlanks (l : Lexer) : (fuel : Nat) → Lexer
  | 0 => l
  | fuel + 1 =>
    let c := l.cursor.skipWhile (· == ' ')
    let c := if c.here = some '#' then c.skipWhile fun ch => !isBreak ch else c
    if c.sees isBreak then
      skipBlanks ((l.move c.takeBreak.2).allowKey (l.keyAllowed || l.flow == 0)) fuel
    else l.move c

/-- The place of the first token: a byte order mark at the start of the text is passed over. -/
def skipMark (l : Lexer) : Lexer :=
  if l.cursor.index = 0 ∧ l.cursor.here = some byteOrderMark then l.move l.cursor.next else l

/-- The end of the text. -/
def finish (l : Lexer) : Except YamlError Lexer := do
  let l ← (l.unwind (-1)).dropKey
  return { ((l.allowKey false).push .streamEnd) with pending := [], finished := true }

/-- A directive. -/
def takeDirective (l : Lexer) : Except YamlError Lexer := do
  let l ← (l.unwind (-1)).dropKey
  let (d, c) ← Yaml.takeDirective l.cursor
  return ((l.allowKey false).move c).push (.directive d)

/-- A mark between documents. -/
def takeDocumentMark (l : Lexer) (t : Token) : Except YamlError Lexer := do
  let l ← (l.unwind (-1)).dropKey
  return ((l.allowKey false).move (l.cursor.skip 3)).push t

/-- The start of a flow collection, which may be a key. -/
def openFlow (l : Lexer) (t : Token) : Except YamlError Lexer := do
  let l ← l.saveKey
  return ({ l with flow := l.flow + 1, keyAllowed := true }.move l.cursor.next).push t

/-- The end of a flow collection. -/
def closeFlow (l : Lexer) (t : Token) : Except YamlError Lexer := do
  let l ← l.dropKey
  return ({ l with flow := l.flow - 1, keyAllowed := false }.move l.cursor.next).push t

/-- A comma in a flow collection. -/
def takeFlowEntry (l : Lexer) : Except YamlError Lexer := do
  let l ← l.dropKey
  return ((l.allowKey true).move l.cursor.next).push .flowEntry

/-- The mark of an entry, of a key or of a value without a key in front, in block context: it must
stand where a key may start, and may open a collection. -/
def takeBlockMark (l : Lexer) (opening mark : Token) (allowed : Bool) : Except YamlError Lexer := do
  if l.flow = 0 ∧ !l.keyAllowed then throw .malformed
  let l := l.openBlock l.cursor.column l.count opening
  let l ← l.dropKey
  return ((l.allowKey allowed).move l.cursor.next).push mark

/-- The mark of an entry of a block sequence. In a flow collection it opens nothing. -/
def takeBlockEntry (l : Lexer) : Except YamlError Lexer :=
  l.takeBlockMark .blockSequenceStart .blockEntry true

/-- The mark of a key. -/
def takeKey (l : Lexer) : Except YamlError Lexer :=
  l.takeBlockMark .blockMappingStart .key (l.flow == 0)

/-- The mark of a value: what is pending on this level is its key. -/
def takeValue (l : Lexer) : Except YamlError Lexer :=
  match l.pendingHere with
  | some k =>
    let l := l.forget.insert k.number .key
    let l := l.openBlock k.column k.number .blockMappingStart
    .ok (((l.allowKey false).move l.cursor.next).push .value)
  | none => l.takeBlockMark .blockMappingStart .value (l.flow == 0)

/-- The name of an anchor or an alias. -/
def takeAnchor (l : Lexer) (token : String → Token) : Except YamlError Lexer := do
  let l ← l.saveKey
  let (name, c) := l.cursor.next.takeWhile isNameCharacter
  if name = [] then throw .malformed
  if !(endsWord c.here || c.sees fun ch => "?:,]\x7d%@\u0060".toList.contains ch) then
    throw .malformed
  return ((l.allowKey false).move c).push (token (String.ofList name))

/-- A tag. -/
def takeTag (l : Lexer) : Except YamlError Lexer := do
  let l ← l.saveKey
  let (tag, c) ← Yaml.takeTag l.cursor
  return ((l.allowKey false).move c).push (.tag tag)

/-- A scalar of whole lines. -/
def takeBlockScalar (l : Lexer) (folded : Bool) : Except YamlError Lexer := do
  let l ← l.dropKey
  let (text, c) ← blockScalar folded l.indent l.cursor.next
  return ((l.allowKey true).move c).push (.scalar (text.map .char) false)

/-- A scalar in quotes. -/
def takeQuoted (l : Lexer) (quote : Char) : Except YamlError Lexer := do
  let l ← l.saveKey
  let c := l.cursor.next
  let (text, c) ← quotedRest quote (c.rest.length + 1) c
  return ((l.allowKey false).move c).push (.scalar text false)

/-- A plain scalar. A line break after it lets a key start. -/
def takePlain (l : Lexer) : Except YamlError Lexer := do
  let l ← l.saveKey
  let (text, gap) := plainScalar (l.flow ≠ 0) (l.indent + 1) l.cursor
  return ((l.allowKey gap.broken).move gap.cursor).push (.scalar (text.map .char) true)

/-- Whether a plain scalar starts here. -/
def seesPlain (l : Lexer) (ch : Char) : Bool :=
  let word := !endsWord (l.cursor.ahead 1)
  if ch = '-' then word
  else if ch = '?' ∨ ch = ':' then word && l.flow == 0
  else !endsWord (some ch) && !",[]\x7b\x7d#&*!|>'\"%@\u0060".toList.contains ch

/-- The next token, and those that indentation puts in front of it. -/
def step (l : Lexer) : Except YamlError Lexer := do
  let l ← (l.skipMark.skipBlanks (l.cursor.rest.length + 1)).dropStale
  let l := l.unwind l.cursor.column
  let c := l.cursor
  match c.here with
  | none => l.finish
  | some ch =>
    let block := l.flow == 0
    let wordEnds := endsWord (c.ahead 1)
    if ch = '%' ∧ c.column = 0 then l.takeDirective
    else if c.column = 0 ∧ c.seesMark ['-', '-', '-'] then l.takeDocumentMark .documentStart
    else if c.column = 0 ∧ c.seesMark ['.', '.', '.'] then l.takeDocumentMark .documentEnd
    else if ch = '[' then l.openFlow .flowSequenceStart
    else if ch = '\x7b' then l.openFlow .flowMappingStart
    else if ch = ']' then l.closeFlow .flowSequenceEnd
    else if ch = '\x7d' then l.closeFlow .flowMappingEnd
    else if ch = ',' then l.takeFlowEntry
    else if ch = '-' ∧ wordEnds then l.takeBlockEntry
    else if ch = '?' ∧ (!block || wordEnds) then l.takeKey
    else if ch = ':' ∧ (!block || wordEnds) then l.takeValue
    else if ch = '*' then l.takeAnchor .reference
    else if ch = '&' then l.takeAnchor .anchor
    else if ch = '!' then l.takeTag
    else if ch = '|' ∧ block then l.takeBlockScalar false
    else if ch = '>' ∧ block then l.takeBlockScalar true
    else if ch = '\'' ∨ ch = '"' then l.takeQuoted ch
    else if l.seesPlain ch then l.takePlain
    else throw .malformed

/-- The number of the first token that may still get tokens in front of it. -/
def settled (l : Lexer) : Nat :=
  (l.pending.filter fun p => !isStale l.cursor p.2).foldl (fun n p => min n p.2.number) l.count

/-- All tokens from here on. -/
def run : (fuel : Nat) → Lexer → List Token × Option YamlError
  | 0, l => (l.reversed.reverse, some .malformed)
  | fuel + 1, l =>
    if l.finished then (l.reversed.reverse, none)
    else
      match l.step with
      | .ok l' => run fuel l'
      | .error e => (l.reversed.reverse.take l.settled, some e)

end Lexer

/-- The tokens of a text, and how it goes wrong, if it does. -/
def tokens (cs : List Char) : List Token × Option YamlError :=
  Lexer.run (cs.length + 2) (.start cs)

end StorageHandler.Yaml
