import StorageHandler.Yaml.Error

/-!
# Cursors

A place in a text: what is still to be read, and how far, on which line and in which column it
stands. Byte order marks do not count as columns.
-/

namespace StorageHandler.Yaml

/-- The byte order mark. -/
def byteOrderMark : Char := '\ufeff'

/-- The characters that a text may hold. -/
def isAllowed (c : Char) : Bool :=
  let n := c.toNat
  n == 0x09 || n == 0x0A || n == 0x0D || (0x20 ≤ n && n ≤ 0x7E) || n == 0x85
    || (0xA0 ≤ n && n ≤ 0xD7FF) || (0xE000 ≤ n && n ≤ 0xFFFD) || 0x10000 ≤ n

/-- The characters that end a line. -/
def isBreak (c : Char) : Bool :=
  c == '\n' || c == '\u0085' || c == '\u2028' || c == '\u2029'

/-- Whether the line ends here: at a break, or with the text. -/
def endsLine : Option Char → Bool
  | none => true
  | some c => isBreak c

/-- Whether a space or the end of the line is here. -/
def endsField (c : Option Char) : Bool := c == some ' ' || endsLine c

/-- Whether a space, a tab or the end of the line is here. -/
def endsWord (c : Option Char) : Bool := c == some '\t' || endsField c

/-- The characters of names of anchors, handles and directives. -/
def isNameCharacter (c : Char) : Bool := c.isAlphanum || c == '-' || c == '_'

/-- A place in a text. -/
structure Cursor where
  rest : List Char
  index : Nat
  line : Nat
  column : Nat

namespace Cursor

/-- The start of a text. -/
def start (cs : List Char) : Cursor := ⟨cs, 0, 0, 0⟩

/-- The character here. -/
def here (c : Cursor) : Option Char := c.rest.head?

/-- The character `n` places on. -/
def ahead (c : Cursor) (n : Nat) : Option Char := c.rest[n]?

/-- Whether the character here satisfies `p`. -/
def sees (c : Cursor) (p : Char → Bool) : Bool :=
  match c.rest with
  | [] => false
  | ch :: _ => p ch

/-- The next place. -/
def next (c : Cursor) : Cursor :=
  match c.rest with
  | [] => c
  | ch :: rest =>
    if isBreak ch then ⟨rest, c.index + 1, c.line + 1, 0⟩
    else ⟨rest, c.index + 1, c.line, if ch = byteOrderMark then c.column else c.column + 1⟩

/-- The place `n` places on. -/
def skip (c : Cursor) : Nat → Cursor
  | 0 => c
  | n + 1 => c.next.skip n

/-- The next `n` characters and the place after them. -/
def take (c : Cursor) (n : Nat) : List Char × Cursor := (c.rest.take n, c.skip n)

/-- The next characters that satisfy `p` and the place after them. -/
def takeWhile (c : Cursor) (p : Char → Bool) : List Char × Cursor :=
  c.take (c.rest.takeWhile p).length

/-- The place after the next characters that satisfy `p`. -/
def skipWhile (c : Cursor) (p : Char → Bool) : Cursor := (c.takeWhile p).2

/-- The break here as it counts in a text, if there is one, and the place after it. -/
def takeBreak (c : Cursor) : List Char × Cursor :=
  match c.rest with
  | ch :: _ =>
    if ch = '\n' ∨ ch = '\u0085' then (['\n'], c.next)
    else if isBreak ch then ([ch], c.next)
    else ([], c)
  | [] => ([], c)

/-- Whether the three characters `mark` stand here as a word of their own. -/
def seesMark (c : Cursor) (mark : List Char) : Bool :=
  c.rest.take 3 == mark && endsWord (c.ahead 3)

/-- Whether a mark between documents stands here. -/
def seesDocumentMark (c : Cursor) : Bool :=
  c.seesMark ['-', '-', '-'] || c.seesMark ['.', '.', '.']

/-- The place after the rest of a line that holds nothing but blanks and a comment. -/
def finishLine (c : Cursor) : Except YamlError Cursor :=
  let c := c.skipWhile (· == ' ')
  let c := if c.here = some '#' then c.skipWhile fun ch => !isBreak ch else c
  if endsLine c.here then .ok c.takeBreak.2 else .error .malformed

end Cursor

end StorageHandler.Yaml
