import StorageHandler.Text.Numeral
import StorageHandler.Text.Point
import StorageHandler.Yaml.Cursor

/-!
# Quoted scalars

A scalar between quotes. A line break in it counts as a blank, further ones as themselves, and
blanks around breaks do not count. Between single quotes, two of them are one; between double
quotes, a backslash escapes.
-/

namespace StorageHandler.Yaml

/-- What a character stands for after a backslash. -/
def escapes : List (Char × Char) :=
  [('0', '\x00'), ('a', '\x07'), ('b', '\x08'), ('t', '\t'), ('\t', '\t'), ('n', '\n'),
   ('v', '\x0b'), ('f', '\x0c'), ('r', '\r'), ('e', '\x1b'), (' ', ' '), ('"', '"'),
   ('\\', '\\'), ('/', '/'), ('N', '\u0085'), ('_', '\u00a0'), ('L', '\u2028'), ('P', '\u2029')]

/-- How many hexadecimal digits follow the letters that announce a character code. -/
def codeLengths : List (Char × Nat) := [('x', 2), ('u', 4), ('U', 8)]

/-- Whether a character is a hexadecimal digit of ASCII. -/
def isHexDigit (c : Char) : Bool :=
  c.isDigit || ('a' ≤ c && c ≤ 'f') || ('A' ≤ c && c ≤ 'F')

/-- The number that hexadecimal digits write. -/
def hexNumber (ds : List Char) : Nat :=
  Text.Numeral.ofDigits 16 (ds.filterMap Text.Numeral.digit?)

/-- The code of `n` hexadecimal digits, and the place after them. -/
def takeCode (n : Nat) (c : Cursor) : Except YamlError (Nat × Cursor) :=
  let (ds, c') := c.take n
  if ds.length = n ∧ ds.all isHexDigit then .ok (hexNumber ds, c') else .error .malformed

/-- The code point of a code. -/
def pointOf (code : Nat) : Except YamlError Text.Point :=
  if 0x7FFFFFFF < code then .error .tooLarge
  else if 0x10FFFF < code then .error .badValue
  else .ok (.ofCode code)

/-- A space or a tab. -/
def isInnerBlank (c : Char) : Bool := c == ' ' || c == '\t'

/-- The breaks among blanks, and the place after them. -/
def quotedBreaks : (fuel : Nat) → Cursor → Except YamlError (List Char × Cursor)
  | 0, c => .ok ([], c)
  | fuel + 1, c =>
    if c.seesDocumentMark then .error .malformed
    else
      let c := c.skipWhile isInnerBlank
      if c.sees isBreak then do
        let (br, c) := c.takeBreak
        let (more, c) ← quotedBreaks fuel c
        return (br ++ more, c)
      else .ok ([], c)

/-- What the break here and those after it count for, and the place after them. -/
def quotedFold (c : Cursor) : Except YamlError (List Char × Cursor) := do
  let (br, c) := c.takeBreak
  let (breaks, c) ← quotedBreaks (c.rest.length + 1) c
  let folded := if br ≠ ['\n'] then br else if breaks = [] then [' '] else []
  return (folded ++ breaks, c)

/-- What the escape after a backslash stands for, and the place after it. -/
def takeEscape (c : Cursor) : Except YamlError (List Text.Point × Cursor) :=
  match c.rest with
  | [] => .error .malformed
  | ch :: _ =>
    match escapes.lookup ch, codeLengths.lookup ch with
    | some r, _ => .ok ([.char r], c.next)
    | none, some n => do
      let (code, c) ← takeCode n c.next
      return ([← pointOf code], c)
    | none, none =>
      if isBreak ch then do
        let (breaks, c) ← quotedBreaks (c.rest.length + 1) c.takeBreak.2
        return (breaks.map .char, c)
      else .error .malformed

/-- The rest of a scalar up to its closing quote, and the place after that. -/
def quotedRest (quote : Char) : (fuel : Nat) → Cursor →
    Except YamlError (List Text.Point × Cursor)
  | 0, _ => .error .malformed
  | fuel + 1, c =>
    match c.rest with
    | [] => .error .malformed
    | ch :: cs =>
      if ch = quote then
        if quote = '\'' ∧ cs.head? = some '\'' then do
          let (more, c) ← quotedRest quote fuel (c.skip 2)
          return (.char '\'' :: more, c)
        else .ok ([], c.next)
      else if isBreak ch then do
        let (text, c) ← quotedFold c
        let (more, c) ← quotedRest quote fuel c
        return (text.map .char ++ more, c)
      else if ch = ' ' ∨ ch = '\t' then do
        let (blanks, c) := c.takeWhile isInnerBlank
        let (more, last) ← quotedRest quote fuel c
        return (if c.sees isBreak then more else blanks.map .char ++ more, last)
      else if ch = '\\' ∧ quote = '"' then do
        let (text, c) ← takeEscape c.next
        let (more, c) ← quotedRest quote fuel c
        return (text ++ more, c)
      else do
        let (more, c) ← quotedRest quote fuel c.next
        return (.char ch :: more, c)

end StorageHandler.Yaml
