import StorageHandler.Yaml.Cursor

/-!
# Block scalars

A scalar of whole lines that are indented further than what holds it. In a folded one a line break
counts as a blank, unless a line next to it starts with a blank. What happens to the breaks at the
end is said after the mark, and so can be the indentation.
-/

namespace StorageHandler.Yaml

/-- What happens to the breaks at the end of a block scalar. -/
inductive Chomping where
  | strip | clip | keep
  deriving DecidableEq, Repr

/-- What stands after the mark of a block scalar. -/
structure BlockHeader where
  chomping : Chomping
  /-- How much further the lines are indented, if it is said. -/
  increment : Option Nat

/-- The chomping that a sign asks for, if one stands here. -/
def takeChomping (c : Cursor) : Option Chomping × Cursor :=
  match c.here with
  | some '+' => (some .keep, c.next)
  | some '-' => (some .strip, c.next)
  | _ => (none, c)

/-- The increment that a digit asks for, if one stands here. It is not zero. -/
def takeIncrement (c : Cursor) : Except YamlError (Option Nat × Cursor) :=
  match c.here with
  | some d =>
    if d = '0' then .error .malformed
    else if d.isDigit then .ok (some (d.toNat - '0'.toNat), c.next)
    else .ok (none, c)
  | none => .ok (none, c)

/-- The header here, and the start of the next line. -/
def takeHeader (c : Cursor) : Except YamlError (BlockHeader × Cursor) := do
  let (before, c) := takeChomping c
  let (increment, c) ← takeIncrement c
  let (after, c) := if before.isNone ∧ increment.isSome then takeChomping c else (none, c)
  if !endsField c.here then throw .malformed
  let c ← c.finishLine
  return (⟨(before <|> after).getD .clip, increment⟩, c)

/-- The breaks at the start of a block scalar, the widest indentation among them, and the place
after them. -/
def leadingBreaks : (fuel : Nat) → Cursor → Nat → List Char × Nat × Cursor
  | 0, c, widest => ([], widest, c)
  | fuel + 1, c, widest =>
    if c.sees (· == ' ') then leadingBreaks fuel c.next (max widest c.next.column)
    else if c.sees isBreak then
      let (br, c) := c.takeBreak
      let (more, widest, c) := leadingBreaks fuel c widest
      (br ++ more, widest, c)
    else ([], widest, c)

/-- The place in the column `indent`, or before it where something else than a space stands. -/
def skipIndent (indent : Nat) (c : Cursor) : Cursor :=
  c.skip (min (indent - c.column) (c.rest.takeWhile (· == ' ')).length)

/-- The breaks of empty lines, and the place after them. -/
def emptyLines (indent : Nat) : (fuel : Nat) → Cursor → List Char × Cursor
  | 0, c => ([], c)
  | fuel + 1, c =>
    let c := skipIndent indent c
    if c.sees isBreak then
      let (br, c) := c.takeBreak
      let (more, c) := emptyLines indent fuel c
      (br ++ more, c)
    else ([], c)

/-- Whether a line of the scalar starts here. -/
def seesLine (indent : Nat) (c : Cursor) : Bool := c.column == indent && !c.rest.isEmpty

/-- Whether a space or a tab is here. -/
def seesBlank (c : Cursor) : Bool := c.sees fun ch => ch == ' ' || ch == '\t'

/-- The lines of a block scalar from here on; `breaks` are the breaks of the empty lines before. The
other results are the last break, the breaks after it, and the place after them. -/
def blockLines (folded : Bool) (indent : Nat) : (fuel : Nat) → (breaks : List Char) → Cursor →
    List Char × List Char × List Char × Cursor
  | 0, breaks, c => ([], [], breaks, c)
  | fuel + 1, breaks, c =>
    if !seesLine indent c then ([], [], breaks, c)
    else
      let startsBlank := seesBlank c
      let (line, c) := c.takeWhile fun ch => !isBreak ch
      let (br, c) := c.takeBreak
      let (after, c) := emptyLines indent (c.rest.length + 1) c
      if seesLine indent c then
        let joint :=
          if folded && br == ['\n'] && !startsBlank && !seesBlank c then
            if after = [] then [' '] else []
          else br
        let (more, last, rest, c) := blockLines folded indent fuel after c
        (breaks ++ line ++ joint ++ more, last, rest, c)
      else (breaks ++ line, br, after, c)

/-- The block scalar after its mark, inside something indented by `indent`, and the place after
it. -/
def blockScalar (folded : Bool) (indent : Int) (c : Cursor) :
    Except YamlError (List Char × Cursor) := do
  let (header, c) ← takeHeader c
  let least := (max (indent + 1) 1).toNat
  let (breaks, width, c) :=
    match header.increment with
    | none =>
      let (breaks, widest, c) := leadingBreaks (c.rest.length + 1) c 0
      (breaks, max least widest, c)
    | some n =>
      let width := least + n - 1
      let (breaks, c) := emptyLines width (c.rest.length + 1) c
      (breaks, width, c)
  let (text, last, after, c) := blockLines folded width (c.rest.length + 1) breaks c
  let final := match header.chomping with
    | .strip => []
    | .clip => last
    | .keep => last ++ after
  return (text ++ final, c)

end StorageHandler.Yaml
