import StorageHandler.Yaml.Cursor

/-!
# Plain scalars

A scalar without quotes runs to a colon before a blank, to a comment, or to a line that is not
indented far enough; in a flow collection the marks of the collection end it too. A line break in it
counts as a blank, further ones as themselves.
-/

namespace StorageHandler.Yaml

/-- Whether a plain scalar ends before `c`, given the character after it. -/
def endsPlain (flow : Bool) (c : Char) (next : Option Char) : Bool :=
  endsWord (some c)
    || (c == ':' && (endsWord next || (flow && next.any fun n => ",[]\x7b\x7d".toList.contains n)))
    || (flow && ",?[]\x7b\x7d".toList.contains c)

/-- How many characters of a plain scalar stand here. -/
def plainLength (flow : Bool) : List Char → Nat
  | [] => 0
  | c :: cs => if endsPlain flow c cs.head? then 0 else plainLength flow cs + 1

/-- The breaks among blanks and the place after them; nothing if a mark between documents comes
up. -/
def plainBreaks : (fuel : Nat) → Cursor → Option (List Char) × Cursor
  | 0, c => (some [], c)
  | fuel + 1, c =>
    if c.sees (· == ' ') then plainBreaks fuel c.next
    else if c.sees isBreak then
      let (br, c) := c.takeBreak
      if c.seesDocumentMark then (none, c)
      else
        let (breaks, c) := plainBreaks fuel c
        (breaks.map (br ++ ·), c)
    else (some [], c)

/-- What stands between two words of a plain scalar, as it counts in its text. -/
structure Gap where
  text : List Char
  broken : Bool
  cursor : Cursor

/-- The gap here. It is empty before a mark between documents. -/
def plainGap (c : Cursor) : Gap :=
  let (blanks, c) := c.takeWhile (· == ' ')
  if c.sees isBreak then
    let (br, c) := c.takeBreak
    if c.seesDocumentMark then ⟨[], true, c⟩
    else
      match plainBreaks (c.rest.length + 1) c with
      | (none, c) => ⟨[], true, c⟩
      | (some breaks, c) =>
        let folded := if br ≠ ['\n'] then br else if breaks = [] then [' '] else []
        ⟨folded ++ breaks, true, c⟩
  else ⟨blanks, false, c⟩

/-- The words of a plain scalar and the gaps between them, from the gap `gap` on. -/
def plainWords (flow : Bool) (indent : Int) : (fuel : Nat) → Gap → List Char × Gap
  | 0, gap => ([], gap)
  | fuel + 1, gap =>
    let n := plainLength flow gap.cursor.rest
    if gap.cursor.here = some '#' ∨ n = 0 then ([], gap)
    else
      let (word, c) := gap.cursor.take n
      let next := plainGap c
      if next.text = [] ∨ next.cursor.here = some '#'
          ∨ (!flow && (next.cursor.column : Int) < indent) then
        (gap.text ++ word, next)
      else
        let (more, last) := plainWords flow indent fuel next
        (gap.text ++ word ++ more, last)

/-- The plain scalar here, and what follows it. In block context every line of it is indented by
`indent` at least. -/
def plainScalar (flow : Bool) (indent : Int) (c : Cursor) : List Char × Gap :=
  plainWords flow indent (c.rest.length + 1) ⟨[], false, c⟩

end StorageHandler.Yaml
