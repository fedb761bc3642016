import StorageHandler.Cli.Form
import StorageHandler.Text.Cut

/-!
# The help of a program

The help shows the usage of a program, what it is for, its operand and its options. Lines are at
most `lineWidth` characters long, and what entries mean stands in a column of its own, at
`helpColumn`.
-/

namespace StorageHandler.Cli

/-- The longest line. -/
def lineWidth : Nat := 78

/-- Where the column starts that says what entries mean. -/
def helpColumn : Nat := 24

/-- Spaces. -/
def spaces (n : Nat) : String := String.ofList (List.replicate n ' ')

/-- Puts pieces on lines of at most `width` characters, with single spaces between them: a piece
that does not fit starts a line. `used` counts the characters on the line so far, and `line` holds
its pieces in reverse. -/
def fill (width : Nat) : (used : Nat) → (line : List String) → List String → List String
  | _, [], [] => []
  | _, line, [] => [" ".intercalate line.reverse]
  | used, line, piece :: pieces =>
    if line ≠ [] ∧ width < used + 1 + piece.length then
      " ".intercalate line.reverse :: fill width piece.length [piece] pieces
    else
      let used := if line = [] then piece.length else used + 1 + piece.length
      fill width used (piece :: line) pieces

/-- The lines of a text in `width` characters. -/
def wrap (width : Nat) (text : String) : List String := fill width 0 [] (Text.split ' ' text)

/-- An entry: its name `indent` characters in, and what it means in the column for that. A name that
reaches into the column has a line of its own. -/
def entryLines (indent : Nat) (name help : String) : List String :=
  let lines := wrap (lineWidth - helpColumn) help
  if name.length + indent + 2 ≤ helpColumn then
    match lines with
    | [] => [spaces indent ++ name]
    | line :: rest =>
      (spaces indent ++ name ++ spaces (helpColumn - indent - name.length) ++ line)
        :: rest.map (spaces helpColumn ++ ·)
  else (spaces indent ++ name) :: lines.map (spaces helpColumn ++ ·)

namespace Opt

/-- An option with the placeholder of its value, under one of its names. -/
def shown (o : Opt) (name : String) : String :=
  match o.value? with
  | none => name
  | some v => name ++ " " ++ v.placeholder

/-- An option in the usage, under its first name. -/
def usage (o : Opt) : String := "[" ++ o.shown (o.names.headD "") ++ "]"

/-- An option among the options of the help. -/
def lines (o : Opt) : List String :=
  entryLines 2 (", ".intercalate (o.names.map o.shown)) o.help

end Opt

namespace Operand

/-- The names that may stand for an operand. -/
def shown : Operand → String
  | .word name _ => name
  | .command _ choices => "\x7b" ++ ",".intercalate (choices.map Prod.fst) ++ "\x7d"

/-- The pieces of the usage for an operand. -/
def usage : Operand → List String
  | .word name _ => [name]
  | o => [o.shown, "..."]

/-- An operand in the help. -/
def lines : Operand → List String
  | .word name help => entryLines 2 name help
  | .command name choices =>
    (spaces 2 ++ (Operand.command name choices).shown)
      :: choices.flatMap fun c => entryLines 4 c.1 c.2

end Operand

namespace Form

/-- What stands before the program in its usage. -/
def usageStart : String := "usage: "

/-- The lines that show how a program is used: one if that is enough, else the options and then the
operand, below each other after the name of the program. -/
def usageLines (f : Form) : List String :=
  let options := f.options.map Opt.usage
  let operands := (f.operand?.map Operand.usage).getD []
  let start := usageStart ++ f.program
  let line := " ".intercalate (start :: options ++ operands)
  if line.length ≤ lineWidth then [line]
  else
    let width := lineWidth - (start.length + 1)
    match fill width 0 [] options ++ fill width 0 [] operands with
    | [] => [start]
    | first :: rest =>
      (start ++ " " ++ first) :: rest.map (spaces (start.length + 1) ++ ·)

/-- The help. Its sections have empty lines between them. -/
def help (f : Form) : String :=
  let description := if f.description = "" then [] else [[f.description]]
  let operand := match f.operand? with
    | none => []
    | some o => ["positional arguments:" :: o.lines]
  let options := ["options:" :: f.options.flatMap Opt.lines]
  let sections := f.usageLines :: description ++ operand ++ options
  "\n\n".intercalate (sections.map fun lines => "\n".intercalate lines) ++ "\n"

end Form

end StorageHandler.Cli
