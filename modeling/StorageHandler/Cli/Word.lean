import StorageHandler.Cli.Form
import StorageHandler.Cli.Misuse
import StorageHandler.Text.Cut
import StorageHandler.Text.Digit

/-!
# The words of a command line

Before anything is read, every word gets its role. A word that starts with a dash is an option,
under its name or a shortened one, with a value after `=` or right after a single letter. It is no
option if it is a single dash, a negative number, or a text with a space that no option explains.
Two dashes on their own are a marker, and no word after it is an option.
-/

namespace StorageHandler.Cli

/-- What a word is. -/
inductive Role where
  | plain
  /-- The marker after which no options follow. -/
  | marker
  /-- An option that the program does not have. -/
  | unknown
  /-- An option under one of its names, with the value that stands in the same word. -/
  | option (option : Opt) (name : String) (attached : Option (List Char))
  deriving DecidableEq, Repr

/-- A word and its role. -/
structure Word where
  text : String
  role : Role
  deriving DecidableEq, Repr

/-- Whether all characters are decimal digits, and there is one. -/
def areDigits (cs : List Char) : Bool :=
  cs ≠ [] && cs.all fun c => (Text.digitValue? c).isSome

/-- Whether what follows a dash is a number: digits, with at most one point among or before them. A
line end after the number does not matter. -/
def isNumber (cs : List Char) : Bool :=
  let cs := if cs.getLast? = some '\n' then cs.dropLast else cs
  match Text.cutList '.' cs with
  | (whole, none) => areDigits whole
  | (whole, some fraction) => (whole = [] || areDigits whole) && areDigits fraction

namespace Form

/-- The options that a word after two dashes can shorten. -/
def longCandidates (f : Form) (cs : List Char) : List Role :=
  let (start, value) := Text.cutList '=' cs
  (f.names.filter fun e => start.isPrefixOf e.1.toList).map fun e =>
    .option e.2 e.1 value

/-- The options that a word after one dash can mean: a single letter with its value, or the start of
a name. -/
def shortCandidates (f : Form) (cs : List Char) : List Role :=
  f.names.filterMap fun e =>
    if e.1.toList = cs.take 2 then some (.option e.2 e.1 (some (cs.drop 2)))
    else if cs.isPrefixOf e.1.toList then some (.option e.2 e.1 none)
    else none

/-- The name in a role. -/
def roleName : Role → Option String
  | .option _ name _ => some name
  | _ => none

/-- What a word after a dash is: an option by its exact name, else by a shortened one; else a plain
word if it is a number or has a space; else unknown. -/
def dashedRole (f : Form) (word : String) : Except Misuse Role :=
  let cs := word.toList
  let (start, value) := Text.cut '=' word
  match f.option? word, f.option? start, value with
  | some o, _, _ => .ok (.option o word none)
  | none, some o, some v => .ok (.option o start (some v.toList))
  | _, _, _ =>
    match if cs[1]? = some '-' then f.longCandidates cs else f.shortCandidates cs with
    | [role] => .ok role
    | [] =>
      if isNumber (cs.drop 1) || cs.contains ' ' then .ok .plain else .ok .unknown
    | roles => .error (.ambiguous word (roles.filterMap roleName))

/-- The role of a word before the marker. -/
def role (f : Form) (word : String) : Except Misuse Role :=
  match word.toList with
  | '-' :: _ :: _ => f.dashedRole word
  | _ => .ok .plain

/-- The words of a command line with their roles. -/
def words (f : Form) : List String → Except Misuse (List Word)
  | [] => .ok []
  | word :: rest =>
    if word = "--" then .ok (⟨word, .marker⟩ :: rest.map fun w => ⟨w, .plain⟩)
    else do
      let role ← f.role word
      let following ← f.words rest
      return ⟨word, role⟩ :: following

end Form

end StorageHandler.Cli
