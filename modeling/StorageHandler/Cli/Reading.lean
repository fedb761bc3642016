import StorageHandler.Cli.Word
import StorageHandler.Text.Numeral

/-!
# Reading a command line

The words of a command line are read from left to right: an option takes the value in its word or
the plain word after it, the operand takes the first plain word, and what nothing takes is left as a
stray word. Two dashes as the value in a word are void. `Form.read` stops at the first misuse, or at
the first option that asks for the help.
-/

namespace StorageHandler.Cli

/-- What an option was given. -/
inductive Given (α : Type) where
  | value (a : α)
  /-- Two dashes, which are never a value. -/
  | void
  deriving DecidableEq, Repr

/-- The value of an option. -/
inductive Value where
  | text (s : String)
  | integer (i : Int)
  deriving DecidableEq, Repr

/-- What a command line gives a program. -/
structure Reading where
  /-- The options that were given, by their labels, in order. -/
  given : List (String × Given Value)
  /-- The words of the operand; none if it was not given. -/
  operand : List String
  /-- The words that nothing takes, in order. -/
  strays : List String
  deriving DecidableEq, Repr

/-- Why reading ends early. -/
inductive Stop where
  /-- The help was asked for. -/
  | help
  | misuse (error : Misuse)
  deriving DecidableEq, Repr

namespace Reading

/-- The reading of an empty command line. -/
def empty : Reading := ⟨[], [], []⟩

/-- The reading with an option in front. -/
def give (label : String) (value : Given Value) (r : Reading) : Reading :=
  { r with given := (label, value) :: r.given }

/-- The reading with a stray word in front. -/
def stray (word : String) (r : Reading) : Reading := { r with strays := word :: r.strays }

/-- All that an option for texts was given, in order. -/
def texts (r : Reading) (label : String) : List (Given String) :=
  (r.given.filter fun e => e.1 = label).filterMap fun
    | (_, .value (.text s)) => some (.value s)
    | (_, .void) => some .void
    | _ => none

/-- The text that an option was given last, unless that was void. -/
def text? (r : Reading) (label : String) : Option String :=
  match (r.texts label).getLast? with
  | some (.value s) => some s
  | _ => none

/-- What an option for integers was given last. -/
def integer? (r : Reading) (label : String) : Option (Given Int) :=
  ((r.given.filter fun e => e.1 = label).filterMap fun
    | (_, .value (.integer i)) => some (.value i)
    | (_, .void) => some .void
    | _ => none).getLast?

end Reading

/-- Reads what an option is given. -/
def ValueForm.read (v : ValueForm) (label text : String) : Except Misuse (Given Value) :=
  if text = "--" then .ok .void
  else if v.isInteger then
    match Text.Numeral.read? .decimal text with
    | some i => .ok (.value (.integer i))
    | none => .error (.notInteger label text)
  else .ok (.value (.text text))

namespace Form

/-- The option under a single letter. -/
def letter? (f : Form) (c : Char) : Option Opt := f.option? (String.ofList ['-', c])

/-- What is refused of the letters `cs` after the one-letter option `o`, which takes no value: each
of them must be a one-letter option. An option that takes what follows as its value ends the
test. -/
def refused? (f : Form) (o : Opt) : (cs : List Char) → Option Misuse
  | [] => some (.valueUnwanted o.label "")
  | c :: cs =>
    match f.letter? c with
    | none => some (.valueUnwanted o.label (String.ofList (c :: cs)))
    | some next => if cs = [] ∨ next.value?.isSome then none else refused? f next cs

/-- How an option without a value ends the reading: with the help, unless it has a value. -/
def stopAt (f : Form) (o : Opt) (name : String) : (attached : Option (List Char)) → Stop
  | none => .help
  | some cs =>
    if name.toList[1]? = some '-' then .misuse (.valueUnwanted o.label (String.ofList cs))
    else match f.refused? o cs with
      | some error => .misuse error
      | none => .help

/-- The words of an operand that takes the rest of the line. -/
def commandLine (label : String) (choices : List (String × String)) (line : List String) :
    Except Stop Reading :=
  match line with
  | [] => .ok .empty
  | command :: _ =>
    if command ∈ choices.map Prod.fst then .ok { Reading.empty with operand := line }
    else .error (.misuse (.unknownChoice label command (choices.map Prod.fst)))

/-- Reads words while `wanted` is the operand that is still to come. -/
def readWords (f : Form) : (wanted : Option Operand) → List Word → Except Stop Reading
  | _, [] => .ok .empty
  | wanted, ⟨_, .option o name attached⟩ :: ws =>
    match o.value?, attached with
    | none, attached => .error (f.stopAt o name attached)
    | some v, some cs => do
      let value ← (v.read o.label (String.ofList cs)).mapError .misuse
      return (← f.readWords wanted ws).give o.label value
    | some v, none =>
      match ws with
      | ⟨text, .plain⟩ :: ws => do
        let value ← (v.read o.label text).mapError .misuse
        return (← f.readWords wanted ws).give o.label value
      | _ => .error (.misuse (.valueMissing o.label))
  | wanted, ⟨text, .unknown⟩ :: ws => (f.readWords wanted ws).map (·.stray text)
  | some (.command label choices), ⟨text, .plain⟩ :: ws =>
    commandLine label choices (text :: ws.map Word.text)
  | some (.command label choices), ⟨text, .marker⟩ :: w :: ws =>
    commandLine label choices (text :: (w :: ws).map Word.text)
  | some (.word ..), ⟨_, .marker⟩ :: ⟨text, .plain⟩ :: ws
  | some (.word ..), ⟨text, .plain⟩ :: ⟨_, .marker⟩ :: ws
  | some (.word ..), ⟨text, .plain⟩ :: ws =>
    (f.readWords none ws).map fun r => { r with operand := [text] }
  | wanted, ⟨text, _⟩ :: ws => (f.readWords wanted ws).map (·.stray text)

/-- What a command line gives a program. The operand must be there. -/
def read (f : Form) (line : List String) : Except Stop Reading := do
  let ws ← (f.words line).mapError .misuse
  let r ← f.readWords f.operand? ws
  match f.operand?, r.operand with
  | some operand, [] => throw (.misuse (.operandMissing operand.label))
  | _, _ => return r

end Form

end StorageHandler.Cli
