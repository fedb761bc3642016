/-!
# What a program takes

A form lists what may stand on the command line of a program: options, of which each has one or more
names, and at most one operand. An option without a value asks for the help.
-/

namespace StorageHandler.Cli

/-- The value of an option. -/
structure ValueForm where
  /-- What the help calls it. -/
  placeholder : String
  /-- Whether it is an integer; otherwise it is any text. -/
  isInteger : Bool
  deriving DecidableEq, Repr

/-- An option of a program. -/
structure Opt where
  names : List String
  /-- The value; an option without one asks for the help. -/
  value? : Option ValueForm
  help : String
  deriving DecidableEq, Repr

/-- All names of an option, as messages write them. -/
def Opt.label (o : Opt) : String := "/".intercalate o.names

/-- The operand of a program. -/
inductive Operand where
  /-- One word. -/
  | word (name help : String)
  /-- The name of a command, which takes the rest of the line. Every command has its own help. -/
  | command (name : String) (choices : List (String × String))
  deriving DecidableEq, Repr

/-- What messages call an operand. -/
def Operand.label : Operand → String
  | .word name _ => name
  | .command name _ => name

/-- What a program takes. -/
structure Form where
  /-- What messages call the program. -/
  program : String
  /-- What the help says about the program. -/
  description : String
  options : List Opt
  operand? : Option Operand
  deriving DecidableEq, Repr

namespace Form

/-- Every name of every option, in order. -/
def names (f : Form) : List (String × Opt) :=
  f.options.flatMap fun o => o.names.map fun name => (name, o)

/-- The option of a name. -/
def option? (f : Form) (name : String) : Option Opt :=
  (f.names.find? fun e => e.1 = name).map Prod.snd

end Form

/-- The option that every program has. -/
def helpOption : Opt := ⟨["-h", "--help"], none, "show this help message and exit"⟩

/-- An option with a text. -/
def textOption (name placeholder help : String) : Opt := ⟨[name], some ⟨placeholder, false⟩, help⟩

/-- An option with an integer. -/
def integerOption (name placeholder help : String) : Opt := ⟨[name], some ⟨placeholder, true⟩, help⟩

end StorageHandler.Cli
