import StorageHandler.Cli.Command
import StorageHandler.Cli.Help
import StorageHandler.Cli.Reading

/-!
# The program

The forms of the program and of its commands, and what a run of the program leaves: an exit code and
what it writes. A command that succeeds writes to the output and ends with 0; a failure of the
library ends with 1 and a misuse with 2, and both write to the errors alone. Any other failure
leaves as it is.
-/

namespace StorageHandler.Cli

/-- What a run of the program leaves. -/
structure Outcome where
  code : Nat
  output : String
  errors : String
  deriving DecidableEq, Repr

/-- The name of the program. -/
def programName : String := "hive-kudu"

/-- The commands by name, and what the help says about them. -/
def commandHelp : List (String × String) :=
  [("master-addresses", "Resolve Kudu master addresses from job and table settings"),
    ("hive-type", "Print the Hive type for a Kudu column type"),
    ("inspect-tokens", "List alias, kind, and service of stored delegation tokens")]

/-- What the program takes. -/
def programForm : Form :=
  { program := programName
    description := "Hive/Kudu bridge CLI"
    options := [helpOption]
    operand? := some (.command "command" commandHelp) }

/-- The option for the configuration file. -/
def confFileOption : Opt :=
  textOption "--conf-file" "CONF_FILE" "Optional flat YAML job configuration file"

/-- The option for a setting. -/
def settingOption : Opt := textOption "--set" "KEY=VALUE" "Job configuration entry, repeatable"

/-- The option for a table property. -/
def tablePropertyOption : Opt :=
  textOption "--table-prop" "KEY=VALUE" "Table property overriding job configuration, repeatable"

/-- The option for the precision of a decimal. -/
def precisionOption : Opt := integerOption "--precision" "PRECISION" "Decimal precision"

/-- The option for the scale of a decimal. -/
def scaleOption : Opt := integerOption "--scale" "SCALE" "Decimal scale"

/-- The option for the token file. -/
def tokenFileOption : Opt :=
  textOption "--token-file" "TOKEN_FILE" ("Token storage file, defaults to " ++ tokenFileVariable)

/-- What a command takes, and the command that a reading asks for. -/
structure CommandForm where
  form : Form
  command : Reading → Command

/-- A form for a command of the program. -/
def commandForm (name : String) (options : List Opt) (operand : Option Operand) : Form :=
  { program := programName ++ " " ++ name
    description := ""
    options := helpOption :: options
    operand? := operand }

/-- The forms of the commands by name. -/
def commandForms : List (String × CommandForm) :=
  [("master-addresses",
      { form := commandForm "master-addresses"
          [confFileOption, settingOption, tablePropertyOption] none
        command := fun r =>
          .masterAddresses (r.text? confFileOption.label) (r.texts settingOption.label)
            (r.texts tablePropertyOption.label) }),
    ("hive-type",
      { form := commandForm "hive-type" [precisionOption, scaleOption]
          (some (.word "kudu_type" "Kudu type name, e.g. INT32 or DECIMAL"))
        command := fun r =>
          .hiveType (r.operand.headD "") (r.integer? precisionOption.label)
            ((r.integer? scaleOption.label).getD (.value 0)) }),
    ("inspect-tokens",
      { form := commandForm "inspect-tokens" [tokenFileOption] none
        command := fun r => .inspectTokens (r.text? tokenFileOption.label) })]

/-- A misuse ends a program with its message. -/
def Misuse.outcome (error : Misuse) (program : String) : Outcome :=
  ⟨2, "", program ++ ": error: " ++ error.message ++ "\n"⟩

/-- How a program ends whose command line stopped early. -/
def Form.outcome (f : Form) : Stop → Outcome
  | .help => ⟨0, f.help, ""⟩
  | .misuse error => error.outcome f.program

/-- The command that a command line asks for, or how the program ends without one. The words that
neither the program nor the command takes are refused at the end. -/
def Command.ofArguments (arguments : List String) : Except Outcome Command := do
  let r ← (programForm.read arguments).mapError programForm.outcome
  let name := r.operand.headD ""
  match (commandForms.find? fun c => c.1 = name).map Prod.snd with
  | none => throw ((Misuse.unsupported name).outcome programName)
  | some c =>
    let own ← (c.form.read r.operand.tail).mapError c.form.outcome
    match r.strays ++ own.strays with
    | [] => return c.command own
    | strays => throw ((Misuse.strayWords strays).outcome programName)

/-- What a run of a command leaves. -/
def Command.outcome (reader : Option Yaml.Reader) (env : Environment) (fs : FileSystem)
    (c : Command) : Except Failure Outcome :=
  match c.print reader env fs with
  | .ok text => .ok ⟨0, text, ""⟩
  | .error f =>
    if f.kind.isOwn then .ok ⟨1, "", "error: " ++ f.message ++ "\n"⟩ else .error f

/-- What a run of the program leaves. -/
def run (reader : Option Yaml.Reader) (env : Environment) (fs : FileSystem)
    (arguments : List String) : Except Failure Outcome :=
  match Command.ofArguments arguments with
  | .error outcome => .ok outcome
  | .ok command => command.outcome reader env fs

end StorageHandler.Cli
