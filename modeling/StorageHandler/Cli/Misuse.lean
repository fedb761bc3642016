import StorageHandler.Text.Quoted

/-!
# Misuse

Why a command line is refused, and what a program says then.
-/

namespace StorageHandler.Cli

/-- Why a command line is refused. -/
inductive Misuse where
  /-- A shortened option stands for more than one. -/
  | ambiguous (word : String) (candidates : List String)
  /-- An option lacks its value. -/
  | valueMissing (label : String)
  /-- An option that takes no value has one. -/
  | valueUnwanted (label value : String)
  /-- The value of an option is no integer. -/
  | notInteger (label value : String)
  /-- There is no such command. -/
  | unknownChoice (label value : String) (choices : List String)
  /-- The operand is not there. -/
  | operandMissing (label : String)
  /-- There are words that nothing takes. -/
  | strayWords (words : List String)
  /-- There is no program for a command. -/
  | unsupported (command : String)
  deriving DecidableEq, Repr

namespace Misuse

/-- A message about one option or operand. -/
def about (label text : String) : String := "argument " ++ label ++ ": " ++ text

/-- What a refused command line says. -/
def message : Misuse → String
  | .ambiguous word candidates =>
    "ambiguous option: " ++ word ++ " could match " ++ ", ".intercalate candidates
  | .valueMissing label => about label "expected one argument"
  | .valueUnwanted label value => about label ("ignored explicit argument " ++ Text.quoted value)
  | .notInteger label value => about label ("invalid int value: " ++ Text.quoted value)
  | .unknownChoice label value choices =>
    about label ("invalid choice: " ++ Text.quoted value ++ " (choose from "
      ++ ", ".intercalate (choices.map Text.quoted) ++ ")")
  | .operandMissing label => "the following arguments are required: " ++ label
  | .strayWords words => "unrecognized arguments: " ++ " ".intercalate words
  | .unsupported command => "Unsupported command: " ++ command

end Misuse

end StorageHandler.Cli
