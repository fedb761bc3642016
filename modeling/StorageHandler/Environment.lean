import StorageHandler.Files.System
import StorageHandler.Text.Blank

/-!
# Process settings

What the environment of a process says: where its token file is, and which masters are the default.
-/

namespace StorageHandler

/-- The environment variable with the location of the token file. -/
def tokenFileVariable : String := "HADOOP_TOKEN_FILE_LOCATION"

/-- The environment variable with the default addresses of masters. -/
def mastersVariable : String := "HIVE_KUDU_MASTER_ADDRESSES_DEFAULT"

/-- The variables that matter here, as they are set. -/
structure Environment where
  tokenFile : Option String
  masters : Option String
  deriving DecidableEq, Repr

/-- What the variables say. -/
structure ProcessSettings where
  tokenFile : Option Path
  masters : Option String
  deriving DecidableEq, Repr

/-- Why the variables are refused. -/
inductive EnvironmentError where
  /-- The location of the token file is a directory. -/
  | tokenDirectory (value : String)
  /-- The location begins with the tilde of a user whose directory is not known. -/
  | unknownHome
  /-- The links at the location form a loop. -/
  | linkLoop
  /-- The location cannot be looked at. -/
  | inaccessible (error : FileError) (path : Path)
  deriving DecidableEq, Repr

namespace EnvironmentError

/-- What refused variables say. -/
def message : EnvironmentError → String
  | .tokenDirectory value =>
    "Invalid " ++ tokenFileVariable ++ " value: '" ++ value
      ++ "' is a directory. Point it at a Hadoop token storage file."
  | .unknownHome => "Could not determine home directory."
  | .linkLoop => "Symlink loop"
  | .inaccessible error path => error.message path

/-- The kind of the failure. -/
def kind : EnvironmentError → Failure.Kind
  | .tokenDirectory _ => .configuration
  | .unknownHome => .runtime
  | .linkLoop => .runtime
  | .inaccessible error _ => error.kind

/-- Refused variables as a failure. -/
def failure (e : EnvironmentError) : Failure := ⟨e.kind, e.message⟩

end EnvironmentError

namespace Environment

/-- The default masters: what the variable says without the blanks around it, if that is
anything. -/
def defaultMasters (e : Environment) : Option String :=
  (e.masters.map Text.strip).filter (· ≠ "")

/-- The path that the location of the token file stands for. It must not be a directory. -/
def tokenPath (fs : FileSystem) (value : String) : Except EnvironmentError Path := do
  let some expanded := fs.expandUser (Path.ofString value) | throw .unknownHome
  let some resolved := fs.resolve expanded | throw .linkLoop
  match fs.isDirectory resolved with
  | .ok true => throw (.tokenDirectory value)
  | .ok false => return resolved
  | .error error => throw (.inaccessible error resolved)

/-- The settings of a process. -/
def settings (e : Environment) (fs : FileSystem) : Except EnvironmentError ProcessSettings := do
  match e.tokenFile.filter (· ≠ "") with
  | none => return ⟨none, e.defaultMasters⟩
  | some value => return ⟨some (← tokenPath fs value), e.defaultMasters⟩

end Environment

end StorageHandler
