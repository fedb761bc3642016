import StorageHandler.Environment
import StorageHandler.Token.Storage

/-!
# Token files

Reading credentials from a file: a process that has no token file has no credentials.
-/

namespace StorageHandler

/-- Why a token file gives no credentials. -/
inductive TokenFileError where
  | unreadable (path : Path) (error : FileError)
  | malformed (error : StorageError)
  deriving DecidableEq, Repr

namespace TokenFileError

/-- What the failure says. -/
def message : TokenFileError → String
  | .unreadable path error =>
    "Failed to read token storage file " ++ path.text ++ ": " ++ error.message path ++ "."
  | .malformed error => error.message

/-- The kind of the failure: a path that the system does not even look at is a bad value. -/
def kind : TokenFileError → Failure.Kind
  | .unreadable _ .nulInPath => .value
  | .unreadable _ _ => .credentialFormat
  | .malformed error => error.kind

/-- The failure with its kind. -/
def failure (e : TokenFileError) : Failure := ⟨e.kind, e.message⟩

end TokenFileError

/-- The credentials in a token file. -/
def FileSystem.readTokens (fs : FileSystem) (p : Path) : Except TokenFileError Credentials :=
  match fs.read p with
  | .error error => .error (.unreadable p error)
  | .ok content => (TokenStorage.read content).mapError .malformed

/-- The credentials of a process with a token file, if it has one. -/
def FileSystem.provide (fs : FileSystem) (tokenFile : Option Path) :
    Except TokenFileError (Option (List Credentials)) :=
  match tokenFile with
  | none => .ok none
  | some p => (fs.readTokens p).map fun c => some [c]

end StorageHandler
