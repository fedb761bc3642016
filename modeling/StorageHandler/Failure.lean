import StorageHandler.Text.Quoted

/-!
# Failures

Where foreign code takes part (a client library, a client builder, a credential provider), any
failure can come up, and what happens next depends on its kind. Failures of the library itself
(`Kind.isOwn`) reach the caller as they are; ordinary ones of foreign code (`Kind.isOrdinary`) may
be wrapped or logged; an interrupt or an exit is neither wrapped nor swallowed.

A message that quotes an integer can only be made if the integer can be written
(`Text.Numeral.text?`). Where it cannot, another failure takes the place of the one that was to say
so (`Failure.ofText`).
-/

namespace StorageHandler

/-- The kinds of failures. -/
inductive Failure.Kind where
  /-- A failure of this library that is none of the following. -/
  | general
  /-- A required setting is missing or invalid. -/
  | configuration
  /-- A client cannot be built or connected. -/
  | connection
  /-- A column type has no counterpart. -/
  | unsupportedType
  /-- The code of a class cannot be shipped with a job. -/
  | unresolvedArtifact
  /-- A token file is unreadable or malformed. -/
  | credentialFormat
  /-- An optional library is not installed. -/
  | missingLibrary
  /-- The other side refused a connection. -/
  | refused
  /-- The other side took too long. -/
  | timedOut
  /-- The operating system reported an error. -/
  | system
  /-- A value is out of its domain. -/
  | value
  /-- A text is not encoded as it should be. -/
  | encoding
  /-- A number is too large for what it is used for. -/
  | overflow
  /-- A value has the wrong type. -/
  | type
  /-- A key is not there. -/
  | key
  /-- A position is not there. -/
  | index
  /-- A property is not there. -/
  | attribute
  /-- Something is nested too deeply. -/
  | depth
  /-- Any other error while running. -/
  | runtime
  /-- The user interrupted the process. -/
  | interrupt
  /-- The process is to end. -/
  | exit
  deriving DecidableEq, Repr

namespace Failure.Kind

/-- Whether failures of this kind are the library's own. -/
def isOwn : Kind → Bool
  | .general | .configuration | .connection | .unsupportedType | .unresolvedArtifact
  | .credentialFormat | .missingLibrary => true
  | _ => false

/-- Whether failures of this kind may be wrapped or swallowed. -/
def isOrdinary : Kind → Bool
  | .interrupt | .exit => false
  | _ => true

end Failure.Kind

/-- A failure: its kind and what it says. -/
structure Failure where
  kind : Failure.Kind
  message : String
  deriving DecidableEq, Repr

/-- A text with an integer in it that is too long to be written was to be made. -/
def Failure.unwritable : Failure := ⟨.value, ""⟩

/-- The failure of a kind that says a text, if the text can be made. -/
def Failure.ofText (kind : Failure.Kind) : Option String → Failure
  | some text => ⟨kind, text⟩
  | none => .unwritable

/-- The text of a failure inside another message: a missing key is quoted. -/
def Failure.text (f : Failure) : String :=
  if f.kind = .key then Text.quoted f.message else f.message

end StorageHandler
