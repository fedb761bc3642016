import StorageHandler.Yaml.TagName

/-!
# Directives

Lines before a document: the version of the language, what a handle stands for, or anything else,
which is passed over.
-/

namespace StorageHandler.Yaml

/-- A directive. -/
inductive Directive where
  | version (major minor : Nat)
  | handle (handle name : String)
  | other
  deriving DecidableEq, Repr

/-- The number here, and the place after it. -/
def takeNumber (c : Cursor) : Except YamlError (Nat × Cursor) :=
  let (ds, c') := c.takeWhile Char.isDigit
  if ds = [] then .error .malformed
  else
    match Text.Numeral.read? .decimal (String.ofList ds) with
    | some n => .ok (n.toNat, c')
    | none => .error .badValue

/-- The version here, and the place after it. -/
def takeVersion (c : Cursor) : Except YamlError (Directive × Cursor) := do
  let (major, c) ← takeNumber (c.skipWhile (· == ' '))
  if c.here ≠ some '.' then throw .malformed
  let (minor, c) ← takeNumber c.next
  if endsField c.here then return (.version major minor, c) else throw .malformed

/-- A handle and its name here, and the place after them. -/
def takeHandleName (c : Cursor) : Except YamlError (Directive × Cursor) := do
  let (handle, c) ← takeHandle (c.skipWhile (· == ' '))
  if c.here ≠ some ' ' then throw .malformed
  let (name, c) ← takeTagName (c.skipWhile (· == ' '))
  if endsField c.here then return (.handle handle name, c) else throw .malformed

/-- The directive after the percent sign here, and the start of the next line. -/
def takeDirective (c : Cursor) : Except YamlError (Directive × Cursor) := do
  let (name, c) := c.next.takeWhile isNameCharacter
  if name = [] ∨ !endsField c.here then throw .malformed
  let (directive, c) ←
    if name = "YAML".toList then takeVersion c
    else if name = "TAG".toList then takeHandleName c
    else pure (.other, c.skipWhile fun ch => !isBreak ch)
  return (directive, ← c.finishLine)

end StorageHandler.Yaml
