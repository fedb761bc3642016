import StorageHandler.Datum
import StorageHandler.Failure
import StorageHandler.OrderedMap

/-!
# Job configurations

A job configuration maps setting names to texts and keeps their order. Callers hand over data of any
kind: an entry is taken only if its name and its value are texts (`JobConf.set`), and of several
entries those before the first bad one are taken (`JobConf.assign`).

Main statements: `set_text` and `assign_texts` say what taking texts does.
-/

namespace StorageHandler

/-- Ordered settings. -/
abbrev JobConf := OrderedMap String String

/-- Why an operation on a configuration fails. -/
inductive ConfError where
  /-- An entry's name or value is not a text. -/
  | notText (key value : Datum)
  /-- A setting is not there. -/
  | missing (key : Datum)
  /-- The configuration has no settings. -/
  | empty
  /-- A list or a record cannot be a name. -/
  | notAName (key : Datum)
  /-- An item of a list value is not a text. -/
  | itemNotText (item : Datum)

namespace ConfError

/-- What is said of an entry that is refused; nothing if an integer in it is too long to be
written. -/
def entryText? (key value : Datum) : Option String := do
  let key ← key.quoted?
  let value ← value.quoted?
  return "Configuration entries must be strings, got " ++ key ++ "=" ++ value ++ "."

/-- The failure that leaves. Of the texts only that of a refused entry is made on the way there. -/
def failure : ConfError → Failure
  | .notText key value => .ofText .configuration (entryText? key value)
  | .missing key => ⟨.key, key.quoted?.getD ""⟩
  | .empty => ⟨.key, ""⟩
  | .notAName key => ⟨.type, key.quoted?.getD ""⟩
  | .itemNotText item => ⟨.type, item.quoted?.getD ""⟩

/-- The kind of the failure. -/
def kind (e : ConfError) : Failure.Kind := e.failure.kind

end ConfError

namespace JobConf

/-- Gives a setting a value. Both must be texts. -/
def set (c : JobConf) (key value : Datum) : Except ConfError JobConf :=
  match key, value with
  | .text k, .text v => .ok (c.insert k v)
  | key, value => .error (.notText key value)

/-- Takes entries in order up to the first that is refused. -/
def assign (c : JobConf) : List (Datum × Datum) → JobConf × Option ConfError
  | [] => (c, none)
  | e :: es =>
    match c.set e.1 e.2 with
    | .ok c' => assign c' es
    | .error error => (c, some error)

/-- The configuration with all of the entries, unless one is refused. -/
def assignAll (c : JobConf) (es : List (Datum × Datum)) : Except ConfError JobConf :=
  match c.assign es with
  | (c', none) => .ok c'
  | (_, some error) => .error error

/-- The configuration of a list of entries. -/
def ofEntries (es : List (Datum × Datum)) : Except ConfError JobConf :=
  assignAll .empty es

/-- The entries as data. -/
def toEntries (c : JobConf) : List (Datum × Datum) :=
  c.entries.map fun e => (.text e.1, .text e.2)

/-- The value under a name of any kind; only texts have values. -/
def get? (c : JobConf) : Datum → Except ConfError (Option String)
  | .text k => .ok (c.find? k)
  | .list items => .error (.notAName (.list items))
  | .record fields => .error (.notAName (.record fields))
  | _ => .ok none

/-- The value under a name, which must be there. -/
def get (c : JobConf) (key : Datum) : Except ConfError String := do
  match ← c.get? key with
  | some v => return v
  | none => throw (.missing key)

/-- The value under a name, or another datum. -/
def getD (c : JobConf) (key default : Datum) : Except ConfError Datum := do
  match ← c.get? key with
  | some v => return .text v
  | none => return default

/-- Whether a name has a value. -/
def has (c : JobConf) (key : Datum) : Except ConfError Bool := do
  return (← c.get? key).isSome

/-- The configuration without a setting. -/
def eraseKey (c : JobConf) : Datum → JobConf
  | .text k => c.erase k
  | _ => c

/-- The configuration without a setting, which must be there. -/
def delete (c : JobConf) (key : Datum) : Except ConfError JobConf := do
  let _ ← c.get key
  return c.eraseKey key

/-- Removes a setting and returns its value; without the setting, the default if one is given. -/
def pop (c : JobConf) (key : Datum) (default : Option Datum) :
    Except ConfError (Datum × JobConf) := do
  match ← c.get? key, default with
  | some v, _ => return (.text v, c.eraseKey key)
  | none, some d => return (d, c)
  | none, none => throw (.missing key)

/-- Removes the first setting and returns it. -/
def popFirst (c : JobConf) : Except ConfError ((String × String) × JobConf) :=
  match c.entries with
  | [] => .error .empty
  | e :: _ => .ok (e, c.erase e.1)

/-- The value of a setting, which is set to the given value first if it is not there. -/
def setDefault (c : JobConf) (key value : Datum) : Except ConfError (Datum × JobConf) := do
  match ← c.get? key with
  | some v => return (.text v, c)
  | none => return (value, ← c.set key value)

/-- A configuration as messages show it. -/
def quoted (c : JobConf) : String :=
  let entries := c.entries.map fun e => Text.quoted e.1 ++ ": " ++ Text.quoted e.2
  "JobConf(\x7b" ++ ", ".intercalate entries ++ "\x7d)"

@[simp] theorem set_text (c : JobConf) (k v : String) :
    c.set (.text k) (.text v) = .ok (c.insert k v) := rfl

/-- Entries of texts are all taken. -/
theorem assign_texts (c : JobConf) (es : List (String × String)) :
    c.assign (es.map fun e => (Datum.text e.1, Datum.text e.2)) = (c.insertMany es, none) := by
  induction es generalizing c with
  | nil => rfl
  | cons e es ih => exact ih _

theorem assign_append (c : JobConf) (es fs : List (Datum × Datum)) :
    c.assign (es ++ fs) =
      match c.assign es with
      | (c', none) => c'.assign fs
      | (c', some error) => (c', some error) := by
  induction es generalizing c with
  | nil => rfl
  | cons e es ih =>
    simp only [List.cons_append, assign]
    cases c.set e.1 e.2 with
    | ok c' => exact ih c'
    | error error => rfl

end JobConf

end StorageHandler
