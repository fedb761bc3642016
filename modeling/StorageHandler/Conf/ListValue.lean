import StorageHandler.Conf.Basic
import StorageHandler.Text.Cut

/-!
# List values

A setting can hold a list: its entries with commas between them. `getStrings` reads the entries
without the blanks around them and leaves the empty ones out; `setStrings` writes a list.
-/

namespace StorageHandler.JobConf

/-- The entries of the list under a text name; none if the setting is not there. -/
def strings (c : JobConf) (key : String) : List String :=
  Text.entries ((c.find? key).getD "")

/-- The entries of the list under a name of any kind. -/
def getStrings (c : JobConf) (key : Datum) : Except ConfError (List String) := do
  return Text.entries ((← c.get? key).getD "")

/-- Writes a list of texts under a text name. -/
def insertStrings (c : JobConf) (key : String) (items : List String) : JobConf :=
  c.insert key (Text.join "," items)

/-- The texts of a list of data, which must all be texts. -/
def textItems : List Datum → Except ConfError (List String)
  | [] => .ok []
  | .text s :: ds => (textItems ds).map (s :: ·)
  | d :: _ => .error (.itemNotText d)

/-- Writes a list of data under a name of any kind. The items are looked at before the name. -/
def setStrings (c : JobConf) (key : Datum) (items : List Datum) : Except ConfError JobConf := do
  let texts ← textItems items
  c.set key (.text (Text.join "," texts))

end StorageHandler.JobConf
