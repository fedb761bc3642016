import StorageHandler.Decimal.Shortest
import StorageHandler.Text.Numeral
import StorageHandler.Text.Quoted

/-!
# Data

The values that reach the library from outside: settings are meant to be texts, but a caller may
hand over anything. `Datum.quoted?` shows a datum as messages quote it, unless there is an integer
in it that is too long to be written.
-/

namespace StorageHandler

/-- A value of unknown type. -/
inductive Datum where
  | null
  | boolean (b : Bool)
  | integer (i : Int)
  | number (x : Float)
  | text (s : String)
  | list (items : List Datum)
  | record (fields : List (String × Datum))
  deriving Inhabited

/-- Numbers are written plainly from `0.0001` up to, and without, `1e+16`; an exponent has a sign
and at least two digits. -/
def numberLayout : Decimal.Layout :=
  { leastPlain := -4, greatestPlain := 15, exponentWidth := 2, infinity := "inf",
    notANumber := "nan" }

/-- The text of a truth value. -/
def booleanText (b : Bool) : String := if b then "True" else "False"

/-- The text of nothing. -/
def nullText : String := "None"

namespace Datum

mutual

/-- A datum as messages quote it; nothing if there is an integer in it that is too long to be
written. -/
def quoted? : Datum → Option String
  | .null => some nullText
  | .boolean b => some (booleanText b)
  | .integer i => Text.Numeral.text? i
  | .number x => some (numberLayout.write x)
  | .text s => some (Text.quoted s)
  | .list items => (quotedItems? items).map fun texts => "[" ++ ", ".intercalate texts ++ "]"
  | .record fields =>
    (quotedFields? fields).map fun texts => "\x7b" ++ ", ".intercalate texts ++ "\x7d"

/-- The items of a list, each quoted. -/
def quotedItems? : List Datum → Option (List String)
  | [] => some []
  | d :: ds => do
    let text ← quoted? d
    return text :: (← quotedItems? ds)

/-- The fields of a record, each as its quoted name and its quoted value. -/
def quotedFields? : List (String × Datum) → Option (List String)
  | [] => some []
  | (name, d) :: fields => do
    let text ← quoted? d
    return (Text.quoted name ++ ": " ++ text) :: (← quotedFields? fields)

end

/-- The text that a datum is, if it is one. -/
def text? : Datum → Option String
  | .text s => some s
  | _ => none

@[simp] theorem text?_text (s : String) : (Datum.text s).text? = some s := rfl

theorem text?_eq_some_iff {d : Datum} {s : String} : d.text? = some s ↔ d = .text s := by
  cases d <;> simp [text?]

end Datum

end StorageHandler
