import StorageHandler.Text.Point
import StorageHandler.Text.Printable

/-!
# Quoted texts

A text as messages quote it: between single quotes, or between double quotes when it holds single
quotes and no double ones. The backslash, the closing quote and the line and tab characters have
short escapes; every other unprintable character is written by its code in two, four or eight
hexadecimal digits.
-/

namespace StorageHandler.Text

/-- The last `width` hexadecimal digits of a number, in lower case. -/
def hexDigits : Nat → Nat → List Char
  | 0, _ => []
  | width + 1, n => hexDigits width (n / 16) ++ [Nat.digitChar (n % 16)]

/-- A character between the quotes `quote`. -/
def quoteChar (quote c : Char) : List Char :=
  if c = quote ∨ c = '\\' then ['\\', c]
  else if c = '\n' then ['\\', 'n']
  else if c = '\r' then ['\\', 'r']
  else if c = '\t' then ['\\', 't']
  else if isPrintable c then [c]
  else if c.toNat ≤ 0xFF then '\\' :: 'x' :: hexDigits 2 c.toNat
  else if c.toNat ≤ 0xFFFF then '\\' :: 'u' :: hexDigits 4 c.toNat
  else '\\' :: 'U' :: hexDigits 8 c.toNat

/-- The quote that surrounds a text: the double one only if that saves an escape. -/
def quoteMark (cs : List Char) : Char :=
  if '\'' ∈ cs ∧ '"' ∉ cs then '"' else '\''

/-- A text in quotes. -/
def quoted (s : String) : String :=
  let q := quoteMark s.toList
  String.ofList (q :: s.toList.flatMap (quoteChar q) ++ [q])

/-- A code point between the quotes `quote`. -/
def quotePoint (quote : Char) : Point → List Char
  | .char c => quoteChar quote c
  | .half n => '\\' :: 'u' :: hexDigits 4 n

/-- Code points in quotes: halves of pairs are written by their codes. -/
def quotedPoints (ps : List Point) : String :=
  let q := quoteMark (ps.filterMap Point.char?)
  String.ofList (q :: ps.flatMap (quotePoint q) ++ [q])

/-- A byte between the quotes `quote`: an ASCII character as in a text, any other by its code. -/
def quoteByte (quote : Char) (b : UInt8) : List Char :=
  if b.toNat < 0x80 then quoteChar quote (Char.ofNat b.toNat)
  else '\\' :: 'x' :: hexDigits 2 b.toNat

/-- A byte string in quotes, after the letter `b`. -/
def quotedBytes (bs : List UInt8) : String :=
  let q := quoteMark (bs.map fun b => Char.ofNat b.toNat)
  String.ofList ('b' :: q :: bs.flatMap (quoteByte q) ++ [q])

end StorageHandler.Text
