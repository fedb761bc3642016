import StorageHandler.Files.Path
import StorageHandler.Text.Encoding

/-!
# File URIs

The URI of an absolute path: letters, digits, the characters `-`, `.`, `_`, `~` and the slashes
stand for themselves, every other byte is written by its code after a percent sign.
-/

namespace StorageHandler.Uri

/-- The bytes that stand for themselves. -/
def isSafe (b : UInt8) : Bool :=
  let c := Char.ofNat b.toNat
  b.toNat < 0x80 && (c.isAlphanum || c = '-' || c = '.' || c = '_' || c = '~' || c = '/')

/-- A hexadecimal digit in capitals. -/
def hexDigit (n : Nat) : Char := (Nat.digitChar n).toUpper

/-- A byte in a URI. -/
def escape (b : UInt8) : List Char :=
  if isSafe b then [Char.ofNat b.toNat] else ['%', hexDigit (b.toNat / 16), hexDigit (b.toNat % 16)]

/-- The URI of a file. -/
def ofPath (p : Path) : String :=
  "file://" ++ String.ofList ((Text.encode p.text).flatMap escape)

end StorageHandler.Uri
