import StorageHandler.Failure
import StorageHandler.Text.Encoding
import StorageHandler.Text.Numeral
import StorageHandler.Token.Credentials
import StorageHandler.Token.VarInt

/-!
# Token storage

The bytes that hold credentials: the letters `HDTS`, a version byte 0, the number of tokens and the
tokens, the number of secret keys and the secret keys. Numbers are variable-length integers; texts
and byte strings follow their length.

`TokenStorage.read` takes the credentials off the start of the bytes and returns what is left.
-/

namespace StorageHandler

/-- Why bytes are no token storage. -/
inductive StorageError where
  | badMagic
  | truncated
  | protobuf
  | unknownVersion (version : UInt8)
  | negativeCount (count : Int)
  | invalidText
  /-- A length that no memory can hold. -/
  | oversized (length : Nat)
  deriving DecidableEq, Repr

namespace StorageError

/-- What refused bytes say. -/
def message : StorageError → String
  | .badMagic => "Bad header found in token storage: missing HDTS magic."
  | .truncated => "Unexpected end of token storage data."
  | .protobuf =>
    "Protobuf token storage is not supported. "
      ++ "Write the token file in the Writable format (version 0)."
  | .unknownVersion version =>
    "Unknown token storage version: " ++ Text.Numeral.text version.toNat ++ "."
  | .negativeCount count =>
    "Negative entry count in token storage: " ++ Text.Numeral.text count ++ "."
  | .invalidText => "Token storage contains invalid UTF-8 text."
  | .oversized length => Text.Numeral.text length

/-- The kind of the failure. -/
def kind : StorageError → Failure.Kind
  | .oversized _ => .overflow
  | _ => .credentialFormat

/-- Refused bytes as a failure. -/
def failure (e : StorageError) : Failure := ⟨e.kind, e.message⟩

end StorageError

namespace TokenStorage

/-- A reader takes a value off the start of the bytes. -/
abbrev Reader := StateT (List UInt8) (Except StorageError)

/-- The letters at the start. -/
def magic : List UInt8 := Text.encode "HDTS"

/-- The version of this format. -/
def version : UInt8 := 0

/-- The version of a format that is not supported. -/
def protobufVersion : UInt8 := 1

/-- The least length that is too large to be asked for. -/
def lengthBound : Nat := Nat.pow 2 63

/-- The next `n` bytes. -/
def readExact (n : Nat) : Reader (List UInt8) := fun bs =>
  let (chunk, rest) := bs.splitAt n
  if chunk.length = n then .ok (chunk, rest) else .error .truncated

/-- The next number. -/
def readNumber : Reader Int := fun bs =>
  match VarInt.read? bs with
  | some r => .ok r
  | none => .error .truncated

/-- The next number, which must not be negative. -/
def readCount : Reader Nat := do
  let n ← readNumber
  if n < 0 then throw (.negativeCount n)
  return n.toNat

/-- The next byte string. -/
def readBytes : Reader (List UInt8) := do
  let n ← readCount
  if lengthBound ≤ n then throw (.oversized n)
  readExact n

/-- The next text. -/
def readText : Reader String := do
  match Text.decode? (← readBytes) with
  | some s => return s
  | none => throw .invalidText

/-- The next token. -/
def readToken : Reader SecurityToken := do
  let identifier ← readBytes
  let password ← readBytes
  let kind ← readText
  let service ← readText
  return ⟨identifier, password, kind, service⟩

/-- The next `count` values under their aliases, after those that are already there. -/
def readEntries {α : Type} (value : Reader α) : Nat → OrderedMap String α →
    Reader (OrderedMap String α)
  | 0, m => pure m
  | count + 1, m => do
    let name ← readText
    let v ← value
    readEntries value count (m.insert name v)

/-- The letters and the version at the start. -/
def readHeader : Reader Unit := do
  if (← get).take magic.length ≠ magic then throw .badMagic
  let _ ← readExact magic.length
  match ← readExact 1 with
  | [v] =>
    if v = protobufVersion then throw .protobuf
    else if v ≠ version then throw (.unknownVersion v)
    else return ()
  | _ => throw .truncated

/-- The credentials at the start of the bytes. -/
def readCredentials : Reader Credentials := do
  readHeader
  let tokens ← readEntries readToken (← readCount) .empty
  let secretKeys ← readEntries readBytes (← readCount) .empty
  return ⟨tokens, secretKeys⟩

/-- The credentials that bytes hold. What follows them does not matter. -/
def read (bs : List UInt8) : Except StorageError Credentials :=
  (readCredentials bs).map Prod.fst

/-- A byte string after its length. -/
def writeBytes (bs : List UInt8) : List UInt8 := VarInt.write bs.length ++ bs

/-- A text after its length. -/
def writeText (s : String) : List UInt8 := writeBytes (Text.encode s)

/-- A token. -/
def writeToken (t : SecurityToken) : List UInt8 :=
  writeBytes t.identifier ++ writeBytes t.password ++ writeText t.kind ++ writeText t.service

/-- Values under their aliases, after their number. -/
def writeEntries {α : Type} (value : α → List UInt8) (m : OrderedMap String α) : List UInt8 :=
  VarInt.write m.size ++ m.entries.flatMap fun e => writeText e.1 ++ value e.2

/-- The bytes of credentials. -/
def write (c : Credentials) : List UInt8 :=
  magic ++ [version] ++ writeEntries writeToken c.tokens ++ writeEntries writeBytes c.secretKeys

end TokenStorage

end StorageHandler
