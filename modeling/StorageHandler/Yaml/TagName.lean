import StorageHandler.Text.Encoding
import StorageHandler.Yaml.QuotedScalar

/-!
# Written tags

A tag is written in full between angle brackets, or as a handle, which a directive expands, and the
rest of the name. Percent signs escape the bytes of characters.
-/

namespace StorageHandler.Yaml

/-- A tag as it is written. Without a handle the rest is the whole name. -/
structure WrittenTag where
  handle : Option String
  rest : String
  deriving DecidableEq, Repr

/-- The characters of tag names besides letters, digits and escapes. -/
def tagMarks : List Char := "-;/?:@&=+$,_.!~*'()[]".toList

/-- A character of a tag name that is no escape. -/
def isTagCharacter (c : Char) : Bool := c.isAlphanum || tagMarks.contains c

/-- The bytes of the escapes here, and the place after them. -/
def takeEscapedBytes : (fuel : Nat) → Cursor → Except YamlError (List UInt8 × Cursor)
  | 0, c => .ok ([], c)
  | fuel + 1, c =>
    if c.here = some '%' then do
      let (code, c) ← takeCode 2 c.next
      let (more, c) ← takeEscapedBytes fuel c
      return (UInt8.ofNat code :: more, c)
    else .ok ([], c)

/-- The tag name here, which may be empty, and the place after it. -/
def takeTagCharacters : (fuel : Nat) → Cursor → Except YamlError (List Char × Cursor)
  | 0, c => .ok ([], c)
  | fuel + 1, c =>
    match c.rest with
    | [] => .ok ([], c)
    | ch :: _ =>
      if ch = '%' then do
        let (bytes, c) ← takeEscapedBytes (c.rest.length + 1) c
        match Text.decode? bytes with
        | none => throw .malformed
        | some s =>
          let (more, c) ← takeTagCharacters fuel c
          return (s.toList ++ more, c)
      else if isTagCharacter ch then do
        let (more, c) ← takeTagCharacters fuel c.next
        return (ch :: more, c)
      else .ok ([], c)

/-- The tag name here, and the place after it. -/
def takeTagName (c : Cursor) : Except YamlError (String × Cursor) := do
  let (name, c') ← takeTagCharacters (c.rest.length + 1) c
  if c'.index = c.index then throw .malformed
  return (String.ofList name, c')

/-- The handle here, and the place after it: an exclamation mark, or letters between two of them. -/
def takeHandle (c : Cursor) : Except YamlError (String × Cursor) :=
  if c.here ≠ some '!' then .error .malformed
  else if c.ahead 1 = some ' ' then .ok ("!", c.next)
  else
    let (name, c) := c.next.takeWhile isNameCharacter
    if c.here = some '!' then .ok ("!" ++ String.ofList name ++ "!", c.next) else .error .malformed

/-- Whether the word after its first character holds an exclamation mark. -/
def seesSecondMark (c : Cursor) : Bool :=
  (c.rest.drop 1).takeWhile (fun ch => !endsField (some ch)) |>.contains '!'

/-- The tag here, and the place after it. -/
def takeTag (c : Cursor) : Except YamlError (WrittenTag × Cursor) := do
  let (tag, c) ← (do
    if c.ahead 1 = some '<' then
      let (name, c) ← takeTagName (c.skip 2)
      if c.here ≠ some '>' then throw .malformed
      return (⟨none, name⟩, c.next)
    else if endsWord (c.ahead 1) then return (⟨none, "!"⟩, c.next)
    else
      let (handle, c) ← if seesSecondMark c then takeHandle c else pure ("!", c.next)
      let (name, c) ← takeTagName c
      return (⟨some handle, name⟩, c) : Except YamlError (WrittenTag × Cursor))
  if endsField c.here then return (tag, c) else throw .malformed

end StorageHandler.Yaml
