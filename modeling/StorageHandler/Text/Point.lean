/-!
# Code points

A text in which halves of surrogate pairs may stand: escapes write any code point, also those that
are no characters. The halves of a pair stay apart, in comparison and in quotes, until `joined`
makes one character of them.
-/

namespace StorageHandler.Text

/-- A code point of a text. -/
inductive Point where
  | char (c : Char)
  /-- A half of a surrogate pair, by its code. -/
  | half (code : Nat)
  deriving DecidableEq, Repr

/-- The codes that can only be the first half of a pair. -/
def isFirstHalf (n : Nat) : Bool := 0xD800 ≤ n && n < 0xDC00

/-- The codes that can only be the second half of a pair. -/
def isSecondHalf (n : Nat) : Bool := 0xDC00 ≤ n && n < 0xE000

/-- The code point of a code. -/
def Point.ofCode (n : Nat) : Point :=
  if isFirstHalf n || isSecondHalf n then .half n else .char (Char.ofNat n)

/-- The character that a code point is, if it is one. -/
def Point.char? : Point → Option Char
  | .char c => some c
  | .half _ => none

/-- The code points of a text. -/
def points (s : String) : List Point := s.toList.map .char

/-- The text of code points that all are characters. -/
def whole? (ps : List Point) : Option String := (ps.mapM Point.char?).map String.ofList

/-- What stands for a half without its other half. -/
def replacement : Char := '\ufffd'

/-- The characters of code points: a first half and the second half after it are one, and any other
half is replaced. -/
def joinedChars : List Point → List Char
  | [] => []
  | .char c :: ps => c :: joinedChars ps
  | .half first :: .half second :: ps =>
    if isFirstHalf first && isSecondHalf second then
      Char.ofNat (0x10000 + (first - 0xD800) * 0x400 + (second - 0xDC00)) :: joinedChars ps
    else replacement :: joinedChars (.half second :: ps)
  | .half _ :: ps => replacement :: joinedChars ps

/-- The text of code points. -/
def joined (ps : List Point) : String := String.ofList (joinedChars ps)

theorem joinedChars_map_char (cs : List Char) : joinedChars (cs.map .char) = cs := by
  induction cs with
  | nil => rfl
  | cons c cs ih => simp [joinedChars, ih]

/-- The code points of a text make that text. -/
@[simp] theorem joined_points (s : String) : joined (points s) = s := by
  simp [joined, points, joinedChars_map_char]

end StorageHandler.Text
