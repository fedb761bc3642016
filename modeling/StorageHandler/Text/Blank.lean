/-!
# Blanks

The blank characters of every script, and `strip`, which removes them at both ends of a text.
`strip` leaves a text without blanks at its ends alone.
-/

namespace StorageHandler.Text

/-- Blanks: the ASCII blanks, the four information separators, and the Unicode spaces and line
separators. -/
def isBlank (c : Char) : Bool :=
  let n := c.toNat
  (0x09 ≤ n && n ≤ 0x0D) || (0x1C ≤ n && n ≤ 0x20) || n == 0x85 || n == 0xA0 || n == 0x1680 ||
    (0x2000 ≤ n && n ≤ 0x200A) || n == 0x2028 || n == 0x2029 || n == 0x202F || n == 0x205F ||
    n == 0x3000

/-- The characters of `cs` without those satisfying `p` at either end. -/
def trimList (p : Char → Bool) (cs : List Char) : List Char :=
  ((cs.dropWhile p).reverse.dropWhile p).reverse

/-- The characters of `cs` without the blanks at both ends. -/
abbrev stripList (cs : List Char) : List Char := trimList isBlank cs

/-- A text without the blanks at both ends. -/
def strip (s : String) : String := String.ofList (stripList s.toList)

@[simp] theorem trimList_nil (p : Char → Bool) : trimList p [] = [] := rfl

@[simp] theorem toList_strip (s : String) : (strip s).toList = stripList s.toList := by
  simp [strip]

end StorageHandler.Text
