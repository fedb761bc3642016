/-!
# Capital letters

The capital form of a text as far as it can be an ASCII text. Besides the letters `a` to `z` ten
characters have a capital form of ASCII letters alone: the sharp s, the dotless i, the long s and
the seven Latin ligatures. Every other character stands for itself here, so a text outside ASCII
whose true capital form is also outside ASCII stays outside ASCII.
-/

namespace StorageHandler.Text

/-- The letters that a character becomes in capitals. -/
def capital (c : Char) : List Char :=
  if 'a' ≤ c ∧ c ≤ 'z' then [Char.ofNat (c.toNat - 32)]
  else match c with
    | '\u00df' => ['S', 'S']
    | '\u0131' => ['I']
    | '\u017f' => ['S']
    | '\ufb00' => ['F', 'F']
    | '\ufb01' => ['F', 'I']
    | '\ufb02' => ['F', 'L']
    | '\ufb03' => ['F', 'F', 'I']
    | '\ufb04' => ['F', 'F', 'L']
    | '\ufb05' => ['S', 'T']
    | '\ufb06' => ['S', 'T']
    | _ => [c]

/-- A text in capitals. -/
def capitals (s : String) : String := String.ofList (s.toList.flatMap capital)

end StorageHandler.Text
