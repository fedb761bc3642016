import StorageHandler.Text.Blank
import StorageHandler.Text.Digit

/-!
# Numerals

The written forms of integers that the library reads: blanks at the ends, a sign, digits of any
script with single underscores between them, and in base 2, 8 or 16 the base's own mark (`0b`, `0o`,
`0x`, with the zero of any script) in front. A decimal numeral has at most `maxDigits` digits;
`text?` writes integers under the same limit.
-/

namespace StorageHandler.Text.Numeral

/-- The longest decimal numeral, in digits. -/
def maxDigits : Nat := 4300

/-- The bases of the numerals. -/
inductive Base where
  | binary | octal | decimal | hexadecimal
  deriving DecidableEq, Repr

/-- The number of digits of a base. -/
def Base.radix : Base → Nat
  | .binary => 2
  | .octal => 8
  | .decimal => 10
  | .hexadecimal => 16

/-- The letter, in lower case, that marks the base after a zero. -/
def Base.mark? : Base → Option Char
  | .binary => some 'b'
  | .octal => some 'o'
  | .decimal => none
  | .hexadecimal => some 'x'

/-- A blank around a numeral; the four information separators are not among them. -/
def isNumeralBlank (c : Char) : Bool := isBlank c && !(0x1C ≤ c.toNat && c.toNat ≤ 0x1F)

/-- The value of a digit in bases up to 16: a decimal digit of any script or a letter `a` to `f`. -/
def digit? (c : Char) : Option Nat :=
  match digitValue? c with
  | some d => some d
  | none =>
    if 'a' ≤ c ∧ c ≤ 'f' then some (c.toNat - 'a'.toNat + 10)
    else if 'A' ≤ c ∧ c ≤ 'F' then some (c.toNat - 'A'.toNat + 10)
    else none

/-- The digits of a numeral, most significant first: at least one, a single underscore allowed
between two of them. -/
def digits? (radix : Nat) : List Char → Option (List Nat)
  | [] => none
  | c :: cs =>
    match digit? c with
    | none => none
    | some d =>
      if radix ≤ d then none
      else match cs with
        | [] => some [d]
        | '_' :: rest => (digits? radix rest).map (d :: ·)
        | c' :: rest => (digits? radix (c' :: rest)).map (d :: ·)

/-- The number that digits write, most significant first. -/
def ofDigits (radix : Nat) (ds : List Nat) : Nat := ds.foldl (fun n d => n * radix + d) 0

/-- The characters after the sign, and whether the sign was a minus. -/
def signed : List Char → Bool × List Char
  | '-' :: cs => (true, cs)
  | '+' :: cs => (false, cs)
  | cs => (false, cs)

/-- The characters after the mark of the base, if it stands there. One underscore may follow it. -/
def unmarked (base : Base) (cs : List Char) : List Char :=
  match base.mark?, cs with
  | some m, zero :: c :: rest =>
    if digitValue? zero = some 0 ∧ (c = m ∨ c = Char.ofNat (m.toNat - 32)) then
      match rest with
      | '_' :: rest' => rest'
      | _ => rest
    else cs
  | _, _ => cs

/-- The integer that a numeral writes in a base; nothing if it is none, or a decimal numeral of more
than `maxDigits` digits. -/
def read? (base : Base) (s : String) : Option Int :=
  let (negative, body) := signed (trimList isNumeralBlank s.toList)
  match digits? base.radix (unmarked base body) with
  | none => none
  | some ds =>
    if base = .decimal ∧ maxDigits < ds.length then none
    else
      let n := ofDigits base.radix ds
      some (if negative then -(n : Int) else n)

/-- The decimal digits of a natural number, most significant first. -/
def decimalDigits (n : Nat) : List Char := Nat.toDigits 10 n

/-- An integer in decimal digits, with a minus sign if it is negative. -/
def text (i : Int) : String :=
  match i with
  | .ofNat n => String.ofList (decimalDigits n)
  | .negSucc n => String.ofList ('-' :: decimalDigits (n + 1))

/-- An integer in decimal digits; nothing if there would be more than `maxDigits` of them. -/
def text? (i : Int) : Option String :=
  if maxDigits < (decimalDigits i.natAbs).length then none else some (text i)

end StorageHandler.Text.Numeral
