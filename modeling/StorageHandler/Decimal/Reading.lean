/-!
# Floating-point numbers taken apart

A finite number of the 64-bit format is a whole number times a power of two. `Reading.ofBits` takes
the bits apart, and `Reading.whole?` tells which numbers are whole.
-/

namespace StorageHandler.Decimal

/-- A finite magnitude `mantissa * 2 ^ exponent`. In the least binade, and away from powers of two,
its two neighbours are equally far. -/
structure Magnitude where
  mantissa : Nat
  exponent : Int
  evenGap : Bool
  deriving DecidableEq, Repr

/-- What the bits of a floating-point number say. -/
inductive Reading where
  | notANumber
  | infinite (negative : Bool)
  | finite (negative : Bool) (magnitude : Magnitude)
  deriving DecidableEq, Repr

/-- Reads the sign, the exponent and the fraction of a number in the 64-bit format. -/
def Reading.ofBits (bits : UInt64) : Reading :=
  let n : Nat := bits.toNat
  let negative := n / Nat.pow 2 63 % 2 == 1
  let biased : Nat := n / Nat.pow 2 52 % Nat.pow 2 11
  let fraction : Nat := n % Nat.pow 2 52
  if biased = Nat.pow 2 11 - 1 then
    if fraction = 0 then .infinite negative else .notANumber
  else if biased = 0 then .finite negative ⟨fraction, -1074, true⟩
  else
    .finite negative
      ⟨Nat.pow 2 52 + fraction, (biased : Int) - 1075, fraction != 0 || biased == 1⟩

/-- The whole number that a magnitude is, if it is one. -/
def Magnitude.whole? (m : Magnitude) : Option Nat :=
  match m.exponent with
  | .ofNat k => some (m.mantissa * Nat.pow 2 k)
  | .negSucc k =>
    if m.mantissa % Nat.pow 2 (k + 1) = 0 then some (m.mantissa / Nat.pow 2 (k + 1)) else none

/-- The whole number that a reading is, if it is one. -/
def Reading.whole? : Reading → Option Int
  | .finite negative m => m.whole?.map fun n => if negative then -(n : Int) else n
  | _ => none

end StorageHandler.Decimal
