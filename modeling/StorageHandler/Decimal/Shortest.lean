import StorageHandler.Decimal.Reading

/-!
# Shortest decimal

A binary floating-point number stands for every real number that rounds to it. `shortest` finds the
decimal with the fewest digits among these, and of those with as few digits the one nearest to the
number. `Layout.write` then writes it, with or without an exponent as its `Layout` says.
-/

namespace StorageHandler.Decimal

/-- A decimal `digits * 10 ^ exponent`. -/
structure Scaled where
  digits : Nat
  exponent : Int
  deriving DecidableEq, Repr

/-- A positive number with the ends of the interval that rounds to it, all over one denominator.
The ends belong to the interval when `closed`. -/
structure Interval where
  low : Nat
  value : Nat
  high : Nat
  denominator : Nat
  closed : Bool

/-- The interval of a magnitude: half way to either neighbour, where a tie goes to the even one. -/
def Magnitude.interval (m : Magnitude) : Interval :=
  let low := 4 * m.mantissa - (if m.evenGap then 2 else 1)
  let value := 4 * m.mantissa
  let high := 4 * m.mantissa + 2
  let closed := m.mantissa % 2 == 0
  match m.exponent - 2 with
  | .ofNat k => ⟨low * Nat.pow 2 k, value * Nat.pow 2 k, high * Nat.pow 2 k, 1, closed⟩
  | .negSucc k => ⟨low, value, high, Nat.pow 2 (k + 1), closed⟩

/-- The interval in units of `10 ^ k`. -/
def Interval.inUnits (i : Interval) : Int → Interval
  | .ofNat k => { i with denominator := i.denominator * Nat.pow 10 k }
  | .negSucc k =>
    let f := Nat.pow 10 (k + 1)
    { i with low := i.low * f, value := i.value * f, high := i.high * f }

/-- Whether the natural number `c` lies in the interval. -/
def Interval.contains (i : Interval) (c : Nat) : Bool :=
  let n := c * i.denominator
  if i.closed then i.low ≤ n && n ≤ i.high else i.low < n && n < i.high

/-- The natural number in the interval that is nearest to its value, the even one of two equally
near ones, if one of the value's two neighbours lies in it. -/
def Interval.nearest? (i : Interval) : Option Nat :=
  let below := i.value / i.denominator
  let above := below + 1
  let toBelow := i.value - below * i.denominator
  let toAbove := above * i.denominator - i.value
  let belowFirst := toBelow < toAbove || (toBelow == toAbove && below % 2 == 0)
  match i.contains below, i.contains above with
  | true, true => some (if belowFirst then below else above)
  | true, false => some below
  | false, true => some above
  | false, false => none

/-- The number of decimal digits of `n`. -/
def digitCount (n : Nat) : Nat := (Nat.toDigits 10 n).length

/-- The exponent of the first digit: the greatest `p` with `10 ^ p` at most the value. -/
def Interval.leading (i : Interval) : Int :=
  let p : Int := (digitCount i.value : Int) - digitCount i.denominator
  let j := i.inUnits p
  if j.denominator ≤ j.value then p else p - 1

/-- The first hit on the grids of `count`, `count + 1`, … digits. -/
def Interval.search (i : Interval) (leading : Int) : (fuel count : Nat) → Option Scaled
  | 0, _ => none
  | fuel + 1, count =>
    let k := leading - count + 1
    match (i.inUnits k).nearest? with
    | some c => some ⟨c, k⟩
    | none => i.search leading fuel (count + 1)

/-- A decimal without zeros at its end. -/
def Scaled.normal (s : Scaled) : (fuel : Nat) → Scaled
  | 0 => s
  | fuel + 1 =>
    if s.digits ≠ 0 ∧ s.digits % 10 = 0 then
      Scaled.normal ⟨s.digits / 10, s.exponent + 1⟩ fuel
    else s

/-- The shortest decimal that rounds to a magnitude. Seventeen digits always suffice. -/
def Magnitude.shortest (m : Magnitude) : Scaled :=
  if m.mantissa = 0 then ⟨0, 0⟩
  else
    let i := m.interval
    match i.search i.leading 17 1 with
    | some s => s.normal 17
    | none => ⟨0, 0⟩

/-- How a decimal is written. -/
structure Layout where
  /-- The least exponent of the first digit that is written without an exponent. -/
  leastPlain : Int
  /-- The greatest exponent of the first digit that is written without an exponent. -/
  greatestPlain : Int
  /-- The least number of digits in a written exponent. -/
  exponentWidth : Nat
  /-- The text of a positive infinite number. -/
  infinity : String
  /-- The text of what is not a number. -/
  notANumber : String
  deriving Repr

/-- Decimal digits with zeros in front up to a width. -/
def padded (width n : Nat) : List Char :=
  let ds := Nat.toDigits 10 n
  List.replicate (width - ds.length) '0' ++ ds

/-- A decimal without exponent: at least one digit on either side of the point. -/
def Scaled.plain (s : Scaled) : List Char :=
  let ds := Nat.toDigits 10 s.digits
  match s.exponent with
  | .ofNat k => ds ++ List.replicate k '0' ++ ['.', '0']
  | .negSucc k =>
    let ds' := List.replicate (k + 2 - ds.length) '0' ++ ds
    let whole := ds'.length - (k + 1)
    ds'.take whole ++ '.' :: ds'.drop whole

/-- A decimal with one digit before the point and an exponent. -/
def Scaled.withExponent (s : Scaled) (width : Nat) : List Char :=
  let ds := Nat.toDigits 10 s.digits
  let e := s.exponent + ds.length - 1
  let mark := if e < 0 then ['e', '-'] else ['e', '+']
  let body := match ds with
    | [] => []
    | [d] => [d]
    | d :: rest => d :: '.' :: rest
  body ++ mark ++ padded width e.natAbs

/-- A decimal as the layout writes it. -/
def Layout.writeScaled (l : Layout) (s : Scaled) : List Char :=
  let leading := s.exponent + digitCount s.digits - 1
  if l.leastPlain ≤ leading ∧ leading ≤ l.greatestPlain then s.plain
  else s.withExponent l.exponentWidth

/-- The shortest text of a floating-point number in a layout. -/
def Layout.write (l : Layout) (x : Float) : String :=
  match Reading.ofBits x.toBits with
  | .notANumber => l.notANumber
  | .infinite negative => (if negative then "-" else "") ++ l.infinity
  | .finite negative m =>
    (if negative then "-" else "") ++ String.ofList (l.writeScaled m.shortest)

end StorageHandler.Decimal
