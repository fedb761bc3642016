import StorageHandler.Text.Cut
import StorageHandler.Text.Numeral
import StorageHandler.Yaml.Error

/-!
# Numbers

The numbers that scalars write. Underscores do not count. An integer may have a base mark, a leading
zero for base 8, or colons between digits in base 60; a floating-point number may be written in base
60 too, and has words for the infinite and for what is no number.
-/

namespace StorageHandler.Yaml

/-- The characters without underscores. -/
def dropUnderscores (cs : List Char) : List Char := cs.filter (· ≠ '_')

/-- The sign at the start, and the characters after it. A number has at least one character, and one
after its sign. -/
def takeSign (cs : List Char) : Except YamlError (Bool × List Char) :=
  match cs with
  | [] => .error .emptyNumber
  | '-' :: rest => .ok (true, rest)
  | '+' :: rest => .ok (false, rest)
  | cs => .ok (false, cs)

/-- The integer that characters write in a base. -/
def readInt (base : Text.Numeral.Base) (cs : List Char) : Except YamlError Int :=
  match Text.Numeral.read? base (String.ofList cs) with
  | some i => .ok i
  | none => .error .badValue

/-- The integer that a scalar writes. -/
def integerOf (text : String) : Except YamlError Int := do
  let (negative, cs) ← takeSign (dropUnderscores text.toList)
  let i ←
    match cs with
    | [] => throw .emptyNumber
    | ['0'] => pure 0
    | '0' :: 'b' :: ds => readInt .binary ds
    | '0' :: 'x' :: ds => readInt .hexadecimal ds
    | '0' :: _ => readInt .octal cs
    | _ =>
      if ':' ∈ cs then do
        let parts ← (Text.splitList ':' cs).mapM (readInt .decimal)
        pure (parts.foldl (fun n d => n * 60 + d) 0)
      else readInt .decimal cs
  return if negative then -i else i

/-- The characters in lower case, as far as they are ASCII letters. -/
def lower (cs : List Char) : List Char := cs.map Char.toLower

/-- A decimal `digits * 10 ^ exponent` as the nearest floating-point number. Exponents beyond all
floating-point numbers are brought closer, which changes nothing. -/
def nearestFloat (digits : Nat) (exponent : Int) : Float :=
  let count : Int := (Text.Numeral.decimalDigits digits).length
  let e := max (-(count + 400)) (min 400 exponent)
  match e with
  | .ofNat n => Float.ofScientific digits false n
  | .negSucc n => Float.ofScientific digits true (n + 1)

/-- The exponent that characters write after its mark; none is zero. -/
def exponent? : List Char → Option Int
  | [] => some 0
  | e :: cs =>
    if e ≠ 'e' ∧ e ≠ 'E' then none
    else
      let (negative, ds) := Text.Numeral.signed cs
      if ds ≠ [] ∧ ds.all Char.isDigit then
        let n : Int := Text.Numeral.ofDigits 10 (ds.map fun d => d.toNat - '0'.toNat)
        some (if negative then -n else n)
      else none

/-- Digits of any script as those of ASCII. -/
def plainDigit (c : Char) : Char :=
  match Text.digitValue? c with
  | some d => Nat.digitChar d
  | none => c

/-- The floating-point number that characters without underscores write in base 10, and by the usual
words for what is infinite or no number. -/
def readFloat (cs : List Char) : Except YamlError Float :=
  let (negative, body) := Text.Numeral.signed
    ((Text.trimList Text.Numeral.isNumeralBlank cs).map plainDigit)
  let signed (x : Float) : Except YamlError Float := .ok (if negative then -x else x)
  let word := String.ofList (lower body)
  if word = "inf" ∨ word = "infinity" then signed (1.0 / 0.0)
  else if word = "nan" then .ok (0.0 / 0.0)
  else
    let whole := body.takeWhile Char.isDigit
    let rest := body.drop whole.length
    let (fraction, rest) :=
      match rest with
      | '.' :: rest => (rest.takeWhile Char.isDigit, rest.dropWhile Char.isDigit)
      | rest => ([], rest)
    match exponent? rest with
    | some e =>
      if whole = [] ∧ fraction = [] then .error .badValue
      else
        let digits := Text.Numeral.ofDigits 10
          ((whole ++ fraction).map fun d => d.toNat - '0'.toNat)
        signed (nearestFloat digits (e - fraction.length))
    | none => .error .badValue

/-- A sum of parts in base 60, the last one first. A weight that is beyond all floating-point
numbers cannot be used. -/
def sumSixtieths : List Float → (weight : Nat) → Float → Except YamlError Float
  | [], _, sum => .ok sum
  | d :: ds, weight, sum =>
    if Nat.pow 2 1024 ≤ weight then .error .tooLarge
    else sumSixtieths ds (weight * 60) (sum + d * Float.ofNat weight)

/-- The floating-point number that a scalar writes. -/
def floatOf (text : String) : Except YamlError Float := do
  let (negative, cs) ← takeSign (lower (dropUnderscores text.toList))
  let x ←
    if cs = ['.', 'i', 'n', 'f'] then pure (1.0 / 0.0)
    else if cs = ['.', 'n', 'a', 'n'] then pure (0.0 / 0.0)
    else if ':' ∈ cs then do
      sumSixtieths (← (Text.splitList ':' cs).mapM readFloat).reverse 1 0.0
    else readFloat cs
  return if negative then -x else x

end StorageHandler.Yaml
