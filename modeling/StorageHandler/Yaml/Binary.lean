import StorageHandler.Yaml.Error

/-!
# Binary scalars

Bytes in groups of four characters for three bytes. Characters outside the alphabet do not count,
and padding ends the text once it fills a group.
-/

namespace StorageHandler.Yaml

/-- The number of a character of the alphabet. -/
def sextet? (c : Char) : Option Nat :=
  if 'A' ≤ c ∧ c ≤ 'Z' then some (c.toNat - 'A'.toNat)
  else if 'a' ≤ c ∧ c ≤ 'z' then some (c.toNat - 'a'.toNat + 26)
  else if '0' ≤ c ∧ c ≤ '9' then some (c.toNat - '0'.toNat + 52)
  else if c = '+' then some 62
  else if c = '/' then some 63
  else none

/-- The bytes of characters, given those of the group so far and the padding after them. An
unfinished group at the end is an error. -/
def groupBytes : List Char → (group : List Nat) → (pads : Nat) → Option (List UInt8)
  | [], group, _ => if group = [] then some [] else none
  | '=' :: cs, group, pads =>
    match group with
    | [a, b] =>
      if 1 ≤ pads then some [UInt8.ofNat (a * 4 + b / 16)] else groupBytes cs [a, b] (pads + 1)
    | [a, b, c] => some [UInt8.ofNat (a * 4 + b / 16), UInt8.ofNat (b % 16 * 16 + c / 4)]
    | group => groupBytes cs group pads
  | ch :: cs, group, pads =>
    match sextet? ch with
    | none => groupBytes cs group pads
    | some d =>
      match group with
      | [a, b, c] =>
        (groupBytes cs [] 0).map
          ([UInt8.ofNat (a * 4 + b / 16), UInt8.ofNat (b % 16 * 16 + c / 4),
            UInt8.ofNat (c % 4 * 64 + d)] ++ ·)
      | group => groupBytes cs (group ++ [d]) 0

/-- The bytes that a scalar writes. -/
def bytesOf (text : String) : Except YamlError (List UInt8) :=
  if text.toList.all fun c => c.toNat < 0x80 then
    match groupBytes text.toList [] 0 with
    | some bs => .ok bs
    | none => .error .malformed
  else .error .malformed

end StorageHandler.Yaml
