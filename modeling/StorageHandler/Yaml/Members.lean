import StorageHandler.Yaml.Scalar

/-!
# The members of a set

A set is written in the order of a table of slots. The place of a number in the table follows from
its residue: the slot of that number modulo the size of the table, or a free one after it. The table
grows when three fifths of it are full. Members that are no numbers have no places of their own, and
a set with one of them is written as it was filled.
-/

namespace StorageHandler.Yaml

/-- The modulus of residues. -/
def residueModulus : Nat := Nat.pow 2 61 - 1

/-- The residue of a whole number with the sign of the number. The residue -1 is never used. -/
def signedResidue (negative : Bool) (n : Nat) : Int :=
  let r : Int := (n % residueModulus : Nat)
  let r := if negative then -r else r
  if r = -1 then -2 else r

/-- The residue of the infinite numbers, apart from the sign. -/
def infiniteResidue : Int := 314159

/-- The residue of a number. A power of two counts modulo the residue modulus, where the 61st is
1. -/
def Scalar.residue? : Scalar → Option Int
  | .boolean b => some (if b then 1 else 0)
  | .integer i => some (signedResidue (i < 0) i.natAbs)
  | .number x =>
    match Decimal.Reading.ofBits x.toBits with
    | .notANumber => none
    | .infinite negative => some (if negative then -infiniteResidue else infiniteResidue)
    | .finite negative m =>
      some (signedResidue negative (m.mantissa * Nat.pow 2 (m.exponent % 61).toNat))
  | _ => none

/-- A table of slots with places and what stands there. -/
abbrev Slots (α : Type) := Array (Option (Nat × α))

namespace Slots

variable {α : Type}

/-- A table without entries. -/
def empty (size : Nat) : Slots α := Array.replicate size none

/-- How many slots after the first one are tried before the search goes on elsewhere. -/
def reach : Nat := 9

/-- The free slot for an entry: from slot `i` on, then from ever new ones, on which what is left of
the place has less and less influence. -/
def free (slots : Slots α) : (fuel : Nat) → (i place : Nat) → Nat
  | 0, i, _ => i
  | fuel + 1, i, place =>
    let tried := if i + reach < slots.size then reach + 1 else 1
    match (List.range tried).find? fun j => (slots.getD (i + j) none).isNone with
    | some j => i + j
    | none => free slots fuel ((i * 5 + 1 + place / 32) % slots.size) (place / 32)

/-- Puts an entry into a free slot. -/
def put (slots : Slots α) (entry : Nat × α) : Slots α :=
  slots.setIfInBounds (slots.free (slots.size + 13) (entry.1 % slots.size) entry.1) (some entry)

/-- The entries in the order of their slots. -/
def entries (slots : Slots α) : List (Nat × α) := slots.toList.filterMap id

/-- The entries in a table with more than `least` slots: a power of two, and 8 at least. -/
def widen (slots : Slots α) (least : Nat) : Slots α :=
  slots.entries.foldl put (empty (Nat.pow 2 (max 3 (Nat.log2 least + 1))))

/-- Whether a table with `count` entries is too full. -/
def isFull (slots : Slots α) (count : Nat) : Bool := (slots.size - 1) * 3 ≤ count * 5

/-- Puts an entry into a table that holds `count` entries, and widens it if it is too full then. -/
def add (slots : Slots α) (count : Nat) (entry : Nat × α) : Slots α :=
  let slots := slots.put entry
  if slots.isFull (count + 1) then
    slots.widen ((count + 1) * if 50000 < count + 1 then 2 else 4)
  else slots

/-- The table of a list of entries, which is wide enough for them from the start. -/
def ofList (es : List (Nat × α)) : Slots α :=
  let start : Slots α := empty 8
  let start := if start.isFull es.length then start.widen (es.length * 2) else start
  (es.foldl (fun t e => (t.1.add t.2 e, t.2 + 1)) (start, 0)).1

end Slots

/-- The place of a residue: the residue modulo the 64th power of two. -/
def placeOf (residue : Int) : Nat := (residue % (Nat.pow 2 64 : Nat)).toNat

/-- A scalar with its place, if it has one. -/
def Scalar.placed? (s : Scalar) : Option (Nat × Scalar) := s.residue?.map fun r => (placeOf r, s)

/-- The members of a set in the order in which it is written. -/
def orderedMembers (members : List Scalar) : List Scalar :=
  match members.mapM Scalar.placed? with
  | some es => (Slots.ofList es).entries.map Prod.snd
  | none => members

end StorageHandler.Yaml
