/-!
# Variable-length integers

Integers from -112 to 127 are one byte. Any other is a marker byte, which tells the sign and how
many bytes follow, and the bytes of its magnitude, the most significant first; a negative `v` is
stored by the magnitude `-v - 1`. Eight bytes of magnitude at most can be marked; the marker of a
longer integer wraps around, and what is written then reads as something else.
-/

namespace StorageHandler.VarInt

/-- The byte of an integer modulo 256. -/
def byteOf (v : Int) : UInt8 := UInt8.ofNat (v % 256).toNat

/-- The signed value of a byte. -/
def signed (b : UInt8) : Int := if 127 < b.toNat then (b.toNat : Int) - 256 else b.toNat

/-- The number of bytes of a magnitude. -/
def byteCount (n : Nat) : Nat := if n = 0 then 0 else byteCount (n / 256) + 1

/-- The last `count` bytes of a magnitude, the most significant first. -/
def bigEndian : Nat → Nat → List UInt8
  | 0, _ => []
  | count + 1, n => bigEndian count (n / 256) ++ [UInt8.ofNat (n % 256)]

/-- The magnitude of bytes, the most significant first. -/
def ofBigEndian (bs : List UInt8) : Nat := bs.foldl (fun n b => n * 256 + b.toNat) 0

/-- The number of bytes that follow a marker: markers from -120 on are those of natural numbers. -/
def following (marker : Int) : Nat :=
  if marker < -120 then (-(marker + 120)).toNat else (-(marker + 112)).toNat

/-- The magnitude that is stored for an integer. -/
def magnitude (v : Int) : Nat := if v < 0 then (-v - 1).toNat else v.toNat

/-- The marker of an integer. -/
def marker (v : Int) : Int := (if v < 0 then -120 else -112) - (byteCount (magnitude v) : Int)

/-- Whether an integer is written as one byte. -/
def isShort (v : Int) : Bool := -112 ≤ v && v ≤ 127

/-- The bytes of an integer. -/
def write (v : Int) : List UInt8 :=
  if isShort v then [byteOf v]
  else byteOf (marker v) :: bigEndian (following (marker v)) (magnitude v)

/-- The integer at the start of the bytes, and the bytes after it; nothing if they end too soon. -/
def read? : List UInt8 → Option (Int × List UInt8)
  | [] => none
  | b :: bs =>
    let m := signed b
    if -112 ≤ m then some (m, bs)
    else
      let (chunk, rest) := bs.splitAt (following m)
      if chunk.length = following m then
        let n := ofBigEndian chunk
        some (if m < -120 then -(n : Int) - 1 else n, rest)
      else none

end StorageHandler.VarInt
