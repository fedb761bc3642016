import StorageHandler.Conf.Basic

/-!
# Tables of data

A caller's table has names and values of any kind. Names that are equal as numbers are one name: the
truth values count as 0 and 1, and a whole number is the same whether or not it is written with a
point. Later entries of a name replace its value; the name stays where and as it was first given.
-/

namespace StorageHandler

/-- What makes a datum the same name as another. -/
inductive Datum.Name where
  | null
  | whole (i : Int)
  | broken (bits : UInt64)
  | text (s : String)
  deriving DecidableEq, Repr

/-- The name that a datum is. A list or a record is none. -/
def Datum.name? : Datum → Option Datum.Name
  | .null => some .null
  | .boolean b => some (.whole (if b then 1 else 0))
  | .integer i => some (.whole i)
  | .number x =>
    match (Decimal.Reading.ofBits x.toBits).whole? with
    | some i => some (.whole i)
    | none => some (.broken x.toBits)
  | .text s => some (.text s)
  | .list _ => none
  | .record _ => none

/-- Whether a datum is empty: nothing, falsehood, zero, or something without content. -/
def Datum.isVoid : Datum → Bool
  | .null => true
  | .boolean b => !b
  | .integer i => i == 0
  | .number x => x == 0.0
  | .text s => s == ""
  | .list items => items.isEmpty
  | .record fields => fields.isEmpty

/-- Entries of any kind, in order. -/
abbrev Table := List (Datum × Datum)

namespace Table

/-- Gives a name its value: at its place if it is there, else at the end. -/
def put (key value : Datum) : Table → Table
  | [] => [(key, value)]
  | e :: es => if e.1.name? = key.name? then (e.1, value) :: es else e :: put key value es

/-- The entries of `t`, then those of `es`, every name once. -/
def putAll (t es : Table) : Table := es.foldl (fun t e => put e.1 e.2 t) t

/-- The table of a list of entries. Lists and records cannot be names. -/
def ofList (es : List (Datum × Datum)) : Except ConfError Table :=
  match es.find? fun e => e.1.name?.isNone with
  | some e => .error (.notAName e.1)
  | none => .ok (putAll [] es)

end Table

end StorageHandler
