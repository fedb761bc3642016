/-!
# Ordered maps

A map that remembers the order of its keys. A key that is inserted again keeps its place and takes
the new value; a new key goes to the end. No key stands twice (`OrderedMap.nodup`), so the list of
entries is the whole of the map.

Main statements: `find?_insert` says what is found after an insertion, `keys_insert` where the key
stands.
-/

namespace StorageHandler

universe u v

variable {κ : Type u} {ν : Type v}

/-- Entries with distinct keys, in order. -/
structure OrderedMap (κ : Type u) (ν : Type v) where
  entries : List (κ × ν)
  nodup : (entries.map Prod.fst).Nodup

namespace OrderedMap

section Entries

variable [DecidableEq κ]

/-- The value of `k` in a list of entries. -/
def lookup (k : κ) : List (κ × ν) → Option ν
  | [] => none
  | e :: es => if e.1 = k then some e.2 else lookup k es

/-- The entries with the value of `k` replaced, or with `k` at the end. -/
def put (k : κ) (v : ν) : List (κ × ν) → List (κ × ν)
  | [] => [(k, v)]
  | e :: es => if e.1 = k then (k, v) :: es else e :: put k v es

theorem map_fst_put (k : κ) (v : ν) (es : List (κ × ν)) :
    (put k v es).map Prod.fst =
      if k ∈ es.map Prod.fst then es.map Prod.fst else es.map Prod.fst ++ [k] := by
  induction es with
  | nil => simp [put]
  | cons e es ih =>
    by_cases h : e.1 = k
    · simp [put, h]
    · have h' : ¬k = e.1 := fun hk => h hk.symm
      simp only [put, h, if_false, List.map_cons, ih, List.mem_cons, h', false_or]
      split <;> simp

theorem nodup_put (k : κ) (v : ν) {es : List (κ × ν)} (h : (es.map Prod.fst).Nodup) :
    ((put k v es).map Prod.fst).Nodup := by
  rw [map_fst_put]
  split
  · exact h
  · rename_i hk
    refine List.nodup_append.2 ⟨h, by simp, ?_⟩
    intro a ha b hb
    simp only [List.mem_singleton] at hb
    exact fun hab => hk (by rw [← hb, ← hab]; exact ha)

theorem lookup_put (k k' : κ) (v : ν) (es : List (κ × ν)) :
    lookup k' (put k v es) = if k = k' then some v else lookup k' es := by
  induction es with
  | nil => simp [put, lookup]
  | cons e es ih =>
    by_cases h : e.1 = k
    · by_cases hk : k = k' <;> simp_all [put, lookup]
    · by_cases hk : k = k'
      · subst hk
        simp [put, lookup, h, ih]
      · simp [put, lookup, h, ih, hk]

end Entries

/-- The map without entries. -/
def empty : OrderedMap κ ν := ⟨[], by simp⟩

@[simp] theorem entries_empty : (empty : OrderedMap κ ν).entries = [] := rfl

instance : EmptyCollection (OrderedMap κ ν) := ⟨empty⟩

instance : Inhabited (OrderedMap κ ν) := ⟨empty⟩

/-- The keys in order. -/
def keys (m : OrderedMap κ ν) : List κ := m.entries.map Prod.fst

/-- The values in the order of their keys. -/
def values (m : OrderedMap κ ν) : List ν := m.entries.map Prod.snd

/-- The number of entries. -/
def size (m : OrderedMap κ ν) : Nat := m.entries.length

@[ext] theorem ext {m n : OrderedMap κ ν} (h : m.entries = n.entries) : m = n := by
  cases m
  cases n
  simp_all

instance [DecidableEq κ] [DecidableEq ν] : DecidableEq (OrderedMap κ ν) := fun m n =>
  if h : m.entries = n.entries then isTrue (ext h) else isFalse fun hmn => h (hmn ▸ rfl)

variable [DecidableEq κ]

/-- The value of a key. -/
def find? (m : OrderedMap κ ν) (k : κ) : Option ν := lookup k m.entries

/-- Whether a key has a value. -/
def contains (m : OrderedMap κ ν) (k : κ) : Bool := (m.find? k).isSome

/-- Gives a key a value: at its place if it has one, else at the end. -/
def insert (m : OrderedMap κ ν) (k : κ) (v : ν) : OrderedMap κ ν :=
  ⟨put k v m.entries, nodup_put k v m.nodup⟩

/-- The map without a key. -/
def erase (m : OrderedMap κ ν) (k : κ) : OrderedMap κ ν :=
  ⟨m.entries.filter fun e => e.1 ≠ k, (List.filter_sublist.map Prod.fst).nodup m.nodup⟩

/-- Inserts entries from left to right. -/
def insertMany (m : OrderedMap κ ν) (es : List (κ × ν)) : OrderedMap κ ν :=
  es.foldl (fun m e => m.insert e.1 e.2) m

/-- The map of a list of entries: a repeated key keeps its first place and its last value. -/
def ofList (es : List (κ × ν)) : OrderedMap κ ν := empty.insertMany es

/-- The entries of `m` with those of `n` inserted. -/
def union (m n : OrderedMap κ ν) : OrderedMap κ ν := m.insertMany n.entries

/-- Whether two maps have the same entries, in whatever order. -/
def sameEntries [DecidableEq ν] (m n : OrderedMap κ ν) : Bool :=
  m.size == n.size && m.entries.all fun e => n.find? e.1 = some e.2

@[simp] theorem find?_empty (k : κ) : (empty : OrderedMap κ ν).find? k = none := rfl

theorem find?_insert (m : OrderedMap κ ν) (k k' : κ) (v : ν) :
    (m.insert k v).find? k' = if k = k' then some v else m.find? k' :=
  lookup_put k k' v m.entries

theorem keys_insert (m : OrderedMap κ ν) (k : κ) (v : ν) :
    (m.insert k v).keys = if k ∈ m.keys then m.keys else m.keys ++ [k] :=
  map_fst_put k v m.entries

theorem insertMany_append (m : OrderedMap κ ν) (es fs : List (κ × ν)) :
    m.insertMany (es ++ fs) = (m.insertMany es).insertMany fs := by
  simp [insertMany]

end OrderedMap

end StorageHandler
