import StorageHandler.Text.Blank

/-!
# Cutting texts

`cut` divides a text at the first occurrence of a separator, `split` at all of them. `entries` reads
a comma-separated list: the pieces without the blanks at their ends, the empty ones left out.
-/

namespace StorageHandler.Text

/-- The characters before the first `sep` and, if there is one, the characters after it. -/
def cutList (sep : Char) : List Char → List Char × Option (List Char)
  | [] => ([], none)
  | c :: cs =>
    if c = sep then ([], some cs)
    else ((c :: (cutList sep cs).1), (cutList sep cs).2)

/-- The pieces between the occurrences of `sep`; one piece if there is none. -/
def splitList (sep : Char) : List Char → List (List Char)
  | [] => [[]]
  | c :: cs =>
    if c = sep then [] :: splitList sep cs
    else match splitList sep cs with
      | [] => [[c]]
      | piece :: rest => (c :: piece) :: rest

/-- The text before the first `sep` and, if there is one, the text after it. -/
def cut (sep : Char) (s : String) : String × Option String :=
  let parts := cutList sep s.toList
  (String.ofList parts.1, parts.2.map String.ofList)

/-- The pieces of a text between the occurrences of `sep`. -/
def split (sep : Char) (s : String) : List String :=
  (splitList sep s.toList).map String.ofList

/-- The entries of a comma-separated list: stripped, in order, without the empty ones. -/
def entries (s : String) : List String :=
  ((split ',' s).map strip).filter (· ≠ "")

/-- The texts `pieces` with `sep` between them. -/
def join (sep : String) (pieces : List String) : String := String.intercalate sep pieces

theorem splitList_ne_nil (sep : Char) (cs : List Char) : splitList sep cs ≠ [] := by
  induction cs with
  | nil => simp [splitList]
  | cons c cs ih =>
    simp only [splitList]
    split
    · simp
    · split <;> simp

/-- A text without the separator is its only piece. -/
theorem splitList_of_not_mem {sep : Char} {cs : List Char} (h : sep ∉ cs) :
    splitList sep cs = [cs] := by
  induction cs with
  | nil => rfl
  | cons c cs ih =>
    simp only [List.mem_cons, not_or] at h
    simp [splitList, Ne.symm h.1, ih h.2]

/-- The pieces of two texts with the separator between them are those of the one, then those of the
other. -/
theorem splitList_append_cons (sep : Char) (xs ys : List Char) :
    splitList sep (xs ++ sep :: ys) = splitList sep xs ++ splitList sep ys := by
  induction xs with
  | nil => simp [splitList]
  | cons c cs ih =>
    by_cases hc : c = sep
    · simp [splitList, hc, ih]
    · simp only [List.cons_append, splitList, hc, if_false, ih]
      cases hs : splitList sep cs with
      | nil => exact absurd hs (splitList_ne_nil sep cs)
      | cons piece rest => simp

theorem cutList_of_not_mem {sep : Char} {cs : List Char} (h : sep ∉ cs) :
    cutList sep cs = (cs, none) := by
  induction cs with
  | nil => rfl
  | cons c cs ih =>
    simp only [List.mem_cons, not_or] at h
    simp [cutList, Ne.symm h.1, ih h.2]

theorem cutList_append_cons {sep : Char} {xs : List Char} (h : sep ∉ xs) (ys : List Char) :
    cutList sep (xs ++ sep :: ys) = (xs, some ys) := by
  induction xs with
  | nil => simp [cutList]
  | cons c cs ih =>
    simp only [List.mem_cons, not_or] at h
    simp [cutList, Ne.symm h.1, ih h.2]

end StorageHandler.Text
