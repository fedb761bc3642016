/-!
# Runs of characters

Classes of characters are given by the first and the last code of each run of consecutive members,
in increasing order. `inRuns` finds a code by halving.
-/

namespace StorageHandler.Text

/-- Whether `code` lies in one of the runs from position `lo` up to, and without, `hi`. -/
def inRuns (runs : Array (Nat × Nat)) (code lo hi : Nat) : Bool :=
  if _h : lo < hi then
    let mid := (lo + hi) / 2
    match runs[mid]? with
    | none => false
    | some (first, last) =>
      if code < first then inRuns runs code lo mid
      else if last < code then inRuns runs code (mid + 1) hi
      else true
  else false
termination_by hi - lo

end StorageHandler.Text
