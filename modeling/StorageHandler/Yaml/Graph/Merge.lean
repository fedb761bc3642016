import StorageHandler.Yaml.Error
import StorageHandler.Yaml.Graph.Basic

/-!
# Merging

A merge key in a mapping names a mapping, or a sequence of mappings, whose pairs stand in front of
the mapping's own. `mergeInto` takes the merge keys of a mapping out, and those of the mappings that
they name, so every later look at one of these nodes finds the merged pairs. Keys that would be
value keys become strings on the way.

A merge key is taken out before what it names is merged, so mappings that merge each other do not
stop the merging; and as many merge keys as there are bound the number of steps.
-/

namespace StorageHandler.Yaml

/-- Changes the nodes of a document. -/
abbrev Merging := StateT Graph (Except YamlError)

namespace Graph

/-- How many merge keys the mappings have. -/
def mergeCount (g : Graph) : Nat :=
  (List.range g.size).foldl (fun m n => m + (g.pairs n).countP fun p => g.tag p.1 = .merge) 0

/-- The value key of a pair becomes a string. -/
def plainKey (g : Graph) (p : Nat × Nat) : Graph :=
  if g.tag p.1 = .value then g.setTag p.1 .string else g

/-- Passes over the pairs of the mapping `n` from place `i` on. The first of them with a merge key
is taken out; the results are its place and its value. -/
def nextMerge (n i : Nat) : Merging (Option (Nat × Nat)) := do
  let g ← get
  let (before, rest) := (g.pairs n).splitAt i
  let passed := rest.takeWhile fun p => g.tag p.1 ≠ .merge
  let g := passed.foldl plainKey g
  match rest.drop passed.length with
  | [] =>
    set g
    return none
  | p :: after =>
    set (g.setShape n (.mapping (before ++ passed ++ after)))
    return some (i + passed.length, p.2)

/-- Puts the pairs that `merges` finds in front of those of the mapping `n`, and returns all. -/
def prepend (n : Nat) (merges : Merging (List (Nat × Nat))) : Merging (List (Nat × Nat)) := do
  let found ← merges
  let g ← get
  let pairs := found ++ g.pairs n
  set (g.setShape n (.mapping pairs))
  return pairs

/-- The pairs of a node that must be a mapping, after the merging `merges` into it. -/
def mergedPairs (n : Nat) (merges : Merging (List (Nat × Nat))) : Merging (List (Nat × Nat)) := do
  match (← get).shape n with
  | .mapping _ => prepend n merges
  | _ => throw .malformed

/-- Takes the merge keys of the mapping `n` from place `i` on out, and returns the pairs that they
name. Of a sequence, the pairs of the last mapping come first. -/
def merges : (fuel : Nat) → (n i : Nat) → Merging (List (Nat × Nat))
  | 0, _, _ => return []
  | fuel + 1, n, i => do
    match ← nextMerge n i with
    | none => return []
    | some (j, value) =>
      let found ← match (← get).shape value with
        | .sequence items => do
          let lists ← items.mapM fun item => mergedPairs item (merges fuel item 0)
          pure lists.reverse.flatten
        | _ => mergedPairs value (merges fuel value 0)
      return found ++ (← merges fuel n j)

/-- Merges into the mapping `n` what its merge keys name, and returns its pairs. There are at most
`limit` merge keys in all. -/
def mergeInto (limit n : Nat) : Merging (List (Nat × Nat)) := prepend n (merges (limit + 1) n 0)

end Graph

end StorageHandler.Yaml
