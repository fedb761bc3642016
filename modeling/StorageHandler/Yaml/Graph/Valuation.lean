import StorageHandler.Yaml.Graph.Merge
import StorageHandler.Yaml.Scalar

/-!
# The values of nodes

Every node of a document must have a value. A scalar gets it when it is met, a collection is looked
into later: level by level, so that of several flaws the one nearest to the root is reported. A node
keeps the value that it first got, whatever happens to its type afterwards.
-/

namespace StorageHandler.Yaml

/-- The value of a node, as far as it is known when the node is met. -/
inductive Part where
  | scalar (s : Scalar)
  | collection

/-- What is known while the nodes of a document get their values. -/
structure Valuation where
  graph : Graph
  /-- The most merge keys that there can be. -/
  limit : Nat
  /-- The values so far, by the numbers of the nodes. -/
  values : Array (Option Part)
  /-- The collections that were met and not yet looked into, the last one first. -/
  waiting : List Nat
  /-- The entries of the mappings and the sets that were looked into. -/
  entries : List (Nat × List (Scalar × Nat))

/-- Gives values to nodes. -/
abbrev Valuing := StateT Valuation (Except YamlError)

namespace Graph

/-- The text that a node writes: that of a scalar, or of what a mapping has under its value key. -/
def text (g : Graph) : (fuel : Nat) → Nat → Except YamlError (List Text.Point)
  | 0, _ => .error .tooDeep
  | fuel + 1, n =>
    match g.shape n with
    | .scalar text => .ok text
    | .mapping pairs =>
      match pairs.find? fun p => g.tag p.1 = .value with
      | some p => text g fuel p.2
      | none => .error .malformed
    | .sequence _ => .error .malformed

/-- Whether a node is written as a scalar. -/
def isScalar (g : Graph) (n : Nat) : Bool :=
  match g.shape n with
  | .scalar _ => true
  | _ => false

/-- The value of a node with a type that is not that of a collection. -/
def scalarOf (g : Graph) (n : Nat) : Except YamlError Scalar :=
  match g.tag n with
  | .merge | .value | .other _ => .error .malformed
  | tag => do
    let text ← g.text (g.size + 1) n
    if tag = .timestamp ∧ !g.isScalar n then throw .timestampNotScalar
    (Scalar.ofPoints? tag text).getD (.error .malformed)

/-- Whether a type is that of a collection. -/
def isCollectionTag (tag : Tag) : Bool := (Scalar.ofPoints? tag []).isNone

end Graph

/-- The entries of a mapping with the value of a key put in. A repeated key keeps its first place
and takes the last value. -/
def putEntry (k : Scalar) (v : Nat) : List (Scalar × Nat) → List (Scalar × Nat)
  | [] => [(k, v)]
  | e :: es => if e.1.key = k.key then (e.1, v) :: es else e :: putEntry k v es

namespace Valuation

/-- The start of the valuation of a graph. -/
def start (g : Graph) : Valuation :=
  { graph := g, limit := g.mergeCount, values := Array.replicate g.size none, waiting := []
    entries := [] }

/-- The value of a node, which is found now if it is not known. -/
def evaluate (n : Nat) : Valuing Part := do
  let v ← get
  match v.values.getD n none with
  | some part => return part
  | none =>
    if Graph.isCollectionTag (v.graph.tag n) then
      set { v with
        values := v.values.setIfInBounds n (some .collection), waiting := n :: v.waiting }
      return .collection
    else
      let s ← v.graph.scalarOf n
      set { v with values := v.values.setIfInBounds n (some (.scalar s)) }
      return .scalar s

/-- Merges into a mapping and returns its pairs. -/
def pairsOf (n : Nat) : Valuing (List (Nat × Nat)) := do
  let v ← get
  let (pairs, g) ← (Graph.mergeInto v.limit n).run v.graph
  set { v with graph := g }
  return pairs

/-- Gives a key and its value their values, and puts them among entries. A collection can be no
key. -/
def enter (es : List (Scalar × Nat)) (pair : Nat × Nat) : Valuing (List (Scalar × Nat)) := do
  match ← evaluate pair.1 with
  | .collection => throw .malformed
  | .scalar k =>
    let _ ← evaluate pair.2
    return putEntry k pair.2 es

/-- Gives the parts of an item of ordered pairs their values: it is a mapping of one pair. -/
def enterSingle (n : Nat) : Valuing Unit := do
  match (← get).graph.shape n with
  | .mapping [(key, value)] =>
    let _ ← evaluate key
    let _ ← evaluate value
  | _ => throw .malformed

/-- Looks into a collection and gives its parts their values. It must be written as its type
demands. -/
def lookInto (n : Nat) : Valuing Unit := do
  let g := (← get).graph
  match g.tag n, g.shape n with
  | .sequence, .sequence items => items.forM fun item => do let _ ← evaluate item
  | .orderedMap, .sequence items => items.forM enterSingle
  | .pairs, .sequence items => items.forM enterSingle
  | .mapping, .mapping _ | .set, .mapping _ =>
    let es ← (← pairsOf n).foldlM enter []
    modify fun v => { v with entries := (n, es) :: v.entries }
  | _, _ => throw .malformed

/-- Looks into all collections, level by level. -/
def lookIntoAll : (fuel : Nat) → Valuing Unit
  | 0 => return ()
  | fuel + 1 => do
    match (← get).waiting with
    | [] => return ()
    | level =>
      modify fun v => { v with waiting := [] }
      level.reverse.forM lookInto
      lookIntoAll fuel

/-- The values of the nodes of a graph from the root on. -/
def ofGraph (g : Graph) (root : Nat) : Except YamlError Valuation := do
  let valuing : Valuing Unit := do
    let _ ← evaluate root
    lookIntoAll (g.size + 1)
  return (← valuing.run (start g)).2

/-- The entries of a mapping or a set. -/
def entriesOf (v : Valuation) (n : Nat) : List (Scalar × Nat) := (v.entries.lookup n).getD []

end Valuation

end StorageHandler.Yaml
