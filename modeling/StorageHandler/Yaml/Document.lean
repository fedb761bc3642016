import StorageHandler.Yaml.Graph.Grammar
import StorageHandler.Yaml.Graph.Valuation

/-!
# Documents

What a text says, as far as a flat configuration can use it: the root is a scalar or a collection,
and of a mapping at the root every key and every value is given; of the collections among the values
only what they are is told, and the members of sets.
-/

namespace StorageHandler.Yaml

/-- The value of a node below the root. -/
inductive Value where
  | scalar (s : Scalar)
  | sequence
  | mapping
  | set (members : List Scalar)

/-- What a document says. -/
inductive Content where
  | scalar (s : Scalar)
  | sequence
  | set
  | mapping (entries : List (Scalar × Value))

namespace Valuation

/-- The value of a node below the root. -/
def valueOf (v : Valuation) (n : Nat) : Value :=
  match v.values.getD n none, v.graph.tag n with
  | some (.scalar s), _ => .scalar s
  | _, .mapping => .mapping
  | _, .set => .set ((v.entriesOf n).map Prod.fst)
  | _, _ => .sequence

/-- What the root says. -/
def content (v : Valuation) (root : Nat) : Content :=
  match v.valueOf root with
  | .scalar s => .scalar s
  | .sequence => .sequence
  | .mapping => .mapping ((v.entriesOf root).map fun e => (e.1, v.valueOf e.2))
  | .set _ => .set

end Valuation

/-- Line breaks of one or two characters as line feeds. -/
def unifyBreaks : List Char → List Char
  | [] => []
  | '\r' :: '\n' :: cs => '\n' :: unifyBreaks cs
  | '\r' :: cs => '\n' :: unifyBreaks cs
  | c :: cs => c :: unifyBreaks cs

/-- A reader of texts: `read`, or another one in its place. -/
abbrev Reader := String → Except YamlError Content

/-- What a text says. A text without a document says nothing. -/
def read (text : String) : Except YamlError Content := do
  let cs := unifyBreaks text.toList
  if !cs.all isAllowed then throw .malformed
  let (ts, ending) := tokens cs
  match ← Graph.ofTokens ts ending with
  | none => return .scalar .null
  | some (root, g) => return (← Valuation.ofGraph g root).content root

end StorageHandler.Yaml
