import StorageHandler.Text.Point
import StorageHandler.Yaml.Tag

/-!
# Graphs of nodes

The nodes of a document by their numbers. An alias is the number of the node that it names, so a
node may be a part of several others, and even of itself.
-/

namespace StorageHandler.Yaml

/-- What a node holds; other nodes are given by their numbers. -/
inductive Shape where
  | scalar (text : List Text.Point)
  | sequence (items : List Nat)
  | mapping (pairs : List (Nat × Nat))
  deriving DecidableEq, Repr

/-- A node of a document. -/
structure Node where
  tag : Tag
  shape : Shape
  deriving DecidableEq, Repr

/-- The scalar of no characters. -/
def Node.empty : Node := ⟨.null, .scalar []⟩

/-- The nodes of a document. -/
abbrev Graph := Array Node

namespace Graph

/-- The node of a number. -/
def node (g : Graph) (n : Nat) : Node := g.getD n .empty

/-- The type of a node. -/
def tag (g : Graph) (n : Nat) : Tag := (g.node n).tag

/-- What a node holds. -/
def shape (g : Graph) (n : Nat) : Shape := (g.node n).shape

/-- The pairs of a mapping; none of any other node. -/
def pairs (g : Graph) (n : Nat) : List (Nat × Nat) :=
  match g.shape n with
  | .mapping pairs => pairs
  | _ => []

/-- Gives a node another type. -/
def setTag (g : Graph) (n : Nat) (tag : Tag) : Graph :=
  g.modify n fun node => { node with tag := tag }

/-- Gives a node something else to hold. -/
def setShape (g : Graph) (n : Nat) (shape : Shape) : Graph :=
  g.modify n fun node => { node with shape := shape }

end Graph

end StorageHandler.Yaml
