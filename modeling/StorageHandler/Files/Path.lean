import StorageHandler.Text.Cut

/-!
# Paths

A path is a root and the names below it. Empty names and single dots say nothing and are left out;
two dots stay, for what they mean depends on the links before them.
-/

namespace StorageHandler

/-- A path in a file system. -/
structure Path where
  /-- The slashes that the path starts with: none, one, or exactly two. -/
  root : String
  names : List String
  deriving DecidableEq, Repr

namespace Path

/-- The slashes at the start of a path: of three or more only one counts. -/
def rootOf : List Char → String
  | '/' :: '/' :: '/' :: _ => "/"
  | '/' :: '/' :: _ => "//"
  | '/' :: _ => "/"
  | _ => ""

/-- The path that a text writes. -/
def ofString (s : String) : Path :=
  ⟨rootOf s.toList, (Text.split '/' s).filter fun name => name ≠ "" && name ≠ "."⟩

/-- A path as a text. -/
def text (p : Path) : String :=
  if p.root = "" ∧ p.names = [] then "." else p.root ++ Text.join "/" p.names

/-- The path without its last name. -/
def parent (p : Path) : Path := { p with names := p.names.dropLast }

end Path

end StorageHandler
