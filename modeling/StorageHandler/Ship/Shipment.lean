import StorageHandler.Conf.ListValue
import StorageHandler.Event
import StorageHandler.Files.Uri
import StorageHandler.Ship.Artifact

/-!
# Shipments

A job's configuration lists the artifacts that travel with it. `ship` adds those of classes, as URIs
and each once, and changes nothing if one of them cannot be found.
-/

namespace StorageHandler

/-- The setting that lists the artifacts. -/
def shipKey : String := "tmpjars"

/-- Why artifacts cannot be shipped. -/
inductive ShipError where
  /-- A class has no artifact. -/
  | notFound (c : ClassName)
  /-- The artifact of a class is not there. -/
  | notThere (artifact : Path) (c : ClassName)
  /-- The artifact of a class cannot be looked at. -/
  | inaccessible (error : FileError) (artifact : Path)
  /-- The links at an artifact form a loop. -/
  | linkLoop (artifact : Path)
  deriving DecidableEq, Repr

namespace ShipError

/-- What the failure says. -/
def message : ShipError → String
  | .notFound c =>
    "Could not find the artifact for class " ++ c.shown ++ " in order to ship it to the cluster."
  | .notThere artifact c =>
    "Could not validate artifact " ++ artifact.text ++ " for class " ++ c.shown ++ "."
  | .inaccessible error artifact => error.message artifact
  | .linkLoop artifact => artifact.text

/-- The kind of the failure. -/
def kind : ShipError → Failure.Kind
  | .notFound _ => .unresolvedArtifact
  | .notThere .. => .unresolvedArtifact
  | .inaccessible error _ => error.kind
  | .linkLoop _ => .runtime

/-- The failure with its kind. -/
def failure (e : ShipError) : Failure := ⟨e.kind, e.message⟩

end ShipError

/-- The first occurrences of the items of a list. -/
def distinct (items : List String) : List String :=
  items.foldl (fun done item => if item ∈ done then done else done ++ [item]) []

/-- The URI of the artifact of a class. -/
def artifactUri (fs : FileSystem) (t : ModuleTable) (c : ClassName) : Except ShipError String := do
  let some artifact := t.artifact? c | throw (.notFound c)
  match fs.isThere artifact with
  | .error error => throw (.inaccessible error artifact)
  | .ok false => throw (.notThere artifact c)
  | .ok true =>
    let some resolved := fs.resolve artifact | throw (.linkLoop artifact)
    return Uri.ofPath resolved

/-- A ship-list, what is new in it, and the configuration that holds it. -/
structure Shipment where
  list : List String
  added : List String
  conf : JobConf

/-- The events that a shipment logs. -/
def Shipment.events (s : Shipment) : List Event :=
  if s.added = [] then [] else [.artifactsAdded s.added]

/-- Adds the artifacts of classes to the ship-list of a configuration; nothing stands for no class.
An empty list is not written. -/
def ship (fs : FileSystem) (t : ModuleTable) (conf : JobConf) (classes : List (Option ClassName)) :
    Except ShipError Shipment := do
  let uris ← (classes.filterMap id).mapM (artifactUri fs t)
  let before := distinct (conf.strings shipKey)
  let list := distinct (before ++ uris)
  let added := list.drop before.length
  if list = [] then return ⟨[], [], conf⟩
  return ⟨list, added, conf.insertStrings shipKey list⟩

end StorageHandler
