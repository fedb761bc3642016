import StorageHandler.Files.System

/-!
# Artifacts

The code that defines a class: the archive its module was loaded from, the directory of its
top-level package, or the file of its module. `ModuleTable.artifact?` finds it.
-/

namespace StorageHandler

/-- A loaded module. -/
structure LoadedModule where
  name : String
  /-- The file of the module. -/
  file : Option String
  /-- The directories of a package; nothing if the module is no package. -/
  directories : Option (List String)
  /-- The archive that the module was loaded from. -/
  archive : Option String
  deriving DecidableEq, Repr

/-- A class by the name of its module and its name there. -/
structure ClassName where
  moduleName : String
  name : String
  deriving DecidableEq, Repr

/-- The module of the classes that need no module. -/
def builtinModule : String := "builtins"

/-- A class as messages show it: a builtin one by the last part of its name alone. -/
def ClassName.shown (c : ClassName) : String :=
  if c.moduleName = builtinModule then
    "<class '" ++ (Text.split '.' c.name).getLastD "" ++ "'>"
  else "<class '" ++ c.moduleName ++ "." ++ c.name ++ "'>"

/-- The modules that are loaded. -/
abbrev ModuleTable := List LoadedModule

namespace LoadedModule

/-- The file of a module, if it is said. -/
def file? (m : LoadedModule) : Option String := m.file.filter (· ≠ "")

/-- The directory of a package: that of its own file, or the first it is searched in. -/
def packageDirectory? (m : LoadedModule) (directories : List String) : Option Path :=
  match m.file? with
  | some f => some (Path.ofString f).parent
  | none => directories.head?.map Path.ofString

end LoadedModule

namespace ModuleTable

/-- The module of a name. -/
def get? (t : ModuleTable) (name : String) : Option LoadedModule := t.find? fun m => m.name = name

/-- The name of the package at the top of a dotted name. -/
def topLevel (name : String) : String := (Text.cut '.' name).1

/-- The artifact that defines a class. -/
def artifact? (t : ModuleTable) (c : ClassName) : Option Path := do
  let m ← t.get? c.moduleName
  match m.archive with
  | some archive => some (Path.ofString archive)
  | none =>
    let top := t.get? (topLevel c.moduleName)
    match top, top.bind LoadedModule.directories with
    | some package, some directories => package.packageDirectory? directories
    | _, _ => m.file?.map Path.ofString

end ModuleTable

end StorageHandler
