import StorageHandler.Cli.Program

/-!
# Entry point

Looks at the process and at the files that its command line and environment name, runs the program
on what was seen, with `Yaml.read` as the reader of configuration files, and writes what the run
leaves.
-/

namespace StorageHandler

/-- The physical path of a path text, if there is something. -/
def physical? (text : String) : IO (Option (List String)) := do
  try
    return some (Path.ofString (← IO.FS.realPath text).toString).names
  catch _ => return none

/-- The text of a physical path. -/
def placeText (place : List String) : String := Path.text ⟨"/", place⟩

/-- What stands at a physical path that is no link. -/
def observeEntry (place : List String) : IO Entry := do
  let path ← IO.FS.realPath (placeText place)
  if ← path.isDir then
    return if ← (path / ".").pathExists then .directory else .closedDirectory
  try
    return .file (← IO.FS.readBinFile path).toList
  catch _ => return .closedFile

/-- The directories above a physical path. -/
def directoriesAbove (place : List String) : List (List String × Entry) :=
  (List.range place.length).map fun n => (place.take n, .directory)

/-- What stands on the way from a physical path along names. -/
def observeWay (place : List String) : List String → IO (List (List String × Entry))
  | [] => return []
  | name :: names => do
    if name = ".." then observeWay place.dropLast names
    else
      let here := place ++ [name]
      match ← physical? (placeText here) with
      | none => return []
      | some next =>
        let link := if next = here then [] else [(here, .link (placeText next))]
        let found := (next, ← observeEntry next)
        return link ++ found :: directoriesAbove next ++ (← observeWay next names)

/-- The directory of each user, from the lines of the user table. -/
def homesOf (table : String) : List (String × String) :=
  (Text.split '\n' table).filterMap fun line =>
    match Text.split ':' line with
    | [user, _, _, _, _, home, _] => some (user, home)
    | _ => none

/-- The file system without its files. -/
def emptyFileSystem : IO FileSystem := do
  let users ← try IO.FS.readFile "/etc/passwd" catch _ => pure ""
  let directory ← physical? "."
  return { entries := []
           workingDirectory := directory.getD []
           home := (← IO.getEnv "HOME").getD "/"
           homes := homesOf users }

/-- The paths that a run looks at. -/
def namedPaths (env : Environment) (fs : FileSystem) (arguments : List String) : List Path :=
  let command := match Cli.Command.ofArguments arguments with
    | .ok (.masterAddresses confFile _ _) => confFile.toList
    | .ok (.inspectTokens tokenFile) => tokenFile.toList
    | _ => []
  command.map Path.ofString
    ++ env.tokenFile.toList.filterMap fun value => fs.expandUser (Path.ofString value)

/-- The file system as far as a run looks at it. -/
def observe (env : Environment) (arguments : List String) : IO FileSystem := do
  let fs ← emptyFileSystem
  let seen ← (namedPaths env fs arguments).mapM fun path =>
    observeWay (fs.start path.root) path.names
  let directory := fs.workingDirectory
  return { fs with
    entries := seen.flatten ++ (directory, .directory) :: directoriesAbove directory }

/-- Runs the program with the arguments and the variables of the process. -/
def launch (arguments : List String) : IO UInt32 := do
  let env : Environment := ⟨← IO.getEnv tokenFileVariable, ← IO.getEnv mastersVariable⟩
  match Cli.run (some Yaml.read) env (← observe env arguments) arguments with
  | .ok outcome =>
    IO.print outcome.output
    IO.eprint outcome.errors
    return outcome.code.toUInt32
  | .error failure =>
    IO.eprintln failure.message
    return 1

end StorageHandler

/-- Runs the program. -/
def main (arguments : List String) : IO UInt32 := StorageHandler.launch arguments
