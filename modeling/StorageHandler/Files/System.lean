import StorageHandler.Failure
import StorageHandler.Files.Path
import StorageHandler.Text.Encoding
import StorageHandler.Text.Numeral
import StorageHandler.Text.Quoted

/-!
# File systems

A file system holds files, directories and symbolic links at physical paths, the lists of names from
the root, as one process sees them: a file may be closed to its reading and a directory to its
search. `FileSystem.find` follows a path through links to what it leads to, `FileSystem.read` reads
a file, and `FileSystem.resolve` writes a path without links and dots, as far as it exists.
-/

namespace StorageHandler

/-- What stands at a physical path. -/
inductive Entry where
  | file (content : List UInt8)
  /-- A file that the process may not read. -/
  | closedFile
  | directory
  /-- A directory that the process may neither read nor search. -/
  | closedDirectory
  | link (target : String)
  deriving DecidableEq

/-- Whether a directory stands there, open or closed. -/
def Entry.isDirectory : Entry → Bool
  | .directory | .closedDirectory => true
  | _ => false

/-- A file system as one process sees it. -/
structure FileSystem where
  /-- What stands where; the root is always a directory. -/
  entries : List (List String × Entry)
  /-- The physical path of the working directory. -/
  workingDirectory : List String
  /-- The directory of the user of the process, as the process is told. -/
  home : String
  /-- The directories of the users by name. -/
  homes : List (String × String)

/-- Why the system cannot find or read something. -/
inductive FileError where
  | notFound
  /-- A directory may not be searched, or a file may not be read. -/
  | denied
  | notDirectory
  | isDirectory
  | nameTooLong
  | tooManyLinks
  /-- A path holds the character NUL. -/
  | nulInPath
  deriving DecidableEq, Repr

namespace FileError

/-- The number and the name of an error. -/
def description : FileError → Nat × String
  | .notFound => (2, "No such file or directory")
  | .denied => (13, "Permission denied")
  | .notDirectory => (20, "Not a directory")
  | .isDirectory => (21, "Is a directory")
  | .nameTooLong => (36, "File name too long")
  | .tooManyLinks => (40, "Too many levels of symbolic links")
  | .nulInPath => (22, "Invalid argument")

/-- What an error at a path says. -/
def message (e : FileError) (p : Path) : String :=
  "[Errno " ++ Text.Numeral.text e.description.1 ++ "] " ++ e.description.2 ++ ": "
    ++ Text.quoted p.text

/-- The kind of the failure. -/
def kind : FileError → Failure.Kind
  | .nulInPath => .value
  | _ => .system

/-- An error at a path as a failure. -/
def failure (e : FileError) (p : Path) : Failure := ⟨e.kind, e.message p⟩

/-- Whether an error only means that nothing is there. -/
def isAbsence : FileError → Bool
  | .denied | .nameTooLong => false
  | _ => true

end FileError

namespace FileSystem

/-- What stands at a physical path. -/
def entry? (fs : FileSystem) (place : List String) : Option Entry :=
  if place = [] then some .directory
  else (fs.entries.find? fun e => e.1 = place).map Prod.snd

/-- The most links that are followed on the way to one file. -/
def maxLinks : Nat := 40

/-- The most bytes of a name. -/
def maxName : Nat := 255

/-- The most bytes of a path. -/
def maxPath : Nat := 4095

/-- The physical path from which a path text starts. -/
def start (fs : FileSystem) (root : String) : List String :=
  if root = "" then fs.workingDirectory else []

/-- Follows names from a physical path, through at most `links` links. The last link is followed
only if `last` says so. -/
def walk (fs : FileSystem) (last : Bool) :
    (links : Nat) → List String → List String → Except FileError (List String × Entry)
  | _, place, [] =>
    match fs.entry? place with
    | some e => .ok (place, e)
    | none => .error .notFound
  | links, place, name :: names =>
    match fs.entry? place with
    | none => .error .notFound
    | some (.file _) => .error .notDirectory
    | some .closedFile => .error .notDirectory
    | some (.link _) => .error .notDirectory
    | some .closedDirectory =>
      if name = "" then walk fs last links place names else .error .denied
    | some .directory =>
      if name = "" ∨ name = "." then walk fs last links place names
      else if name = ".." then walk fs last links place.dropLast names
      else if maxName < (Text.encode name).length then .error .nameTooLong
      else
        let next := place ++ [name]
        match fs.entry? next with
        | none => .error .notFound
        | some (.link target) =>
          if names = [] ∧ ¬last then .ok (next, .link target)
          else match links with
            | 0 => .error .tooManyLinks
            | links + 1 =>
              let onward := Text.split '/' target
              if Path.rootOf target.toList = "" then walk fs last links place (onward ++ names)
              else walk fs last links [] (onward ++ names)
        | some _ => walk fs last links next names
termination_by links _ names => (links, names.length)

/-- What a path leads to, and where that is. -/
def find (fs : FileSystem) (p : Path) : Except FileError (List String × Entry) :=
  if p.text.contains (Char.ofNat 0) then .error .nulInPath
  else if maxPath < (Text.encode p.text).length then .error .nameTooLong
  else walk fs true maxLinks (fs.start p.root) p.names

/-- The content of a file. -/
def read (fs : FileSystem) (p : Path) : Except FileError (List UInt8) := do
  match (← fs.find p).2 with
  | .file content => return content
  | .closedFile | .closedDirectory => throw .denied
  | _ => throw .isDirectory

/-- Whether there is something at a path. An error other than absence is passed on. -/
def isThere (fs : FileSystem) (p : Path) : Except FileError Bool :=
  match fs.find p with
  | .ok _ => .ok true
  | .error e => if e.isAbsence then .ok false else .error e

/-- Whether there is a directory at a path. -/
def isDirectory (fs : FileSystem) (p : Path) : Except FileError Bool :=
  match fs.find p with
  | .ok (_, e) => .ok e.isDirectory
  | .error e => if e.isAbsence then .ok false else .error e

/-- The target of the link at a physical path, if there is one. -/
def linkAt? (fs : FileSystem) (place : List String) : Option String :=
  match fs.entry? place with
  | some (.link target) => some target
  | _ => none

/-- Replaces links in names from the physical path `place`. Names that lead nowhere stay, and two
dots after them take the name before away. `opened` holds the links on the way: one of them again is
a loop, and the rest stays as it is, which the second component reports. -/
def unlink (fs : FileSystem) : (links : Nat) → List (List String) → List String → List String →
    List String × Bool
  | _, _, place, [] => (place, true)
  | links, opened, place, name :: names =>
    if name = "" ∨ name = "." then unlink fs links opened place names
    else if name = ".." then unlink fs links opened place.dropLast names
    else
      let next := place ++ [name]
      match fs.linkAt? next with
      | none => unlink fs links opened next names
      | some target =>
        if next ∈ opened then (next ++ names, false)
        else match links with
          | 0 => (next ++ names, false)
          | links + 1 =>
            let base := if Path.rootOf target.toList = "" then place else []
            match unlink fs links (next :: opened) base (Text.split '/' target) with
            | (place', true) => unlink fs (links + 1) opened place' names
            | (place', false) => (place' ++ names, false)
termination_by links _ _ names => (links, names.length)

/-- Names with every two dots taken back, and single dots left out. -/
def collapse (names : List String) : List String :=
  names.foldl (fun done name =>
    if name = "" ∨ name = "." then done
    else if name = ".." then done.dropLast
    else done ++ [name]) []

/-- The absolute path without links and dots; nothing if links form a loop. -/
def resolve (fs : FileSystem) (p : Path) : Option Path :=
  let (names, _) := unlink fs fs.entries.length [] (fs.start p.root) p.names
  let q : Path := ⟨"/", collapse names⟩
  match fs.find q with
  | .error .tooManyLinks => none
  | _ => some q

/-- The path of a user's directory, from what is said about it. Slashes at the end do not count, and
the root is what is left of nothing; a tilde at the start says that the directory is not known. -/
def homePath? (directory : String) : Option Path :=
  match (directory.toList.reverse.dropWhile (· = '/')).reverse with
  | [] => some ⟨"/", []⟩
  | '~' :: _ => none
  | cs => some (Path.ofString (String.ofList cs))

/-- What is said about the directory of a user; the one without a name is that of the process. -/
def homeOf? (fs : FileSystem) (user : List Char) : Option String :=
  if user = [] then some fs.home
  else (fs.homes.find? fun h => h.1.toList = user).map Prod.snd

/-- The path with the tilde of a user replaced by the user's directory; nothing if that is not
known. -/
def expandUser (fs : FileSystem) (p : Path) : Option Path :=
  match p.root, p.names with
  | "", name :: names =>
    match name.toList with
    | '~' :: user => do
      let base ← homePath? (← fs.homeOf? user)
      return { base with names := base.names ++ names }
    | _ => some p
  | _, _ => some p

end FileSystem

end StorageHandler
