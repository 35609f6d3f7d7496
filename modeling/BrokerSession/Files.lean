import BrokerSession.Bytes

/-!
# A tree of files as a value

Configurations name files and directories. What a check or a loader sees of the file system is a value: the
files and directories below the working directory. Paths are written as on the command line, with slashes,
dots and double dots, and are followed component by component, so that every component but the last has to be
a directory.

## Main definitions

* `Files` - the files and directories below the working directory
* `FileFault`, `FileFault.message` - why a path cannot be read
* `FileNode.read` - the contents of what is found at a place
* `Files.find` - what a path leads to
* `Files.read`, `Files.readText`, `Files.children` - the contents of a file, and of a directory
-/

namespace BrokerSession

/-- Why a path cannot be read. -/
inductive FileFault where
  | notFound
  | isDirectory
  | notDirectory
  | notAllowed
  | nameTooLong
  | nulInName
  | notText
  deriving DecidableEq, Repr, Inhabited

/-- The text of the fault, with the number of the system's error where it has one. -/
def FileFault.message : FileFault → String
  | notFound => "No such file or directory (os error 2)"
  | isDirectory => "Is a directory (os error 21)"
  | notDirectory => "Not a directory (os error 20)"
  | notAllowed => "Permission denied (os error 13)"
  | nameTooLong => "File name too long (os error 36)"
  | nulInName => "file name contained an unexpected NUL byte"
  | notText => "stream did not contain valid UTF-8"

/-- A file with its contents, or a directory. -/
inductive FileNode where
  | file (contents : ByteArray)
  /-- A file that is there, and that others are kept from reading. -/
  | lockedFile
  | directory
  deriving DecidableEq, Inhabited

namespace FileNode

/-- Whether it is a directory. -/
def isDirectory : FileNode → Bool
  | directory => true
  | _ => false

/-- The contents of a file that may be read. -/
def read : FileNode → Except FileFault ByteArray
  | file contents => .ok contents
  | lockedFile => .error .notAllowed
  | directory => .error .isDirectory

end FileNode

/-- A path from the working directory, as its components. Those that lead upward stand only in front. -/
abbrev Location := List String

/-- The files and directories below the working directory, each at its location. The working directory itself,
at the empty location, and the directories around it are always there. -/
structure Files where
  entries : List (Location × FileNode)

namespace Files

/-- An empty working directory. -/
def empty : Files := ⟨[]⟩

/-- The component that leads to the directory around. -/
def upward : String := ".."

/-- What is at a location. The working directory and those around it are always there. -/
def node? (fs : Files) (place : Location) : Option FileNode :=
  if place.all (· == upward) then some .directory else (fs.entries.find? (·.1 == place)).map (·.2)

/-- The components of a path as written, empty ones and single dots left out. -/
def components (path : String) : List String :=
  ((path.toList.splitOn '/').map String.ofList).filter fun c => c != "" && c != "."

/-- Where a component leads from a location. -/
def step (here : Location) (name : String) : Location :=
  if name == upward && here.any (· != upward) then here.dropLast else here ++ [name]

/-- The location that a path leads to. -/
def locate (path : String) : Location := (components path).foldl step []

/-- Adds a node, in place of what was at its location. -/
def insert (fs : Files) (place : Location) (node : FileNode) : Files :=
  ⟨fs.entries.filter (·.1 != place) ++ [(place, node)]⟩

/-- Adds the directories on the way to a location, as far as they are missing. -/
def insertParents (fs : Files) (place : Location) : Files :=
  (List.range place.length).foldl (fun acc n =>
    if (acc.node? (place.take n)).isSome then acc else acc.insert (place.take n) .directory) fs

/-- Adds a directory. -/
def addDirectory (fs : Files) (path : String) : Files :=
  let place := locate path
  let fs := fs.insertParents place
  if (fs.node? place).isSome then fs else fs.insert place .directory

/-- Adds a file, or replaces its contents. -/
def addFile (fs : Files) (path : String) (contents : ByteArray) : Files :=
  let place := locate path
  (fs.insertParents place).insert place (.file contents)

/-- The longest name of a file, in bytes. -/
def maxName : Nat := 255

/-- Follows components from a location that a node was found at. -/
def follow (fs : Files) (here : Location) (node : FileNode) :
    List String → Except FileFault (Location × FileNode)
  | [] => .ok (here, node)
  | name :: rest =>
    match node with
    | .directory =>
      if maxName < name.utf8ByteSize then .error .nameTooLong
      else
        let there := step here name
        match fs.node? there with
        | none => .error .notFound
        | some next => follow fs there next rest
    | _ => .error .notDirectory

/-- What a path leads to, with its location. A path that ends in a slash or a dot leads to a directory. -/
def find (fs : Files) (path : String) : Except FileFault (Location × FileNode) := do
  if '\x00' ∈ path.toList then throw .nulInName
  if path.isEmpty then throw .notFound
  let found ← fs.follow [] .directory (components path)
  match found.2, (path.toList.splitOn '/').getLast? with
  | .directory, _ => return found
  | _, some last => if last = [] ∨ last = ['.'] then throw .notDirectory else return found
  | _, none => return found

/-- Whether a path leads anywhere. -/
def holds (fs : Files) (path : String) : Bool := (fs.find path).isOk

/-- The contents of a file. -/
def read (fs : Files) (path : String) : Except FileFault ByteArray := do
  (← fs.find path).2.read

/-- The contents of a file that holds text. -/
def readText (fs : Files) (path : String) : Except FileFault String := do
  match String.fromUTF8? (← fs.read path) with
  | some text => return text
  | none => throw .notText

/-- The path of a name inside the directory that a path leads to. -/
def inside (path name : String) : String := if path.endsWith "/" then path ++ name else path ++ "/" ++ name

/-- The name at a location directly inside a directory. -/
def nameInside? (dir place : Location) : Option String :=
  if place.dropLast = dir then place.getLast? else none

/-- The names and nodes directly inside a directory. -/
def children (fs : Files) (path : String) : Except FileFault (List (String × FileNode)) := do
  match ← fs.find path with
  | (dir, .directory) =>
    return fs.entries.filterMap fun (place, node) => (nameInside? dir place).map (·, node)
  | _ => throw .notDirectory

end Files

end BrokerSession
