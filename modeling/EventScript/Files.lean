import EventScript.Text.Utf8

/-!
# Files

What reading a path gives, as data. The engine reads a handful of files and writes none, so a file
system is a function from paths to contents or failures.

A directory of entries makes such a file system. Paths are followed name by name from the working
directory, or from the root if they begin with a slash. What lies outside the working directory is
unknown, apart from the few places that every system has.
-/

namespace EventScript

/-- Why a file cannot be read. -/
inductive FileError where
  /-- There is nothing at the path. -/
  | notFound
  /-- There is a directory at the path. -/
  | isDirectory
  /-- The path leads through something that is not a directory. -/
  | notDirectory
  /-- A name on the path, or the whole path, is longer than names and paths may be. -/
  | nameTooLong
  /-- The path holds the character that ends paths. -/
  | holdsZero
  /-- Anything else, in the words of the system. -/
  | other (message : String)
  deriving DecidableEq

/-- The wording of a failure. -/
def FileError.message : FileError → String
  | notFound => "No such file or directory (os error 2)"
  | isDirectory => "Is a directory (os error 21)"
  | notDirectory => "Not a directory (os error 20)"
  | nameTooLong => "File name too long (os error 36)"
  | holdsZero => "file name contained an unexpected NUL byte"
  | other message => message

/-- What reading each path gives. -/
structure Files where
  /-- The content of the file at a path. -/
  read : String → Except FileError (List UInt8)

/-! ## Places and what stands there -/

/-- Something with a name in a directory. -/
inductive FileEntry where
  /-- A file and its content. -/
  | file (bytes : List UInt8)
  /-- A directory. -/
  | directory
  deriving DecidableEq

/-- Where the names of a place start. -/
inductive Base where
  /-- The root of the file system. -/
  | root
  /-- The directory in which the program runs. -/
  | workingDirectory
  /-- Some directory above that one. -/
  | above
  deriving DecidableEq

/-- A place that a path leads to. -/
structure Place where
  /-- Where the names start. -/
  base : Base
  /-- The names from there, the last one first. -/
  names : List String
  deriving DecidableEq

namespace Place

/-- The place of the given name in a directory. -/
def child (place : Place) (name : String) : Place := ⟨place.base, name :: place.names⟩

/-- The directory that holds a place. The root is held by itself. -/
def parent (place : Place) : Place :=
  match place.base, place.names with
  | .workingDirectory, [] => ⟨.above, []⟩
  | base, names => ⟨base, names.tail⟩

/-- A place lies in a directory or in one below it. -/
def isBelow (place directory : Place) : Bool :=
  place.base = directory.base && directory.names.isSuffixOf place.names

/-- What stands at a place. The places at which names start are directories, and so are those on the
way to an entry. -/
def entry (entries : List (Place × FileEntry)) (place : Place) : Except FileError FileEntry :=
  if place.names = [] then .ok .directory
  else match entries.lookup place with
    | some entry => .ok entry
    | none =>
      if entries.any fun (other, _) ↦ other.isBelow place then .ok .directory
      else .error .notFound

end Place

/-- The most bytes that a name may have. -/
def nameLimit : Nat := 255

/-- The number of bytes from which on a path is too long. -/
def pathLimit : Nat := 4096

/-- What stands at the end of a path, given name by name, from a place already reached. -/
def FileEntry.resolve (entries : List (Place × FileEntry)) :
    Place → (path : List String) → Except FileError FileEntry
  | place, [] => place.entry entries
  | place, name :: rest =>
    match place.entry entries with
    | .error e => .error e
    | .ok (.file _) => .error .notDirectory
    | .ok .directory =>
      if name = "" ∨ name = "." then resolve entries place rest
      else if name = ".." then resolve entries place.parent rest
      else if nameLimit < name.utf8ByteSize then .error .nameTooLong
      else resolve entries (place.child name) rest

/-! ## The files of a directory -/

/-- What every system has: the usual directories in the root, and a device that reads as an empty
file. -/
def systemEntries : List (Place × FileEntry) :=
  (⟨.root, ["null", "dev"]⟩, .file []) ::
    ["bin", "etc", "home", "lib", "opt", "proc", "run", "sbin", "sys", "tmp", "usr", "var"].map
      fun name ↦ (⟨.root, [name]⟩, .directory)

/-- The names on a path. -/
def pathNames (path : String) : List String := path.splitOn "/"

/-- The files of a program that runs in a directory with the given entries, each under its path. -/
def Files.ofDirectory (entries : List (String × FileEntry)) : Files where
  read path :=
    let placed := entries.map fun (path, entry) ↦
      ((⟨.workingDirectory, (pathNames path).reverse⟩ : Place), entry)
    let start : Place :=
      ⟨if path.toList.head? = some '/' then .root else .workingDirectory, []⟩
    if path.toList.contains '\x00' then .error .holdsZero
    else if path = "" then .error .notFound
    else if pathLimit ≤ path.utf8ByteSize then .error .nameTooLong
    else
      match FileEntry.resolve (placed ++ systemEntries) start (pathNames path) with
      | .error e => .error e
      | .ok .directory => .error .isDirectory
      | .ok (.file bytes) => .ok bytes

/-- The content of a file that has to be text. -/
def Files.readText (files : Files) (path : String) : Except FileError String := do
  let bytes ← files.read path
  match Text.Utf8.decode bytes with
  | .ok text => return text
  | .error _ => .error (.other "stream did not contain valid UTF-8")

end EventScript
