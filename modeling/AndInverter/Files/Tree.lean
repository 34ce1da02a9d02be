import AndInverter.Files.Access
import AndInverter.OrderedMap
import AndInverter.Text.Pieces

/-!
A tree of directories and regular files in memory. Entries stand under their location, the list of
names that leads to them from the root. The working directory and all above it are always there. A
path is resolved name by name, from the root if it begins with a slash and else from the working
directory: each name but the last must lead to a directory, `.` and `..` are followed, and doubled
slashes count once. The operations take care of the cases in which an operating system refuses: a
directory where a file is needed, a slash behind the name of a file, a name of more than 255 bytes.
-/
namespace AndInverter
open Text

abbrev Location := List String

inductive Entry
  | file (content : ByteArray)
  | directory

structure FileTree where
  /-- The location of the working directory. -/
  home : Location
  entries : OrderedMap Location Entry

def pathNames (path : String) : List String :=
  ((pieces (· == '/') path.toList).filter fun name => !name.isEmpty).map String.ofList

def isAbsolute (path : String) : Bool := path.toList.head? == some '/'

/-- The path can only mean a directory. -/
def endsInSlash (path : String) : Bool := path.toList.getLast? == some '/'

/-- The path's last name is no name of its own. -/
def endsInDots (path : String) : Bool :=
  match (pathNames path).getLast? with
  | none => true
  | some name => name == "." || name == ".."

def maxNameBytes : Nat := 255

def maxPathBytes : Nat := 4095

namespace FileTree

def empty (home : Location) : FileTree := ⟨home, .empty⟩

def entry? (t : FileTree) (place : Location) : Option Entry :=
  if place.isPrefixOf t.home then some .directory else t.entries.get? place

def put (t : FileTree) (place : Location) (entry : Entry) : FileTree :=
  { t with entries := t.entries.insert place entry }

def erase (t : FileTree) (place : Location) : FileTree :=
  { t with entries := t.entries.erase place }

/-- Follows names from a location, which must be a directory for each name to follow. The directory
above the root is the root. -/
def walk (t : FileTree) : Location → List String → Except IoError Location
  | place, [] => .ok place
  | place, name :: rest =>
    match t.entry? place with
    | none => .error .notFound
    | some (.file _) => .error .notADirectory
    | some .directory =>
      if name = "." then walk t place rest
      else if name = ".." then walk t place.dropLast rest
      else if name.utf8ByteSize > maxNameBytes then .error .nameTooLong
      else walk t (place ++ [name]) rest

/-- There need not be anything yet at the location. -/
def resolve (t : FileTree) (path : String) : Except IoError Location :=
  if path.toList.contains '\x00' then .error .nulInPath
  else if path.isEmpty then .error .notFound
  else if path.utf8ByteSize > maxPathBytes then .error .nameTooLong
  else t.walk (if isAbsolute path then [] else t.home) (pathNames path)

/-- A directory has no content to be mapped into memory. -/
def read (t : FileTree) (path : String) : Except IoError ByteArray := do
  let place ← t.resolve path
  match t.entry? place with
  | none => .error .notFound
  | some .directory => .error .noDevice
  | some (.file content) => if endsInSlash path then .error .notADirectory else .ok content

def write (t : FileTree) (path : String) (content : ByteArray) : Except IoError FileTree := do
  let place ← t.resolve path
  if endsInSlash path then .error .isADirectory
  else match t.entry? place with
    | some .directory => .error .isADirectory
    | some (.file _) | none => .ok (t.put place (.file content))

def remove (t : FileTree) (path : String) : Except IoError FileTree := do
  let place ← t.resolve path
  match t.entry? place with
  | none => .error .notFound
  | some .directory => .error .isADirectory
  | some (.file _) => if endsInSlash path then .error .notADirectory else .ok (t.erase place)

/-- The tree with the file at one path moved to another, where it takes the place of a file but not
of a directory. -/
def rename (t : FileTree) (source target : String) : Except IoError FileTree := do
  let sourcePlace ← t.resolve source
  let targetPlace ← t.resolve target
  if endsInDots source || endsInDots target then .error .busy
  else match t.entry? sourcePlace with
    | none => .error .notFound
    | some .directory => .error .isADirectory
    | some (.file content) =>
      if endsInSlash source || endsInSlash target then .error .notADirectory
      else if sourcePlace = targetPlace then .ok t
      else match t.entry? targetPlace with
        | some .directory => .error .isADirectory
        | some (.file _) | none => .ok ((t.erase sourcePlace).put targetPlace (.file content))

def makeDirectory (t : FileTree) (names : List String) : FileTree :=
  (List.range names.length).foldl
    (fun t depth => t.put (t.home ++ names.take (depth + 1)) .directory) t

def makeFile (t : FileTree) (names : List String) (content : ByteArray) : FileTree :=
  t.put (t.home ++ names) (.file content)

/-- The path from the working directory to what is below it. The path of a directory ends in a
slash. -/
def listed? (t : FileTree) : Location × Entry → Option (String × ByteArray)
  | (place, entry) =>
    if t.home.isPrefixOf place then
      let path := "/".intercalate (place.drop t.home.length)
      match entry with
      | .file content => some (path, content)
      | .directory => some (path ++ "/", .empty)
    else none

def listing (t : FileTree) : List (String × ByteArray) :=
  (t.entries.entries.filterMap t.listed?).mergeSort fun a b => a.1 ≤ b.1

/-- The tree after a step, which stays as it was if the step fails. -/
def settle (t : FileTree) : Except IoError FileTree → FileTree
  | .ok t' => t'
  | .error _ => t

def attempt (step : FileTree → Except IoError FileTree) :
    StateM FileTree (Except IoError Unit) := fun t =>
  let result := step t
  (result.map fun _ => (), t.settle result)

instance : FileAccess (StateM FileTree) where
  readFile path := fun t => (t.read path, t)
  writeFile path content := attempt (·.write path content)
  renameFile source target := attempt (·.rename source target)
  removeFile path := attempt (·.remove path)

@[simp] theorem run_readFile (path : String) (t : FileTree) :
    (FileAccess.readFile path : StateM FileTree _).run t = pure (t.read path, t) := rfl

@[simp] theorem run_writeFile (path : String) (content : ByteArray) (t : FileTree) :
    (FileAccess.writeFile path content : StateM FileTree _).run t =
      pure ((t.write path content).map fun _ => (), t.settle (t.write path content)) := rfl

@[simp] theorem run_renameFile (source target : String) (t : FileTree) :
    (FileAccess.renameFile source target : StateM FileTree _).run t =
      pure ((t.rename source target).map fun _ => (), t.settle (t.rename source target)) := rfl

@[simp] theorem run_removeFile (path : String) (t : FileTree) :
    (FileAccess.removeFile path : StateM FileTree _).run t =
      pure ((t.remove path).map fun _ => (), t.settle (t.remove path)) := rfl

end FileTree

end AndInverter
