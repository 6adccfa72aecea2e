import RecordGate.OrderedMap

/-!
# Trees of files

A tree of directories and files below one root. Paths are relative to the root, with slashes between
names; an empty name and a single dot stay where they are, two dots lead back. A slash behind the last
name asks for a directory there. A directory is listed by its path, and the root is always there.
-/

namespace RecordGate
set_option autoImplicit false

/-- Why a file could not be used. -/
inductive FileProblem where
  | notFound
  | notDirectory
  | isDirectory
  /-- A name or a path that is too long. -/
  | tooLong
  /-- A path with a zero character. -/
  | zeroInPath
  | notText
  deriving DecidableEq

/-- What the operating system says. -/
def FileProblem.message : FileProblem → String
  | notFound => "No such file or directory (os error 2)"
  | notDirectory => "Not a directory (os error 20)"
  | isDirectory => "Is a directory (os error 21)"
  | tooLong => "File name too long (os error 36)"
  | zeroInPath => "file name contained an unexpected NUL byte"
  | notText => "stream did not contain valid UTF-8"

inductive FileNode where
  | directory
  | file (content : List UInt8)
  deriving DecidableEq

/-- What is listed under the names on the way from the root, with slashes between them. -/
structure FileTree where
  nodes : OrderedMap String FileNode := ∅

namespace FileTree

/-- The most octets of a name. -/
def maxName : Nat := 255

/-- The most octets of a path. -/
def maxPath : Nat := 4095

/-- The names of a path. -/
def names (path : String) : List String := (path.toList.splitOn '/').map String.ofList

/-- The path of a place. -/
def written (place : List String) : String := "/".intercalate place

/-- Whether a name stays where it is. -/
def stays (name : String) : Bool := name == "" || name == "."

/-- The place that a name leads to from a place. -/
def follow (place : List String) (name : String) : List String :=
  if stays name then place else if name == ".." then place.dropLast else place ++ [name]

/-- What is at a place. -/
def node? (t : FileTree) (place : List String) : Option FileNode :=
  if place.isEmpty then some .directory else t.nodes.get? (written place)

/-- The tree with something put at a place. -/
def put (t : FileTree) (place : List String) (node : FileNode) : FileTree :=
  { nodes := t.nodes.insert (written place) node }

/-- The place that names lead to from a place. All but the last name must be there. -/
def resolve (t : FileTree) : List String → List String → Except FileProblem (List String)
  | place, [] => .ok place
  | place, name :: rest =>
    match t.node? place with
    | none => .error .notFound
    | some (.file _) => .error .notDirectory
    | some .directory =>
      if maxName < name.utf8ByteSize then .error .tooLong else resolve t (follow place name) rest

/-- Check a path as a whole; the empty path leads nowhere. -/
def checkPath (path : String) : Except FileProblem Unit :=
  if path.contains '\x00' then .error .zeroInPath
  else if path == "" then .error .notFound
  else if maxPath < path.utf8ByteSize then .error .tooLong
  else .ok ()

/-- The place of a path. -/
def place (t : FileTree) (path : String) : Except FileProblem (List String) := do
  checkPath path
  t.resolve [] (names path)

/-- The names in front of the last one, where a slash stands behind a last name that leads somewhere. -/
def namesBeforeSlash? (path : String) : Option (List String) :=
  match (names path).reverse with
  | "" :: rest =>
    match rest.dropWhile (· == "") with
    | [] => none
    | last :: before => if last == "." || last == ".." then none else some before.reverse
  | _ => none

/-- The place where a path makes a file. No file is made where a directory is asked for. -/
def placeToMake (t : FileTree) (path : String) : Except FileProblem (List String) := do
  checkPath path
  match namesBeforeSlash? path with
  | none => t.resolve [] (names path)
  | some before =>
    let _ ← t.resolve [] (before ++ [""])
    throw .isDirectory

def exists? (t : FileTree) (path : String) : Bool :=
  match t.place path with
  | .ok place => (t.node? place).isSome
  | .error _ => false

/-- The octets of a file. -/
def read (t : FileTree) (path : String) : Except FileProblem (List UInt8) := do
  match t.node? (← t.place path) with
  | none => throw .notFound
  | some .directory => throw .isDirectory
  | some (.file content) => return content

/-- The text of a file. -/
def readText (t : FileTree) (path : String) : Except FileProblem String := do
  let content ← t.read path
  match String.fromUTF8? (ByteArray.mk content.toArray) with
  | some text => return text
  | none => throw .notText

/-- Make a file or write over it. Its directory must be there. -/
def write (t : FileTree) (path : String) (content : List UInt8) : Except FileProblem FileTree := do
  let place ← t.placeToMake path
  match t.node? place with
  | some .directory => throw .isDirectory
  | _ => return t.put place (.file content)

def writeText (t : FileTree) (path text : String) : Except FileProblem FileTree :=
  t.write path text.toUTF8.toList

/-- Make the directories that are missing on the way along names from a place. -/
def makeAlong (t : FileTree) : List String → List String → FileTree
  | _, [] => t
  | place, name :: rest =>
    let place := follow place name
    if (t.node? place).isSome then makeAlong t place rest
    else makeAlong (t.put place .directory) place rest

/-- Make a directory and those above it. -/
def makeDirectories (t : FileTree) (path : String) : FileTree := t.makeAlong [] (names path)

end FileTree

end RecordGate
