import SdkGen.Files.FileError
import SdkGen.Files.Node
import SdkGen.Files.Path

/-!
# File systems

A file system is a tree of files with a working directory. A path leads from there, or from the
root where it starts with a slash, piece by piece; each piece leaves a directory that exists.

* `FileSystem.resolve`: the place that a path leads to.
* `FileSystem.read`, `FileSystem.write`: the text of a file.
* `FileSystem.makeDirectory`, `FileSystem.makeDirectories`: one directory, and all on a path.

An operation that fails leaves the tree as it was. Only `makeDirectories` may have made some of
its directories by then, and so it always gives the tree that it leaves.
-/

namespace SdkGen

/-- A tree of files and the place of the working directory in it. -/
structure FileSystem where
  root : Node
  here : List String

namespace FileSystem

/-- Whether there is a directory at a place. -/
def isDirectoryAt (fs : FileSystem) (place : List String) : Bool :=
  ((fs.root.get? place).map Node.isDirectory).getD false

/-- The place that one piece of a path leads to. -/
def step (fs : FileSystem) (place : List String) (piece : String) :
    Except FileError (List String) :=
  if !fs.isDirectoryAt place then .error .notDirectory
  else if Path.isIdle piece then .ok place
  else if piece = ".." then .ok place.dropLast
  else if (fs.root.get? (place ++ [piece])).isSome then .ok (place ++ [piece])
  else .error .notFound

/-- Where a path starts, and its pieces from there. -/
def start (fs : FileSystem) (path : String) : Except FileError (List String × List String) :=
  if path.toList.contains '\x00' then .error .endMark
  else if path = "" then .error .notFound
  else if Path.isAbsolute path then .ok ([], (Path.pieces path).drop 1)
  else .ok (fs.here, Path.pieces path)

/-- The place that a path leads to. -/
def resolve (fs : FileSystem) (path : String) : Except FileError (List String) := do
  let (place, pieces) ← fs.start path
  pieces.foldlM fs.step place

/-- Whether a path leads to a directory. -/
def isDirectory (fs : FileSystem) (path : String) : Bool :=
  match fs.resolve path with
  | .ok place => fs.isDirectoryAt place
  | .error _ => false

/-- Whether a path leads to a file. -/
def isFile (fs : FileSystem) (path : String) : Bool :=
  match fs.resolve path with
  | .ok place => !fs.isDirectoryAt place
  | .error _ => false

/-- The bytes of a file. -/
def readBytes (fs : FileSystem) (path : String) : Except FileError ByteArray := do
  let place ← fs.resolve path
  match fs.root.get? place with
  | some (.file bytes) => .ok bytes
  | some (.directory _) => .error .isDirectory
  | none => .error .notFound

/-- The text of a file. -/
def read (fs : FileSystem) (path : String) : Except FileError String := do
  match String.fromUTF8? (← fs.readBytes path) with
  | some s => .ok s
  | none => .error .notText

/-- The last piece of a path that names something. -/
structure Target where
  /-- The directory that the piece is looked up in. -/
  directory : List String
  /-- The piece; none where the path is the root. -/
  name : Option String
  /-- Whether a slash follows. -/
  slash : Bool
  deriving DecidableEq, Repr

/-- What a path names, which need not exist, in a directory that does. -/
def target (fs : FileSystem) (path : String) : Except FileError Target := do
  let (place, pieces) ← fs.start path
  match pieces.reverse.dropWhile (· = "") with
  | [] => .ok ⟨place, none, true⟩
  | name :: before =>
    let directory ← before.reverse.foldlM fs.step place
    if !fs.isDirectoryAt directory then .error .notDirectory
    else .ok ⟨directory, some name, pieces.getLast? = some ""⟩

/-- Whether a piece names a directory that is there anyhow. -/
def isLink (name : String) : Bool := name = "." || name = ".."

/-- Puts bytes into a file, which is made where it is missing. -/
def writeBytes (fs : FileSystem) (path : String) (bytes : ByteArray) :
    Except FileError FileSystem := do
  let t ← fs.target path
  match t.name with
  | none => .error .isDirectory
  | some name =>
    if isLink name || t.slash || fs.isDirectoryAt (t.directory ++ [name]) then
      .error .isDirectory
    else .ok { fs with root := Node.put (.file bytes) fs.root (t.directory ++ [name]) }

/-- Puts a text into a file. -/
def write (fs : FileSystem) (path text : String) : Except FileError FileSystem :=
  fs.writeBytes path text.toUTF8

/-- Makes a directory in one that exists. -/
def makeDirectory (fs : FileSystem) (path : String) : Except FileError FileSystem := do
  let t ← fs.target path
  match t.name with
  | none => .error .exists
  | some name =>
    if isLink name || (fs.root.get? (t.directory ++ [name])).isSome then .error .exists
    else .ok { fs with root := Node.put .emptyDirectory fs.root (t.directory ++ [name]) }

/-- The tree after an attempt, and why it failed, if it did. -/
abbrev Attempt := FileSystem × Option FileError

/-- Makes a directory unless it is there. -/
def ensureDirectory (fs : FileSystem) (path : String) : Attempt :=
  match fs.makeDirectory path with
  | .ok fs' => (fs', none)
  | .error e => if e = .exists && fs.isDirectory path then (fs, none) else (fs, some e)

/-- Makes the first of some directories, and those after it where it needs them. -/
def makeChain (fs : FileSystem) : List String → Attempt
  | [] => (fs, none)
  | path :: above =>
    match fs.ensureDirectory path with
    | (_, some .notFound) =>
      match fs.makeChain above with
      | (fs', none) => fs'.ensureDirectory path
      | failed => failed
    | result => result

/-- Makes a directory and those above it. -/
def makeDirectories (fs : FileSystem) (path : String) : Attempt :=
  fs.makeChain (Path.ancestors path)

end FileSystem

end SdkGen
