import Scaffold.Filesystem.Basic
import Scaffold.Text.Utf8
/-!
# Stores

Files in memory. A store finds files and directories by the components of their paths; a file is
listed under the spelling of the path with which it first came into the store. Files can only be
written into directories that exist.
-/

namespace Scaffold

structure Store where
  /-- The files in the order of their paths, no two of which have the same components. -/
  files : List (Path × ByteArray)
  directories : List (List Path.Component)

namespace Store

def empty : Store := ⟨[], []⟩

def bytes? (store : Store) (path : Path) : Option ByteArray :=
  (store.files.find? fun file => file.1.same path).map (·.2)

/-- Puts a file into a list in the order of paths. A file that is there keeps its spelling. -/
def insertFile (path : Path) (content : ByteArray) :
    List (Path × ByteArray) → List (Path × ByteArray)
  | [] => [(path, content)]
  | file :: files =>
    match path.compare file.1 with
    | .lt => (path, content) :: file :: files
    | .eq => (file.1, content) :: files
    | .gt => file :: insertFile path content files

/-- The nonempty beginnings of a list of components, the shortest first. -/
def beginnings : List Path.Component → List (List Path.Component)
  | [] => []
  | c :: cs => [c] :: (beginnings cs).map (c :: ·)

def addDirectory (directories : List (List Path.Component)) (directory : List Path.Component) :
    List (List Path.Component) :=
  if directory ∈ directories then directories else directories ++ [directory]

def createDirs (store : Store) (path : Path) : Store :=
  { store with directories := (beginnings path.components).foldl addDirectory store.directories }

def hasDirectory (store : Store) (path : Path) : Bool :=
  path.components ∈ store.directories

def put (store : Store) (path : Path) (content : ByteArray) : Store :=
  { store with files := insertFile path content store.files }

def withFile (store : Store) (path : Path) (content : ByteArray) : Store :=
  match path.parent? with
  | some parent => (store.createDirs parent).put path content
  | none => store.put path content

/-- Whether a file can be written: its parent is a directory, or the empty path. -/
def isWritable (store : Store) (path : Path) : Bool :=
  match path.parent? with
  | some parent => parent.octets = [] || store.hasDirectory parent
  | none => true

def readText (store : Store) (path : Path) : Except Failure String :=
  match store.bytes? path with
  | none => .error (.filesystem path.text "File does not exist")
  | some content =>
    match String.fromUTF8? content with
    | some text => .ok text
    | none => .error (.filesystem path.text "File is not valid UTF-8")

/-- Writes a file; nothing changes if its parent does not exist. -/
def write (store : Store) (path : Path) (content : ByteArray) : Except Failure Unit × Store :=
  if store.isWritable path then (.ok (), store.put path content)
  else (.error (.filesystem path.text "Parent directory does not exist"), store)

def contains (store : Store) (path : Path) : Bool :=
  (store.bytes? path).isSome || store.hasDirectory path

/-- The content of a file, with a replacement character for each part that is not UTF-8. -/
def lossyText? (store : Store) (path : Path) : Option String :=
  (store.bytes? path).map Text.Utf8.decode

def paths (store : Store) : List Path :=
  store.files.map (·.1)

end Store

def Filesystem.ofStore : Filesystem (StateM Store) where
  readText path := fun store => (store.readText path, store)
  write path content := fun store => store.write path content
  createDirs path := fun store => (.ok (), store.createDirs path)
  contains path := fun store => (store.contains path, store)

end Scaffold
