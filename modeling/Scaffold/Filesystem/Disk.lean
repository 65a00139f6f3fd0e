import Scaffold.Filesystem.Basic
import Scaffold.Filesystem.Tree
import Scaffold.Text.Blank
/-!
# Disks

A disk as a value: one tree of directories, files and symbolic links, and a working directory.
Paths are resolved the way an operating system does it: names are looked up one after the other,
`..` goes to the directory above the one reached, and a link is replaced by its text. Every
operation can fail, with the reason the system gives.
-/

namespace Scaffold

/-- A tree, and the directory that relative paths start from. -/
structure Disk where
  root : Entry
  /-- The names that lead to the working directory. -/
  here : List String

namespace Disk

inductive Trouble where
  | missing
  | taken
  | notDirectory
  | isDirectory
  | tooManyLinks
  | nameTooLong
  | nulCharacter
  | notText
  | badName
  deriving DecidableEq, Repr

def Trouble.message : Trouble → String
  | missing => "No such file or directory (os error 2)"
  | taken => "File exists (os error 17)"
  | notDirectory => "Not a directory (os error 20)"
  | isDirectory => "Is a directory (os error 21)"
  | tooManyLinks => "Too many levels of symbolic links (os error 40)"
  | nameTooLong => "File name too long (os error 36)"
  | nulCharacter => "file name contained an unexpected NUL byte"
  | notText => "stream did not contain valid UTF-8"
  | badName => "Invalid or incomplete multibyte or wide character (os error 84)"

inductive Place where
  | found (names : List String) (entry : Entry)
  /-- A name in a directory that has no such entry. -/
  | free (directory : List String) (name : String)
  | nowhere (trouble : Trouble)

/-- How far the names of a path lead without following a link. -/
inductive Progress where
  | arrived (place : Place)
  /-- To a link in a directory, with the names that are left. -/
  | detour (directory : List String) (target : String) (rest : List String)

def maxName : Nat := 255

def maxLinks : Nat := 40

def namesOf (text : String) : List String :=
  (Text.fields '/' text.toList).map String.ofList

def startOf (text : String) (directory : List String) : List String :=
  if (Path.mk text).isAbsolute then [] else directory

def advance (root : Entry) (followLast : Bool) (directory : List String) : List String → Progress
  | [] =>
    match root.at? directory with
    | some entry => .arrived (.found directory entry)
    | none => .arrived (.nowhere .missing)
  | name :: rest =>
    if name = "" ∨ name = "." then advance root followLast directory rest
    else if name = ".." then advance root followLast directory.dropLast rest
    else if name.utf8ByteSize > maxName then .arrived (.nowhere .nameTooLong)
    else
      let names := directory ++ [name]
      match root.at? names with
      | none =>
        if rest.all (· = "") then .arrived (.free directory name) else .arrived (.nowhere .missing)
      | some (.directory _) => advance root followLast names rest
      | some (.file content) =>
        if rest.isEmpty then .arrived (.found names (.file content))
        else .arrived (.nowhere .notDirectory)
      | some (.link target) =>
        if rest.isEmpty && !followLast then .arrived (.found names (.link target))
        else .detour directory target rest

/-- Looks up names, following at most the given number of links. -/
def lookUp (root : Entry) (followLast : Bool) : Nat → List String → List String → Place
  | links, directory, names =>
    match advance root followLast directory names with
    | .arrived place => place
    | .detour directory target rest =>
      match links with
      | 0 => .nowhere .tooManyLinks
      | links + 1 =>
        lookUp root followLast links (startOf target directory) (namesOf target ++ rest)

/-- What a path leads to. A link at the end is followed if `followLast` is set. The names on a disk
are texts; it refuses all others. -/
def resolve (disk : Disk) (followLast : Bool) (path : Path) : Place :=
  match path.raw.text? with
  | none => .nowhere .badName
  | some text =>
    if text.toList.contains '\x00' then .nowhere .nulCharacter
    else if text = "" then .nowhere .missing
    else lookUp disk.root followLast maxLinks (startOf text disk.here) (namesOf text)

def entry? (disk : Disk) (path : Path) : Except Trouble Entry :=
  match disk.resolve true path with
  | .found _ entry => .ok entry
  | .free _ _ => .error .missing
  | .nowhere trouble => .error trouble

def contains (disk : Disk) (path : Path) : Bool :=
  match disk.entry? path with
  | .ok _ => true
  | .error _ => false

def isDirectory (disk : Disk) (path : Path) : Bool :=
  match disk.entry? path with
  | .ok (.directory _) => true
  | _ => false

def isFile (disk : Disk) (path : Path) : Bool :=
  match disk.entry? path with
  | .ok (.file _) => true
  | _ => false

def pathOf (names : List String) : Path :=
  ⟨"/" ++ String.intercalate "/" names⟩

/-- The absolute path without links and dots of what is at a path. -/
def canonical? (disk : Disk) (path : Path) : Option Path :=
  match disk.resolve true path with
  | .found names _ => some (pathOf names)
  | _ => none

def bytes (disk : Disk) (path : Path) : Except Trouble ByteArray :=
  match disk.entry? path with
  | .ok (.file content) => .ok content
  | .ok _ => .error .isDirectory
  | .error trouble => .error trouble

def readText (disk : Disk) (path : Path) : Except Trouble String :=
  match disk.bytes path with
  | .ok content =>
    match String.fromUTF8? content with
    | some text => .ok text
    | none => .error .notText
  | .error trouble => .error trouble

def withoutEndSlashes (path : Path) : Path :=
  ⟨⟨Text.dropEndWhile (· = Path.slash) path.octets⟩⟩

/-- The path of the directory in which the last name of a path is looked up. -/
def holderOf (path : Path) : Path :=
  ⟨⟨Text.dropEndWhile (· ≠ Path.slash) (withoutEndSlashes path).octets ++ [Path.dot]⟩⟩

def endsWithSlash (path : Path) : Bool :=
  path.octets.getLast? = some Path.slash

def put (disk : Disk) (names : List String) (entry : Entry) : Disk :=
  { disk with root := Entry.put entry names disk.root }

/-- Where a file can be written at a path: over a file, or at a name that is free. A path with a
slash at its end denotes a directory, whatever is there. -/
def writable (disk : Disk) (path : Path) : Except Trouble (List String) :=
  if endsWithSlash path then
    match disk.entry? (holderOf path) with
    | .ok _ => .error .isDirectory
    | .error trouble => .error trouble
  else
    match disk.resolve true path with
    | .found names (.file _) => .ok names
    | .found _ _ => .error .isDirectory
    | .free directory name => .ok (directory ++ [name])
    | .nowhere trouble => .error trouble

def write (disk : Disk) (path : Path) (content : ByteArray) : Except Trouble Unit × Disk :=
  match disk.writable path with
  | .ok names => (.ok (), disk.put names (.file content))
  | .error trouble => (.error trouble, disk)

def createDir (disk : Disk) (path : Path) : Except Trouble Unit × Disk :=
  let bare := if path.octets.all (· = Path.slash) then path else withoutEndSlashes path
  match disk.resolve false bare with
  | .free directory name => (.ok (), disk.put (directory ++ [name]) (.directory []))
  | .found _ _ => (.error .taken, disk)
  | .nowhere trouble => (.error trouble, disk)

def ensureDir (disk : Disk) (path : Path) : Except Trouble Unit × Disk :=
  match disk.createDir path with
  | (.ok (), disk) => (.ok (), disk)
  | (.error trouble, _) => if disk.isDirectory path then (.ok (), disk) else (.error trouble, disk)

/-- Makes a directory and, as far as they are missing, those above it, up to the given number. -/
def createDirsWithin : Nat → Disk → Path → Except Trouble Unit × Disk
  | 0, disk, _ => (.error .missing, disk)
  | depth + 1, disk, path =>
    if path.components = [] then (.ok (), disk)
    else
      match disk.ensureDir path with
      | (.error .missing, _) =>
        match path.parent? with
        | none => (.error .missing, disk)
        | some parent =>
          match createDirsWithin depth disk parent with
          | (.ok (), disk) => disk.ensureDir path
          | failed => failed
      | done => done

def createDirs (disk : Disk) (path : Path) : Except Trouble Unit × Disk :=
  createDirsWithin (path.components.length + 1) disk path

def failure (path : Path) (operation : String) (trouble : Trouble) : Failure :=
  .filesystem path.text ("Failed to " ++ operation ++ ": " ++ trouble.message)

def files (disk : Disk) : List (List String × ByteArray) :=
  disk.root.walk []

end Disk

def reportAt {α : Type} (path : Path) (operation : String) :
    Except Disk.Trouble α → Except Failure α
  | .ok a => .ok a
  | .error trouble => .error (Disk.failure path operation trouble)

def Filesystem.ofDisk : Filesystem (StateM Disk) where
  readText path := fun disk => (reportAt path "read file" (disk.readText path), disk)
  write path content := fun disk =>
    let (result, disk) := disk.write path content
    (reportAt path "write file" result, disk)
  createDirs path := fun disk =>
    let (result, disk) := disk.createDirs path
    (reportAt path "create directory" result, disk)
  contains path := fun disk => (disk.contains path, disk)

end Scaffold
