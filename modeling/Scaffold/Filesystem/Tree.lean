import Scaffold.Draft
/-!
# Directory trees

Directory trees: what a directory holds, as a value. Two ways of listing the files of a tree are
defined, one in the order of the entries and one with the files of each directory before those of
its subdirectories; they list the same files.
-/

namespace Scaffold

inductive Entry where
  | file (content : ByteArray)
  | link (target : String)
  | directory (entries : List (String × Entry))

namespace Entry

def at? : List String → Entry → Option Entry
  | [], entry => some entry
  | name :: names, .directory entries => (entries.lookup name).bind (at? names)
  | _ :: _, _ => none

def setName (name : String) (entry : Entry) : List (String × Entry) → List (String × Entry)
  | [] => [(name, entry)]
  | e :: entries => if e.1 = name then (name, entry) :: entries else e :: setName name entry entries

/-- The tree with an entry put at the end of a list of names. Directories on the way are made;
nothing changes if something else is in the way. -/
def put (new : Entry) : List String → Entry → Entry
  | [], _ => new
  | name :: names, .directory entries =>
    .directory (setName name (put new names ((entries.lookup name).getD (.directory []))) entries)
  | _ :: _, entry => entry

mutual

/-- The files of an entry in the order of the entries, each with the names that lead to it. Links
are neither listed nor followed. -/
def walk (names : List String) : Entry → List (List String × ByteArray)
  | .file content => [(names, content)]
  | .link _ => []
  | .directory entries => walkAll names entries

def walkAll (names : List String) : List (String × Entry) → List (List String × ByteArray)
  | [] => []
  | (name, entry) :: entries => walk (names ++ [name]) entry ++ walkAll names entries

end

def ownFiles (names : List String) : List (String × Entry) → List (List String × ByteArray)
  | [] => []
  | (name, .file content) :: entries => (names ++ [name], content) :: ownFiles names entries
  | _ :: entries => ownFiles names entries

mutual

/-- The files of a directory, its own before those of its subdirectories. -/
def collect (names : List String) : Entry → List (List String × ByteArray)
  | .directory entries => ownFiles names entries ++ collectAll names entries
  | _ => []

def collectAll (names : List String) : List (String × Entry) → List (List String × ByteArray)
  | [] => []
  | (name, entry) :: entries => collect (names ++ [name]) entry ++ collectAll names entries

end

end Entry

def Draft.ofNames (file : List String × ByteArray) : Except Failure Draft :=
  Draft.ofText (String.intercalate "/" file.1) file.2

/-- The drafts in the order of their paths; drafts with the same path stay in their order. -/
def Draft.sort (drafts : List Draft) : List Draft :=
  drafts.mergeSort fun a b => (a.path.compare b.path).isLE

def Draft.ofFiles (files : List (List String × ByteArray)) : Except Failure (List Draft) :=
  match files.mapM Draft.ofNames with
  | .ok drafts => .ok (Draft.sort drafts)
  | .error failure => .error failure

end Scaffold
