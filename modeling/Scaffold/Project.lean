import Scaffold.Filesystem.Basic
import Scaffold.Text.Blank
import Scaffold.Text.Line
/-!
# Projects

What templates know of the project they are rendered for. Its name is the name of its directory;
its module path is the argument of the first `module` directive in its `go.mod`, or the name.
-/

namespace Scaffold

open Text

structure Project where
  name : String
  /-- The import path of its root package. -/
  modulePath : String
  root : Path
  deriving DecidableEq, Repr

namespace Project

def ofRoot (root : Path) : Project :=
  let name := root.fileName?.getD "app"
  ⟨name, name, root⟩

def beforeComment (line : List Char) : List Char :=
  match cutAt? ['/', '/'] line with
  | some (before, _) => before
  | none => line

/-- The argument of a line that is a `module` directive with one. -/
def directive? (line : List Char) : Option (List Char) :=
  match afterPrefix? ['m', 'o', 'd', 'u', 'l', 'e'] (trim line) with
  | some (c :: rest) =>
    if isBlank c then
      let argument := trimWhile (· = '"') (trim (beforeComment (c :: rest)))
      if argument.isEmpty then none else some argument
    else none
  | _ => none

def modulePath? (text : String) : Option String :=
  ((Line.split text.toList).findSome? directive?).map String.ofList

def ofModuleFile (root : Path) (text : String) : Project :=
  match modulePath? text with
  | some modulePath => { ofRoot root with modulePath }
  | none => ofRoot root

def moduleFile : Path := ⟨"go.mod"⟩

/-- The project of a directory, with the module path its files declare. -/
def discover {m : Type → Type} [Monad m] (files : Filesystem m) (root : Path) :
    m (Except Failure Project) := do
  if ← files.contains (root.join moduleFile) then
    match ← files.readText (root.join moduleFile) with
    | .ok text => return .ok (ofModuleFile root text)
    | .error failure => return .error failure
  else return .ok (ofRoot root)

end Project

end Scaffold
