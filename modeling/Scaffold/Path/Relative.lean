import Scaffold.Failure
import Scaffold.Path.Basic
/-!
# Relative paths

The only paths that a generated file may have.
-/

namespace Scaffold

structure RelativePath where
  path : Path
  not_absolute : path.isAbsolute = false
  deriving DecidableEq, Repr

namespace RelativePath

/-- The relative path of some octets; an absolute one is refused. -/
def ofRaw (raw : RawText) : Except Failure RelativePath :=
  if h : (Path.mk raw).isAbsolute = false then .ok ⟨⟨raw⟩, h⟩
  else .error (.absolutePath raw.shown)

def ofText (text : String) : Except Failure RelativePath :=
  ofRaw text

def text (p : RelativePath) : String :=
  p.path.text

def components (p : RelativePath) : List Path.Component :=
  p.path.components

def toSlash (p : RelativePath) : String :=
  p.path.toSlash

def fileName? (p : RelativePath) : Option String :=
  p.path.fileName?

def compare (p q : RelativePath) : Ordering :=
  p.path.compare q.path

def same (p q : RelativePath) : Bool :=
  p.path.same q.path

end RelativePath

end Scaffold
