import Scaffold.Failure
import Scaffold.Path.Basic
/-!
# Filesystems

What a run needs of the place where files live. The operations run in any monad, so the same run
works on a store in memory, on a model of a disk and on the disk itself.
-/

namespace Scaffold

structure Filesystem (m : Type → Type) where
  readText : Path → m (Except Failure String)
  write : Path → ByteArray → m (Except Failure Unit)
  createDirs : Path → m (Except Failure Unit)
  contains : Path → m Bool

inductive Change where
  | createDirs (path : Path)
  | write (path : Path) (content : ByteArray)

namespace Filesystem

variable {m : Type → Type}

def perform (files : Filesystem m) : Change → m (Except Failure Unit)
  | .createDirs path => files.createDirs path
  | .write path content => files.write path content

/-- Carries out changes in order; the first failure ends it. -/
def performAll [Monad m] (files : Filesystem m) : List Change → m (Except Failure Unit)
  | [] => pure (.ok ())
  | change :: changes => do
    match ← files.perform change with
    | .ok () => performAll files changes
    | .error failure => pure (.error failure)

end Filesystem

end Scaffold
