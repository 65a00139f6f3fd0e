import Scaffold.Bundled.Tree
import Scaffold.Filesystem.Disk
/-!
# Template sources

Where templates come from: the tree that is bundled with the program, a list of drafts, or a
directory. Each source lists its files in the order of their paths.
-/

namespace Scaffold

structure TemplateSource (m : Type → Type) where
  describe : String
  /-- The templates, in the order of their paths. -/
  drafts : m (Except Failure (List Draft))

namespace TemplateSource

variable {m : Type → Type}

def ofDrafts [Monad m] (drafts : List Draft) : TemplateSource m where
  describe := "memory:" ++ toString drafts.length ++ " files"
  drafts := pure (.ok (Draft.sort drafts))

def ofTree [Monad m] (name : String) (tree : Entry) : TemplateSource m where
  describe := "embedded:" ++ name
  drafts := pure (Draft.ofFiles (tree.collect []))

def auth [Monad m] : TemplateSource m :=
  ofTree "auth" Bundled.auth

def directoryMissing (root : Path) : Failure :=
  .templateSource ("templates directory not found: " ++ root.text)

/-- The templates in a directory of a disk. Only regular files count; links are not followed, but
the directory itself may be a link. -/
def draftsOnDisk (root : Path) (disk : Disk) : Except Failure (List Draft) :=
  match disk.entry? root with
  | .ok (.directory entries) => Draft.ofFiles (Entry.walk [] (.directory entries))
  | _ => .error (directoryMissing root)

def ofDirectory (list : Path → m (Except Failure (List Draft))) (root : Path) :
    TemplateSource m where
  describe := "dir:" ++ root.text
  drafts := list root

def onDisk (root : Path) : TemplateSource (StateM Disk) :=
  ofDirectory (fun root disk => (draftsOnDisk root disk, disk)) root

end TemplateSource

end Scaffold
