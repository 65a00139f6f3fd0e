import Scaffold.Rendering
import Scaffold.Settings.Variables
import Scaffold.Stamp
import Scaffold.Templates
/-!
# Hosts

The machine a command runs on, as far as a command uses it, and the circumstances of one call of the
program. The same program runs on a model of a disk and on the machine itself.
-/

namespace Scaffold.Command

/-- Why the standard output did not take all of a text, and how many characters it took. -/
structure Refusal where
  taken : Nat
  reason : String
  deriving DecidableEq, Repr

structure Host (m : Type → Type) where
  files : Filesystem m
  render : Renderer
  print : String → m (Except Refusal Unit)
  /-- The templates in a directory, in the order of their paths. -/
  listTemplates : Path → m (Except Failure (List Draft))
  isFile : Path → m Bool
  /-- The path without links and dots of a directory, if there is one. -/
  directory? : Path → m (Option Path)
  bytes? : Path → m (Option ByteArray)
  /-- The working directory, or why there is none. -/
  workingDirectory : m (Except String Path)

structure Circumstances where
  environment : Settings.Variables
  outTerminal : Bool
  errTerminal : Bool
  stamp : Stamp
  runId : String

/-- What a call of the program leaves on its channels, as far as they took it, and its exit code. -/
structure Outcome where
  exitCode : Nat
  out : String
  err : String
  deriving DecidableEq, Repr

/-- A machine with the files of a disk and an output that takes every text. -/
def Host.ofDisk : Host (StateM Disk) where
  files := Filesystem.ofDisk
  render := renderTemplate
  print _ := pure (.ok ())
  listTemplates root := fun disk => (TemplateSource.draftsOnDisk root disk, disk)
  isFile path := fun disk => (disk.isFile path, disk)
  directory? path := fun disk =>
    (if disk.isDirectory path then disk.canonical? path else none, disk)
  bytes? path := fun disk => ((disk.bytes path).toOption, disk)
  workingDirectory := fun disk => (.ok (Disk.pathOf disk.here), disk)

end Scaffold.Command
